import Mathlib.Data.List.Nodup
import Captastic.Analysis.OverviewDriven

/-!
# What the window chooser renders

A window is in the queue at most once, and never while its tile has pixels; it is there a second
time only since its first render failed and said that another might not (`Orderly`).

Where the compositor draws no tile, that bounds the work of the whole run: no window is rendered
more than twice, whatever the overlay is told and however often the tool for windows is left and
entered again (`overview_renders`).
-/

set_option autoImplicit false

namespace Captastic.Analysis

open Captastic.Library Captastic.Model

variable {Pixels : Type} {chooser : Chooser Pixels} {answers : ShellAnswers}

/-! ## Order -/

/-- The windows in the queue. -/
def pending_of (chooser : Chooser Pixels) : List (NativeWindowHandle × Nat) :=
  (chooser.window_overview_build.map OverviewBuildQueue.pending).getD []

/-- The windows of the tiles. -/
def tiled (chooser : Chooser Pixels) : List NativeWindowHandle :=
  chooser.window_thumbnails.map WindowThumbnail.handle

/-- Another render of the window is due: its first one failed and said that it might not again. -/
def FailedOnce (handle : NativeWindowHandle) (made : List (RenderMade Pixels)) : Prop :=
  ⟨handle, 0, .failed true⟩ ∈ made

/-- The windows listed, tiled and queued are each so once, none is queued that has pixels, and
none a second time that did not fail. -/
structure Orderly (chooser : Chooser Pixels) : Prop where
  windows : (chooser.windows.getD []).Nodup
  tiles : (tiled chooser).Nodup
  queued : ((pending_of chooser).map Prod.fst).Nodup
  no_pixels : ∀ queued ∈ pending_of chooser, ∀ tile ∈ chooser.window_thumbnails,
    tile.handle = queued.1 → tile.surface = none
  attempts : ∀ queued ∈ pending_of chooser,
    queued.2 = 0 ∨ queued.2 = 1 ∧ FailedOnce queued.1 chooser.made
  made : ∀ render ∈ chooser.made, render.attempt = 0 ∨
    render.attempt = 1 ∧ FailedOnce render.handle chooser.made

/-! ### Refreshing -/

/-- Windows that join a queue are there once, for their first attempt. -/
theorem enqueue_queued {queue : OverviewBuildQueue} (handle : NativeWindowHandle)
    (once : (queue.pending.map Prod.fst).Nodup) :
    ((queue.enqueue handle).pending.map Prod.fst).Nodup ∧
      ∀ queued ∈ (queue.enqueue handle).pending,
        queued ∈ queue.pending ∨ queued = (handle, 0) := by
  unfold OverviewBuildQueue.enqueue
  split
  · exact ⟨once, fun _ => .inl⟩
  · rename_i fresh
    constructor
    · rw [List.map_append, List.map_singleton, List.nodup_append]
      refine ⟨once, List.nodup_singleton _, ?_⟩
      rintro queued among _ (_ | _) rfl
      · obtain ⟨pending, found, rfl⟩ := List.mem_map.mp among
        exact fresh (List.any_eq_true.mpr ⟨pending, found, decide_eq_true rfl⟩)
      · contradiction
    · intro queued among
      exact (List.mem_append.mp among).imp id List.mem_singleton.mp

/-- Putting windows into the queue queues none twice, and adds no others. -/
theorem foldl_enqueue_queued (handles : List NativeWindowHandle) :
    ∀ {queue : OverviewBuildQueue}, (queue.pending.map Prod.fst).Nodup →
      ((handles.foldl OverviewBuildQueue.enqueue queue).pending.map Prod.fst).Nodup ∧
        ∀ queued ∈ (handles.foldl OverviewBuildQueue.enqueue queue).pending,
          queued ∈ queue.pending ∨ ∃ handle ∈ handles, queued = (handle, 0) := by
  induction handles with
  | nil => exact fun once => ⟨once, fun _ => .inl⟩
  | cons handle handles ih =>
    intro queue once
    obtain ⟨once_more, first⟩ := enqueue_queued handle once
    obtain ⟨once_more, rest⟩ := ih once_more
    refine ⟨once_more, fun queued among => ?_⟩
    rcases rest queued among with among | ⟨other, among, same⟩
    · exact (first queued among).imp id fun same => ⟨handle, List.mem_cons_self, same⟩
    · exact .inr ⟨other, List.mem_cons_of_mem _ among, same⟩

/-- A tile of its own that is uncovered is without pixels, as is every tile of its window. -/
theorem no_pixels_of_uncovered (tiles : (tiled chooser).Nodup) {handle : NativeWindowHandle}
    (uncovered : handle ∈ chooser.uncovered) {tile : WindowThumbnail Pixels}
    (member : tile ∈ chooser.window_thumbnails) (same : tile.handle = handle) :
    tile.surface = none := by
  unfold Chooser.uncovered at uncovered
  obtain ⟨bare, among, own⟩ := List.mem_map.mp (List.mem_filter.mp uncovered).1
  obtain ⟨among, empty⟩ := List.mem_filter.mp among
  have one := List.inj_on_of_nodup_map tiles member among (same.trans own.symm)
  rw [one]
  exact Option.isNone_iff_eq_none.mp empty

/-- No tile is left without a picture twice. -/
theorem uncovered_nodup (tiles : (tiled chooser).Nodup) : chooser.uncovered.Nodup := by
  unfold Chooser.uncovered
  apply List.Nodup.filter
  exact tiles.sublist (List.filter_sublist.map _)

/-- A queue whose every window was there, or is uncovered, stays in order. -/
theorem Orderly.of_queue {chooser' : Chooser Pixels} (orderly : Orderly chooser)
    (windows : chooser'.windows = chooser.windows)
    (tiles : chooser'.window_thumbnails = chooser.window_thumbnails)
    (made : chooser'.made = chooser.made)
    (once : ((pending_of chooser').map Prod.fst).Nodup)
    (origin : ∀ queued ∈ pending_of chooser',
      queued ∈ pending_of chooser ∨ queued.2 = 0 ∧ queued.1 ∈ chooser'.uncovered) :
    Orderly chooser' := by
  have same_tiles : tiled chooser' = tiled chooser := by rw [tiled, tiles, tiled]
  constructor
  · rw [windows]
    exact orderly.windows
  · rw [same_tiles]
    exact orderly.tiles
  · exact once
  · intro queued among tile member same
    rcases origin queued among with before | ⟨-, uncovered⟩
    · rw [tiles] at member
      exact orderly.no_pixels queued before tile member same
    · exact no_pixels_of_uncovered (same_tiles ▸ orderly.tiles) uncovered member same
  · intro queued among
    rw [made]
    rcases origin queued among with before | ⟨first, -⟩
    · exact orderly.attempts queued before
    · exact .inl first
  · rw [made]
    exact orderly.made

/-- A refresh queues only tiles without pixels, once each. -/
theorem refresh_orderly (orderly : Orderly chooser) (answers : ShellAnswers) (tool : CaptureTool) :
    Orderly (chooser.refresh_live_window_thumbnails answers tool) := by
  have cases := refresh_cases chooser answers tool
  generalize chooser.refresh_live_window_thumbnails answers tool = refreshed at cases
  cases cases with
  | away => exact orderly.of_queue rfl rfl rfl orderly.queued fun _ => .inl
  | covered => exact orderly.of_queue rfl rfl rfl orderly.queued fun _ => .inl
  | @joins queue build =>
    have before : pending_of chooser = queue.pending := by rw [pending_of, build]; rfl
    obtain ⟨once, origin⟩ := foldl_enqueue_queued (with_previews chooser answers).uncovered
      (before ▸ orderly.queued)
    refine orderly.of_queue rfl rfl rfl once fun queued among => ?_
    rw [before]
    refine (origin queued among).imp id ?_
    rintro ⟨handle, uncovered, rfl⟩
    exact ⟨rfl, uncovered⟩
  | begins =>
    have once : (with_previews chooser answers).uncovered.Nodup := uncovered_nodup orderly.tiles
    refine orderly.of_queue (by rfl) (by rfl) (by rfl) ?_ ?_
    · simpa [pending_of, Chooser.begin_build, OverviewBuildQueue.new, Function.comp_def] using once
    · intro queued among
      obtain ⟨handle, uncovered, rfl⟩ := List.mem_map.mp among
      exact .inr ⟨rfl, uncovered⟩

/-- So does a refresh of what is around the windows. -/
theorem refresh_window_chrome_orderly (orderly : Orderly chooser) (answers : ShellAnswers)
    (tool : CaptureTool) :
    Orderly (chooser.refresh_window_chrome answers tool) := by
  have refreshed := refresh_orderly orderly answers tool
  unfold Chooser.refresh_window_chrome
  rw [ensure_overview_batch_posted_eq]
  exact refreshed.of_queue rfl rfl rfl refreshed.queued fun _ => .inl

/-! ### Seeding -/

/-- Tiles are seeded for windows that are listed, without pixels. -/
theorem seeds_of_windows (chooser : Chooser Pixels) (answers : ShellAnswers)
    (handles : List NativeWindowHandle) :
    ((handles.filterMap (chooser.seed_tile answers)).map WindowThumbnail.handle).Sublist handles ∧
      ∀ tile ∈ handles.filterMap (chooser.seed_tile answers), tile.surface = none := by
  induction handles with
  | nil => exact ⟨List.Sublist.refl _, nofun⟩
  | cons handle handles ih =>
    cases seed : chooser.seed_tile answers handle with
    | none =>
      rw [List.filterMap_cons_none seed]
      exact ⟨ih.1.cons _, ih.2⟩
    | some tile =>
      rw [List.filterMap_cons_some seed]
      obtain ⟨size, -, rfl⟩ := Option.map_eq_some_iff.mp seed
      exact ⟨ih.1.cons_cons _, List.forall_mem_cons.mpr ⟨rfl, ih.2⟩⟩

/-- Seeding tiles the windows listed, once each. -/
theorem seeded_orderly (orderly : Orderly chooser) (answers : ShellAnswers) :
    Orderly (chooser.seeded answers) := by
  rcases seeded_cases chooser answers with same | ⟨tiles, idle, -, rfl, same | ⟨-, -, same⟩⟩
  · rw [same]
    exact orderly
  · obtain ⟨listed, -⟩ := seeds_of_windows chooser answers (chooser.windows.getD [])
    have empty : pending_of chooser = [] := by rw [pending_of, idle]; rfl
    rw [same]
    refine ⟨orderly.windows, orderly.windows.sublist listed, orderly.queued, ?_,
      orderly.attempts, orderly.made⟩
    intro queued among
    change queued ∈ pending_of chooser at among
    rw [empty] at among
    cases among
  · obtain ⟨listed, bare⟩ := seeds_of_windows chooser answers (chooser.windows.getD [])
    have once := orderly.windows.sublist listed
    rw [same]
    constructor
    · exact orderly.windows
    · exact once
    · simpa [pending_of, Chooser.begin_build, OverviewBuildQueue.new, Function.comp_def] using once
    · exact fun _ _ tile member _ => bare tile member
    · intro queued among
      obtain ⟨handle, -, rfl⟩ := List.mem_map.mp among
      exact .inl rfl
    · exact orderly.made

/-- An inventory that lists each window once keeps the order. -/
theorem inventory_orderly (orderly : Orderly chooser) (listed : answers.enumerated.Nodup) :
    Orderly (chooser.ensure_window_inventory answers) := by
  rw [ensure_window_inventory_eq]
  refine ⟨?_, orderly.tiles, orderly.queued, orderly.no_pixels, orderly.attempts, orderly.made⟩
  cases known : chooser.windows with
  | none => exact listed
  | some handles => simpa [known] using orderly.windows

/-- Starting a build keeps it. -/
theorem start_orderly (orderly : Orderly chooser) (listed : answers.enumerated.Nodup)
    (tool : CaptureTool) : Orderly (chooser.start_window_overview_build answers tool) := by
  rw [start_eq]
  exact refresh_window_chrome_orderly (seeded_orderly (inventory_orderly orderly listed) answers)
    answers tool

/-! ### Rendering -/

/-- Placing a tile adds its window if it had none. -/
theorem place_handles (rendered : WindowThumbnail Pixels) (tiles : List (WindowThumbnail Pixels)) :
    (Chooser.place_thumbnail rendered tiles).map WindowThumbnail.handle =
      if rendered.handle ∈ tiles.map WindowThumbnail.handle then tiles.map WindowThumbnail.handle
      else tiles.map WindowThumbnail.handle ++ [rendered.handle] := by
  induction tiles with
  | nil => rfl
  | cons tile tiles ih =>
    unfold Chooser.place_thumbnail
    by_cases same : tile.handle = rendered.handle
    · simp [same]
    · rw [if_neg same, List.map_cons, ih]
      by_cases among : rendered.handle ∈ tiles.map WindowThumbnail.handle
      · simp [among]
      · rw [if_neg among, if_neg, List.map_cons, List.cons_append]
        rw [List.map_cons, List.mem_cons, not_or]
        exact ⟨Ne.symm same, among⟩

/-- Placing a tile takes the place of the window's earlier one. -/
theorem place_nodup {rendered : WindowThumbnail Pixels} {tiles : List (WindowThumbnail Pixels)}
    (once : (tiles.map WindowThumbnail.handle).Nodup) :
    ((Chooser.place_thumbnail rendered tiles).map WindowThumbnail.handle).Nodup := by
  rw [place_handles]
  split
  · exact once
  · rename_i fresh
    exact once.append (List.nodup_singleton _) (List.disjoint_singleton.mpr fresh)

/-- So placing tiles leaves one for each window. -/
theorem places_nodup (new_thumbnails : List (WindowThumbnail Pixels)) :
    ∀ {tiles : List (WindowThumbnail Pixels)}, (tiles.map WindowThumbnail.handle).Nodup →
      ((new_thumbnails.foldl (fun tiles tile => Chooser.place_thumbnail tile tiles) tiles).map
        WindowThumbnail.handle).Nodup := by
  induction new_thumbnails with
  | nil => exact id
  | cons rendered new_thumbnails ih => exact fun once => ih (place_nodup once)

/-- The windows that are rendered, in order. -/
theorem renders_pending (outcome : NativeWindowHandle → Nat → RenderOutcome Pixels)
    (batch : List (NativeWindowHandle × Nat)) :
    (Chooser.renders outcome batch).map (fun render => (render.handle, render.attempt)) =
      batch := by
  simp [Chooser.renders, Function.comp_def]

/-- A window that is retried failed its first render. -/
theorem failed_of_retried {made : List (RenderMade Pixels)} {queued : NativeWindowHandle × Nat}
    (retry : queued ∈ retried made) :
    queued.2 = 1 ∧ FailedOnce queued.1 made := by
  obtain ⟨⟨handle, attempt, outcome⟩, among, rfl⟩ := List.mem_map.mp retry
  obtain ⟨among, failed⟩ := List.mem_filter.mp among
  simp only [decide_eq_true_eq] at failed
  obtain ⟨rfl, failed⟩ := failed
  split at failed
  · exact ⟨rfl, among⟩
  · cases failed

/-- A render that failed stays among those made. -/
theorem FailedOnce.append {handle : NativeWindowHandle} {made more : List (RenderMade Pixels)}
    (failed : FailedOnce handle made) : FailedOnce handle (made ++ more) :=
  List.mem_append_left _ failed

/-- The queue after a batch: what is left of it, then what the batch has to retry. -/
theorem retried_handles {batch rest : List (NativeWindowHandle × Nat)}
    {made : List (RenderMade Pixels)} (handles : made.map RenderMade.handle = batch.map Prod.fst)
    (once : ((batch ++ rest).map Prod.fst).Nodup) :
    ((rest ++ retried made).map Prod.fst).Nodup := by
  have part : ((retried made).map Prod.fst).Sublist (batch.map Prod.fst) := by
    rw [← handles, retried, List.map_map]
    exact List.filter_sublist.map _
  rw [List.map_append] at once ⊢
  exact (List.nodup_append_comm.mp once).sublist (part.append_left _)

/-- What a chooser is after the renders of a batch: the tiles they come to placed, and the queue
without the batch but for what is to be retried. -/
def after_batch (chooser : Chooser Pixels) (queue : OverviewBuildQueue)
    (made : List (RenderMade Pixels)) (rest : List (NativeWindowHandle × Nat)) : Chooser Pixels :=
  { chooser with
    made := chooser.made ++ made
    window_thumbnails := (made.filterMap rendered_tile).foldl
      (fun tiles tile => Chooser.place_thumbnail tile tiles) chooser.window_thumbnails
    window_overview_build := some { queue with pending := rest ++ retried made } }

/-- The renders of a batch leave their windows with pixels, or queued once more. -/
theorem after_batch_orderly (queue : OverviewBuildQueue) {made : List (RenderMade Pixels)}
    {batch rest : List (NativeWindowHandle × Nat)} (orderly : Orderly chooser)
    (pending : pending_of chooser = batch ++ rest)
    (renders : made.map (fun render => (render.handle, render.attempt)) = batch) :
    Orderly (after_batch chooser queue made rest) := by
  have handles : made.map RenderMade.handle = batch.map Prod.fst := by
    rw [← renders, List.map_map]
    rfl
  have once := orderly.queued
  rw [pending] at once
  have once_made : (made.map RenderMade.handle).Nodup := by
    rw [handles]
    rw [List.map_append] at once
    exact once.of_append_left
  have in_batch {render : RenderMade Pixels} (among : render ∈ made) :
      (render.handle, render.attempt) ∈ batch := by
    rw [← renders]
    exact List.mem_map_of_mem among
  constructor
  · exact orderly.windows
  · exact places_nodup _ orderly.tiles
  · exact retried_handles handles once
  · intro queued among tile member same
    have before : ∃ attempt, (queued.1, attempt) ∈ pending_of chooser := by
      rw [pending]
      rcases List.mem_append.mp among with among | among
      · exact ⟨queued.2, List.mem_append_right _ among⟩
      · exact ⟨0, List.mem_append_left _ (in_batch (failed_of_retried among).2)⟩
    rcases mem_of_mem_places _ member with new | old
    · exfalso
      obtain ⟨render, made_one, rendered⟩ := List.mem_filterMap.mp new
      obtain ⟨own, width, height, pixels, captured⟩ := captured_of_rendered rendered
      have handle := own.symm.trans same
      rcases List.mem_append.mp among with among | among
      · rw [List.map_append] at once
        have beside : queued.1 ∈ rest.map Prod.fst := List.mem_map_of_mem among
        rw [← handle] at beside
        exact List.disjoint_of_nodup_append once (List.mem_map_of_mem (in_batch made_one)) beside
      · have one := List.inj_on_of_nodup_map once_made made_one (failed_of_retried among).2 handle
        rw [one] at captured
        cases captured
    · obtain ⟨attempt, before⟩ := before
      exact orderly.no_pixels _ before tile old same
  · intro queued among
    rcases List.mem_append.mp among with among | among
    · exact (orderly.attempts queued (pending ▸ List.mem_append_right _ among)).imp id
        fun again => ⟨again.1, again.2.append⟩
    · exact .inr ⟨(failed_of_retried among).1,
        List.mem_append_right _ (failed_of_retried among).2⟩
  · intro render among
    rcases List.mem_append.mp among with among | among
    · exact (orderly.made render among).imp id fun again => ⟨again.1, again.2.append⟩
    · exact (orderly.attempts _ (pending ▸ List.mem_append_left _ (in_batch among))).imp id
        fun again => ⟨again.1, again.2.append⟩

/-- A batch leaves the chooser as it was, or as its renders leave it, with what is left of its queue
or with a refresh. -/
inductive BatchLeft (chooser : Chooser Pixels) (answers : ShellAnswers) (tool : CaptureTool) :
    Chooser Pixels → Prop
  | ignored : BatchLeft chooser answers tool chooser
  | unfinished (queue : OverviewBuildQueue) {made : List (RenderMade Pixels)}
      {batch rest : List (NativeWindowHandle × Nat)} {posted : List UInt64}
      (pending : pending_of chooser = batch ++ rest)
      (renders : made.map (fun render => (render.handle, render.attempt)) = batch) :
      BatchLeft chooser answers tool
        { after_batch chooser queue made rest with posted := posted }
  | finished (queue : OverviewBuildQueue) {made : List (RenderMade Pixels)}
      {batch rest : List (NativeWindowHandle × Nat)}
      (pending : pending_of chooser = batch ++ rest)
      (renders : made.map (fun render => (render.handle, render.attempt)) = batch)
      (done : rest ++ retried made = []) :
      BatchLeft chooser answers tool
        ({ after_batch chooser queue made rest with
          window_overview_build := none }.refresh_window_chrome answers tool)

/-- A batch leaves one of the states that `BatchLeft` lists. -/
theorem batch_left (chooser : Chooser Pixels) (answers : ShellAnswers) (tool : CaptureTool)
    (generation : UInt64) (outcome : NativeWindowHandle → Nat → RenderOutcome Pixels) :
    BatchLeft chooser answers tool
      (chooser.render_overview_batch answers tool generation outcome) := by
  have cases := batch_cases chooser answers tool generation outcome
  generalize chooser.render_overview_batch answers tool generation outcome = batched at cases
  cases cases with
  | ignored => exact .ignored
  | @rendered queue made left window build accepted renders_made taken =>
    have pending : pending_of chooser =
        (queue.take_batch WINDOW_THUMBNAIL_RENDER_BATCH).1 ++
          (queue.take_batch WINDOW_THUMBNAIL_RENDER_BATCH).2.pending := by
      rw [pending_of, build]
      exact (List.take_append_drop _ _).symm
    have renders := renders_made ▸ renders_pending outcome _
    rw [take_outcomes_eq, List.nil_append] at taken
    subst taken
    simp only
    split
    · rename_i done
      exact .finished queue pending renders (List.isEmpty_iff.mp done)
    · unfold Chooser.post_overview_batch
      split
      · exact .unfinished queue pending renders
      · exact .unfinished queue pending renders

/-- A batch keeps the order. -/
theorem batch_orderly {tool : CaptureTool} {generation : UInt64}
    {outcome : NativeWindowHandle → Nat → RenderOutcome Pixels} (orderly : Orderly chooser) :
    Orderly (chooser.render_overview_batch answers tool generation outcome) := by
  have left := batch_left chooser answers tool generation outcome
  generalize chooser.render_overview_batch answers tool generation outcome = batched at left
  cases left with
  | ignored => exact orderly
  | unfinished queue pending renders =>
    have after := after_batch_orderly queue orderly pending renders
    exact after.of_queue rfl rfl rfl after.queued fun _ => .inl
  | finished queue pending renders =>
    have after := after_batch_orderly queue orderly pending renders
    apply refresh_window_chrome_orderly
    exact after.of_queue rfl rfl rfl List.nodup_nil nofun

/-! ### Runs -/

/-- So does taking out the windows that are gone. -/
theorem prune_orderly (orderly : Orderly chooser) (is_window : NativeWindowHandle → Bool) :
    Orderly (chooser.prune_dead_window_sources is_window) := by
  refine ⟨?_, orderly.tiles.sublist (List.filter_sublist.map _), orderly.queued, ?_,
    orderly.attempts, orderly.made⟩
  · have listed := orderly.windows
    unfold Chooser.prune_dead_window_sources
    cases known : chooser.windows with
    | none => exact List.nodup_nil
    | some handles =>
      rw [known] at listed
      exact List.Nodup.filter _ listed
  · exact fun queued among tile member =>
      orderly.no_pixels queued among tile (List.mem_filter.mp member).1

/-- The windows are listed once each during the event. -/
def ListsOnce (event : ChooserEvent Pixels) : Prop :=
  ∀ answers ∈ answers_of event, answers.enumerated.Nodup

/-- What every operation of the chooser keeps, every event keeps. -/
theorem step_keeps {P : Chooser Pixels → Prop} {session session' : ChooserSession Pixels}
    {event : ChooserEvent Pixels}
    (posted : ∀ chooser posted, P chooser → P { chooser with posted := posted })
    (cleared : ∀ chooser, P chooser → P { chooser with live_window_thumbnails := [] })
    (inventory : ∀ chooser, ∀ answers ∈ answers_of event, P chooser →
      P (chooser.ensure_window_inventory answers))
    (starts : ∀ chooser tool, ∀ answers ∈ answers_of event, P chooser →
      P (chooser.start_window_overview_build answers tool))
    (refreshes : ∀ chooser tool, ∀ answers ∈ answers_of event, P chooser →
      P (chooser.refresh_window_chrome answers tool))
    (batch : ∀ chooser tool generation outcome, ∀ answers ∈ answers_of event, P chooser →
      P (chooser.render_overview_batch answers tool generation outcome))
    (prune : ∀ chooser is_window, P chooser → P (chooser.prune_dead_window_sources is_window))
    (first : P session.chooser) (step : ChooserStep session event session') :
    P session'.chooser := by
  unfold ChooserStep ChooserSession.next at step
  cases event with
  | input input answers =>
    simp only at step
    split at step
    · cases step
    · obtain ⟨left, -, rfl⟩ := Option.map_eq_some_iff.mp step
      refine List.foldlRecOn _ _ first fun chooser held effect _ => ?_
      cases effect with
      | BuildWindowOverview => exact starts _ _ _ rfl held
      | RefreshWindowChrome => exact refreshes _ _ _ rfl held
      | BuildSnapTargets => exact inventory _ _ rfl held
      | ClearLiveThumbnails => exact cleared _ held
      | _ => exact held
  | batch generation outcome answers =>
    simp only at step
    split at step
    · cases step
    · cases step
      exact batch _ _ _ _ _ rfl (posted _ _ first)
  | paint is_window =>
    simp only at step
    split at step
    · cases step
    · cases step
      unfold ChooserSession.compose_overlay_state
      split
      · exact first
      · exact prune _ _ first

/-- **One event** keeps the order. -/
theorem step_orderly {session session' : ChooserSession Pixels} {event : ChooserEvent Pixels}
    (listed : ListsOnce event) (orderly : Orderly session.chooser)
    (step : ChooserStep session event session') : Orderly session'.chooser := by
  refine step_keeps (P := Orderly) ?_ ?_ ?_ ?_ ?_ ?_ ?_ orderly step
  · exact fun _ _ held => held.of_queue rfl rfl rfl held.queued fun _ => .inl
  · exact fun _ held => held.of_queue rfl rfl rfl held.queued fun _ => .inl
  · exact fun _ answers among held => inventory_orderly held (listed answers among)
  · exact fun _ tool answers among held => start_orderly held (listed answers among) tool
  · exact fun _ tool answers _ held => refresh_window_chrome_orderly held answers tool
  · exact fun _ _ _ _ _ _ held => batch_orderly held
  · exact fun _ is_window held => prune_orderly held is_window

/-- A chooser that nothing was asked of is in order. -/
theorem opened_orderly (presenter : Presenter) :
    Orderly (Chooser.opened presenter : Chooser Pixels) :=
  ⟨List.nodup_nil, List.nodup_nil, List.nodup_nil, nofun, nofun, nofun⟩

/-- What holds of a chooser as it is opened, and that starting a build keeps, holds as the overlay
is shown. -/
theorem shown_keeps {P : Chooser Pixels → Prop} {source : Rect} {run : OverlayRun}
    {presenter : Presenter} {session : ChooserSession Pixels}
    (shown : show_overlay source run presenter answers = some session)
    (first : P (Chooser.opened presenter))
    (starts : ∀ tool, P ((Chooser.opened presenter).start_window_overview_build answers tool)) :
    P session.chooser := by
  unfold show_overlay at shown
  simp only [Option.bind_eq_bind, Option.bind_eq_some_iff] at shown
  obtain ⟨model, -, shown⟩ := shown
  cases shown
  simp only
  split
  · exact starts _
  · exact first

/-! ## Without a compositor -/

/-- The attempts at a window that were made, and the one that is queued. -/
def attempts_at (chooser : Chooser Pixels) (handle : NativeWindowHandle) : List Nat :=
  ((chooser.made.filter fun render => render.handle = handle).map RenderMade.attempt) ++
    ((pending_of chooser).filter fun queued => queued.1 = handle).map Prod.snd

/-- A window is attempted at most twice, and one that was attempted has a tile or is listed no
more. -/
structure Bounded (chooser : Chooser Pixels) : Prop where
  orderly : Orderly chooser
  presenter : chooser.presenter = .Opaque
  twice : ∀ handle, attempts_at chooser handle <+: [0, 1]
  known : ∀ handle, attempts_at chooser handle ≠ [] →
    ∃ handles, chooser.windows = some handles ∧ (handle ∈ tiled chooser ∨ handle ∉ handles)

/-- Only a chooser's renders, queue, tiles and windows bound it. -/
theorem Bounded.of_same {chooser' : Chooser Pixels} (bounded : Bounded chooser)
    (orderly : Orderly chooser') (presenter : chooser'.presenter = chooser.presenter)
    (made : chooser'.made = chooser.made) (queue : pending_of chooser' = pending_of chooser)
    (tiles : chooser'.window_thumbnails = chooser.window_thumbnails)
    (windows : chooser'.windows = chooser.windows) : Bounded chooser' := by
  refine ⟨orderly, presenter.trans bounded.presenter, fun handle => ?_, fun handle => ?_⟩
  · rw [attempts_at, made, queue]
    exact bounded.twice handle
  · rw [attempts_at, made, queue, windows, tiled, tiles]
    exact bounded.known handle

/-- Without a compositor a refresh takes previews down and does nothing else. -/
theorem refresh_opaque (presenter : chooser.presenter = .Opaque) (tool : CaptureTool) :
    chooser.refresh_live_window_thumbnails answers tool =
      { chooser with live_window_thumbnails := [] } := by
  unfold Chooser.refresh_live_window_thumbnails
  rw [if_pos (.inl (by rw [presenter]; exact nofun))]

/-- Without a compositor a refresh queues nothing. -/
theorem refresh_window_chrome_bounded (bounded : Bounded chooser) (tool : CaptureTool) :
    Bounded (chooser.refresh_window_chrome answers tool) := by
  have orderly := refresh_window_chrome_orderly bounded.orderly answers tool
  revert orderly
  unfold Chooser.refresh_window_chrome
  rw [ensure_overview_batch_posted_eq, refresh_opaque bounded.presenter]
  exact fun orderly => bounded.of_same orderly rfl rfl rfl rfl rfl

/-- An inventory attempts no window. -/
theorem inventory_bounded (bounded : Bounded chooser) (listed : answers.enumerated.Nodup) :
    Bounded (chooser.ensure_window_inventory answers) := by
  have orderly := inventory_orderly bounded.orderly listed
  revert orderly
  rw [ensure_window_inventory_eq]
  intro orderly
  refine ⟨orderly, bounded.presenter, bounded.twice, fun handle attempted => ?_⟩
  obtain ⟨handles, known, either⟩ := bounded.known handle attempted
  exact ⟨handles, by simp [known], either⟩

/-- Of windows queued once each, those of one window are one at most. -/
theorem filter_queued {queued : List (NativeWindowHandle × Nat)}
    (once : (queued.map Prod.fst).Nodup) {handle : NativeWindowHandle} {attempt : Nat}
    (among : (handle, attempt) ∈ queued) :
    queued.filter (fun queued => queued.1 = handle) = [(handle, attempt)] := by
  induction queued with
  | nil => cases among
  | cons first queued ih =>
    rw [List.map_cons, List.nodup_cons] at once
    have beside (same : first.1 = handle) :
        queued.filter (fun queued => queued.1 = handle) = [] := by
      refine List.filter_eq_nil_iff.mpr fun other member own => once.1 ?_
      rw [same, ← of_decide_eq_true own]
      exact List.mem_map_of_mem member
    rcases List.mem_cons.mp among with rfl | among
    · rw [List.filter_cons_of_pos (by simp), beside rfl]
    · by_cases same : first.1 = handle
      · have member := List.mem_map_of_mem (f := Prod.fst) among
        exact absurd (same ▸ member) once.1
      · rw [List.filter_cons_of_neg (by simpa using same), ih once.2 among]

/-- What is queued besides a window leaves its attempts alone. -/
theorem filter_queued_of_ne {queued : List (NativeWindowHandle × Nat)}
    {handle : NativeWindowHandle} (beside : handle ∉ queued.map Prod.fst) :
    queued.filter (fun queued => queued.1 = handle) = [] := by
  refine List.filter_eq_nil_iff.mpr fun other member own => beside ?_
  rw [← of_decide_eq_true own]
  exact List.mem_map_of_mem member

/-- A window that is seeded was never attempted: its tile is gone, and it is still listed. -/
theorem seeded_bounded (bounded : Bounded chooser) : Bounded (chooser.seeded answers) := by
  have orderly := seeded_orderly bounded.orderly answers
  rcases seeded_cases chooser answers with same | ⟨tiles, idle, bare, seeds, same | ⟨-, -, same⟩⟩
  · rw [same]
    exact bounded
  · rw [same] at orderly ⊢
    refine ⟨orderly, bounded.presenter, bounded.twice, fun handle attempted => ?_⟩
    obtain ⟨handles, known, tile | gone⟩ := bounded.known handle attempted
    · rw [tiled, bare] at tile
      cases tile
    · exact ⟨handles, known, .inr gone⟩
  · obtain ⟨listed, -⟩ := seeds_of_windows chooser answers (chooser.windows.getD [])
    rw [← seeds] at listed
    have before (handle : NativeWindowHandle) : attempts_at chooser handle =
        (chooser.made.filter fun render => render.handle = handle).map RenderMade.attempt := by
      rw [attempts_at, pending_of, idle]
      exact List.append_nil _
    have fresh {handle : NativeWindowHandle} (among : handle ∈ tiles.map WindowThumbnail.handle) :
        attempts_at chooser handle = [] := by
      by_contra attempted
      obtain ⟨handles, known, tile | gone⟩ := bounded.known handle attempted
      · rw [tiled, bare] at tile
        cases tile
      · rw [known, Option.getD_some] at listed
        exact gone (listed.subset among)
    rw [same] at orderly ⊢
    have after (handle : NativeWindowHandle) :
        attempts_at (Chooser.begin_build { chooser with window_thumbnails := tiles }
          (tiles.map WindowThumbnail.handle)) handle =
        if handle ∈ tiles.map WindowThumbnail.handle then [0] else attempts_at chooser handle := by
      split
      · rename_i among
        have none_made := fresh among
        rw [before] at none_made
        have queued : (handle, 0) ∈ pending_of (Chooser.begin_build
            { chooser with window_thumbnails := tiles } (tiles.map WindowThumbnail.handle)) :=
          List.mem_map_of_mem among
        have one := filter_queued orderly.queued queued
        rw [attempts_at, one]
        exact congrArg (· ++ [0]) none_made
      · rename_i beside
        rw [attempts_at, filter_queued_of_ne, before]
        · exact List.append_nil _
        · simpa [pending_of, Chooser.begin_build, OverviewBuildQueue.new, Function.comp_def]
            using beside
    refine ⟨orderly, bounded.presenter, fun handle => ?_, fun handle attempted => ?_⟩
    · rw [after]
      split
      · exact ⟨[1], rfl⟩
      · exact bounded.twice handle
    · rw [after] at attempted
      split at attempted
      · rename_i among
        obtain ⟨handles, known⟩ : ∃ handles, chooser.windows = some handles := by
          cases known : chooser.windows with
          | some handles => exact ⟨handles, rfl⟩
          | none =>
            rw [known] at listed
            cases listed.subset among
        exact ⟨handles, known, .inl among⟩
      · obtain ⟨handles, known, tile | gone⟩ := bounded.known handle attempted
        · rw [tiled, bare] at tile
          cases tile
        · exact ⟨handles, known, .inr gone⟩

/-- A build that is started queues each window for its first attempt. -/
theorem start_bounded (bounded : Bounded chooser) (listed : answers.enumerated.Nodup)
    (tool : CaptureTool) : Bounded (chooser.start_window_overview_build answers tool) := by
  rw [start_eq]
  exact refresh_window_chrome_bounded (seeded_bounded (inventory_bounded bounded listed)) tool

/-- Placing tiles loses none. -/
theorem mem_places_handles (new_thumbnails : List (WindowThumbnail Pixels))
    {handle : NativeWindowHandle} :
    ∀ {tiles : List (WindowThumbnail Pixels)}, handle ∈ tiles.map WindowThumbnail.handle →
      handle ∈ (new_thumbnails.foldl (fun tiles tile => Chooser.place_thumbnail tile tiles)
        tiles).map WindowThumbnail.handle := by
  induction new_thumbnails with
  | nil => exact id
  | cons rendered new_thumbnails ih =>
    intro tiles among
    refine ih ?_
    rw [place_handles]
    split
    · exact among
    · exact List.mem_append_left _ among

/-- The attempts after a batch: those there were, and the one of a window that is retried. -/
theorem attempts_after_batch {queue : OverviewBuildQueue} {made : List (RenderMade Pixels)}
    {batch rest : List (NativeWindowHandle × Nat)} (pending : pending_of chooser = batch ++ rest)
    (renders : made.map (fun render => (render.handle, render.attempt)) = batch)
    (handle : NativeWindowHandle) :
    attempts_at (after_batch chooser queue made rest) handle =
      attempts_at chooser handle ++
        ((retried made).filter fun queued => queued.1 = handle).map Prod.snd := by
  have of_batch : (made.filter fun render => render.handle = handle).map RenderMade.attempt =
      (batch.filter fun queued => queued.1 = handle).map Prod.snd := by
    rw [← renders, List.filter_map, List.map_map]
    rfl
  have after : pending_of (after_batch chooser queue made rest) = rest ++ retried made := rfl
  rw [attempts_at, attempts_at, pending, after]
  simp only [after_batch, List.filter_append, List.map_append, of_batch, List.append_assoc]

/-- No attempt comes before the first. -/
theorem none_before_first {earlier : List Nat} (twice : earlier ++ [0] <+: [0, 1]) :
    earlier = [] := by
  obtain ⟨more, split⟩ := twice
  cases earlier with
  | nil => rfl
  | cons first earlier =>
    cases earlier with
    | nil => simp at split
    | cons => simp at split

/-- A window is retried after its first attempt only. -/
theorem after_batch_bounded (queue : OverviewBuildQueue) {made : List (RenderMade Pixels)}
    {batch rest : List (NativeWindowHandle × Nat)} (bounded : Bounded chooser)
    (pending : pending_of chooser = batch ++ rest)
    (renders : made.map (fun render => (render.handle, render.attempt)) = batch) :
    Bounded (after_batch chooser queue made rest) := by
  have orderly := after_batch_orderly queue bounded.orderly pending renders
  have once : ((retried made).map Prod.fst).Nodup := by
    have queued := orderly.queued
    change ((rest ++ retried made).map Prod.fst).Nodup at queued
    rw [List.map_append] at queued
    exact queued.of_append_right
  have retry {handle : NativeWindowHandle} {attempt : Nat}
      (again : (handle, attempt) ∈ retried made) :
      attempt = 1 ∧ attempts_at chooser handle = [0] := by
    obtain ⟨second, first⟩ := failed_of_retried again
    have queued : (handle, 0) ∈ pending_of chooser := by
      rw [pending, ← renders]
      exact List.mem_append_left _ (List.mem_map_of_mem first)
    refine ⟨second, ?_⟩
    have twice := bounded.twice handle
    rw [attempts_at, filter_queued bounded.orderly.queued queued] at twice ⊢
    rw [none_before_first twice]
    rfl
  have after (handle : NativeWindowHandle) :
      attempts_at (after_batch chooser queue made rest) handle = attempts_at chooser handle ∨
        attempts_at chooser handle = [0] ∧
          attempts_at (after_batch chooser queue made rest) handle = [0, 1] := by
    rw [attempts_after_batch pending renders]
    by_cases again : handle ∈ (retried made).map Prod.fst
    · obtain ⟨⟨own, attempt⟩, found, rfl⟩ := List.mem_map.mp again
      obtain ⟨rfl, first⟩ := retry found
      refine .inr ⟨first, ?_⟩
      rw [first, filter_queued once found]
      rfl
    · rw [filter_queued_of_ne again]
      exact .inl (List.append_nil _)
  refine ⟨orderly, bounded.presenter, fun handle => ?_, fun handle attempted => ?_⟩
  · rcases after handle with same | ⟨-, both⟩
    · rw [same]
      exact bounded.twice handle
    · exact both ▸ List.prefix_rfl
  · have before : attempts_at chooser handle ≠ [] := by
      rcases after handle with same | ⟨first, -⟩
      · rwa [same] at attempted
      · rw [first]
        exact nofun
    obtain ⟨handles, known, tile | gone⟩ := bounded.known handle before
    · exact ⟨handles, known, .inl (mem_places_handles _ tile)⟩
    · exact ⟨handles, known, .inr gone⟩

/-- A batch makes the attempts that were queued, and queues at most a second one. -/
theorem batch_bounded {tool : CaptureTool} {generation : UInt64}
    {outcome : NativeWindowHandle → Nat → RenderOutcome Pixels} (bounded : Bounded chooser) :
    Bounded (chooser.render_overview_batch answers tool generation outcome) := by
  have left := batch_left chooser answers tool generation outcome
  generalize chooser.render_overview_batch answers tool generation outcome = batched at left
  cases left with
  | ignored => exact bounded
  | unfinished queue pending renders =>
    have after := after_batch_bounded queue bounded pending renders
    refine after.of_same ?_ rfl rfl rfl rfl rfl
    exact after.orderly.of_queue rfl rfl rfl after.orderly.queued fun _ => .inl
  | @finished queue made batch rest pending renders done =>
    have after := after_batch_bounded queue bounded pending renders
    have empty : pending_of (after_batch chooser queue made rest) = [] := done
    apply refresh_window_chrome_bounded
    refine after.of_same ?_ rfl rfl empty.symm rfl rfl
    exact after.orderly.of_queue rfl rfl rfl List.nodup_nil nofun

/-- A window that is gone loses its tile as it is listed no more. -/
theorem prune_bounded (bounded : Bounded chooser) (is_window : NativeWindowHandle → Bool) :
    Bounded (chooser.prune_dead_window_sources is_window) := by
  refine ⟨prune_orderly bounded.orderly is_window, bounded.presenter, bounded.twice,
    fun handle attempted => ?_⟩
  obtain ⟨handles, known, either⟩ := bounded.known handle attempted
  have windows : (chooser.prune_dead_window_sources is_window).windows = some (handles.filter
      fun handle => !(chooser.dead_window_sources is_window).contains handle) := by
    rw [Chooser.prune_dead_window_sources, known]
    rfl
  refine ⟨_, windows, ?_⟩
  by_cases dead : handle ∈ chooser.dead_window_sources is_window
  · right
    simp [dead]
  · refine either.imp (fun tile => ?_) fun gone among => gone (List.mem_filter.mp among).1
    obtain ⟨own, member, rfl⟩ := List.mem_map.mp tile
    refine List.mem_map_of_mem (List.mem_filter.mpr ⟨member, ?_⟩)
    simpa using dead

/-- **One event** attempts no window a third time. -/
theorem step_bounded {session session' : ChooserSession Pixels} {event : ChooserEvent Pixels}
    (listed : ListsOnce event) (bounded : Bounded session.chooser)
    (step : ChooserStep session event session') : Bounded session'.chooser := by
  refine step_keeps (P := Bounded) ?_ ?_ ?_ ?_ ?_ ?_ ?_ bounded step
  · exact fun _ _ held => held.of_same
      (held.orderly.of_queue rfl rfl rfl held.orderly.queued fun _ => .inl) rfl rfl rfl rfl rfl
  · exact fun _ held => held.of_same
      (held.orderly.of_queue rfl rfl rfl held.orderly.queued fun _ => .inl) rfl rfl rfl rfl rfl
  · exact fun _ answers among held => inventory_bounded held (listed answers among)
  · exact fun _ tool answers among held => start_bounded held (listed answers among) tool
  · exact fun _ tool _ _ held => refresh_window_chrome_bounded held tool
  · exact fun _ _ _ _ _ _ held => batch_bounded held
  · exact fun _ is_window held => prune_bounded held is_window

/-- A chooser opens with no attempt made. -/
theorem opened_bounded : Bounded (Chooser.opened .Opaque : Chooser Pixels) :=
  ⟨opened_orderly _, rfl, fun _ => ⟨[0, 1], rfl⟩, fun _ attempted => absurd rfl attempted⟩

/-- Whatever the overlay is told, in any order: a window is queued once, and not while its tile has
pixels; a second render is of a window whose first one failed and said that it might not again;
and where the compositor draws no tile, a window is rendered at most twice in the whole run. -/
theorem overview_renders {source : Rect} {run : OverlayRun} {presenter : Presenter}
    {session final : ChooserSession Pixels}
    {steps : List (Taken (ChooserSession Pixels) (ChooserEvent Pixels))}
    (shown : show_overlay source run presenter answers = some session)
    (runs : Run ChooserStep session steps final) (listed : answers.enumerated.Nodup)
    (lists : ∀ taken ∈ steps, ListsOnce taken.event) :
    ((pending_of final.chooser).map Prod.fst).Nodup ∧
    (∀ queued ∈ pending_of final.chooser, ∀ tile ∈ final.chooser.window_thumbnails,
      tile.handle = queued.1 → tile.surface = none) ∧
    (∀ render ∈ final.chooser.made, render.attempt = 0 ∨
      render.attempt = 1 ∧ ⟨render.handle, 0, .failed true⟩ ∈ final.chooser.made) ∧
    (presenter = .Opaque → ∀ handle,
      ((final.chooser.made.filter fun render => render.handle = handle).map
        RenderMade.attempt) <+: [0, 1]) := by
  have orderly : Orderly final.chooser :=
    runs.inv_of_meets (P := fun session => Orderly session.chooser)
      (fun _ _ _ held listed step => step_orderly listed held step)
      (shown_keeps shown (opened_orderly _)
        fun tool => start_orderly (opened_orderly _) listed tool) lists
  refine ⟨orderly.queued, orderly.no_pixels, orderly.made, ?_⟩
  rintro rfl handle
  have bounded : Bounded final.chooser :=
    runs.inv_of_meets (P := fun session => Bounded session.chooser)
      (fun _ _ _ held listed step => step_bounded listed held step)
      (shown_keeps shown opened_bounded fun tool => start_bounded opened_bounded listed tool) lists
  exact (List.prefix_append _ _).trans (bounded.twice handle)

/-- A window that no compositor draws fails, is tried again, and is left at that. -/
theorem overview_renders_retry :
    ∃ final,
      one_window_session .Opaque [failing_batch 1 true, failing_batch 1 true] = some final ∧
      final.chooser.made.length = 2 ∧
      ((pending_of final.chooser).map Prod.fst).Nodup ∧
      (∀ queued ∈ pending_of final.chooser, ∀ tile ∈ final.chooser.window_thumbnails,
        tile.handle = queued.1 → tile.surface = none) ∧
      (∀ render ∈ final.chooser.made, render.attempt = 0 ∨
        render.attempt = 1 ∧ ⟨render.handle, 0, .failed true⟩ ∈ final.chooser.made) ∧
      (Presenter.Opaque = .Opaque → ∀ handle,
        ((final.chooser.made.filter fun render => render.handle = handle).map
          RenderMade.attempt) <+: [0, 1]) := by
  have computed : (one_window_session .Opaque [failing_batch 1 true, failing_batch 1 true]).any
      (fun final => decide (final.chooser.made.length = 2)) = true := by decide
  obtain ⟨final, computed, both⟩ := Option.any_eq_true _ _ |>.mp computed
  obtain ⟨session, steps, shown, same, runs⟩ := one_window_runs computed
  refine ⟨final, computed, of_decide_eq_true both,
    overview_renders shown runs (List.nodup_singleton 7) ?_⟩
  intro taken member
  have among := List.mem_map_of_mem (f := Taken.event) member
  rw [same, List.mem_cons, List.mem_singleton, or_self] at among
  rw [among]
  rintro answers ⟨⟩
  exact List.nodup_singleton 7

end Captastic.Analysis
