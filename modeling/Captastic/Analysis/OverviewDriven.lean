import Mathlib.Data.List.TakeWhile
import Captastic.Analysis.ChooserAsks
import Captastic.Analysis.OverlayRuns

/-!
# The window chooser is never left waiting

A build renders a batch only when a message says so, and a tile can lose its preview at any time.
Whatever the overlay is told, in any order, while the tool for windows is active every build in
progress has its next batch on the way, and under the layered presenter, unless the toolbar is
being dragged, a chooser that builds nothing shows every tile (`overview_driven`).

So a window that the compositor never draws and that never renders keeps the chooser building for
as long as it has a tile (`overview_never_settles`): a failed render leaves its tile in place, and
the refresh at the end of each build queues it again.
-/

set_option autoImplicit false

namespace Captastic.Analysis

open Captastic.Library Captastic.Model

variable {Pixels : Type}

/-! ## What the chooser's operations leave -/

section Operations

variable (chooser : Chooser Pixels) (answers : ShellAnswers)

/-- The inventory is enumerated once and then kept. -/
theorem ensure_window_inventory_eq :
    chooser.ensure_window_inventory answers =
      { chooser with windows := some (chooser.windows.getD answers.enumerated) } := by
  unfold Chooser.ensure_window_inventory
  split
  · rename_i handles known
    rw [known, Option.getD_some, ← known]
  · rename_i unknown
    rw [unknown, Option.getD_none]

/-- The generations that are posted so that a build goes on. -/
def posts_of : List UInt64 :=
  if answers.posts then (chooser.window_overview_build.map OverviewBuildQueue.generation).toList
  else []

/-- Making sure of the next batch posts the generation of the build, where posts arrive. -/
theorem ensure_overview_batch_posted_eq :
    chooser.ensure_overview_batch_posted answers =
      { chooser with posted := chooser.posted ++ posts_of chooser answers } := by
  unfold Chooser.ensure_overview_batch_posted Chooser.post_overview_batch posts_of
  split
  · rename_i queue build
    simp only [build, Option.map_some, Option.toList_some]
    split
    · rw [← build]
    · rw [← build, List.append_nil]
  · rename_i build
    simp only [build, Option.map_none, Option.toList_none, ite_self, List.append_nil]
    rw [← build]

/-- The chooser with the previews that the compositor draws. -/
def with_previews : Chooser Pixels :=
  { chooser with
    live_window_thumbnails :=
      (chooser.window_thumbnails.map WindowThumbnail.handle).filter answers.previews }

/-- What a refresh of the previews leaves: none under another tool or presenter; the compositor's
ones, and where a tile is left without, a build that it joins or begins. -/
inductive Refreshed (tool : CaptureTool) : Chooser Pixels → Prop
  | away (off : chooser.presenter ≠ .Layered ∨ tool ≠ .Window) :
      Refreshed tool { chooser with live_window_thumbnails := [] }
  | covered (none_left : (with_previews chooser answers).uncovered = []) :
      Refreshed tool (with_previews chooser answers)
  | joins {queue : OverviewBuildQueue} (build : chooser.window_overview_build = some queue) :
      Refreshed tool
        { with_previews chooser answers with
          window_overview_build := some
            ((with_previews chooser answers).uncovered.foldl OverviewBuildQueue.enqueue queue) }
  | begins (build : chooser.window_overview_build = none)
      (some_left : (with_previews chooser answers).uncovered ≠ []) :
      Refreshed tool
        ((with_previews chooser answers).begin_build (with_previews chooser answers).uncovered)

/-- A refresh leaves one of the states that `Refreshed` lists.
SRC: overlay.rs:3119-3187 -/
theorem refresh_cases (tool : CaptureTool) :
    Refreshed chooser answers tool (chooser.refresh_live_window_thumbnails answers tool) := by
  unfold Chooser.refresh_live_window_thumbnails
  split
  · rename_i off
    exact .away off
  · change Refreshed chooser answers tool
      (with_previews chooser answers).queue_uncovered_window_tiles
    unfold Chooser.queue_uncovered_window_tiles
    split
    · rename_i none_left
      exact .covered (List.isEmpty_iff.mp none_left)
    · rename_i some_left
      split
      · rename_i queue build
        exact .joins build
      · rename_i build
        exact .begins build (mt List.isEmpty_iff.mpr some_left)

end Operations

/-! ## The parts of the invariant -/

/-- A build in progress has something to render. -/
def Queued (chooser : Chooser Pixels) : Prop :=
  ∀ queue, chooser.window_overview_build = some queue → queue.pending ≠ []

/-- A build in progress has its next batch in flight. -/
def OnItsWay (chooser : Chooser Pixels) : Prop :=
  ∀ queue, chooser.window_overview_build = some queue → queue.generation ∈ chooser.posted

/-- Every tile has pixels or is drawn by the compositor. -/
def ShowsEvery (chooser : Chooser Pixels) : Prop :=
  ∀ tile ∈ chooser.window_thumbnails,
    tile.surface.isSome ∨ tile.handle ∈ chooser.live_window_thumbnails

/-- What the chooser keeps under a model. -/
structure Driven (model : OverlayModel) (chooser : Chooser Pixels) : Prop where
  queued : Queued chooser
  on_its_way : model.tool = .Window → OnItsWay chooser
  covered : chooser.presenter = .Layered → model.tool = .Window → model.toolbar_drag = none →
    chooser.window_overview_build = none → ShowsEvery chooser

variable {model model' : OverlayModel} {chooser : Chooser Pixels} {answers : ShellAnswers}

/-- What is kept under a model is kept under one with no more to keep. -/
theorem Driven.of_model (driven : Driven model chooser)
    (entered : model'.tool = .Window → model.tool = .Window)
    (released : model'.tool = .Window → model'.toolbar_drag = none → model.toolbar_drag = none) :
    Driven model' chooser where
  queued := driven.queued
  on_its_way window := driven.on_its_way (entered window)
  covered layered window free := driven.covered layered (entered window) (released window free)

/-! ## Refreshing -/

/-- A tile that is covered by nothing is one to queue. -/
theorem covered_of_uncovered (none_left : chooser.uncovered = []) : ShowsEvery chooser := by
  intro tile member
  by_contra shown
  push Not at shown
  have queued : tile.handle ∈ chooser.uncovered := by
    unfold Chooser.uncovered
    simp only [List.mem_filter, List.mem_map]
    refine ⟨⟨tile, ⟨member, ?_⟩, rfl⟩, ?_⟩
    · simpa using shown.1
    · simpa using shown.2
  rw [none_left] at queued
  cases queued

/-- A window that joins a queue empties none. -/
theorem enqueue_pending_ne_nil {queue : OverviewBuildQueue} (some_queued : queue.pending ≠ [])
    (handle : NativeWindowHandle) : (queue.enqueue handle).pending ≠ [] := by
  unfold OverviewBuildQueue.enqueue
  split
  · exact some_queued
  · simp

/-- A queue with something to render still has it after more is put in. -/
theorem foldl_enqueue_pending_ne_nil (handles : List NativeWindowHandle) :
    ∀ {queue : OverviewBuildQueue}, queue.pending ≠ [] →
      (handles.foldl OverviewBuildQueue.enqueue queue).pending ≠ [] := by
  induction handles with
  | nil => exact id
  | cons handle handles ih =>
    exact fun some_queued => ih (enqueue_pending_ne_nil some_queued handle)

/-- A refresh leaves a build with something to render. -/
theorem refresh_queued (queued : Queued chooser) (tool : CaptureTool) :
    Queued (chooser.refresh_live_window_thumbnails answers tool) := by
  have cases := refresh_cases chooser answers tool
  generalize chooser.refresh_live_window_thumbnails answers tool = refreshed at cases
  intro queue build
  cases cases with
  | away => exact queued queue build
  | covered => exact queued queue build
  | joins before =>
    cases build
    exact foldl_enqueue_pending_ne_nil _ (queued _ before)
  | begins _ some_left =>
    cases build
    simpa [OverviewBuildQueue.new] using some_left

/-- A refresh that leaves no build shows every tile. -/
theorem refresh_covers (layered : chooser.presenter = .Layered)
    (build :
      (chooser.refresh_live_window_thumbnails answers .Window).window_overview_build = none) :
    ShowsEvery (chooser.refresh_live_window_thumbnails answers .Window) := by
  have cases := refresh_cases chooser answers .Window
  generalize chooser.refresh_live_window_thumbnails answers .Window = refreshed at cases build
  cases cases with
  | away off => cases off with
    | inl other => exact absurd layered other
    | inr other => exact absurd rfl other
  | covered none_left => exact covered_of_uncovered none_left
  | joins => cases build
  | begins => cases build

/-- A refresh keeps the presenter. -/
theorem refresh_presenter (tool : CaptureTool) :
    (chooser.refresh_live_window_thumbnails answers tool).presenter = chooser.presenter := by
  have cases := refresh_cases chooser answers tool
  generalize chooser.refresh_live_window_thumbnails answers tool = refreshed at cases
  cases cases with
  | away | covered | joins | begins => rfl

/-- So does a refresh of what is around the windows. -/
theorem refresh_window_chrome_presenter (tool : CaptureTool) :
    (chooser.refresh_window_chrome answers tool).presenter = chooser.presenter := by
  unfold Chooser.refresh_window_chrome
  rw [ensure_overview_batch_posted_eq]
  exact refresh_presenter tool

/-- A refresh drives the chooser on, wherever it stood. -/
theorem refresh_window_chrome_driven (queued : Queued chooser) (posts : answers.posts = true) :
    Driven model (chooser.refresh_window_chrome answers model.tool) := by
  unfold Chooser.refresh_window_chrome
  rw [ensure_overview_batch_posted_eq]
  constructor
  · exact refresh_queued queued model.tool
  · intro _ queue build
    apply List.mem_append_right
    simp only [posts_of, posts, if_true]
    rw [build]
    exact List.mem_cons_self
  · intro layered window _ build
    rw [window] at build ⊢
    exact refresh_covers ((refresh_presenter model.tool).symm.trans layered) build

/-- What a chooser without tiles seeds: tiles, and where it draws them itself, a build of them. -/
theorem seeded_cases (chooser : Chooser Pixels) (answers : ShellAnswers) :
    chooser.seeded answers = chooser ∨
      ∃ tiles, chooser.window_overview_build = none ∧ chooser.window_thumbnails = [] ∧
        tiles = (chooser.windows.getD []).filterMap (chooser.seed_tile answers) ∧
        (chooser.seeded answers = { chooser with window_thumbnails := tiles } ∨
          chooser.presenter ≠ .Layered ∧ tiles ≠ [] ∧
            chooser.seeded answers = { chooser with window_thumbnails := tiles }.begin_build
              (tiles.map WindowThumbnail.handle)) := by
  unfold Chooser.seeded Chooser.seed_window_tiles
  split
  · rename_i idle
    have no_tiles := List.isEmpty_iff.mp idle.2
    refine .inr ⟨_, Option.isNone_iff_eq_none.mp idle.1, no_tiles, rfl, ?_⟩
    simp only [no_tiles, List.nil_append]
    by_cases layered : chooser.presenter = .Layered
    · left
      rw [if_pos layered, if_pos List.isEmpty_nil]
    · rw [if_neg layered]
      split
      · exact .inl rfl
      · rename_i some_left
        refine .inr ⟨layered, fun none_seeded => some_left ?_, rfl⟩
        rw [none_seeded, List.map_nil, List.isEmpty_nil]
  · exact .inl rfl

/-- Seeding the tiles begins a build only with something to render. -/
theorem seeded_queued (queued : Queued chooser) : Queued (chooser.seeded answers) := by
  intro queue build
  rcases seeded_cases chooser answers with
    same | ⟨tiles, none_yet, -, -, same | ⟨-, some_left, same⟩⟩
  · rw [same] at build
    exact queued queue build
  · rw [same] at build
    cases none_yet.symm.trans build
  · rw [same] at build
    cases build
    simpa [OverviewBuildQueue.new] using some_left

/-- Seeding keeps the presenter. -/
theorem seeded_presenter (chooser : Chooser Pixels) (answers : ShellAnswers) :
    (chooser.seeded answers).presenter = chooser.presenter := by
  rcases seeded_cases chooser answers with same | ⟨tiles, -, -, -, same | ⟨-, -, same⟩⟩
  · rw [same]
  · rw [same]
  · rw [same]
    rfl

/-- A build starts with a refresh of what it seeds. -/
theorem start_eq (chooser : Chooser Pixels) (answers : ShellAnswers) (tool : CaptureTool) :
    chooser.start_window_overview_build answers tool =
      ((chooser.ensure_window_inventory answers).seeded answers).refresh_window_chrome
        answers tool := rfl

/-- Starting a build keeps it too. -/
theorem start_presenter (chooser : Chooser Pixels) (answers : ShellAnswers) (tool : CaptureTool) :
    (chooser.start_window_overview_build answers tool).presenter = chooser.presenter := by
  rw [start_eq, refresh_window_chrome_presenter, seeded_presenter, ensure_window_inventory_eq]

/-- A build that is started is driven: its first batch is posted. -/
theorem start_driven (queued : Queued chooser) (posts : answers.posts = true) :
    Driven model (chooser.start_window_overview_build answers model.tool) := by
  rw [start_eq]
  apply refresh_window_chrome_driven _ posts
  apply seeded_queued
  rw [ensure_window_inventory_eq]
  exact queued

/-! ## Batches -/

/-- What a batch leaves: nothing under another tool or from an earlier build; else what it rendered,
and either the rest of the queue or, with the build finished, a refresh. -/
inductive Batched (chooser : Chooser Pixels) (answers : ShellAnswers) (tool : CaptureTool)
    (generation : UInt64) (outcome : NativeWindowHandle → Nat → RenderOutcome Pixels) :
    Chooser Pixels → Prop
  | ignored (stale : tool = .Window → ∀ queue, chooser.window_overview_build = some queue →
      queue.generation ≠ generation) : Batched chooser answers tool generation outcome chooser
  | rendered {queue : OverviewBuildQueue} {made : List (RenderMade Pixels)}
      {left : OverviewBuildQueue × List (WindowThumbnail Pixels)}
      (window : tool = .Window) (build : chooser.window_overview_build = some queue)
      (accepted : queue.generation = generation)
      (renders_made : made = Chooser.renders outcome
        (queue.take_batch WINDOW_THUMBNAIL_RENDER_BATCH).1)
      (taken : left = made.foldl Chooser.take_outcome
        ((queue.take_batch WINDOW_THUMBNAIL_RENDER_BATCH).2, [])) :
      Batched chooser answers tool generation outcome
        (let tiled := { chooser with
          made := chooser.made ++ made
          window_thumbnails := left.2.foldl
            (fun tiles tile => Chooser.place_thumbnail tile tiles) chooser.window_thumbnails }
        if left.1.is_done then
          ({ tiled with window_overview_build := none }).refresh_window_chrome answers tool
        else ({ tiled with window_overview_build := some left.1 }).post_overview_batch
          answers generation)

/-- A batch leaves one of the states that `Batched` lists. -/
theorem batch_cases (chooser : Chooser Pixels) (answers : ShellAnswers) (tool : CaptureTool)
    (generation : UInt64) (outcome : NativeWindowHandle → Nat → RenderOutcome Pixels) :
    Batched chooser answers tool generation outcome
      (chooser.render_overview_batch answers tool generation outcome) := by
  unfold Chooser.render_overview_batch
  split
  · rename_i away
    exact .ignored fun window => absurd window away
  · rename_i window
    split
    · rename_i none_yet
      exact .ignored fun _ queue build => by cases none_yet.symm.trans build
    · rename_i queue build
      split
      · rename_i stale
        refine .ignored fun _ other same => ?_
        cases build.symm.trans same
        simpa [OverviewBuildQueue.accepts] using stale
      · rename_i accepted
        refine .rendered (not_not.mp window) build ?_ rfl rfl
        simpa [OverviewBuildQueue.accepts] using accepted

/-- The windows of a batch that are rendered once more. -/
def retried (made : List (RenderMade Pixels)) : List (NativeWindowHandle × Nat) :=
  (made.filter fun render => render.attempt = 0 ∧ render.outcome matches .failed true).map
    fun render => (render.handle, 1)

/-- The tile that a render comes to. -/
def rendered_tile (render : RenderMade Pixels) : Option (WindowThumbnail Pixels) :=
  match render.outcome with
  | .captured width height pixels => some ⟨render.handle, width, height, some pixels⟩
  | _ => none

/-- A batch puts the windows to retry at the back of the queue, and collects the tiles. -/
theorem take_outcomes_eq (made : List (RenderMade Pixels)) :
    ∀ left : OverviewBuildQueue × List (WindowThumbnail Pixels),
      made.foldl Chooser.take_outcome left =
        ({ left.1 with pending := left.1.pending ++ retried made },
          left.2 ++ made.filterMap rendered_tile) := by
  induction made with
  | nil => simp [retried]
  | cons render made ih =>
    intro left
    rw [List.foldl_cons, ih]
    unfold Chooser.take_outcome
    split
    · rename_i outcome
      simp [retried, rendered_tile, outcome]
    · rename_i outcome
      unfold OverviewBuildQueue.requeue
      split
      · rename_i first
        simp [retried, rendered_tile, outcome, first]
      · rename_i again
        simp [retried, rendered_tile, outcome, again]
    all_goals
      rename_i outcome
      simp [retried, rendered_tile, outcome]

/-- A batch that arrives posts the next one, or ends the build with every tile shown. -/
theorem batch_driven {generation : UInt64}
    {outcome : NativeWindowHandle → Nat → RenderOutcome Pixels} (driven : Driven model chooser)
    (posts : answers.posts = true) :
    Driven model ({ chooser with posted := chooser.posted.erase generation }.render_overview_batch
      answers model.tool generation outcome) := by
  have cases := batch_cases { chooser with posted := chooser.posted.erase generation } answers
    model.tool generation outcome
  generalize ({ chooser with posted := chooser.posted.erase generation }).render_overview_batch
    answers model.tool generation outcome = batched at cases
  cases cases with
  | ignored stale =>
    constructor
    · exact driven.queued
    · intro window queue build
      exact (List.mem_erase_of_ne (stale window queue build)).mpr
        (driven.on_its_way window queue build)
    · exact driven.covered
  | @rendered queue made left window build accepted renders_made taken =>
    simp only
    split
    · exact refresh_window_chrome_driven nofun posts
    · rename_i unfinished
      have generation_left : left.1.generation = generation := by
        rw [taken, take_outcomes_eq]
        exact accepted
      unfold Chooser.post_overview_batch
      rw [if_pos posts]
      constructor
      · rintro _ ⟨⟩
        simpa [OverviewBuildQueue.is_done] using unfinished
      · rintro _ _ ⟨⟩
        rw [generation_left]
        exact List.mem_append_right _ List.mem_cons_self
      · intro _ _ _ done
        cases done

/-! ## Effects -/

/-- Effects that do not reach the chooser keep what the inventory of windows keeps. -/
theorem apply_unasked {P : Chooser Pixels → Prop} {effects : List OverlayEffect}
    (inventory : ∀ chooser, P chooser → P (chooser.ensure_window_inventory answers))
    (tool : CaptureTool) (unasked : asked effects = []) (first : P chooser) :
    P (effects.foldl (fun chooser effect => chooser.apply_overlay_effect answers tool effect)
      chooser) := by
  refine List.foldlRecOn effects _ first fun chooser holds effect member => ?_
  have quiet := (List.filter_eq_nil_iff.mp unasked) effect member
  cases effect with
  | BuildSnapTargets => exact inventory _ holds
  | ClearLiveThumbnails | BuildWindowOverview | RefreshWindowChrome => exact absurd rfl quiet
  | _ => exact holds

/-- One effect among others that do not reach the chooser. -/
theorem apply_asked {P Q : Chooser Pixels → Prop} {effects : List OverlayEffect}
    {effect : OverlayEffect} {tool : CaptureTool}
    (inventory : ∀ chooser, P chooser → P (chooser.ensure_window_inventory answers))
    (inventory' : ∀ chooser, Q chooser → Q (chooser.ensure_window_inventory answers))
    (only : asked effects = [effect])
    (applied : ∀ chooser, P chooser → Q (chooser.apply_overlay_effect answers tool effect))
    (first : P chooser) :
    Q (effects.foldl (fun chooser effect => chooser.apply_overlay_effect answers tool effect)
      chooser) := by
  obtain ⟨before, after, rfl, none_before, -, none_after⟩ := List.filter_eq_cons_iff.mp only
  rw [List.foldl_append, List.foldl_cons]
  apply apply_unasked inventory' tool none_after
  apply applied
  exact apply_unasked inventory tool (List.filter_eq_nil_iff.mpr none_before) first

/-- Enumerating the windows changes nothing of a build. -/
theorem inventory_driven (driven : Driven model chooser) :
    Driven model (chooser.ensure_window_inventory answers) := by
  rw [ensure_window_inventory_eq]
  exact ⟨driven.queued, driven.on_its_way, driven.covered⟩

/-- Nor of what it has to render. -/
theorem inventory_queued (queued : Queued chooser) :
    Queued (chooser.ensure_window_inventory answers) := by
  rw [ensure_window_inventory_eq]
  exact queued

/-- The effects of an input, by what they ask of the chooser. -/
theorem effects_driven {effects : List OverlayEffect} (driven : Driven model chooser)
    (asks : Asks model model' (asked effects)) (posts : answers.posts = true) :
    Driven model' (effects.foldl
      (fun chooser effect => chooser.apply_overlay_effect answers model'.tool effect) chooser) := by
  generalize asks_eq : asked effects = asked_of at asks
  cases asks with
  | nothing entered released =>
    exact apply_unasked (fun _ => inventory_driven) _ asks_eq (driven.of_model entered released)
  | clears entered dragged =>
    refine apply_asked (P := Driven model) (fun _ => inventory_driven)
      (fun _ => inventory_driven) asks_eq (fun before held => ?_) driven
    refine ⟨held.queued, fun window => held.on_its_way (entered ▸ window), fun _ _ free => ?_⟩
    rw [free] at dragged
    cases dragged
  | builds =>
    exact apply_asked (fun _ => inventory_queued) (fun _ => inventory_driven) asks_eq
      (fun _ queued => start_driven queued posts) driven.queued
  | refreshes =>
    exact apply_asked (fun _ => inventory_queued) (fun _ => inventory_driven) asks_eq
      (fun _ queued => refresh_window_chrome_driven queued posts) driven.queued

/-! ## Painting -/

/-- A window that is gone takes its tile along, and leaves no build without a batch. -/
theorem prune_driven (driven : Driven model chooser) (is_window : NativeWindowHandle → Bool) :
    Driven model (chooser.prune_dead_window_sources is_window) := by
  refine ⟨driven.queued, driven.on_its_way, fun layered window free done tile member => ?_⟩
  obtain ⟨member, alive⟩ := List.mem_filter.mp member
  refine (driven.covered layered window free done tile member).imp id fun live => ?_
  exact List.mem_filter.mpr ⟨live, alive⟩

/-- Pruning the model's sources changes neither its tool nor a drag of the toolbar. -/
theorem pruned_keeps (model : OverlayModel) (dead : List NativeWindowHandle) :
    (model.window_sources_pruned dead).1.tool = model.tool ∧
      (model.window_sources_pruned dead).1.toolbar_drag = model.toolbar_drag := by
  unfold OverlayModel.window_sources_pruned
  simp only
  split <;> exact ⟨rfl, rfl⟩

/-- Painting keeps a session driven. -/
theorem compose_driven {session : ChooserSession Pixels}
    (driven : Driven session.model session.chooser) (is_window : NativeWindowHandle → Bool) :
    Driven (session.compose_overlay_state is_window).model
      (session.compose_overlay_state is_window).chooser := by
  unfold ChooserSession.compose_overlay_state
  split
  · exact driven
  · obtain ⟨tool, drag⟩ := pruned_keeps session.model
      (session.chooser.dead_window_sources is_window)
    refine (prune_driven driven is_window).of_model ?_ ?_
    · exact fun window => tool ▸ window
    · exact fun _ free => drag ▸ free

/-! ## Runs of an overlay -/

/-- A step of an overlay with its chooser. -/
def ChooserStep (session : ChooserSession Pixels) (event : ChooserEvent Pixels)
    (session' : ChooserSession Pixels) : Prop :=
  session.next event = some session'

/-- What the window manager and the compositor answer during an event. -/
def answers_of : ChooserEvent Pixels → Option ShellAnswers
  | .input _ answers | .batch _ _ answers => some answers
  | .paint _ => none

/-- Whatever is posted during the event arrives. -/
def PostsArrive (event : ChooserEvent Pixels) : Prop :=
  ∀ answers ∈ answers_of event, answers.posts = true

/-- A step of an overlay on screen: it was open, and an input is applied with its effects. -/
theorem step_driven {session session' : ChooserSession Pixels} {event : ChooserEvent Pixels}
    (arrive : PostsArrive event)
    (driven : session.closed = false → Driven session.model session.chooser)
    (step : ChooserStep session event session') :
    session'.closed = false → Driven session'.model session'.chooser := by
  unfold ChooserStep ChooserSession.next at step
  cases event with
  | input input answers =>
    simp only at step
    split at step
    · cases step
    · rename_i running
      obtain ⟨⟨model', effects⟩, taken, rfl⟩ := Option.map_eq_some_iff.mp step
      intro still_open
      have no_close : effects.takeWhile (fun effect => !closes effect) = effects := by
        rw [List.takeWhile_eq_self_iff]
        intro effect member
        simpa using (List.any_eq_false.mp still_open) effect member
      simp only [ChooserSession.apply_overlay_effects, no_close]
      exact effects_driven (driven (by simpa using running)) (transition_asks taken)
        (arrive answers rfl)
  | batch generation outcome answers =>
    simp only at step
    split at step
    · cases step
    · rename_i running
      cases step
      exact fun still_open => batch_driven (driven still_open) (arrive answers rfl)
  | paint is_window =>
    simp only at step
    split at step
    · cases step
    · rename_i running
      cases step
      exact fun _ => compose_driven (driven (by simpa using running)) is_window

/-- An overlay opens driven. -/
theorem opened_driven {source : Rect} {run : OverlayRun} {presenter : Presenter}
    {session : ChooserSession Pixels}
    (shown : show_overlay source run presenter answers = some session)
    (posts : answers.posts = true) : Driven session.model session.chooser := by
  have idle : Queued (Chooser.opened presenter : Chooser Pixels) := nofun
  unfold show_overlay at shown
  simp only [Option.bind_eq_bind, Option.bind_eq_some_iff] at shown
  obtain ⟨model, -, shown⟩ := shown
  cases shown
  simp only
  split
  · exact start_driven idle posts
  · rename_i away
    exact ⟨idle, fun window => absurd window away, fun _ window => absurd window away⟩

/-! ## The presenter -/

/-- No effect changes the presenter. -/
theorem effect_presenter (tool : CaptureTool) (effect : OverlayEffect) :
    (chooser.apply_overlay_effect answers tool effect).presenter = chooser.presenter := by
  cases effect with
  | BuildWindowOverview => exact start_presenter _ _ _
  | RefreshWindowChrome => exact refresh_window_chrome_presenter _
  | BuildSnapTargets =>
    rw [Chooser.apply_overlay_effect, ensure_window_inventory_eq]
  | _ => rfl

/-- Nor does a batch. -/
theorem batch_presenter {tool : CaptureTool} {generation : UInt64}
    {outcome : NativeWindowHandle → Nat → RenderOutcome Pixels} :
    (chooser.render_overview_batch answers tool generation outcome).presenter =
      chooser.presenter := by
  have cases := batch_cases chooser answers tool generation outcome
  generalize chooser.render_overview_batch answers tool generation outcome = batched at cases
  cases cases with
  | ignored => rfl
  | rendered =>
    simp only
    split
    · exact refresh_window_chrome_presenter _
    · unfold Chooser.post_overview_batch
      split <;> rfl

/-- The presenter is settled before the overlay is shown. -/
theorem step_presenter {session session' : ChooserSession Pixels} {event : ChooserEvent Pixels}
    (step : ChooserStep session event session') :
    session'.chooser.presenter = session.chooser.presenter := by
  unfold ChooserStep ChooserSession.next at step
  cases event with
  | input input answers =>
    simp only at step
    split at step
    · cases step
    · obtain ⟨left, -, rfl⟩ := Option.map_eq_some_iff.mp step
      exact List.foldlRecOn (motive := fun chooser : Chooser Pixels =>
        chooser.presenter = session.chooser.presenter) _ _ rfl
        fun _ same effect _ => (effect_presenter _ effect).trans same
  | batch generation outcome answers =>
    simp only at step
    split at step
    · cases step
    · cases step
      exact batch_presenter
  | paint is_window =>
    simp only at step
    split at step
    · cases step
    · cases step
      unfold ChooserSession.compose_overlay_state
      split <;> rfl

/-- An overlay opens with the presenter it is given. -/
theorem opened_presenter {source : Rect} {run : OverlayRun} {presenter : Presenter}
    {session : ChooserSession Pixels}
    (shown : show_overlay source run presenter answers = some session) :
    session.chooser.presenter = presenter := by
  unfold show_overlay at shown
  simp only [Option.bind_eq_bind, Option.bind_eq_some_iff] at shown
  obtain ⟨model, -, shown⟩ := shown
  cases shown
  simp only
  split
  · exact start_presenter _ _ _
  · rfl

/-- So in every run the presenter is the one the overlay opened with. -/
theorem run_presenter {source : Rect} {run : OverlayRun} {presenter : Presenter}
    {session final : ChooserSession Pixels}
    {steps : List (Taken (ChooserSession Pixels) (ChooserEvent Pixels))}
    (shown : show_overlay source run presenter answers = some session)
    (runs : Run ChooserStep session steps final) : final.chooser.presenter = presenter :=
  runs.inv (P := fun session => session.chooser.presenter = presenter)
    (fun _ _ _ same step => (step_presenter step).trans same) (opened_presenter shown)

/-- In every run whose posts arrive, an overlay that is open is driven. -/
theorem run_driven {source : Rect} {run : OverlayRun} {presenter : Presenter}
    {session final : ChooserSession Pixels}
    {steps : List (Taken (ChooserSession Pixels) (ChooserEvent Pixels))}
    (shown : show_overlay source run presenter answers = some session)
    (runs : Run ChooserStep session steps final) (posts : answers.posts = true)
    (arrive : ∀ taken ∈ steps, PostsArrive taken.event) (running : final.closed = false) :
    Driven final.model final.chooser :=
  runs.inv_of_meets (fun _ _ _ driven arrive step => step_driven arrive driven step)
    (fun _ => opened_driven shown posts) arrive running

/-- While the tool for windows is active, a build in progress has something to render and its next
batch in flight, and under the layered presenter, unless the toolbar is being dragged, a chooser
that builds nothing shows every tile. -/
theorem overview_driven {source : Rect} {run : OverlayRun} {presenter : Presenter}
    {session final : ChooserSession Pixels}
    {steps : List (Taken (ChooserSession Pixels) (ChooserEvent Pixels))}
    (shown : show_overlay source run presenter answers = some session)
    (runs : Run ChooserStep session steps final) (posts : answers.posts = true)
    (arrive : ∀ taken ∈ steps, PostsArrive taken.event) (running : final.closed = false)
    (window : final.model.tool = .Window) :
    (∀ queue, final.chooser.window_overview_build = some queue →
      queue.pending ≠ [] ∧ queue.generation ∈ final.chooser.posted) ∧
    (presenter = .Layered → final.model.toolbar_drag = none →
      final.chooser.window_overview_build = none →
        ∀ tile ∈ final.chooser.window_thumbnails,
          tile.surface.isSome ∨ tile.handle ∈ final.chooser.live_window_thumbnails) := by
  have driven := run_driven shown runs posts arrive running
  refine ⟨fun queue build => ⟨driven.queued queue build, driven.on_its_way window queue build⟩, ?_⟩
  intro layered free done
  exact driven.covered ((run_presenter shown runs).trans layered) window free done

/-- An overlay opened with the tool for windows. -/
def window_run : OverlayRun := { region_run with tool := .Window }

/-- One window, which the compositor does not draw. -/
def one_window : ShellAnswers where
  enumerated := [7]
  dwm_source_size := fun _ => some (640, 480)
  native_window_size := fun _ => some (640, 480)
  previews := fun _ => false
  posts := true

/-- The batches of a run whose every render fails as `retryable` says. -/
def failing_batch (generation : UInt64) (retryable : Bool) : ChooserEvent Unit :=
  .batch generation (fun _ _ => .failed retryable) one_window

/-- The overlay of one window after some events. -/
def one_window_session (presenter : Presenter) (events : List (ChooserEvent Unit)) :
    Option (ChooserSession Unit) := do
  events.foldlM ChooserSession.next (← show_overlay full_hd window_run presenter one_window)

/-- The events of a computed run are those of a run. -/
theorem one_window_runs {presenter : Presenter} {events : List (ChooserEvent Unit)}
    {final : ChooserSession Unit} (computed : one_window_session presenter events = some final) :
    ∃ session steps, show_overlay full_hd window_run presenter one_window = some session ∧
      steps.map Taken.event = events ∧ Run ChooserStep session steps final := by
  unfold one_window_session at computed
  simp only [Option.bind_eq_bind, Option.bind_eq_some_iff] at computed
  obtain ⟨session, shown, computed⟩ := computed
  obtain ⟨steps, same, runs⟩ := Run.of_foldlM (fun _ _ _ taken => taken) computed
  exact ⟨session, steps, shown, same, runs⟩

/-- A render that fails is tried once more, in a batch that is on its way. -/
theorem overview_driven_after_failure :
    ∃ final, one_window_session .Layered [failing_batch 1 true] = some final ∧
      (∀ queue, final.chooser.window_overview_build = some queue →
        queue.pending ≠ [] ∧ queue.generation ∈ final.chooser.posted) ∧
      (Presenter.Layered = .Layered → final.model.toolbar_drag = none →
        final.chooser.window_overview_build = none →
          ∀ tile ∈ final.chooser.window_thumbnails,
            tile.surface.isSome ∨ tile.handle ∈ final.chooser.live_window_thumbnails) := by
  have computed : (one_window_session .Layered [failing_batch 1 true]).any (fun final =>
      !final.closed && decide (final.model.tool = .Window)) = true := by decide
  obtain ⟨final, computed, held⟩ := Option.any_eq_true _ _ |>.mp computed
  simp only [Bool.and_eq_true, Bool.not_eq_true', decide_eq_true_eq] at held
  obtain ⟨session, steps, shown, same, runs⟩ := one_window_runs computed
  refine ⟨final, computed, overview_driven shown runs rfl ?_ held.1 held.2⟩
  intro taken member
  have among := List.mem_map_of_mem (f := Taken.event) member
  rw [same, List.mem_singleton] at among
  rw [among]
  rintro answers ⟨⟩
  rfl

/-! ## A window that is never drawn -/

/-- The compositor never draws the window and no render of it yields a surface. -/
def NeverDrawn (handle : NativeWindowHandle) (event : ChooserEvent Pixels) : Prop :=
  (∀ answers ∈ answers_of event, answers.previews handle = false) ∧
    ∀ generation outcome answers, event = .batch generation outcome answers →
      ∀ attempt width height pixels, outcome handle attempt ≠ .captured width height pixels

/-- The window's tile is bare: no pixels, no preview. -/
structure Bare (handle : NativeWindowHandle) (chooser : Chooser Pixels) : Prop where
  no_pixels : ∀ tile ∈ chooser.window_thumbnails, tile.handle = handle → tile.surface = none
  no_preview : handle ∉ chooser.live_window_thumbnails

variable {handle : NativeWindowHandle}

/-- A refresh shows no window that the compositor does not draw. -/
theorem refresh_bare (bare : Bare handle chooser) (tool : CaptureTool)
    (undrawn : answers.previews handle = false) :
    Bare handle (chooser.refresh_live_window_thumbnails answers tool) := by
  have none_drawn : handle ∉ (with_previews chooser answers).live_window_thumbnails := by
    intro drawn
    cases undrawn.symm.trans (List.mem_filter.mp drawn).2
  have cases := refresh_cases chooser answers tool
  generalize chooser.refresh_live_window_thumbnails answers tool = refreshed at cases
  cases cases with
  | away => exact ⟨bare.no_pixels, nofun⟩
  | covered | joins | begins => exact ⟨bare.no_pixels, none_drawn⟩

/-- Nor does a refresh of what is around the windows. -/
theorem refresh_window_chrome_bare (bare : Bare handle chooser) (tool : CaptureTool)
    (undrawn : answers.previews handle = false) :
    Bare handle (chooser.refresh_window_chrome answers tool) := by
  have refreshed := refresh_bare bare tool undrawn
  unfold Chooser.refresh_window_chrome
  rw [ensure_overview_batch_posted_eq]
  exact ⟨refreshed.no_pixels, refreshed.no_preview⟩

/-- Tiles are seeded without pixels. -/
theorem seeded_bare (bare : Bare handle chooser) : Bare handle (chooser.seeded answers) := by
  have seeds (tile : WindowThumbnail Pixels)
      (member : tile ∈ (chooser.windows.getD []).filterMap (chooser.seed_tile answers)) :
      tile.surface = none := by
    obtain ⟨_, -, seeded⟩ := List.mem_filterMap.mp member
    unfold Chooser.seed_tile at seeded
    obtain ⟨_, -, rfl⟩ := Option.map_eq_some_iff.mp seeded
    rfl
  rcases seeded_cases chooser answers with same | ⟨tiles, -, -, rfl, same | ⟨-, -, same⟩⟩
  · rw [same]
    exact bare
  · rw [same]
    exact ⟨fun tile member _ => seeds tile member, bare.no_preview⟩
  · rw [same]
    exact ⟨fun tile member _ => seeds tile member, bare.no_preview⟩

/-- Nor does starting a build. -/
theorem start_bare (bare : Bare handle chooser) (tool : CaptureTool)
    (undrawn : answers.previews handle = false) :
    Bare handle (chooser.start_window_overview_build answers tool) := by
  rw [start_eq]
  apply refresh_window_chrome_bare _ tool undrawn
  apply seeded_bare
  rw [ensure_window_inventory_eq]
  exact ⟨bare.no_pixels, bare.no_preview⟩

/-- A placed tile is the rendered one, or was there. -/
theorem mem_of_mem_place {rendered tile : WindowThumbnail Pixels}
    {tiles : List (WindowThumbnail Pixels)}
    (member : tile ∈ Chooser.place_thumbnail rendered tiles) : tile = rendered ∨ tile ∈ tiles := by
  induction tiles with
  | nil => exact .inl (List.mem_singleton.mp member)
  | cons first tiles ih =>
    unfold Chooser.place_thumbnail at member
    split at member
    · exact (List.mem_cons.mp member).imp id (List.mem_cons_of_mem _)
    · rcases List.mem_cons.mp member with rfl | member
      · exact .inr List.mem_cons_self
      · exact (ih member).imp id (List.mem_cons_of_mem _)

/-- Placing tiles adds no others. -/
theorem mem_of_mem_places {tile : WindowThumbnail Pixels}
    (new_thumbnails : List (WindowThumbnail Pixels)) :
    ∀ {tiles : List (WindowThumbnail Pixels)},
      tile ∈ new_thumbnails.foldl (fun tiles tile => Chooser.place_thumbnail tile tiles) tiles →
        tile ∈ new_thumbnails ∨ tile ∈ tiles := by
  induction new_thumbnails with
  | nil => exact .inr
  | cons rendered new_thumbnails ih =>
    intro tiles member
    rcases ih member with member | member
    · exact .inl (List.mem_cons_of_mem _ member)
    · rcases mem_of_mem_place member with rfl | member
      · exact .inl List.mem_cons_self
      · exact .inr member

/-- The tile of a render is the captured window's. -/
theorem captured_of_rendered {render : RenderMade Pixels} {tile : WindowThumbnail Pixels}
    (tiled : rendered_tile render = some tile) :
    tile.handle = render.handle ∧
      ∃ width height pixels, render.outcome = .captured width height pixels := by
  unfold rendered_tile at tiled
  split at tiled
  · rename_i width height pixels outcome
    cases tiled
    exact ⟨rfl, width, height, pixels, outcome⟩
  · cases tiled

/-- A batch shows no window whose render has failed. -/
theorem batch_bare {tool : CaptureTool} {generation : UInt64}
    {outcome : NativeWindowHandle → Nat → RenderOutcome Pixels} (bare : Bare handle chooser)
    (undrawn : answers.previews handle = false)
    (unrendered : ∀ attempt width height pixels,
      outcome handle attempt ≠ .captured width height pixels) :
    Bare handle (chooser.render_overview_batch answers tool generation outcome) := by
  have cases := batch_cases chooser answers tool generation outcome
  generalize chooser.render_overview_batch answers tool generation outcome = batched at cases
  cases cases with
  | ignored => exact bare
  | @rendered queue made left window build accepted renders_made taken =>
    have tiled (tile : WindowThumbnail Pixels)
        (member : tile ∈ left.2.foldl (fun tiles tile => Chooser.place_thumbnail tile tiles)
          chooser.window_thumbnails) (same : tile.handle = handle) : tile.surface = none := by
      rcases mem_of_mem_places left.2 member with new | old
      · rw [taken, take_outcomes_eq, List.nil_append] at new
        obtain ⟨render, among, tiled⟩ := List.mem_filterMap.mp new
        obtain ⟨own, width, height, pixels, captured⟩ := captured_of_rendered tiled
        rw [renders_made] at among
        obtain ⟨⟨_, attempt⟩, -, rfl⟩ := List.mem_map.mp among
        cases own.symm.trans same
        exact absurd captured (unrendered attempt _ _ _)
      · exact bare.no_pixels tile old same
    simp only
    split
    · refine refresh_window_chrome_bare ?_ tool undrawn
      exact ⟨tiled, bare.no_preview⟩
    · unfold Chooser.post_overview_batch
      split
      · exact ⟨tiled, bare.no_preview⟩
      · exact ⟨tiled, bare.no_preview⟩

/-- So a step leaves a window that is never drawn without a picture. -/
theorem step_bare {session session' : ChooserSession Pixels} {event : ChooserEvent Pixels}
    (never : NeverDrawn handle event) (bare : Bare handle session.chooser)
    (step : ChooserStep session event session') : Bare handle session'.chooser := by
  unfold ChooserStep ChooserSession.next at step
  cases event with
  | input input answers =>
    simp only at step
    split at step
    · cases step
    · obtain ⟨left, -, rfl⟩ := Option.map_eq_some_iff.mp step
      have undrawn := never.1 answers rfl
      refine List.foldlRecOn _ _ bare fun chooser held effect _ => ?_
      cases effect with
      | BuildWindowOverview => exact start_bare held _ undrawn
      | RefreshWindowChrome => exact refresh_window_chrome_bare held _ undrawn
      | BuildSnapTargets =>
        rw [Chooser.apply_overlay_effect, ensure_window_inventory_eq]
        exact ⟨held.no_pixels, held.no_preview⟩
      | ClearLiveThumbnails => exact ⟨held.no_pixels, nofun⟩
      | _ => exact held
  | batch generation outcome answers =>
    simp only at step
    split at step
    · cases step
    · cases step
      exact batch_bare ⟨bare.no_pixels, bare.no_preview⟩ (never.1 answers rfl)
        (never.2 _ _ _ rfl)
  | paint is_window =>
    simp only at step
    split at step
    · cases step
    · cases step
      unfold ChooserSession.compose_overlay_state
      split
      · exact bare
      · constructor
        · exact fun tile member => bare.no_pixels tile (List.mem_filter.mp member).1
        · exact fun member => bare.no_preview (List.mem_filter.mp member).1

/-- And an overlay opens without one for it. -/
theorem shown_bare {source : Rect} {run : OverlayRun} {presenter : Presenter}
    {session : ChooserSession Pixels}
    (shown : show_overlay source run presenter answers = some session)
    (undrawn : answers.previews handle = false) : Bare handle session.chooser := by
  have idle : Bare handle (Chooser.opened presenter : Chooser Pixels) := ⟨nofun, nofun⟩
  unfold show_overlay at shown
  simp only [Option.bind_eq_bind, Option.bind_eq_some_iff] at shown
  obtain ⟨model, -, shown⟩ := shown
  cases shown
  simp only
  split
  · exact start_bare idle _ undrawn
  · exact idle

/-- Under the layered presenter a window that is never drawn keeps the chooser building: whenever
it has a tile, the tool for windows is active and the toolbar is not being dragged, another batch
is in flight. -/
theorem overview_never_settles {source : Rect} {run : OverlayRun}
    {session final : ChooserSession Pixels}
    {steps : List (Taken (ChooserSession Pixels) (ChooserEvent Pixels))}
    (shown : show_overlay source run .Layered answers = some session)
    (runs : Run ChooserStep session steps final) (posts : answers.posts = true)
    (arrive : ∀ taken ∈ steps, PostsArrive taken.event) (running : final.closed = false)
    (undrawn : answers.previews handle = false)
    (never : ∀ taken ∈ steps, NeverDrawn handle taken.event)
    (window : final.model.tool = .Window) (free : final.model.toolbar_drag = none)
    (tiled : handle ∈ final.chooser.window_thumbnails.map WindowThumbnail.handle) :
    ∃ queue, final.chooser.window_overview_build = some queue ∧ queue.pending ≠ [] ∧
      queue.generation ∈ final.chooser.posted := by
  have driven := run_driven shown runs posts arrive running
  have bare : Bare handle final.chooser :=
    runs.inv_of_meets (P := fun session => Bare handle session.chooser)
      (fun _ _ _ bare never step => step_bare never bare step) (shown_bare shown undrawn) never
  cases build : final.chooser.window_overview_build with
  | some queue =>
    exact ⟨queue, rfl, driven.queued queue build, driven.on_its_way window queue build⟩
  | none =>
    obtain ⟨tile, member, same⟩ := List.mem_map.mp tiled
    have pixels := bare.no_pixels tile member same
    rcases driven.covered (run_presenter shown runs) window free build tile member with drawn | live
    · rw [pixels] at drawn
      cases drawn
    · rw [same] at live
      exact absurd live bare.no_preview

/-- A render that fails twice is made again, by a build of the next generation. -/
theorem overview_never_settles_after_two :
    ∃ final,
      one_window_session .Layered [failing_batch 1 true, failing_batch 1 false] = some final ∧
      ∃ queue, final.chooser.window_overview_build = some queue ∧ queue.pending ≠ [] ∧
        queue.generation ∈ final.chooser.posted := by
  have computed : (one_window_session .Layered [failing_batch 1 true, failing_batch 1 false]).any
      (fun final => !final.closed && decide (final.model.tool = .Window) &&
        final.model.toolbar_drag.isNone &&
        decide (7 ∈ final.chooser.window_thumbnails.map WindowThumbnail.handle)) = true := by
    decide
  obtain ⟨final, computed, held⟩ := Option.any_eq_true _ _ |>.mp computed
  simp only [Bool.and_eq_true, Bool.not_eq_true', decide_eq_true_eq,
    Option.isNone_iff_eq_none] at held
  obtain ⟨session, steps, shown, same, runs⟩ := one_window_runs computed
  have fails (taken : Taken (ChooserSession Unit) (ChooserEvent Unit)) (member : taken ∈ steps) :
      ∃ retryable, taken.event = failing_batch 1 retryable := by
    have among := List.mem_map_of_mem (f := Taken.event) member
    rw [same, List.mem_cons, List.mem_singleton] at among
    exact among.elim (fun event => ⟨_, event⟩) fun event => ⟨_, event⟩
  refine ⟨final, computed, overview_never_settles shown runs rfl ?_ held.1.1.1 rfl ?_
    held.1.1.2 held.1.2 held.2⟩
  · intro taken member
    obtain ⟨retryable, event⟩ := fails taken member
    rw [event]
    rintro answers ⟨⟩
    rfl
  · intro taken member
    obtain ⟨retryable, event⟩ := fails taken member
    rw [event]
    constructor
    · rintro answers ⟨⟩
      rfl
    · rintro generation outcome answers ⟨⟩
      exact nofun

end Captastic.Analysis
