import Captastic.Analysis.RepeatRegion
import Captastic.Analysis.UiStateSaves
import Captastic.Model.LiveUi

/-!
# What is remembered is what is saved

The process remembers what its overlays chose, and has each choice saved.  The two merge rules are
written apart: the live state adopts what a display restores when its overlay first opens
(`shown_opened`) and keeps the preferences that are not about a display beside the displays; the
store keeps entries over what older versions saved.  A choice changes both alike
(`resolve_own`, `shown_own`), so a display that opens again restores what it would after a restart
(`remembers_what_it_saves`), and so does the region that is repeated.
-/

set_option autoImplicit false

namespace Captastic.Analysis

open Captastic.Library Captastic.Model

variable {F : Type}

/-- What an overlay restores is the same; the pixel position counts where there is no normalized
centre. -/
structure RestoresAlike (a b : RememberedUi F) : Prop where
  region : a.toDisplayUiState = b.toDisplayUiState
  center : a.overlay_center = b.overlay_center
  position : a.overlay_center = none → a.overlay_position = b.overlay_position
  tool : a.tool = b.tool
  confirmed : a.confirmed_region = b.confirmed_region
  snap : a.snap_to_windows = b.snap_to_windows
  zoom : a.region_zoom = b.region_zoom

namespace RestoresAlike

variable {a b c : RememberedUi F}

/-- An entry restores as itself. -/
theorem refl (a : RememberedUi F) : RestoresAlike a a :=
  ⟨rfl, rfl, fun _ => rfl, rfl, rfl, rfl, rfl⟩

/-- Two entries that restore as a third restore alike. -/
theorem trans (ab : RestoresAlike a b) (bc : RestoresAlike b c) : RestoresAlike a c where
  region := ab.region.trans bc.region
  center := ab.center.trans bc.center
  position missing := (ab.position missing).trans (bc.position (ab.center ▸ missing))
  tool := ab.tool.trans bc.tool
  confirmed := ab.confirmed.trans bc.confirmed
  snap := ab.snap.trans bc.snap
  zoom := ab.zoom.trans bc.zoom

end RestoresAlike

/-! ## A choice, live and saved -/

/-- What a choice makes of what is remembered of its display. -/
def live_after (call : Save F) (display : RememberedUi F) : RememberedUi F :=
  match call with
  | .overlay_center _ center_x center_y =>
    { display with overlay_center := some (center_x, center_y) }
  | .interaction_state _ tool region source => live_interaction tool region source display
  | .confirmed_region _ region source => { display with confirmed_region := some ⟨region, source⟩ }
  | .snap_to_windows _ => display
  | .region_zoom _ => display

/-- A save makes entries that restore alike restore alike again. -/
theorem RestoresAlike.live_after {a b : RememberedUi F} (alike : RestoresAlike a b)
    (call : Save F) : RestoresAlike (live_after call a) (live_after call b) := by
  obtain ⟨region, center, position, tool, confirmed, snap, zoom⟩ := alike
  cases call with
  | overlay_center display_id center_x center_y =>
    refine ⟨region, rfl, ?_, tool, confirmed, snap, zoom⟩
    intro missing
    cases missing
  | interaction_state display_id tool' region' source =>
    cases region' with
    | none => exact ⟨region, center, position, rfl, confirmed, snap, zoom⟩
    | some region' => exact ⟨rfl, center, position, rfl, confirmed, snap, zoom⟩
  | confirmed_region display_id region' source =>
    exact ⟨region, center, position, tool, rfl, snap, zoom⟩
  | snap_to_windows enabled => exact ⟨region, center, position, tool, confirmed, snap, zoom⟩
  | region_zoom mode => exact ⟨region, center, position, tool, confirmed, snap, zoom⟩

/-- **A saved choice** is restored as the live one is.
SRC: ui_state.rs:126-153, 281-290, 307-317, 341-345 -/
theorem resolve_own {call : Save F} {own : String} (own_eq : display_of call = some own)
    (state : UiState F) :
    RestoresAlike (live_after call (resolve_display_ui_state state own))
      (resolve_display_ui_state (state_after call state) own) := by
  rw [state_after_own state own_eq]
  have entry_eq := with_display_get state own own (entry_after call)
  rw [if_pos rfl] at entry_eq
  unfold resolve_display_ui_state
  rw [entry_eq]
  dsimp only
  cases call with
  | snap_to_windows enabled => cases own_eq
  | region_zoom mode => cases own_eq
  | overlay_center display_id center_x center_y =>
    refine ⟨?_, rfl, ?_, ?_, ?_, rfl, rfl⟩
    · cases state.displays[own]? <;> rfl
    · intro missing
      cases missing
    · cases state.displays[own]? <;> rfl
    · cases state.displays[own]? <;> rfl
  | interaction_state display_id tool region source =>
    cases region with
    | none =>
      refine ⟨?_, ?_, ?_, rfl, ?_, rfl, rfl⟩
      · cases state.displays[own]? <;> rfl
      · cases state.displays[own]? <;> rfl
      · intro _
        cases state.displays[own]? <;> rfl
      · cases state.displays[own]? <;> rfl
    | some region =>
      refine ⟨rfl, ?_, ?_, rfl, ?_, rfl, rfl⟩
      · cases state.displays[own]? <;> rfl
      · intro _
        cases state.displays[own]? <;> rfl
      · cases state.displays[own]? <;> rfl
  | confirmed_region display_id region source =>
    refine ⟨?_, ?_, ?_, ?_, rfl, rfl, rfl⟩
    · cases state.displays[own]? <;> rfl
    · cases state.displays[own]? <;> rfl
    · intro _
      cases state.displays[own]? <;> rfl
    · cases state.displays[own]? <;> rfl

/-- It is not restored on another display. -/
theorem resolve_other {call : Save F} {own display_id : String}
    (own_eq : display_of call = some own) (apart : own ≠ display_id) (state : UiState F) :
    resolve_display_ui_state (state_after call state) display_id =
      resolve_display_ui_state state display_id := by
  rw [state_after_own state own_eq]
  have entry_eq := with_display_get state own display_id (entry_after call)
  rw [if_neg apart] at entry_eq
  unfold resolve_display_ui_state
  rw [entry_eq]
  rfl

/-- A choice other than a confirmed region leaves the confirmed ones. -/
theorem confirmed_state_after {call : Save F} (state : UiState F)
    (other : ∀ display_id region source, call ≠ .confirmed_region display_id region source)
    (display_id : String) :
    (resolve_display_ui_state (state_after call state) display_id).confirmed_region =
      (resolve_display_ui_state state display_id).confirmed_region := by
  have own_kept : ∀ named, display_of call = some named →
      (resolve_display_ui_state (state_after call state) display_id).confirmed_region =
        (resolve_display_ui_state state display_id).confirmed_region := by
    intro named named_eq
    by_cases same : named = display_id
    · subst same
      rw [← (resolve_own named_eq state).confirmed]
      cases call with
      | interaction_state display_id tool region source => cases region <;> rfl
      | confirmed_region display_id region source =>
        exact absurd rfl (other display_id region source)
      | _ => rfl
    · rw [resolve_other named_eq same]
  cases named : display_of call with
  | some display => exact own_kept display named
  | none =>
    cases call with
    | snap_to_windows enabled => rfl
    | region_zoom mode => rfl
    | _ => cases named

/-! ## What is shown -/

/-- What a display's overlay is shown with next, in a process that has loaded a state. -/
def shown_ui (loaded : UiState F) (live_ui : LiveUiState F) (display_id : String) : RememberedUi F :=
  (remembered_ui live_ui display_id (resolve_display_ui_state loaded display_id)).1

section Shown

variable {loaded : UiState F} {live_ui : LiveUiState F} {own display_id : String}

/-- Opening an overlay changes nothing of what is shown. -/
theorem shown_opened :
    shown_ui loaded
        (remembered_ui live_ui own (resolve_display_ui_state loaded own)).2 display_id =
      shown_ui loaded live_ui display_id := by
  have entry : ((live_ui.displays.insertIfNew own
      (resolve_display_ui_state loaded own))[display_id]?.getD
        (resolve_display_ui_state loaded display_id)) =
      live_ui.displays[display_id]?.getD (resolve_display_ui_state loaded display_id) := by
    rw [Std.ExtTreeMap.getElem?_insertIfNew]
    split
    next opened =>
      obtain ⟨same, missing⟩ := opened
      obtain rfl := Std.LawfulEqCmp.eq_of_compare same
      rw [Std.ExtTreeMap.getElem?_eq_none missing]
      rfl
    next => rfl
  unfold shown_ui remembered_ui
  dsimp only
  rw [entry]

/-- A display is remembered once its overlay has opened. -/
theorem remembered_opened (fallback : RememberedUi F) :
    (remembered_ui live_ui own fallback).2.displays[own]?.isSome = true := by
  unfold remembered_ui
  dsimp only
  rw [Std.ExtTreeMap.getElem?_insertIfNew]
  split
  next => rfl
  next known =>
    simp only [Std.ReflCmp.compare_self, true_and, not_not] at known
    rw [Std.ExtTreeMap.isSome_getElem?_eq_contains]
    exact Std.ExtTreeMap.contains_iff_mem.mpr known

/-- A change of one display leaves the others. -/
theorem live_get (change : RememberedUi F → RememberedUi F) :
    (live_ui.with_display own change).displays[display_id]? =
      if own = display_id then some (change (live_ui.displays[own]?.getD RememberedUi.empty))
      else live_ui.displays[display_id]? := by
  unfold LiveUiState.with_display
  simp only [Std.ExtTreeMap.getElem?_alter, Std.LawfulEqCmp.compare_eq_iff_eq]

/-- **A live choice** is shown on its display, once that is remembered. -/
theorem shown_own (call : Save F) (opened : live_ui.displays[own]?.isSome = true) :
    shown_ui loaded (live_ui.with_display own (live_after call)) own =
      live_after call (shown_ui loaded live_ui own) := by
  obtain ⟨entry, entry_eq⟩ := Option.isSome_iff_exists.mp opened
  have changed := @live_get F live_ui own own (live_after call)
  rw [if_pos rfl, entry_eq] at changed
  unfold shown_ui remembered_ui
  rw [changed, entry_eq]
  cases call with
  | interaction_state display_id tool region source => cases region <;> rfl
  | _ => rfl

/-- It is not shown on another. -/
theorem shown_other (change : RememberedUi F → RememberedUi F) (apart : own ≠ display_id) :
    shown_ui loaded (live_ui.with_display own change) display_id =
      shown_ui loaded live_ui display_id := by
  have kept := @live_get F live_ui own display_id change
  rw [if_neg apart] at kept
  unfold shown_ui remembered_ui
  rw [kept]
  rfl

/-- One choice, live and saved, on every display. -/
theorem alike_of_choice (call : Save F) {saved : UiState F}
    (own_eq : display_of call = some own) (opened : live_ui.displays[own]?.isSome = true)
    (alike : ∀ display_id, RestoresAlike (shown_ui loaded live_ui display_id)
      (resolve_display_ui_state saved display_id)) (display_id : String) :
    RestoresAlike (shown_ui loaded (live_ui.with_display own (live_after call)) display_id)
      (resolve_display_ui_state (state_after call saved) display_id) := by
  by_cases same : own = display_id
  · subst same
    rw [shown_own call opened]
    exact ((alike own).live_after call).trans (resolve_own own_eq saved)
  · rw [shown_other _ same, resolve_other own_eq same]
    exact alike display_id

/-- A display that is remembered stays so. -/
theorem opened_submit {memory : UiMemory F} {update : OverlayUiUpdate F}
    (opened : memory.live_ui.displays[own]?.isSome = true) :
    (memory.submit update).live_ui.displays[own]?.isSome = true := by
  have kept : ∀ (named : String) (change : RememberedUi F → RememberedUi F),
      (memory.live_ui.with_display named change).displays[own]?.isSome = true := by
    intro named change
    rw [live_get]
    split
    · rfl
    · exact opened
  cases update with
  | Interaction named tool region source => exact kept named _
  | ToolbarCenter named center_x center_y => exact kept named _
  | ConfirmedRegion named region source => exact kept named _
  | _ => exact opened

end Shown

/-! ## Saving -/

section Saves

variable [Coordinate F]

/-- A state after a call of the store; what its checks turn away is not saved. -/
def after_save (state : UiState F) (call : Save F) : UiState F :=
  if checked_by_save call then state_after call state else state

/-- A state after updates are saved, in order. -/
def saved_state (loaded : UiState F) (updates : List (OverlayUiUpdate F)) : UiState F :=
  (updates.filterMap store_call).foldl after_save loaded

/-- One more update is saved after the others. -/
theorem saved_state_append (loaded : UiState F) (updates : List (OverlayUiUpdate F))
    (update : OverlayUiUpdate F) :
    saved_state loaded (updates ++ [update]) =
      (store_call update).elim (saved_state loaded updates)
        (after_save (saved_state loaded updates)) := by
  unfold saved_state
  rw [List.filterMap_append, List.foldl_append]
  cases called : store_call update with
  | none =>
    rw [List.filterMap_cons_none called]
    rfl
  | some call =>
    rw [List.filterMap_cons_some called]
    rfl

/-- An update of a run: its values pass the checks of their save, and the display it names is the
run's. -/
structure OfRun (own : String) (update : OverlayUiUpdate F) : Prop where
  valid : ∀ call, store_call update = some call → checked_by_save call = true
  display : ∀ call display_id, store_call update = some call →
    display_of call = some display_id → display_id = own

/-- A step of a run: a region is confirmed through the cache, and whatever else is submitted is an
update of the run. -/
def StepOfRun (own : String) : UiStep F → Prop
  | .Submitted update => OfRun own update ∧
    ∀ display_id region source, update ≠ .ConfirmedRegion display_id region source
  | .Confirmed metadata rect => metadata.display_id = own ∧
    ∀ confirmed, confirmed_region metadata rect = some confirmed →
      checked_by_save (.confirmed_region own confirmed.region confirmed.source : Save F) = true

/-- The process remembers what it has had saved. -/
structure RemembersSaved (loaded : UiState F) (memory : UiMemory F) : Prop where
  alike : ∀ display_id, RestoresAlike (shown_ui loaded memory.live_ui display_id)
    (resolve_display_ui_state (saved_state loaded memory.submitted) display_id)
  cached : ∀ display_id, memory.confirmed_regions[display_id]? =
    (resolve_display_ui_state (saved_state loaded memory.submitted) display_id).confirmed_region

variable {loaded : UiState F} {memory : UiMemory F} {own : String} {update : OverlayUiUpdate F}

/-- An update that is stored is saved as the call says. -/
theorem submitted_state (of_run : OfRun own update) {call : Save F}
    (called : store_call update = some call) :
    saved_state loaded (memory.submit update).submitted =
      state_after call (saved_state loaded memory.submitted) := by
  show saved_state loaded (memory.submitted ++ [update]) = _
  rw [saved_state_append, called]
  exact if_pos (of_run.valid call called)

/-- **An update** keeps what is shown and what is saved alike.
SRC: overlay.rs:1257-1303 -/
theorem alike_submit (of_run : OfRun own update)
    (opened : memory.live_ui.displays[own]?.isSome = true)
    (alike : ∀ display_id, RestoresAlike (shown_ui loaded memory.live_ui display_id)
      (resolve_display_ui_state (saved_state loaded memory.submitted) display_id))
    (display_id : String) :
    RestoresAlike (shown_ui loaded (memory.submit update).live_ui display_id)
      (resolve_display_ui_state (saved_state loaded (memory.submit update).submitted)
        display_id) := by
  cases update with
  | Interaction named tool region source =>
    obtain rfl := of_run.display _ named rfl rfl
    rw [submitted_state of_run rfl]
    exact alike_of_choice (.interaction_state named tool region source) rfl opened alike display_id
  | ToolbarCenter named center_x center_y =>
    obtain rfl := of_run.display _ named rfl rfl
    rw [submitted_state of_run rfl]
    exact alike_of_choice (.overlay_center named center_x center_y) rfl opened alike display_id
  | ConfirmedRegion named region source =>
    obtain rfl := of_run.display _ named rfl rfl
    rw [submitted_state of_run rfl]
    exact alike_of_choice (.confirmed_region named region source) rfl opened alike display_id
  | SnapToWindows enabled =>
    rw [submitted_state of_run rfl]
    obtain ⟨region, center, position, tool, confirmed, -, zoom⟩ := alike display_id
    exact ⟨region, center, position, tool, confirmed, rfl, zoom⟩
  | RegionZoom mode =>
    rw [submitted_state of_run rfl]
    obtain ⟨region, center, position, tool, confirmed, snap, -⟩ := alike display_id
    exact ⟨region, center, position, tool, confirmed, snap, rfl⟩
  | FileOutput enabled =>
    show RestoresAlike (shown_ui loaded memory.live_ui display_id) (resolve_display_ui_state
      (saved_state loaded (memory.submitted ++ [.FileOutput enabled])) display_id)
    rw [saved_state_append]
    exact alike display_id
  | RecordingFormat format =>
    show RestoresAlike (shown_ui loaded memory.live_ui display_id) (resolve_display_ui_state
      (saved_state loaded (memory.submitted ++ [.RecordingFormat format])) display_id)
    rw [saved_state_append]
    exact alike display_id

/-! ## Runs -/

/-- Submitting an update remembers what is saved. -/
theorem remembers_submit (remembers : RemembersSaved loaded memory) (of_run : OfRun own update)
    (other : ∀ display_id region source, update ≠ .ConfirmedRegion display_id region source)
    (opened : memory.live_ui.displays[own]?.isSome = true) :
    RemembersSaved loaded (memory.submit update) := by
  refine ⟨alike_submit of_run opened remembers.alike, ?_⟩
  intro display_id
  show memory.confirmed_regions[display_id]? = _
  rw [remembers.cached]
  show _ = (resolve_display_ui_state
    (saved_state loaded (memory.submitted ++ [update])) display_id).confirmed_region
  rw [saved_state_append]
  cases called : store_call update with
  | none => rfl
  | some call =>
    rw [Option.elim_some]
    unfold after_save
    rw [if_pos (of_run.valid call called)]
    refine (confirmed_state_after _ ?_ display_id).symm
    rintro named region source rfl
    cases update with
    | ConfirmedRegion named' region' source' => exact other named' region' source' rfl
    | _ => cases called

/-- SRC: selection.rs:1124-1169 -/
theorem remembers_confirm (remembers : RemembersSaved loaded memory) {metadata : FrameMetadata}
    {rect : Rect} (proper : StepOfRun own (.Confirmed metadata rect : UiStep F))
    (opened : memory.live_ui.displays[own]?.isSome = true) :
    RemembersSaved loaded (memory.confirm metadata rect) ∧
      (memory.confirm metadata rect).live_ui.displays[own]?.isSome = true := by
  obtain ⟨rfl, valid⟩ := proper
  unfold UiMemory.confirm remember_confirmed_region
  cases found : confirmed_region metadata rect with
  | none => exact ⟨remembers, opened⟩
  | some confirmed =>
    let update : OverlayUiUpdate F :=
      .ConfirmedRegion metadata.display_id confirmed.region confirmed.source
    let choice : Save F :=
      .confirmed_region metadata.display_id confirmed.region confirmed.source
    have of_run : OfRun metadata.display_id update := by
      constructor
      · rintro call ⟨⟩
        exact valid confirmed found
      · rintro call display_id ⟨⟩ ⟨⟩
        rfl
    refine ⟨⟨alike_submit of_run opened remembers.alike, ?_⟩, opened_submit opened⟩
    intro display_id
    show (memory.confirmed_regions.insert metadata.display_id confirmed)[display_id]? =
      (resolve_display_ui_state (saved_state loaded (memory.submit update).submitted)
        display_id).confirmed_region
    rw [submitted_state of_run rfl, Std.ExtTreeMap.getElem?_insert]
    simp only [Std.LawfulEqCmp.compare_eq_iff_eq]
    split
    next same =>
      subst same
      exact (@resolve_own F choice metadata.display_id rfl _).confirmed
    next apart =>
      rw [@resolve_other F choice metadata.display_id display_id rfl apart]
      exact remembers.cached display_id

/-- One step of a run. -/
theorem remembers_step (remembers : RemembersSaved loaded memory) {step : UiStep F}
    (proper : StepOfRun own step) (opened : memory.live_ui.displays[own]?.isSome = true) :
    RemembersSaved loaded (after_step memory step) ∧
      (after_step memory step).live_ui.displays[own]?.isSome = true := by
  cases step with
  | Submitted update => exact ⟨remembers_submit remembers proper.1 proper.2 opened,
      opened_submit opened⟩
  | Confirmed metadata rect => exact remembers_confirm remembers proper opened

/-- The steps of a run. -/
theorem remembers_steps {steps : List (UiStep F)} (proper : ∀ step ∈ steps, StepOfRun own step)
    (remembers : RemembersSaved loaded memory)
    (opened : memory.live_ui.displays[own]?.isSome = true) :
    RemembersSaved loaded (steps.foldl after_step memory) := by
  induction steps generalizing memory with
  | nil => exact remembers
  | cons step rest ih =>
    obtain ⟨again, still⟩ := remembers_step remembers (proper step List.mem_cons_self) opened
    exact ih (fun step member => proper step (List.mem_cons_of_mem _ member)) again still

/-- **A run.** -/
theorem remembers_run (remembers : RemembersSaved loaded memory) {run : UiRun F}
    (proper : ∀ step ∈ run.steps, StepOfRun run.display_id step) :
    RemembersSaved loaded (after_run loaded memory run) := by
  apply remembers_steps proper
  · refine ⟨?_, remembers.cached⟩
    intro display_id
    rw [shown_opened]
    exact remembers.alike display_id
  · exact remembered_opened _

/-- SRC: ui_state.rs:107-119 -/
theorem remembers_started (loaded : UiState F) : RemembersSaved loaded (.started loaded) := by
  constructor
  · intro display_id
    have nothing : (∅ : Std.ExtTreeMap String (RememberedUi F) compare)[display_id]? = none :=
      Std.ExtTreeMap.getElem?_empty
    show RestoresAlike (shown_ui loaded .empty display_id)
      (resolve_display_ui_state loaded display_id)
    unfold shown_ui remembered_ui LiveUiState.empty
    rw [nothing]
    exact .refl _
  · intro display_id
    show (confirmed_regions loaded)[display_id]? =
      (resolve_display_ui_state loaded display_id).confirmed_region
    unfold confirmed_regions
    rw [Std.ExtTreeMap.getElem?_filterMap']
    unfold resolve_display_ui_state
    dsimp only
    cases loaded.displays[display_id]? <;> rfl

/-- **Every run of a process.** -/
theorem remembers_runs {runs : List (UiRun F)}
    (proper : ∀ run ∈ runs, ∀ step ∈ run.steps, StepOfRun run.display_id step) :
    RemembersSaved loaded (after_runs loaded runs) := by
  have each : ∀ (runs : List (UiRun F)) (memory : UiMemory F), RemembersSaved loaded memory →
      (∀ run ∈ runs, ∀ step ∈ run.steps, StepOfRun run.display_id step) →
      RemembersSaved loaded (runs.foldl (after_run loaded) memory) := by
    intro runs
    induction runs with
    | nil => exact fun memory remembers _ => remembers
    | cons run rest ih =>
      intro memory remembers proper
      exact ih _ (remembers_run remembers (proper run List.mem_cons_self))
        (fun run member => proper run (List.mem_cons_of_mem _ member))
  exact each runs _ (remembers_started loaded) proper

/-! ## The files -/

variable {Text : Type} {T : TomlCodec F Text} {store : UiStateStore} {io : SaveIo}

/-- The state that files hold, for a process that reads them so. -/
def HoldsState (T : TomlCodec F Text) (store : UiStateStore) (io : SaveIo)
    (files : StateFiles Text) (state : UiState F) : Prop :=
  (files.state = none ∧ state = migrated_state T store io files.config) ∨
    ∃ text, files.state = some text ∧ T.from_str text = .ok state

/-- SRC: ui_state.rs:249-255 -/
theorem holds_of_load {files : StateFiles Text} {state : UiState F}
    (loads : load T store io files = .ok state) : HoldsState T store io files state := by
  unfold load at loads
  obtain ⟨_, -, loads⟩ := bind_eq_ok.mp loads
  obtain ⟨found, read, loads⟩ := bind_eq_ok.mp loads
  obtain rfl := Except.ok.inj loads
  rcases (read_state_eq_ok.mp read).2 with ⟨absent, rfl⟩ | ⟨text, state, present, parsed, -, -, rfl⟩
  · exact Or.inl ⟨absent, rfl⟩
  · exact Or.inr ⟨text, present, parsed⟩

/-- **A save that succeeds** makes its change of the state.
SRC: ui_state.rs:265-368 -/
theorem holds_of_save {files files' : StateFiles Text} {state : UiState F} {call : Save F}
    {save_io : SaveIo} (holds : HoldsState T store io files state)
    (same : save_io.config_readable = io.config_readable)
    (saves : save T store save_io files call = .ok files') :
    HoldsState T store io files' (after_save state call) := by
  obtain ⟨checked, updates⟩ := save_eq_ok saves
  obtain ⟨found, text, read, written, rfl⟩ := update_eq_ok updates
  have start : found.getD (migrated_state T store save_io files.config) = state := by
    rcases holds with ⟨absent, rfl⟩ | ⟨text, present, parsed⟩
    · rcases (read_state_eq_ok.mp read).2 with ⟨-, rfl⟩ | ⟨text, state, present, -⟩
      · unfold migrated_state
        rw [same]
        rfl
      · rw [absent] at present
        cases present
    · rcases (read_state_eq_ok.mp read).2 with
        ⟨absent, -⟩ | ⟨text', state', present', parsed', -, -, rfl⟩
      · rw [absent] at present
        cases present
      · rw [present] at present'
        obtain rfl := Option.some.inj present'
        rw [parsed] at parsed'
        exact (Except.ok.inj parsed').symm
  rw [start] at written
  unfold after_save
  rw [if_pos checked]
  exact Or.inr ⟨text, rfl, T.round_trip _ _ written⟩

/-- Saves that all succeed. -/
theorem holds_of_save_each {saves : List (Save F × SaveIo)} {files files' : StateFiles Text}
    {state : UiState F} (holds : HoldsState T store io files state)
    (same : ∀ call ∈ saves, call.2.config_readable = io.config_readable)
    (saved : save_each T store files saves = .ok files') :
    HoldsState T store io files' ((saves.map Prod.fst).foldl after_save state) := by
  induction saves generalizing files state with
  | nil =>
    obtain rfl := Except.ok.inj saved
    exact holds
  | cons next rest ih =>
    obtain ⟨call, save_io⟩ := next
    unfold save_each at saved
    cases one : save T store save_io files call with
    | error error =>
      rw [one] at saved
      cases saved
    | ok between =>
      rw [one] at saved
      exact ih (holds_of_save holds (same (call, save_io) List.mem_cons_self) one)
        (fun call member => same call (List.mem_cons_of_mem _ member)) saved

/-- **What a process remembers is what it has saved**: whatever is shown next on a display, and the
region that is repeated there, is what the saved state restores; and that state is in the files,
when every update has been saved.
SRC: overlay.rs:471-503, 1241-1303, ui_state.rs:126-153, 265-346 -/
theorem remembers_what_it_saves {runs : List (UiRun F)}
    (proper : ∀ run ∈ runs, ∀ step ∈ run.steps, StepOfRun run.display_id step) :
    (∀ display_id,
      RestoresAlike
          (remembered_ui (after_runs loaded runs).live_ui display_id
            (resolve_display_ui_state loaded display_id)).1
          (resolve_display_ui_state (saved_state loaded (after_runs loaded runs).submitted)
            display_id) ∧
        (after_runs loaded runs).confirmed_regions[display_id]? =
          (resolve_display_ui_state (saved_state loaded (after_runs loaded runs).submitted)
            display_id).confirmed_region) ∧
    ∀ {Text : Type} {T : TomlCodec F Text} {store : UiStateStore} {io : SaveIo}
      {files files' : StateFiles Text} {saves : List (Save F × SaveIo)},
      load T store io files = .ok loaded →
      saves.map Prod.fst = (after_runs loaded runs).submitted.filterMap store_call →
      (∀ call ∈ saves, call.2.config_readable = io.config_readable) →
      save_each T store files saves = .ok files' →
      HoldsState T store io files' (saved_state loaded (after_runs loaded runs).submitted) := by
  have remembers : RemembersSaved loaded (after_runs loaded runs) := remembers_runs proper
  refine ⟨fun display_id => ⟨remembers.alike display_id, remembers.cached display_id⟩, ?_⟩
  intro Text T store io files files' saves loads calls same saved
  have holds := holds_of_save_each (holds_of_load loads) same saved
  rw [calls] at holds
  exact holds

end Saves

/-- A run that chooses a region, has it snap, and confirms a pixel, and a run on another display. -/
def two_ui_runs : List (UiRun ℚ) :=
  [⟨"display-1",
      [.Submitted (.Interaction "display-1" .Region (some a_region) (some (turned 0))),
        .Submitted (.SnapToWindows true),
        .Confirmed (captured_at .origin_pixel) .origin_pixel]⟩,
    ⟨"display-2", [.Submitted (.ToolbarCenter "display-2" 0 1)]⟩]

/-- What they submit, saved by a system that lets every save through. -/
def two_runs_saves : List (Save ℚ × SaveIo) :=
  ((after_runs .initial two_ui_runs).submitted.filterMap store_call).map fun call =>
    (call, no_failure)

/-- The runs of the example are each of one display. -/
theorem two_ui_runs_proper :
    ∀ run ∈ two_ui_runs, ∀ step ∈ run.steps, StepOfRun run.display_id step := by
  intro run run_member
  simp only [two_ui_runs, List.mem_cons, List.not_mem_nil, or_false] at run_member
  rcases run_member with rfl | rfl
  · intro step member
    simp only [List.mem_cons, List.not_mem_nil, or_false] at member
    rcases member with rfl | rfl | rfl
    · refine ⟨⟨?_, ?_⟩, fun _ _ _ other => by cases other⟩
      · rintro call ⟨⟩
        decide
      · rintro call display_id ⟨⟩ ⟨⟩
        rfl
    · refine ⟨⟨?_, ?_⟩, fun _ _ _ other => by cases other⟩
      · rintro call ⟨⟩
        decide
      · rintro call display_id ⟨⟩ ⟨⟩
    · refine ⟨rfl, ?_⟩
      rintro confirmed ⟨⟩
      decide
  · intro step member
    obtain rfl := List.mem_singleton.mp member
    refine ⟨⟨?_, ?_⟩, fun _ _ _ other => by cases other⟩
    · rintro call ⟨⟩
      decide
    · rintro call display_id ⟨⟩ ⟨⟩
      rfl

/-- Two runs on two displays, and what the second one remembers. -/
theorem remembers_two_runs :
    RestoresAlike
        (remembered_ui (after_runs .initial two_ui_runs).live_ui "display-2"
          (resolve_display_ui_state .initial "display-2")).1
        (resolve_display_ui_state (saved_state .initial (after_runs .initial two_ui_runs).submitted)
          "display-2") ∧
      ∃ files', save_each kept_as_is new_store no_files two_runs_saves = .ok files' ∧
        HoldsState kept_as_is new_store no_failure files'
          (saved_state .initial (after_runs .initial two_ui_runs).submitted) := by
  obtain ⟨files', saved⟩ : ∃ files', save_each kept_as_is new_store no_files two_runs_saves =
      .ok files' := ⟨_, rfl⟩
  refine ⟨((remembers_what_it_saves two_ui_runs_proper).1 "display-2").1, files', saved, ?_⟩
  apply (remembers_what_it_saves two_ui_runs_proper).2 _ _ _ saved
  · rfl
  · unfold two_runs_saves
    rw [List.map_map]
    exact List.map_id _
  · intro call member
    obtain ⟨_, -, rfl⟩ := List.mem_map.mp member
    rfl

end Captastic.Analysis
