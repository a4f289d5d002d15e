import Captastic.Analysis.UiStateSaves
import Captastic.Library.Coalescing
import Captastic.Model.UiUpdates

/-!
# UI updates, cut down to the latest of each kind

A batch of updates is cut down to one update of each kind and display, an interaction without
a region keeping the region of the one before it, and what is left is saved in the order of
its keys.  The file this leaves is the one that saving every update as it arrived leaves, for
every sequence of valid updates and however it is split, except in one situation
(`saved_in_order_iff`): there is no state file yet, saves go through, and the configuration's
`[ui]` section has an entry that a read turns away.  The first save then carries that entry
over unchecked, every later one is refused, and which save was the first depends on the order.
-/

set_option autoImplicit false

namespace Captastic.Analysis

open Captastic.Library Captastic.Model

instance : Std.LawfulEqCmp key_order where
  eq_of_compare := by
    rintro ⟨display_id, kind⟩ ⟨display_id', kind'⟩ same
    obtain ⟨names, kinds⟩ := Ordering.then_eq_eq.mp same
    exact Prod.ext (Std.LawfulEqCmp.eq_of_compare names) (Std.LawfulEqCmp.eq_of_compare kinds)

/-! ## What updates make of a state -/

section States

variable {F : Type}

/-- The state an update leaves, once it is saved. -/
def updated_state (update : OverlayUiUpdate F) (state : UiState F) : UiState F :=
  match store_call update with
  | some call => state_after call state
  | none => state

/-- An update taken together with the one of its key before it. -/
abbrev taken_in (previous update : OverlayUiUpdate F) : OverlayUiUpdate F :=
  after_previous (some previous) update

/-- Two changes of one display are one change. -/
theorem with_display_twice (state : UiState F) (own : String)
    (change change' : DisplayUiConfig F → DisplayUiConfig F) :
    (state.with_display own change).with_display own change' =
      state.with_display own (change' ∘ change) := by
  have displays : ((state.with_display own change).with_display own change').displays =
      (state.with_display own (change' ∘ change)).displays := by
    apply Std.ExtTreeMap.ext_getElem?
    intro display_id
    rw [with_display_get, with_display_get, with_display_get, with_display_get, if_pos rfl]
    by_cases same : own = display_id
    · rw [if_pos same, if_pos same]
      rfl
    · rw [if_neg same, if_neg same, if_neg same]
  exact congrArg (fun displays => { state with displays }) displays

/-- Changes of two displays can be made in either order. -/
theorem with_display_comm (state : UiState F) {own other : String} (apart : own ≠ other)
    (change change' : DisplayUiConfig F → DisplayUiConfig F) :
    (state.with_display own change).with_display other change' =
      (state.with_display other change').with_display own change := by
  have displays : ((state.with_display own change).with_display other change').displays =
      ((state.with_display other change').with_display own change).displays := by
    apply Std.ExtTreeMap.ext_getElem?
    intro display_id
    simp only [with_display_get, if_neg apart, if_neg apart.symm]
    by_cases same : own = display_id
    · subst same
      rw [if_neg apart.symm, if_pos rfl, if_pos rfl]
    · rw [if_neg same, if_neg same]
  exact congrArg (fun displays => { state with displays }) displays

/-- The kind of a save. -/
def kind_of : Save F → Nat
  | .interaction_state _ _ _ _ => 0
  | .overlay_center _ _ _ => 1
  | .confirmed_region _ _ _ => 2
  | .snap_to_windows _ => 3
  | .region_zoom _ => 4

/-- Saves of different kinds write different fields of an entry. -/
theorem entry_after_comm {first second : Save F} (apart : kind_of first ≠ kind_of second)
    (display : DisplayUiConfig F) :
    entry_after first (entry_after second display) =
      entry_after second (entry_after first display) := by
  cases first with
  | interaction_state _ _ region _ =>
    cases region <;> cases second <;> first | rfl | exact absurd rfl apart
  | overlay_center =>
    cases second with
    | interaction_state _ _ region _ => cases region <;> rfl
    | overlay_center => exact absurd rfl apart
    | _ => rfl
  | confirmed_region =>
    cases second with
    | interaction_state _ _ region _ => cases region <;> rfl
    | confirmed_region => exact absurd rfl apart
    | _ => rfl
  | snap_to_windows => rfl
  | region_zoom => rfl

/-- **Two saves** of different kinds, or of different displays, may be made in either order. -/
theorem state_after_comm {first second : Save F}
    (apart : kind_of first ≠ kind_of second ∨
      ∃ own other, display_of first = some own ∧ display_of second = some other ∧ own ≠ other)
    (state : UiState F) :
    state_after second (state_after first state) =
      state_after first (state_after second state) := by
  cases own_eq : display_of first with
  | none =>
    have kinds : kind_of first ≠ kind_of second := by
      rcases apart with kinds | ⟨own, _, own_eq', _⟩
      · exact kinds
      · rw [own_eq] at own_eq'
        cases own_eq'
    cases first with
    | snap_to_windows enabled => cases second <;> first | rfl | exact absurd rfl kinds
    | region_zoom mode => cases second <;> first | rfl | exact absurd rfl kinds
    | _ => cases own_eq
  | some own =>
    cases other_eq : display_of second with
    | none =>
      cases second with
      | snap_to_windows enabled => cases first <;> first | rfl | cases own_eq
      | region_zoom mode => cases first <;> first | rfl | cases own_eq
      | _ => cases other_eq
    | some other =>
      rw [state_after_own _ own_eq, state_after_own _ own_eq, state_after_own _ other_eq,
        state_after_own _ other_eq]
      by_cases same : own = other
      · subst same
        have kinds : kind_of first ≠ kind_of second := by
          rcases apart with kinds | ⟨own', other, own_eq', other_eq', apart⟩
          · exact kinds
          · rw [own_eq] at own_eq'
            rw [other_eq] at other_eq'
            cases own_eq'
            cases other_eq'
            exact absurd rfl apart
        rw [with_display_twice, with_display_twice]
        congr 1
        funext display
        exact (entry_after_comm kinds display).symm
      · exact with_display_comm state same _ _

/-- The key of an update that is saved: the save's display, and its kind. -/
theorem ui_update_key_saved {update : OverlayUiUpdate F} {call : Save F}
    (saved : store_call update = some call) :
    ui_update_key update = ((display_of call).getD "", kind_of call) := by
  cases update <;> cases saved <;> rfl

/-- So can updates with different keys. -/
theorem updated_state_comm {first second : OverlayUiUpdate F}
    (apart : ui_update_key first ≠ ui_update_key second) (state : UiState F) :
    updated_state second (updated_state first state) =
      updated_state first (updated_state second state) := by
  unfold updated_state
  cases saved : store_call first with
  | none => rfl
  | some call =>
    cases saved' : store_call second with
    | none => rfl
    | some call' =>
      rw [ui_update_key_saved saved, ui_update_key_saved saved'] at apart
      apply state_after_comm
      by_cases kinds : kind_of call = kind_of call'
      · right
        cases call <;> cases call' <;> first
          | exact absurd rfl apart
          | exact ⟨_, _, rfl, rfl, fun same => apart (congrArg (·, _) same)⟩
          | cases kinds
      · exact .inl kinds

/-- **What the store keeps of a region** when an interaction without one is saved is what the
update before it carries over. -/
theorem set_interaction_twice (tool tool' : CaptureTool) (region region' : Option CaptureRegion)
    (source source' : Option CaptureRegionSource) :
    set_interaction tool' region' source' ∘ set_interaction (F := F) tool region source =
      match region' with
      | none => set_interaction tool' region source
      | some region' => set_interaction tool' (some region') source' := by
  funext display
  cases region' <;> cases region <;> rfl

/-- An update that takes in the one of its key before it does what both do. -/
theorem updated_state_taken_in {first second : OverlayUiUpdate F}
    (same : ui_update_key first = ui_update_key second) (state : UiState F) :
    updated_state second (updated_state first state) =
      updated_state (taken_in first second) state := by
  cases first <;> cases second <;> cases same
  case Interaction.Interaction display_id tool region source tool' region' source' =>
    show (state.with_display display_id (set_interaction tool region source)).with_display
      display_id (set_interaction tool' region' source') = _
    rw [with_display_twice, set_interaction_twice]
    cases region' <;> rfl
  case ToolbarCenter.ToolbarCenter => exact with_display_twice state _ _ _
  case ConfirmedRegion.ConfirmedRegion => exact with_display_twice state _ _ _
  all_goals rfl

end States

/-! ## The files -/

section Files

variable {F Text : Type} [Coordinate F]

/-- An update whose values the saves and the reads accept. -/
def ValidUpdate (update : OverlayUiUpdate F) : Prop :=
  ∀ call, store_call update = some call → checked_by_save call = true ∧ ValuesOk call

omit [Coordinate F] in
/-- An update that has taken one in has its own key. -/
theorem ui_update_key_taken_in {first second : OverlayUiUpdate F}
    (same : ui_update_key first = ui_update_key second) :
    ui_update_key (taken_in first second) = ui_update_key second := by
  cases first <;> cases second <;> cases same
  case Interaction.Interaction region' _ => cases region' <;> rfl
  all_goals rfl

omit [Coordinate F] in
/-- It is stored exactly where it would have been. -/
theorem store_call_taken_in {first second : OverlayUiUpdate F}
    (same : ui_update_key first = ui_update_key second) :
    (store_call first).isSome = (store_call second).isSome ∧
      (store_call (taken_in first second)).isSome = (store_call second).isSome := by
  cases first <;> cases second <;> cases same
  case Interaction.Interaction region' _ => cases region' <;> exact ⟨rfl, rfl⟩
  all_goals exact ⟨rfl, rfl⟩

/-- Where an update takes in the one before it, the values saved are those of either. -/
theorem valid_taken_in {first second : OverlayUiUpdate F}
    (same : ui_update_key first = ui_update_key second) (valid : ValidUpdate first)
    (valid' : ValidUpdate second) : ValidUpdate (taken_in first second) := by
  cases first <;> cases second <;> cases same
  case Interaction.Interaction display_id tool region source tool' region' source' =>
    cases region' with
    | some region' => exact valid'
    | none =>
      rintro call ⟨⟩
      exact valid (.interaction_state display_id tool region source) rfl
  all_goals exact valid'

/-- The operating system and the store let saves through. -/
structure CanSave (store : UiStateStore) (io : SaveIo) : Prop where
  path : store.state_path.isSome = true
  created : io.create_dir_all = none
  locked : io.acquire = none
  read : io.read = none
  written : io.write = none

variable (T : TomlCodec F Text) (store : UiStateStore) (io : SaveIo)

/-- The files after an update is saved; a save that fails leaves them as they are. -/
def saved_update (files : StateFiles Text) (update : OverlayUiUpdate F) : StateFiles Text :=
  match store_call update with
  | none => files
  | some call => ((save T store io files call).toOption).getD files

/-- The files after updates are saved one by one, in order. -/
def saved_in_order (files : StateFiles Text) (updates : List (OverlayUiUpdate F)) :
    StateFiles Text :=
  updates.foldl (saved_update T store io) files

/-- The state that a save changes, and that it passes the checks of a read. -/
structure Carries (files : StateFiles Text) (state : UiState F) : Prop where
  displays_ok : DisplaysOk state.displays
  version : state.schema_version = STATE_SCHEMA_VERSION
  held : (files.state = none ∧ state = migrated_state T store io files.config) ∨
    ∃ text, files.state = some text ∧ T.from_str text = .ok state

/-- What the first save would start from, with no state file yet, passes the checks of a read;
or there is a state file, or no save goes through. -/
def StartsWell (files : StateFiles Text) : Prop :=
  files.state = none → CanSave store io →
    DisplaysOk (migrated_state T store io files.config : UiState F).displays

variable {T store io}

/-- SRC: selection.rs:1461-1508 -/
theorem persist_update_files (sinks : PersistSinks) (persisted : Persisted Text)
    (update : OverlayUiUpdate F) :
    (persist_update T store io sinks persisted update).files =
      saved_update T store io persisted.files update := by
  unfold persist_update saved_update
  cases store_call update with
  | none =>
    cases update with
    | FileOutput enabled =>
      show (if sinks.file_output_requests then _ else persisted).files = persisted.files
      split <;> rfl
    | RecordingFormat format =>
      show (if sinks.recordings then _ else persisted).files = persisted.files
      split <;> rfl
    | _ => rfl
  | some call =>
    dsimp only
    cases save T store io persisted.files call <;> rfl

/-- A batch is saved update by update. -/
theorem persist_updates_files (sinks : PersistSinks) (updates : List (OverlayUiUpdate F))
    (persisted : Persisted Text) :
    (updates.foldl (persist_update T store io sinks) persisted).files =
      saved_in_order T store io persisted.files updates := by
  unfold saved_in_order
  induction updates generalizing persisted with
  | nil => rfl
  | cons update rest ih =>
    rw [List.foldl_cons, List.foldl_cons, ih, persist_update_files]

/-- Without the checks of its own, a save is an update of the file. -/
theorem save_of_checked {files : StateFiles Text} {call : Save F}
    (checked : checked_by_save call = true) :
    save T store io files call = update T store io (state_after call) files := by
  cases call with
  | overlay_center display_id center_x center_y =>
    exact if_neg (by simpa [checked_by_save] using checked)
  | interaction_state display_id tool region source =>
    exact if_neg (by simpa [checked_by_save] using checked)
  | confirmed_region display_id region source =>
    exact if_neg (by simpa [checked_by_save] using checked)
  | snap_to_windows enabled => rfl
  | region_zoom mode => rfl

/-- What a save starts from. -/
theorem read_of_carries {files : StateFiles Text} {state : UiState F}
    (carries : Carries T store io files state) (can : CanSave store io) :
    ∃ found : Option (UiState F), read_state T io files.state = .ok found ∧
      found.getD (migrated_state T store io files.config) = state := by
  rcases carries.held with ⟨absent, state_eq⟩ | ⟨text, present, parsed⟩
  · exact ⟨none, read_state_eq_ok.mpr ⟨can.read, .inl ⟨absent, rfl⟩⟩, state_eq.symm⟩
  · refine ⟨some state, read_state_eq_ok.mpr ⟨can.read, .inr ⟨text, state, present, parsed, ?_⟩⟩,
      rfl⟩
    exact ⟨carries.version, carries.displays_ok, rfl⟩

variable {serialize : UiState F → Text}
  (serialized : ∀ state, T.to_string_pretty state = .ok (serialize state))

include serialized

/-- **A save goes through** where the state file can be read. -/
theorem save_of_read {files : StateFiles Text} {found : Option (UiState F)} {call : Save F}
    (read : read_state T io files.state = .ok found) (can : CanSave store io)
    (checked : checked_by_save call = true) :
    save T store io files call = .ok { files with
      state := some (serialize
        (state_after call (found.getD (migrated_state T store io files.config)))) } := by
  rw [save_of_checked checked]
  obtain ⟨path, path_eq⟩ := Option.isSome_iff_exists.mp can.path
  unfold update required_state_path write_state
  rw [path_eq, can.created, can.locked, can.written, read]
  dsimp only [bind, Except.bind, raise]
  rw [serialized]

/-- The files after an update, where they hold a good state. -/
theorem saved_update_of_carries {files : StateFiles Text} {state : UiState F}
    {update : OverlayUiUpdate F} (carries : Carries T store io files state) (can : CanSave store io)
    (valid : ValidUpdate update) :
    saved_update T store io files update = match store_call update with
      | none => files
      | some _ => { files with state := some (serialize (updated_state update state)) } := by
  unfold saved_update updated_state
  cases saved : store_call update with
  | none => rfl
  | some call =>
    obtain ⟨found, read, start⟩ := read_of_carries carries can
    show ((save T store io files call).toOption).getD files = _
    rw [save_of_read serialized read can (valid call saved).1, start]
    rfl

/-- They hold a good state again. -/
theorem carries_saved_update {files : StateFiles Text} {state : UiState F}
    {update : OverlayUiUpdate F} (carries : Carries T store io files state) (can : CanSave store io)
    (valid : ValidUpdate update) :
    Carries T store io (saved_update T store io files update) (updated_state update state) := by
  rw [saved_update_of_carries serialized carries can valid]
  unfold updated_state
  cases saved : store_call update with
  | none => exact carries
  | some call =>
    obtain ⟨checked, values⟩ := valid call saved
    refine ⟨?_, ?_, .inr ⟨_, rfl, T.round_trip _ _ (serialized _)⟩⟩
    · exact (state_after_ok state checked).mpr ⟨values, rest_ok_of_displays_ok carries.displays_ok⟩
    · exact (schema_version_state_after call state).trans carries.version

/-- **Valid updates coalesce** on files that hold a good state. -/
theorem updates_coalesce (can : CanSave store io) :
    Coalesces (saved_update T store io) ui_update_key taken_in
      (fun files => ∃ state, Carries T store io files state) (ValidUpdate (F := F)) where
  keeps := by
    rintro files update ⟨state, carries⟩ valid
    exact ⟨_, carries_saved_update serialized carries can valid⟩
  commutes := by
    rintro files first second ⟨state, carries⟩ valid valid' apart
    have comm := updated_state_comm apart state
    have carries_first := carries_saved_update serialized carries can valid
    have carries_second := carries_saved_update serialized carries can valid'
    rw [saved_update_of_carries serialized carries_first can valid',
      saved_update_of_carries serialized carries_second can valid,
      saved_update_of_carries serialized carries can valid,
      saved_update_of_carries serialized carries can valid', comm]
    unfold updated_state
    cases store_call first <;> cases store_call second <;> rfl
  takes_in := by
    rintro files first second ⟨state, carries⟩ valid valid' same
    have taken := updated_state_taken_in same state
    have valid_taken := valid_taken_in same valid valid'
    obtain ⟨first_some, taken_some⟩ := store_call_taken_in same
    have carries_first := carries_saved_update serialized carries can valid
    rw [saved_update_of_carries serialized carries_first can valid',
      saved_update_of_carries serialized carries can valid,
      saved_update_of_carries serialized carries can valid_taken, taken]
    cases saved : store_call second with
    | none =>
      rw [saved] at first_some taken_some
      rw [Option.isNone_iff_eq_none.mp (Option.isSome_eq_false_iff.mp first_some),
        Option.isNone_iff_eq_none.mp (Option.isSome_eq_false_iff.mp taken_some)]
    | some call =>
      rw [saved] at first_some taken_some
      obtain ⟨first_call, first_eq⟩ := Option.isSome_iff_exists.mp first_some
      obtain ⟨taken_call, taken_eq⟩ := Option.isSome_iff_exists.mp taken_some
      rw [first_eq, taken_eq]
  merged valid valid' same := ⟨valid_taken_in same valid valid', ui_update_key_taken_in same⟩

omit serialized [Coordinate F] in
/-- SRC: selection.rs:1434-1459, 1513-1531 -/
theorem coalesced_eq (batch : List (OverlayUiUpdate F)) :
    coalesced batch = batch.foldl (collect ui_update_key taken_in) ∅ := by
  unfold coalesced
  congr 1
  funext latest update
  unfold coalesce_ui_update collect
  congr 1
  cases latest[ui_update_key update]? with
  | none => cases update <;> rfl
  | some previous => rfl

/-- One batch.
SRC: selection.rs:1433-1510 -/
theorem persist_batch_files (can : CanSave store io) (sinks : PersistSinks)
    {batch : List (OverlayUiUpdate F)} (valid : ∀ update ∈ batch, ValidUpdate update)
    {persisted : Persisted Text} (good : ∃ state, Carries T store io persisted.files state) :
    (persist_batch T store io sinks persisted batch).files =
      saved_in_order T store io persisted.files batch := by
  unfold persist_batch
  rw [persist_updates_files, coalesced_eq]
  exact ((updates_coalesce serialized can).foldl_collected valid good).2

/-- **Every batch of a run.** -/
theorem persist_ui_state_in_order (can : CanSave store io) (sinks : PersistSinks)
    {batches : List (List (OverlayUiUpdate F))}
    (valid : ∀ batch ∈ batches, ∀ update ∈ batch, ValidUpdate update)
    {persisted : Persisted Text} (good : ∃ state, Carries T store io persisted.files state) :
    (batches.foldl (persist_batch T store io sinks) persisted).files =
      saved_in_order T store io persisted.files batches.flatten := by
  induction batches generalizing persisted with
  | nil => rfl
  | cons batch rest ih =>
    have valid_batch := valid batch List.mem_cons_self
    have files_eq := persist_batch_files serialized can sinks valid_batch good
    have good' : ∃ state, Carries T store io
        (persist_batch T store io sinks persisted batch).files state := by
      rw [files_eq]
      exact (updates_coalesce serialized can).foldl_good valid_batch good
    rw [List.foldl_cons, ih (fun batch member => valid batch (List.mem_cons_of_mem _ member)) good',
      files_eq, List.flatten_cons]
    unfold saved_in_order
    rw [List.foldl_append]

omit serialized

/-- Files that no save changes. -/
def Stuck (T : TomlCodec F Text) (store : UiStateStore) (io : SaveIo) (files : StateFiles Text) :
    Prop :=
  ∀ call files', save T store io files call ≠ .ok files'

/-- Where nothing can be saved the files stay. -/
theorem saved_in_order_stuck {files : StateFiles Text} (stuck : Stuck T store io files)
    (updates : List (OverlayUiUpdate F)) : saved_in_order T store io files updates = files := by
  unfold saved_in_order
  induction updates with
  | nil => rfl
  | cons update rest ih =>
    have same : saved_update T store io files update = files := by
      unfold saved_update
      cases store_call update with
      | none => rfl
      | some call =>
        dsimp only
        cases saved : save T store io files call with
        | ok files' => exact absurd saved (stuck call files')
        | error error => rfl
    rw [List.foldl_cons, same, ih]

/-- However many batches there are. -/
theorem persist_ui_state_stuck (sinks : PersistSinks)
    (batches : List (List (OverlayUiUpdate F))) {persisted : Persisted Text}
    (stuck : Stuck T store io persisted.files) :
    (batches.foldl (persist_batch T store io sinks) persisted).files = persisted.files := by
  induction batches generalizing persisted with
  | nil => rfl
  | cons batch rest ih =>
    have same : (persist_batch T store io sinks persisted batch).files = persisted.files := by
      unfold persist_batch
      rw [persist_updates_files, saved_in_order_stuck stuck]
    rw [List.foldl_cons, ih (by rw [same]; exact stuck), same]

/-- A save that succeeds finds the operating system willing and a good state. -/
theorem of_saved {files files' : StateFiles Text} {call : Save F}
    (saved : save T store io files call = .ok files') :
    CanSave store io ∧ ((∃ state, Carries T store io files state) ∨ files.state = none) := by
  obtain ⟨-, updated⟩ := save_eq_ok saved
  unfold update at updated
  obtain ⟨path, path_eq, updated⟩ := bind_eq_ok.mp updated
  obtain ⟨created, updated⟩ := then_eq_ok.mp updated
  obtain ⟨locked, updated⟩ := then_eq_ok.mp updated
  obtain ⟨found, read, updated⟩ := bind_eq_ok.mp updated
  obtain ⟨text, wrote, -⟩ := bind_eq_ok.mp updated
  have path_some : store.state_path.isSome = true := by
    unfold required_state_path at path_eq
    cases store_path : store.state_path with
    | none => rw [store_path] at path_eq; cases path_eq
    | some path => rfl
  have written : io.write = none := by
    unfold write_state at wrote
    split at wrote
    · cases wrote
    · exact raise_eq_ok.mp (then_eq_ok.mp wrote).1
  obtain ⟨read_none, how⟩ := read_state_eq_ok.mp read
  refine ⟨⟨path_some, raise_eq_ok.mp created, raise_eq_ok.mp locked, read_none, written⟩, ?_⟩
  rcases how with ⟨absent, -⟩ | ⟨text, state, present, parsed, version, ok, -⟩
  · exact .inr absent
  · exact .inl ⟨state, ok, version, .inr ⟨text, present, parsed⟩⟩

/-- **From a start that is well** the files either hold a good state or cannot be changed. -/
theorem good_or_stuck {files : StateFiles Text} (well : StartsWell T store io files) :
    (CanSave store io ∧ ∃ state, Carries T store io files state) ∨ Stuck T store io files := by
  by_cases stuck : Stuck T store io files
  · exact .inr stuck
  · left
    unfold Stuck at stuck
    push Not at stuck
    obtain ⟨call, files', saved⟩ := stuck
    obtain ⟨can, good | absent⟩ := of_saved saved
    · exact ⟨can, good⟩
    · exact ⟨can, _, well absent can, schema_version_migrated io files.config,
        .inl ⟨absent, rfl⟩⟩

/-- With a state on disk that does not pass the checks of a read, no save goes through. -/
theorem stuck_of_text {files : StateFiles Text} {text : Text} {state : UiState F}
    (present : files.state = some text) (parsed : T.from_str text = .ok state)
    (bad : ¬ DisplaysOk state.displays) : Stuck T store io files := by
  intro call files' saved
  obtain ⟨-, ⟨state', carries⟩ | absent⟩ := of_saved saved
  · rcases carries.held with ⟨absent, -⟩ | ⟨text', present', parsed'⟩
    · rw [present] at absent
      cases absent
    · rw [present] at present'
      cases present'
      rw [parsed] at parsed'
      cases parsed'
      exact bad carries.displays_ok
  · rw [present] at absent
    cases absent

/-- Two updates, neither of them about a display. -/
def two_preferences : List (OverlayUiUpdate F) := [.RegionZoom .Auto, .SnapToWindows true]

/-- The two preferences of the example are valid. -/
theorem two_preferences_valid : ∀ update ∈ two_preferences (F := F), ValidUpdate update := by
  intro update member
  rcases List.mem_pair.mp member with rfl | rfl
  · rintro call ⟨⟩
    exact ⟨rfl, trivial⟩
  · rintro call ⟨⟩
    exact ⟨rfl, trivial⟩

omit [Coordinate F] in
/-- The keys' order is the other one. -/
theorem two_preferences_coalesced :
    (coalesced (two_preferences (F := F))).toList.map Prod.snd =
      [.SnapToWindows true, .RegionZoom .Auto] := rfl

omit [Coordinate F] in
/-- A state that is migrated does not say whether to snap to windows. -/
theorem snap_to_windows_migrated (io : SaveIo) (config : Option Text) :
    (migrated_state T store io config : UiState F).snap_to_windows = none := by
  unfold migrated_state
  split
  · rfl
  · split <;> rfl

omit [Coordinate F] in
/-- The files a first save leaves, made from this state. -/
abbrev first_saved (serialize : UiState F → Text) (files : StateFiles Text) (state : UiState F)
    (call : Save F) : StateFiles Text :=
  { files with state := some (serialize (state_after call state)) }

include serialized in
/-- From a start that is not well, the first save of a preference is the last. -/
theorem first_save_stuck {files : StateFiles Text} {state : UiState F}
    (state_eq : migrated_state T store io files.config = state) (absent : files.state = none)
    (can : CanSave store io) (bad : ¬ DisplaysOk state.displays) (call : Save F)
    (global : display_of call = none) :
    save T store io files call = .ok (first_saved serialize files state call) ∧
      Stuck T store io (first_saved serialize files state call) := by
  have checked : checked_by_save call = true := by
    cases call <;> first | rfl | cases global
  have read : read_state T io files.state = .ok none :=
    read_state_eq_ok.mpr ⟨can.read, .inl ⟨absent, rfl⟩⟩
  constructor
  · rw [save_of_read serialized read can checked, Option.getD_none, state_eq]
  · apply stuck_of_text rfl (T.round_trip _ _ (serialized _))
    intro ok
    apply bad
    cases call <;> first | exact ok | cases global

/-- A save that goes through, and no other after it. -/
theorem saved_in_order_once {files files' : StateFiles Text} {update : OverlayUiUpdate F}
    {call : Save F} (call_eq : store_call update = some call)
    (saved : save T store io files call = .ok files') (stuck : Stuck T store io files')
    (rest : List (OverlayUiUpdate F)) :
    saved_in_order T store io files (update :: rest) = files' := by
  have first : saved_update T store io files update = files' := by
    unfold saved_update
    rw [call_eq]
    dsimp only
    rw [saved]
    rfl
  show saved_in_order T store io (saved_update T store io files update) rest = files'
  rw [first, saved_in_order_stuck stuck]

include serialized in
/-- **From a start that is not well**, the order of two preferences decides which is kept. -/
theorem two_preferences_differ (sinks : PersistSinks) {files : StateFiles Text}
    (ill : ¬ StartsWell (F := F) T store io files) :
    (persist_ui_state T store io sinks files [two_preferences (F := F)]).files ≠
      saved_in_order T store io files (two_preferences (F := F)) := by
  unfold StartsWell at ill
  push Not at ill
  obtain ⟨absent, can, bad⟩ := ill
  have unset : (migrated_state T store io files.config : UiState F).snap_to_windows = none :=
    snap_to_windows_migrated io files.config
  generalize state_eq : (migrated_state T store io files.config : UiState F) = state at bad unset
  obtain ⟨saved, stuck⟩ :=
    first_save_stuck serialized state_eq absent can bad (.region_zoom .Auto) rfl
  obtain ⟨saved', stuck'⟩ :=
    first_save_stuck serialized state_eq absent can bad (.snap_to_windows true) rfl
  have by_key : (persist_ui_state T store io sinks files [two_preferences (F := F)]).files =
      first_saved serialize files state (.snap_to_windows true) := by
    show (persist_batch T store io sinks ⟨files, []⟩ two_preferences).files = _
    unfold persist_batch
    rw [two_preferences_coalesced, persist_updates_files]
    exact saved_in_order_once rfl saved' stuck' _
  unfold two_preferences at by_key ⊢
  rw [saved_in_order_once rfl saved stuck, by_key]
  intro same
  have texts := Option.some.inj (congrArg StateFiles.state same)
  have states : (Except.ok (state_after (.snap_to_windows true) state) :
      Except String (UiState F)) = .ok (state_after (.region_zoom .Auto) state) := by
    rw [← T.round_trip _ _ (serialized _), texts, T.round_trip _ _ (serialized _)]
  have kept := (congrArg UiState.snap_to_windows (Except.ok.inj states)).trans unset
  cases kept

/-- **UI updates, coalesced and saved by key**, leave the state file that saving each in order
does, whatever the valid updates are and however they are split into batches, exactly when the
start is well.
SRC: selection.rs:1426-1532, ui_state.rs:265-409 -/
theorem saved_in_order_iff (T : TomlCodec F Text) (store : UiStateStore) (io : SaveIo)
    (sinks : PersistSinks) (files : StateFiles Text)
    (serializes : ∀ state, ∃ text, T.to_string_pretty state = .ok text) :
    (∀ batches : List (List (OverlayUiUpdate F)),
      (∀ batch ∈ batches, ∀ update ∈ batch, ValidUpdate update) →
        (persist_ui_state T store io sinks files batches).files =
          saved_in_order T store io files batches.flatten) ↔
      StartsWell (F := F) T store io files := by
  choose serialize serialized using serializes
  constructor
  · intro same
    by_contra ill
    apply two_preferences_differ serialized sinks ill
    have one := same [two_preferences] (by
      intro batch member
      rw [List.mem_singleton.mp member]
      exact two_preferences_valid)
    rwa [List.flatten_singleton] at one
  · intro well batches valid
    unfold persist_ui_state
    rcases good_or_stuck well with ⟨can, good⟩ | stuck
    · exact persist_ui_state_in_order serialized can sinks valid good
    · rw [saved_in_order_stuck stuck]
      exact persist_ui_state_stuck sinks batches stuck

end Files

/-! ## Two starts -/

/-- A region remembered and a tool chosen without one, then a preference. -/
def some_updates : List (List (OverlayUiUpdate ℚ)) :=
  [[.Interaction "display-1" .Region (some a_region) (some (turned 0)),
    .Interaction "display-1" .Window none none], [.SnapToWindows true]]

/-- The updates of the example are valid. -/
theorem some_updates_valid :
    ∀ batch ∈ some_updates, ∀ update ∈ batch, ValidUpdate update := by
  intro batch in_batches update member
  rcases List.mem_pair.mp in_batches with rfl | rfl
  · rcases List.mem_pair.mp member with rfl | rfl
    · rintro call ⟨⟩
      refine ⟨by decide, by decide, ?_⟩
      rintro area taken ⟨⟩ ⟨⟩
      decide
    · rintro call ⟨⟩
      refine ⟨rfl, by decide, ?_⟩
      rintro area taken ⟨⟩
  · rw [List.mem_singleton.mp member]
    rintro call ⟨⟩
    exact ⟨rfl, trivial⟩

/-- From no files at all, what is saved of these is what saving each in order leaves. -/
theorem updates_saved_from_no_files :
    (persist_ui_state kept_as_is new_store no_failure ⟨false, false⟩ no_files some_updates).files =
      saved_in_order kept_as_is new_store no_failure no_files some_updates.flatten := by
  refine (saved_in_order_iff kept_as_is new_store no_failure ⟨false, false⟩ no_files
    fun state => ⟨state, rfl⟩).mpr ?_ some_updates some_updates_valid
  intro _ _ display_id display found
  have found : (∅ : Displays ℚ)[display_id]? = some display := found
  rw [Std.ExtTreeMap.getElem?_empty] at found
  cases found

/-- An entry with half a position. -/
def half_placed : DisplayUiConfig ℚ :=
  { DisplayUiConfig.empty with overlay_x := some ⟨0, in_i32_zero⟩ }

/-- A codec that finds this entry in the configuration's `[ui]` section. -/
def half_migrated : TomlCodec ℚ (UiState ℚ) :=
  { kept_as_is with
    legacy_ui_section := fun _ => some
      ⟨none, none, none, none, (∅ : Displays ℚ).insert "display-1" half_placed⟩ }

/-- A configuration, and no state file yet. -/
def config_only : StateFiles (UiState ℚ) := ⟨none, some UiState.initial⟩

/-- With half a position in the configuration and no state file, a batch that sets the region
zoom and then snapping keeps the snapping; in order, the region zoom is kept. -/
theorem preferences_not_saved_in_order :
    (∀ update ∈ two_preferences (F := ℚ), ValidUpdate update) ∧
      (persist_ui_state half_migrated ⟨some "state.toml", some "config.toml"⟩ no_failure
          ⟨false, false⟩ config_only [two_preferences (F := ℚ)]).files ≠
        saved_in_order half_migrated ⟨some "state.toml", some "config.toml"⟩ no_failure
          config_only (two_preferences (F := ℚ)) := by
  refine ⟨two_preferences_valid, ?_⟩
  have serialized : ∀ state, half_migrated.to_string_pretty state = .ok (id state) :=
    fun state => rfl
  apply two_preferences_differ serialized
  intro well
  have entry_ok := well rfl ⟨rfl, rfl, rfl, rfl, rfl⟩ "display-1" half_placed
    Std.ExtTreeMap.getElem?_insert_self
  have position := entry_ok.position
  cases position

end Captastic.Analysis
