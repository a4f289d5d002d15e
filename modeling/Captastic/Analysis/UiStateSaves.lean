import Captastic.Library.Fallible
import Captastic.Model.UiState

/-!
# When a save leaves a state file that can be read

A read of the state file checks every display's entry (`EntryOk`).  A save changes some
fields of one entry; the entry it leaves is fine exactly when the rest of the entry is and
the values saved are (`saved_entry_ok`).  The saves check less than that: nothing of the
display's name, of a rotation, or of a confirmed region's place in its source, and nothing
of a `[ui]` section they carry over.  So the file a run of saves leaves is accepted exactly
when every save of the run meets those conditions (`saves_accepted_iff`).
-/

set_option autoImplicit false

namespace Captastic.Analysis

open Captastic.Library Captastic.Model

/-! ## Entries -/

/-- A check denies exactly what it finds. -/
theorem deny_eq_ok {found : Bool} {message : String} {u : Unit} :
    deny found message = .ok u ↔ found = false := by
  unfold deny
  cases found <;> simp

section Entries

/-- A region that a read accepts together with where it was taken. -/
def FitsSource (region : CaptureRegion) (source : CaptureRegionSource) : Prop :=
  region.leaves source = false ∧ is_quarter_turn source.rotation_degrees = true

variable {F : Type}

/-- SRC: lib.rs:743-759 -/
theorem validate_region_source_iff (display_id : String) (display : DisplayUiConfig F) :
    validate_region_source display_id display = .ok () ↔
      ∀ source, display.last_region_source = some source →
        source.is_empty = false ∧ is_quarter_turn source.rotation_degrees = true ∧
          display.last_region.isSome = true := by
  unfold validate_region_source
  cases source : display.last_region_source with
  | none => simp [pure, Except.pure]
  | some source =>
    simp only [then_eq_ok, deny_eq_ok, Option.some.injEq, forall_eq', Bool.not_eq_false',
      Option.isNone_eq_false_iff]

/-- SRC: lib.rs:760-793 -/
theorem validate_confirmed_region_iff (display_id : String) (display : DisplayUiConfig F) :
    validate_confirmed_region display_id display = .ok () ↔
      (display.last_confirmed_region = none ∧ display.last_confirmed_region_source = none) ∨
      ∃ region source, display.last_confirmed_region = some region ∧
        display.last_confirmed_region_source = some source ∧ FitsSource region source := by
  unfold validate_confirmed_region FitsSource
  cases display.last_confirmed_region with
  | none =>
    cases display.last_confirmed_region_source with
    | none => simp [pure, Except.pure]
    | some source => simp [deny_eq_ok]
  | some region =>
    cases display.last_confirmed_region_source with
    | none => simp [deny_eq_ok]
    | some source => simp [then_eq_ok, deny_eq_ok]

variable [Coordinate F]

/-- Everything a read asks of a display's entry. -/
structure EntryOk (display_id : String) (display : DisplayUiConfig F) : Prop where
  name : is_blank display_id = false
  position : display.overlay_x.isSome = display.overlay_y.isSome
  center : display.overlay_center_x.isSome = display.overlay_center_y.isSome
  center_range : ∀ x y, display.overlay_center_x = some x → display.overlay_center_y = some y →
    outside_unit_range x = false ∧ outside_unit_range y = false
  region : ∀ region, display.last_region = some region → region.is_empty = false
  region_source : ∀ source, display.last_region_source = some source →
    source.is_empty = false ∧ is_quarter_turn source.rotation_degrees = true ∧
      display.last_region.isSome = true
  confirmed : (display.last_confirmed_region = none ∧ display.last_confirmed_region_source = none) ∨
    ∃ region source, display.last_confirmed_region = some region ∧
      display.last_confirmed_region_source = some source ∧ FitsSource region source

/-- **The checks of an entry**, taken together.
SRC: lib.rs:706-794 -/
theorem validate_display_entry_iff (display_id : String) (display : DisplayUiConfig F) :
    validate_display_entry display_id display = .ok () ↔ EntryOk display_id display := by
  unfold validate_display_entry
  simp only [then_eq_ok, deny_eq_ok, validate_region_source_iff, validate_confirmed_region_iff]
  constructor
  · rintro ⟨name, position, center, center_range, region, region_source, confirmed⟩
    refine ⟨name, by simpa using position, by simpa using center, ?_, ?_, region_source, confirmed⟩
    · intro x y center_x center_y
      simpa [center_x, center_y] using center_range
    · intro area area_eq
      simpa [area_eq] using region
  · intro ok
    refine ⟨ok.name, by simpa using ok.position, by simpa using ok.center, ?_, ?_,
      ok.region_source, ok.confirmed⟩
    · cases center_x : display.overlay_center_x with
      | none => rfl
      | some x =>
        cases center_y : display.overlay_center_y with
        | none => rfl
        | some y => simpa using ok.center_range x y center_x center_y
    · cases area_eq : display.last_region with
      | none => rfl
      | some area => exact ok.region area area_eq

/-- What a read asks of all entries. -/
def DisplaysOk (displays : Displays F) : Prop :=
  ∀ display_id display, displays[display_id]? = some display → EntryOk display_id display

/-- SRC: lib.rs:703-706 -/
theorem validate_display_entries_iff (displays : Displays F) :
    validate_display_entries displays = .ok () ↔ DisplaysOk displays := by
  unfold validate_display_entries
  rw [all_ok_iff]
  constructor
  · intro checked display_id display found
    have listed := Std.ExtTreeMap.mem_toList_iff_getElem?_eq_some.mpr found
    exact (validate_display_entry_iff display_id display).mp (checked (display_id, display) listed)
  · rintro ok ⟨display_id, display⟩ listed
    have found := Std.ExtTreeMap.mem_toList_iff_getElem?_eq_some.mp listed
    exact (validate_display_entry_iff display_id display).mpr (ok display_id display found)

end Entries

/-! ## What a save makes of an entry -/

section Change

variable {F : Type}

/-- The display whose entry a save writes. -/
def display_of : Save F → Option String
  | .overlay_center display_id _ _ => some display_id
  | .interaction_state display_id _ _ _ => some display_id
  | .confirmed_region display_id _ _ => some display_id
  | .snap_to_windows _ => none
  | .region_zoom _ => none

/-- What a save makes of its display's entry. -/
def entry_after (next : Save F) (display : DisplayUiConfig F) : DisplayUiConfig F :=
  match next with
  | .overlay_center _ center_x center_y => set_overlay_center center_x center_y display
  | .interaction_state _ tool region source => set_interaction tool region source display
  | .confirmed_region _ region source => set_confirmed_region region source display
  | .snap_to_windows _ => display
  | .region_zoom _ => display

/-- What a save makes of the state. -/
def state_after (next : Save F) (state : UiState F) : UiState F :=
  match next with
  | .overlay_center display_id center_x center_y =>
    state.with_display display_id (set_overlay_center center_x center_y)
  | .interaction_state display_id tool region source =>
    state.with_display display_id (set_interaction tool region source)
  | .confirmed_region display_id region source =>
    state.with_display display_id (set_confirmed_region region source)
  | .snap_to_windows enabled => { state with snap_to_windows := some enabled }
  | .region_zoom mode => { state with region_zoom := some mode }

/-- An entry without the fields that a save writes over. -/
def without_saved (next : Save F) (display : DisplayUiConfig F) : DisplayUiConfig F :=
  match next with
  | .overlay_center _ _ _ =>
    { display with
      overlay_center_x := none, overlay_center_y := none, overlay_x := none, overlay_y := none }
  | .interaction_state _ _ (some _) _ =>
    { display with last_region := none, last_region_source := none }
  | .confirmed_region _ _ _ =>
    { display with last_confirmed_region := none, last_confirmed_region_source := none }
  | _ => display

/-- A save that is about a display changes that display's entry. -/
theorem state_after_own {next : Save F} {own : String} (state : UiState F)
    (own_eq : display_of next = some own) :
    state_after next state = state.with_display own (entry_after next) := by
  cases next with
  | snap_to_windows enabled => cases own_eq
  | region_zoom mode => cases own_eq
  | overlay_center id center_x center_y => cases own_eq; rfl
  | interaction_state id tool region source => cases own_eq; rfl
  | confirmed_region id region source => cases own_eq; rfl

/-- SRC: ui_state.rs:121-123 -/
theorem with_display_get (state : UiState F) (own display_id : String)
    (change : DisplayUiConfig F → DisplayUiConfig F) :
    (state.with_display own change).displays[display_id]? =
      if own = display_id then some (change (state.displays[own]?.getD DisplayUiConfig.empty))
      else state.displays[display_id]? := by
  unfold UiState.with_display
  simp only [Std.ExtTreeMap.getElem?_alter, Std.LawfulEqCmp.compare_eq_iff_eq]

/-- No save changes the version. -/
theorem schema_version_state_after (next : Save F) (state : UiState F) :
    (state_after next state).schema_version = state.schema_version := by
  cases next <;> rfl

/-- What a read asks of the values saved, beyond the checks the save makes itself. -/
def ValuesOk : Save F → Prop
  | .overlay_center display_id _ _ => is_blank display_id = false
  | .interaction_state display_id _ region source =>
    is_blank display_id = false ∧
      ∀ area taken, region = some area → source = some taken →
        is_quarter_turn taken.rotation_degrees = true
  | .confirmed_region display_id region source =>
    is_blank display_id = false ∧ FitsSource region source
  | .snap_to_windows _ => True
  | .region_zoom _ => True

/-- The display a valid save is about has a name. -/
theorem name_of_values_ok {next : Save F} {own : String} (own_eq : display_of next = some own)
    (values : ValuesOk next) : is_blank own = false := by
  cases next with
  | snap_to_windows enabled => cases own_eq
  | region_zoom mode => cases own_eq
  | overlay_center id center_x center_y => cases own_eq; exact values
  | interaction_state id tool region source => cases own_eq; exact values.1
  | confirmed_region id region source => cases own_eq; exact values.1

variable [Coordinate F]

/-- The checks a save makes itself.
SRC: ui_state.rs:271-280, 300-306, 336-340 -/
def checked_by_save : Save F → Bool
  | .overlay_center _ center_x center_y =>
    !(outside_unit_range center_x || outside_unit_range center_y)
  | .interaction_state _ _ region source =>
    !(region.any CaptureRegion.is_empty || source.any CaptureRegionSource.is_empty)
  | .confirmed_region _ region source => !(region.is_empty || source.is_empty)
  | .snap_to_windows _ => true
  | .region_zoom _ => true

/-- An entry without what is saved is as valid as with it. -/
theorem without_saved_ok {next : Save F} {display_id : String} {display : DisplayUiConfig F}
    (ok : EntryOk display_id display) : EntryOk display_id (without_saved next display) := by
  unfold without_saved
  split
  · exact ⟨ok.name, rfl, rfl, nofun, ok.region, ok.region_source, ok.confirmed⟩
  · exact ⟨ok.name, ok.position, ok.center, ok.center_range, fun _ found => (nomatch found),
      fun _ found => (nomatch found), ok.confirmed⟩
  · exact ⟨ok.name, ok.position, ok.center, ok.center_range, ok.region, ok.region_source,
      .inl ⟨rfl, rfl⟩⟩
  · exact ok

/-- An empty entry is valid. -/
theorem empty_ok {display_id : String} (name : is_blank display_id = false) :
    EntryOk display_id (DisplayUiConfig.empty : DisplayUiConfig F) :=
  ⟨name, rfl, rfl, nofun, fun _ found => (nomatch found), fun _ found => (nomatch found),
    .inl ⟨rfl, rfl⟩⟩

/-- The entry a center is saved in.
SRC: ui_state.rs:281-290 -/
theorem set_overlay_center_ok {display_id : String} {center_x center_y : F}
    {display : DisplayUiConfig F}
    (in_range : outside_unit_range center_x = false ∧ outside_unit_range center_y = false) :
    EntryOk display_id (set_overlay_center center_x center_y display) ↔
      EntryOk display_id
        (without_saved (.overlay_center display_id center_x center_y) display) := by
  constructor
  · intro ok
    exact ⟨ok.name, rfl, rfl, nofun, ok.region, ok.region_source, ok.confirmed⟩
  · intro ok
    refine ⟨ok.name, rfl, rfl, ?_, ok.region, ok.region_source, ok.confirmed⟩
    rintro x y ⟨⟩ ⟨⟩
    exact in_range

/-- The entry a region is remembered in.
SRC: ui_state.rs:307-317 -/
theorem set_interaction_ok {display_id : String} {tool : CaptureTool}
    {region : Option CaptureRegion} {source : Option CaptureRegionSource}
    {display : DisplayUiConfig F}
    (non_empty : region.any CaptureRegion.is_empty = false ∧
      source.any CaptureRegionSource.is_empty = false) :
    EntryOk display_id (set_interaction tool region source display) ↔
      (∀ area taken, region = some area → source = some taken →
        is_quarter_turn taken.rotation_degrees = true) ∧
      EntryOk display_id (without_saved (.interaction_state display_id tool region source)
        display) := by
  cases region with
  | none =>
    constructor
    · intro ok
      exact ⟨fun _ _ found => (nomatch found), ok.name, ok.position, ok.center, ok.center_range, ok.region, ok.region_source,
        ok.confirmed⟩
    · rintro ⟨-, ok⟩
      exact ⟨ok.name, ok.position, ok.center, ok.center_range, ok.region, ok.region_source,
        ok.confirmed⟩
  | some area =>
    constructor
    · intro ok
      refine ⟨?_, ok.name, ok.position, ok.center, ok.center_range,
        fun _ found => (nomatch found), fun _ found => (nomatch found), ok.confirmed⟩
      intro _ taken _ source_eq
      exact (ok.region_source taken source_eq).2.1
    · rintro ⟨turned, ok⟩
      refine ⟨ok.name, ok.position, ok.center, ok.center_range, ?_, ?_, ok.confirmed⟩
      · rintro _ ⟨⟩
        exact non_empty.1
      · rintro taken source_eq
        have source_eq : source = some taken := source_eq
        subst source_eq
        exact ⟨non_empty.2, turned area taken rfl rfl, rfl⟩

/-- The entry a confirmed region is saved in.
SRC: ui_state.rs:341-345 -/
theorem set_confirmed_region_ok {display_id : String} {region : CaptureRegion}
    {source : CaptureRegionSource} {display : DisplayUiConfig F} :
    EntryOk display_id (set_confirmed_region region source display) ↔
      FitsSource region source ∧
      EntryOk display_id (without_saved (.confirmed_region display_id region source)
        display) := by
  constructor
  · intro ok
    refine ⟨?_, ok.name, ok.position, ok.center, ok.center_range, ok.region, ok.region_source,
      .inl ⟨rfl, rfl⟩⟩
    rcases ok.confirmed with ⟨none_eq, -⟩ | ⟨area, taken, area_eq, taken_eq, fits⟩
    · cases none_eq
    · cases area_eq
      cases taken_eq
      exact fits
  · rintro ⟨fits, ok⟩
    exact ⟨ok.name, ok.position, ok.center, ok.center_range, ok.region, ok.region_source,
      .inr ⟨region, source, rfl, rfl, fits⟩⟩

/-- **The entry a save leaves** is fine exactly when the values saved are and the rest of
the entry is. -/
theorem entry_after_ok {next : Save F} {display_id : String} {display : DisplayUiConfig F}
    (own : display_of next = some display_id) (checked : checked_by_save next = true) :
    EntryOk display_id (entry_after next display) ↔
      ValuesOk next ∧ EntryOk display_id (without_saved next display) := by
  cases next with
  | snap_to_windows enabled => cases own
  | region_zoom mode => cases own
  | overlay_center id center_x center_y =>
    cases own
    have in_range : outside_unit_range center_x = false ∧ outside_unit_range center_y = false := by
      simpa [checked_by_save] using checked
    unfold entry_after ValuesOk
    rw [set_overlay_center_ok in_range]
    exact ⟨fun ok => ⟨ok.name, ok⟩, fun ok => ok.2⟩
  | interaction_state id tool region source =>
    cases own
    have non_empty : region.any CaptureRegion.is_empty = false ∧
        source.any CaptureRegionSource.is_empty = false := by
      simpa [checked_by_save] using checked
    unfold entry_after ValuesOk
    rw [set_interaction_ok non_empty]
    exact ⟨fun ok => ⟨⟨ok.2.name, ok.1⟩, ok.2⟩, fun ok => ⟨ok.1.2, ok.2⟩⟩
  | confirmed_region id region source =>
    cases own
    unfold entry_after ValuesOk
    rw [set_confirmed_region_ok]
    exact ⟨fun ok => ⟨⟨ok.2.name, ok.1⟩, ok.2⟩, fun ok => ⟨ok.1.2, ok.2⟩⟩

/-- What a read asks of entries that a save is about to change: of its own display's, only
what the save does not write over. -/
def RestOk (next : Save F) (displays : Displays F) : Prop :=
  ∀ display_id display, displays[display_id]? = some display →
    EntryOk display_id (if display_of next = some display_id then without_saved next display
      else display)

/-- Where all displays are valid the rest of them are. -/
theorem rest_ok_of_displays_ok {next : Save F} {displays : Displays F}
    (ok : DisplaysOk displays) : RestOk next displays := by
  intro display_id display found
  have entry_ok := ok display_id display found
  split
  · exact without_saved_ok entry_ok
  · exact entry_ok

/-- **The state a save leaves** passes the checks exactly when the values saved do and what
the save leaves alone does. -/
theorem state_after_ok {next : Save F} (state : UiState F) (checked : checked_by_save next = true) :
    DisplaysOk (state_after next state).displays ↔ ValuesOk next ∧ RestOk next state.displays := by
  cases own_eq : display_of next with
  | none =>
    have values : ValuesOk next := by
      cases next <;> trivial
    have same : (state_after next state).displays = state.displays := by
      cases next <;> first | rfl | cases own_eq
    rw [same]
    unfold DisplaysOk RestOk
    simp [values, own_eq]
  | some own =>
    rw [state_after_own state own_eq]
    constructor
    · intro ok
      have own_ok := ok own (entry_after next (state.displays[own]?.getD DisplayUiConfig.empty))
        (by rw [with_display_get, if_pos rfl])
      refine ⟨((entry_after_ok own_eq checked).mp own_ok).1, ?_⟩
      intro display_id display found
      by_cases same : own = display_id
      · subst same
        rw [found] at own_ok
        rw [own_eq, if_pos rfl]
        exact ((entry_after_ok own_eq checked).mp own_ok).2
      · rw [own_eq, if_neg (by simpa using same)]
        exact ok display_id display (by rw [with_display_get, if_neg same, found])
    · rintro ⟨values, rest⟩ display_id display found
      rw [with_display_get] at found
      by_cases same : own = display_id
      · subst same
        rw [if_pos rfl, Option.some.injEq] at found
        rw [← found, entry_after_ok own_eq checked]
        refine ⟨values, ?_⟩
        cases before : state.displays[own]? with
        | none => exact without_saved_ok (empty_ok (name_of_values_ok own_eq values))
        | some entry =>
          have entry_ok := rest own entry before
          rwa [own_eq, if_pos rfl] at entry_ok
      · rw [if_neg same] at found
        have entry_ok := rest display_id display found
        rwa [own_eq, if_neg (by simpa using same)] at entry_ok

end Change

/-! ## Reads and saves of the files -/

section Files

variable {F Text : Type} {T : TomlCodec F Text} {store : UiStateStore}

/-- SRC: ui_state.rs:373-409 -/
theorem schema_version_migrated (io : SaveIo) (config : Option Text) :
    (migrated_state T store io config : UiState F).schema_version = STATE_SCHEMA_VERSION := by
  unfold migrated_state
  split
  · rfl
  · split <;> rfl

variable [Coordinate F]

/-- A quiet operating system. -/
def no_failure : SaveIo := ⟨none, none, none, true, none⟩

/-- A state file that the store's own read accepts, or none at all. -/
def Accepted (T : TomlCodec F Text) (files : StateFiles Text) : Prop :=
  ∃ state, read_state T no_failure files.state = .ok state

/-- Nothing is raised exactly where there is no error. -/
theorem raise_eq_ok {error : Option ConfigError} {u : Unit} :
    raise error = .ok u ↔ error = none := by
  unfold raise
  cases error <;> simp

/-- SRC: ui_state.rs:411-428 -/
theorem read_state_eq_ok {io : SaveIo} {file : Option Text} {found : Option (UiState F)} :
    read_state T io file = .ok found ↔ io.read = none ∧
      ((file = none ∧ found = none) ∨
        ∃ text state, file = some text ∧ T.from_str text = .ok state ∧
          state.schema_version = STATE_SCHEMA_VERSION ∧ DisplaysOk state.displays ∧
          found = some state) := by
  unfold read_state
  rw [then_eq_ok, raise_eq_ok]
  refine and_congr_right fun _ => ?_
  cases file with
  | none => simp [eq_comm]
  | some text =>
    cases parsed : T.from_str text with
    | error message => simp [parsed]
    | ok state =>
      by_cases version : state.schema_version = STATE_SCHEMA_VERSION
      · simp [parsed, version, map_eq_ok, validate_display_entries_iff]
      · simp [parsed, version]

/-- SRC: ui_state.rs:353-368 -/
theorem update_eq_ok {io : SaveIo} {change : UiState F → UiState F}
    {files files' : StateFiles Text} (updated : update T store io change files = .ok files') :
    ∃ found text, read_state T io files.state = .ok found ∧
      T.to_string_pretty (change (found.getD (migrated_state T store io files.config))) = .ok text ∧
      files' = { files with state := some text } := by
  unfold update at updated
  obtain ⟨_, -, updated⟩ := bind_eq_ok.mp updated
  obtain ⟨-, updated⟩ := then_eq_ok.mp updated
  obtain ⟨-, updated⟩ := then_eq_ok.mp updated
  obtain ⟨found, read, updated⟩ := bind_eq_ok.mp updated
  obtain ⟨text, wrote, updated⟩ := bind_eq_ok.mp updated
  refine ⟨found, text, read, ?_, (Except.ok.inj updated).symm⟩
  unfold write_state at wrote
  split at wrote
  · cases wrote
  · rename_i text' serialized
    obtain ⟨-, wrote⟩ := then_eq_ok.mp wrote
    rw [serialized, Except.ok.inj wrote]

/-- A save that succeeds has passed its own checks, and made its change.
SRC: ui_state.rs:265-346 -/
theorem save_eq_ok {io : SaveIo} {next : Save F} {files files' : StateFiles Text}
    (saved : save T store io files next = .ok files') :
    checked_by_save next = true ∧ update T store io (state_after next) files = .ok files' := by
  unfold save at saved
  cases next with
  | overlay_center display_id center_x center_y =>
    simp only [save_display_overlay_center] at saved
    split at saved
    · cases saved
    · rename_i checked
      exact ⟨by simpa [checked_by_save] using checked, saved⟩
  | interaction_state display_id tool region source =>
    simp only [save_display_interaction_state] at saved
    split at saved
    · cases saved
    · rename_i checked
      exact ⟨by simpa [checked_by_save] using checked, saved⟩
  | confirmed_region display_id region source =>
    simp only [save_display_confirmed_region] at saved
    split at saved
    · cases saved
    · rename_i checked
      exact ⟨by simpa [checked_by_save] using checked, saved⟩
  | snap_to_windows enabled => exact ⟨rfl, saved⟩
  | region_zoom mode => exact ⟨rfl, saved⟩

/-- When a save, made with this state on disk, leaves one that can be read: the values saved
pass the checks, and, where there is no state file yet, so does the `[ui]` section carried
over, apart from what the save writes over. -/
def Meets (T : TomlCodec F Text) (store : UiStateStore) (files : StateFiles Text)
    (next : Save F) (io : SaveIo) : Prop :=
  ValuesOk next ∧
    (files.state = none → RestOk next (migrated_state T store io files.config).displays)

/-- A file of the right version is accepted exactly where its displays are valid. -/
theorem accepted_text {files : StateFiles Text} {text : Text} {state : UiState F}
    (parsed : T.from_str text = .ok state)
    (version : state.schema_version = STATE_SCHEMA_VERSION) :
    Accepted T { files with state := some text } ↔ DisplaysOk state.displays := by
  unfold Accepted
  simp only [read_state_eq_ok]
  constructor
  · rintro ⟨_, -, ⟨none_eq, -⟩ | ⟨text', state', text_eq, parsed', -, ok, -⟩⟩
    · cases none_eq
    · cases text_eq
      rw [parsed] at parsed'
      cases parsed'
      exact ok
  · intro ok
    exact ⟨some state, rfl, .inr ⟨text, state, rfl, parsed, version, ok, rfl⟩⟩

/-- **One save**: the file it leaves is accepted exactly when it meets the conditions. -/
theorem save_accepted_iff {io : SaveIo} {next : Save F} {files files' : StateFiles Text}
    (saved : save T store io files next = .ok files') :
    Accepted T files' ↔ Meets T store files next io := by
  obtain ⟨checked, updated⟩ := save_eq_ok saved
  obtain ⟨found, text, read, serialized, rfl⟩ := update_eq_ok updated
  have parsed := T.round_trip _ _ serialized
  obtain ⟨-, ⟨absent, rfl⟩ | ⟨text', state, present, -, version, ok, rfl⟩⟩ :=
    read_state_eq_ok.mp read
  · have version := schema_version_state_after next (migrated_state T store io files.config)
    rw [schema_version_migrated] at version
    rw [accepted_text parsed version]
    exact (state_after_ok _ checked).trans (and_congr_right fun _ => ⟨fun rest _ => rest,
      fun rest => rest absent⟩)
  · have version' := (schema_version_state_after next state).trans version
    rw [accepted_text parsed version']
    refine (state_after_ok _ checked).trans (and_congr_right fun _ => ⟨?_, ?_⟩)
    · intro _ absent
      rw [present] at absent
      cases absent
    · intro _
      exact rest_ok_of_displays_ok ok

/-- **For ever**: with a state file that is not accepted, no save succeeds any more. -/
theorem accepted_of_save {io : SaveIo} {next : Save F} {files files' : StateFiles Text}
    (saved : save T store io files next = .ok files') : Accepted T files := by
  obtain ⟨-, updated⟩ := save_eq_ok saved
  obtain ⟨found, text, read, -, -⟩ := update_eq_ok updated
  obtain ⟨-, how⟩ := read_state_eq_ok.mp read
  exact ⟨found, read_state_eq_ok.mpr ⟨rfl, how⟩⟩

/-- Every save of a run meets the conditions, on the files it is made with. -/
def MeetsEach (T : TomlCodec F Text) (store : UiStateStore) :
    StateFiles Text → List (Save F × SaveIo) → Prop
  | _, [] => True
  | files, (next, io) :: rest =>
    Meets T store files next io ∧
      ∀ files', save T store io files next = .ok files' → MeetsEach T store files' rest

/-- **Any sequence of saves** that all succeed, from a state file that is accepted or absent,
leaves a state file that is accepted exactly when each of them meets its conditions.
SRC: ui_state.rs:265-438, lib.rs:697-796 -/
theorem saves_accepted_iff (T : TomlCodec F Text) (store : UiStateStore)
    (saves : List (Save F × SaveIo)) (files files' : StateFiles Text) (start : Accepted T files)
    (ran : save_each T store files saves = .ok files') :
    Accepted T files' ↔ MeetsEach T store files saves := by
  induction saves generalizing files with
  | nil =>
    cases ran
    exact ⟨fun _ => trivial, fun _ => start⟩
  | cons first rest ih =>
    obtain ⟨next, io⟩ := first
    simp only [save_each] at ran
    cases saved : save T store io files next with
    | error error => simp [saved] at ran
    | ok between =>
      simp only [saved] at ran
      have one := save_accepted_iff saved
      constructor
      · intro accepted
        have start' : Accepted T between := by
          cases rest with
          | nil => cases ran; exact accepted
          | cons second rest =>
            obtain ⟨next', io'⟩ := second
            simp only [save_each] at ran
            split at ran
            · cases ran
            · rename_i saved'
              exact accepted_of_save saved'
        refine ⟨one.mp start', ?_⟩
        intro files'' saved'
        rw [saved] at saved'
        cases saved'
        exact (ih between start' ran).mp accepted
      · rintro ⟨meets, others⟩
        exact (ih between (one.mpr meets) ran).mpr (others between saved)

end Files

/-! ## Two first saves -/

/-- Coordinates as fractions. -/
instance : Coordinate ℚ where
  is_finite _ := true
  in_unit_range x := decide (0 ≤ x ∧ x ≤ 1)

/-- A codec that keeps states as they are, and finds no `[ui]` section. -/
def kept_as_is : TomlCodec ℚ (UiState ℚ) where
  to_string_pretty state := .ok state
  from_str state := .ok state
  legacy_ui_section _ := none
  round_trip state text serialized := by rw [Except.ok.inj serialized]

/-- A store whose files do not exist yet. -/
def new_store : UiStateStore := ⟨some "state.toml", none⟩

def no_files : StateFiles (UiState ℚ) := ⟨none, none⟩

def a_region : CaptureRegion :=
  ⟨⟨0, in_i32_zero⟩, ⟨0, in_i32_zero⟩, ⟨16, by decide⟩, ⟨9, by decide⟩⟩

/-- A display turned by this many degrees. -/
def turned (rotation_degrees : UInt16) : CaptureRegionSource :=
  ⟨⟨1600, by decide⟩, ⟨900, by decide⟩, rotation_degrees⟩

/-- A region remembered on it. -/
def remember (rotation_degrees : UInt16) : Save ℚ :=
  .interaction_state "display-1" .Region (some a_region) (some (turned rotation_degrees))

/-- Where there are no files the rest is valid. -/
theorem no_files_rest_ok {next : Save ℚ} :
    RestOk next
      (migrated_state kept_as_is new_store no_failure no_files.config : UiState ℚ).displays := by
  intro display_id display found
  have found : (∅ : Displays ℚ)[display_id]? = some display := found
  simp at found

/-- From no files at all, a region remembered on an upright display leaves a state file that
is accepted. -/
theorem upright_region_accepted :
    ∃ files', save_each kept_as_is new_store no_files [(remember 0, no_failure)] = .ok files' ∧
      Accepted kept_as_is files' := by
  refine ⟨_, rfl, ?_⟩
  refine (saves_accepted_iff kept_as_is new_store [(remember 0, no_failure)] no_files _
    ⟨none, rfl⟩ rfl).mpr ?_
  refine ⟨⟨⟨by decide, ?_⟩, fun _ => no_files_rest_ok⟩, fun _ _ => trivial⟩
  rintro _ _ - ⟨⟩
  decide

/-- Remembered on a display turned by 45 degrees, it is saved, and the file it leaves is not
accepted: the save does not check the rotation. -/
theorem turned_region_not_accepted :
    ¬ ∀ (saves : List (Save ℚ × SaveIo)) (files files' : StateFiles (UiState ℚ)),
      Accepted kept_as_is files → save_each kept_as_is new_store files saves = .ok files' →
        Accepted kept_as_is files' := by
  intro accepted
  have bad := accepted [(remember 45, no_failure)] no_files _ ⟨none, rfl⟩ rfl
  have saved : save kept_as_is new_store no_failure no_files (remember 45) = .ok _ := rfl
  have meets := (save_accepted_iff saved).mp bad
  have turn := meets.1.2 a_region (turned 45) rfl rfl
  revert turn
  decide

end Captastic.Analysis
