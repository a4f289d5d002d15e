import Captastic.Model.Display
import Captastic.Model.Edit

/-!
# Remembered UI state

`captastic-config/src/ui_state.rs`, with `validate_display_entries` of `lib.rs`: the file
Captastic remembers its windows in, the saves that change it, and the checks a later read
makes.

The toml crate is a parameter, `TomlCodec`: what it makes of a state is some `Text`, which
it reads back as that state.  An `f64` is a type with the two questions the checks ask of
it.  A save's outcomes at the operating system are its `SaveIo`; the lock and the atomic
write are modelled on their own.
-/

set_option autoImplicit false

namespace Captastic.Model

/-- SRC: lib.rs:1307-1339 -/
inductive ConfigError where
  | HomeDirectoryUnavailable
  | Read (path source : String)
  | Parse (message : String)
  | Edit (message : String)
  | Serialize (message : String)
  | Write (path source : String)
  | UnsupportedSchema (version : Nat)
  | InvalidValue (message : String)
deriving DecidableEq, Repr

/-- What the checks of overlay centers ask of an `f64`: `is_finite` and
`(0.0..=1.0).contains`. -/
class Coordinate (F : Type) where
  is_finite : F → Bool
  in_unit_range : F → Bool

/-! ## The state -/

/-- SRC: lib.rs:326-332 -/
inductive CaptureTool where
  | FullDisplay
  | Window
  | Region
deriving DecidableEq, Repr

/-- SRC: lib.rs:375-386 -/
inductive RegionZoom where
  | Auto
  | Key
  | Off
deriving DecidableEq, Repr

/-- SRC: lib.rs:334-341 -/
structure CaptureRegion where
  x : I32
  y : I32
  width : U32
  height : U32
deriving DecidableEq

/-- SRC: lib.rs:343-349 -/
structure CaptureRegionSource where
  width : U32
  height : U32
  rotation_degrees : UInt16
deriving DecidableEq

/-- SRC: lib.rs:1272-1293 -/
structure DisplayUiConfig (F : Type) where
  overlay_center_x : Option F
  overlay_center_y : Option F
  overlay_x : Option I32
  overlay_y : Option I32
  last_capture_tool : Option CaptureTool
  last_region : Option CaptureRegion
  last_region_source : Option CaptureRegionSource
  last_confirmed_region : Option CaptureRegion
  last_confirmed_region_source : Option CaptureRegionSource

/-- `DisplayUiConfig::default()` -/
def DisplayUiConfig.empty {F : Type} : DisplayUiConfig F :=
  ⟨none, none, none, none, none, none, none, none, none⟩

/-- The displays' entries, in the order of their names. -/
abbrev Displays (F : Type) := Std.ExtTreeMap String (DisplayUiConfig F) compare

/-- The `[ui]` section of a configuration.
SRC: lib.rs:1257-1270 -/
structure UiConfig (F : Type) where
  overlay_x : Option I32
  overlay_y : Option I32
  last_capture_tool : Option CaptureTool
  last_region : Option CaptureRegion
  displays : Displays F

/-- SRC: ui_state.rs:28 -/
def STATE_SCHEMA_VERSION : Nat := 1

/-- SRC: ui_state.rs:34-64 -/
structure UiState (F : Type) where
  schema_version : Nat
  overlay_x : Option I32
  overlay_y : Option I32
  last_capture_tool : Option CaptureTool
  last_region : Option CaptureRegion
  snap_to_windows : Option Bool
  region_zoom : Option RegionZoom
  displays : Displays F

namespace UiState

variable {F : Type}

/-- SRC: ui_state.rs:66-79 -/
def initial : UiState F := ⟨STATE_SCHEMA_VERSION, none, none, none, none, none, none, ∅⟩

/-- SRC: ui_state.rs:81-96 -/
def from_config_section (ui : UiConfig F) : UiState F where
  schema_version := STATE_SCHEMA_VERSION
  overlay_x := ui.overlay_x
  overlay_y := ui.overlay_y
  last_capture_tool := ui.last_capture_tool
  last_region := ui.last_region
  snap_to_windows := none
  region_zoom := none
  displays := ui.displays

/-- `display_mut`, with what is then done to the entry it finds or makes.
SRC: ui_state.rs:121-123 -/
def with_display (state : UiState F) (display_id : String)
    (change : DisplayUiConfig F → DisplayUiConfig F) : UiState F :=
  { state with
    displays := state.displays.alter display_id
      (fun display => some (change (display.getD DisplayUiConfig.empty))) }

end UiState

/-! ## What a read checks -/

/-- `width == 0 || height == 0` -/
def CaptureRegion.is_empty (region : CaptureRegion) : Bool :=
  region.width.val == 0 || region.height.val == 0

/-- `width == 0 || height == 0` -/
def CaptureRegionSource.is_empty (source : CaptureRegionSource) : Bool :=
  source.width.val == 0 || source.height.val == 0

/-- Whether a confirmed region is not one of its source's.
SRC: lib.rs:767-776 -/
def CaptureRegion.leaves (region : CaptureRegion) (source : CaptureRegionSource) : Bool :=
  let right := region.x.val + region.width.val
  let bottom := region.y.val + region.height.val
  decide (region.x.val < 0) || decide (region.y.val < 0) || region.is_empty || source.is_empty ||
    decide (right > source.width.val) || decide (bottom > source.height.val)

section Validation

variable {F : Type} [Coordinate F]

/-- `!x.is_finite() || !(0.0..=1.0).contains(&x)` -/
def outside_unit_range (x : F) : Bool := !Coordinate.is_finite x || !Coordinate.in_unit_range x

/-- A check that turns a value away. -/
def deny (found : Bool) (message : String) : Except ConfigError Unit :=
  if found then .error (.InvalidValue message) else .ok ()

/-- SRC: lib.rs:743-759 -/
def validate_region_source (display_id : String) (state : DisplayUiConfig F) :
    Except ConfigError Unit :=
  match state.last_region_source with
  | none => pure ()
  | some source => do
    deny source.is_empty
      s!"ui.displays.{display_id}.last_region_source dimensions must be greater than zero"
    deny (!is_quarter_turn source.rotation_degrees)
      s!"ui.displays.{display_id}.last_region_source rotation must be 0, 90, 180, or 270 degrees"
    deny state.last_region.isNone
      s!"ui.displays.{display_id}.last_region_source requires last_region"

/-- SRC: lib.rs:760-793 -/
def validate_confirmed_region (display_id : String) (state : DisplayUiConfig F) :
    Except ConfigError Unit :=
  match state.last_confirmed_region, state.last_confirmed_region_source with
  | some region, some source => do
    deny (region.leaves source)
      s!"ui.displays.{display_id}.last_confirmed_region must fit its source geometry"
    deny (!is_quarter_turn source.rotation_degrees)
      s!"ui.displays.{display_id}.last_confirmed_region_source rotation must be 0, 90, 180, or 270 degrees"
  | none, none => pure ()
  | _, _ =>
    deny true
      s!"ui.displays.{display_id} confirmed region and source must both be set or both be omitted"

/-- The checks of one display's entry.
SRC: lib.rs:706-794 -/
def validate_display_entry (display_id : String) (state : DisplayUiConfig F) :
    Except ConfigError Unit := do
  deny (is_blank display_id) "ui.displays keys must not be empty"
  deny (state.overlay_x.isSome != state.overlay_y.isSome)
    s!"ui.displays.{display_id}.overlay_x and overlay_y must either both be set or both be omitted"
  deny (state.overlay_center_x.isSome != state.overlay_center_y.isSome)
    s!"ui.displays.{display_id}.overlay_center_x and overlay_center_y must either both be set or both be omitted"
  deny (match state.overlay_center_x, state.overlay_center_y with
      | some x, some y => outside_unit_range x || outside_unit_range y
      | _, _ => false)
    s!"ui.displays.{display_id} overlay center coordinates must be finite values between 0 and 1"
  deny (state.last_region.any CaptureRegion.is_empty)
    s!"ui.displays.{display_id}.last_region width and height must be greater than zero"
  validate_region_source display_id state
  validate_confirmed_region display_id state

/-- SRC: lib.rs:697-796 -/
def validate_display_entries (displays : Displays F) : Except ConfigError Unit :=
  displays.toList.forM fun entry => validate_display_entry entry.1 entry.2

end Validation

/-! ## The store -/

/-- Serialization of a state, which a read of the text undoes, and of a configuration's
`[ui]` section. -/
structure TomlCodec (F Text : Type) where
  to_string_pretty : UiState F → Except String Text
  from_str : Text → Except String (UiState F)
  legacy_ui_section : Text → Option (UiConfig F)
  round_trip : ∀ state text, to_string_pretty state = .ok text → from_str text = .ok state

/-- The two files the store looks at: the state, and the configuration beside it. -/
structure StateFiles (Text : Type) where
  state : Option Text
  config : Option Text

/-- What the operating system does with a call: the errors of the directory's creation, of
the lock, of the read of either file and of the write. -/
structure SaveIo where
  create_dir_all : Option ConfigError
  acquire : Option ConfigError
  read : Option ConfigError
  config_readable : Bool
  write : Option ConfigError

/-- SRC: ui_state.rs:155-161 -/
structure UiStateStore where
  state_path : Option String
  config_path : Option String

/-- An error of the operating system, if there is one, ends the call. -/
def raise (error : Option ConfigError) : Except ConfigError Unit :=
  match error with
  | some error => .error error
  | none => .ok ()

section Store

variable {F Text : Type} [Coordinate F] (T : TomlCodec F Text) (store : UiStateStore)

/-- SRC: ui_state.rs:411-428 -/
def read_state (io : SaveIo) (file : Option Text) : Except ConfigError (Option (UiState F)) := do
  raise io.read
  match file with
  | none => .ok none
  | some text =>
    match T.from_str text with
    | .error message => .error (.Parse message)
    | .ok state =>
      if state.schema_version ≠ STATE_SCHEMA_VERSION then
        .error (.UnsupportedSchema state.schema_version)
      else
        (validate_display_entries state.displays).map fun _ => some state

/-- SRC: ui_state.rs:373-409 -/
def migrated_state (io : SaveIo) (config : Option Text) : UiState F :=
  if store.config_path.isNone || !io.config_readable then UiState.initial
  else
    match config.bind T.legacy_ui_section with
    | some ui => UiState.from_config_section ui
    | none => UiState.initial

/-- SRC: ui_state.rs:430-438 -/
def write_state (io : SaveIo) (state : UiState F) : Except ConfigError Text :=
  match T.to_string_pretty state with
  | .error message => .error (.Serialize message)
  | .ok text => do
    raise io.write
    .ok text

/-- SRC: ui_state.rs:217-221 -/
def required_state_path : Except ConfigError String :=
  match store.state_path with
  | some path => .ok path
  | none => .error .HomeDirectoryUnavailable

/-- SRC: ui_state.rs:249-255 -/
def load (io : SaveIo) (files : StateFiles Text) : Except ConfigError (UiState F) := do
  let _ ← required_state_path store
  let state ← read_state T io files.state
  .ok (state.getD (migrated_state T store io files.config))

/-- One read-modify-write cycle; an error leaves the files as they are.
SRC: ui_state.rs:348-368 -/
def update (io : SaveIo) (change : UiState F → UiState F) (files : StateFiles Text) :
    Except ConfigError (StateFiles Text) := do
  let _ ← required_state_path store
  raise io.create_dir_all
  raise io.acquire
  let state ← read_state T io files.state
  let text ← write_state T io (change (state.getD (migrated_state T store io files.config)))
  .ok { files with state := some text }

/-! ## The saves -/

/-- What a save does to its display's entry.
SRC: ui_state.rs:281-290 -/
def set_overlay_center (center_x center_y : F) (display : DisplayUiConfig F) :
    DisplayUiConfig F :=
  { display with
    overlay_center_x := some center_x
    overlay_center_y := some center_y
    overlay_x := none
    overlay_y := none }

/-- SRC: ui_state.rs:265-291 -/
def save_display_overlay_center (io : SaveIo) (display_id : String) (center_x center_y : F)
    (files : StateFiles Text) : Except ConfigError (StateFiles Text) :=
  if outside_unit_range center_x || outside_unit_range center_y then
    .error (.InvalidValue
      "display overlay center coordinates must be finite values between 0 and 1")
  else
    update T store io (fun state => state.with_display display_id
      (set_overlay_center center_x center_y)) files

/-- SRC: ui_state.rs:307-317 -/
def set_interaction (tool : CaptureTool) (region : Option CaptureRegion)
    (region_source : Option CaptureRegionSource) (display : DisplayUiConfig F) :
    DisplayUiConfig F :=
  let display := { display with last_capture_tool := some tool }
  match region with
  | some region => { display with last_region := some region, last_region_source := region_source }
  | none => display

/-- SRC: ui_state.rs:293-318 -/
def save_display_interaction_state (io : SaveIo) (display_id : String) (tool : CaptureTool)
    (region : Option CaptureRegion) (region_source : Option CaptureRegionSource)
    (files : StateFiles Text) : Except ConfigError (StateFiles Text) :=
  if region.any CaptureRegion.is_empty || region_source.any CaptureRegionSource.is_empty then
    .error (.InvalidValue "remembered capture regions must have nonzero dimensions")
  else
    update T store io (fun state => state.with_display display_id
      (set_interaction tool region region_source)) files

/-- SRC: ui_state.rs:320-323 -/
def save_snap_to_windows (io : SaveIo) (enabled : Bool) (files : StateFiles Text) :
    Except ConfigError (StateFiles Text) :=
  update T store io (fun state => { state with snap_to_windows := some enabled }) files

/-- SRC: ui_state.rs:325-328 -/
def save_region_zoom (io : SaveIo) (mode : RegionZoom) (files : StateFiles Text) :
    Except ConfigError (StateFiles Text) :=
  update T store io (fun state => { state with region_zoom := some mode }) files

/-- SRC: ui_state.rs:341-345 -/
def set_confirmed_region (region : CaptureRegion) (source : CaptureRegionSource)
    (display : DisplayUiConfig F) : DisplayUiConfig F :=
  { display with
    last_confirmed_region := some region
    last_confirmed_region_source := some source }

/-- SRC: ui_state.rs:330-346 -/
def save_display_confirmed_region (io : SaveIo) (display_id : String) (region : CaptureRegion)
    (source : CaptureRegionSource) (files : StateFiles Text) :
    Except ConfigError (StateFiles Text) :=
  if region.is_empty || source.is_empty then
    .error (.InvalidValue "confirmed capture regions must have nonzero dimensions")
  else
    update T store io (fun state => state.with_display display_id
      (set_confirmed_region region source)) files

end Store

/-- A call of one of the saves. -/
inductive Save (F : Type) where
  | overlay_center (display_id : String) (center_x center_y : F)
  | interaction_state (display_id : String) (tool : CaptureTool) (region : Option CaptureRegion)
      (region_source : Option CaptureRegionSource)
  | snap_to_windows (enabled : Bool)
  | region_zoom (mode : RegionZoom)
  | confirmed_region (display_id : String) (region : CaptureRegion) (source : CaptureRegionSource)

section Saves

variable {F Text : Type} [Coordinate F] (T : TomlCodec F Text) (store : UiStateStore)

/-- The call, with what the operating system does. -/
def save (io : SaveIo) (files : StateFiles Text) :
    Save F → Except ConfigError (StateFiles Text)
  | .overlay_center display_id center_x center_y =>
    save_display_overlay_center T store io display_id center_x center_y files
  | .interaction_state display_id tool region region_source =>
    save_display_interaction_state T store io display_id tool region region_source files
  | .snap_to_windows enabled => save_snap_to_windows T store io enabled files
  | .region_zoom mode => save_region_zoom T store io mode files
  | .confirmed_region display_id region source =>
    save_display_confirmed_region T store io display_id region source files

/-- Saves one after the other, as long as each succeeds. -/
def save_each : StateFiles Text → List (Save F × SaveIo) → Except ConfigError (StateFiles Text)
  | files, [] => .ok files
  | files, (next, io) :: rest =>
    match save T store io files next with
    | .error error => .error error
    | .ok files => save_each files rest

end Saves

end Captastic.Model
