import Captastic.Model.Edit
import Captastic.Model.Layout
import Captastic.Model.Recording
import Captastic.Model.Snap
import Captastic.Model.UiState

/-!
# The selection overlay

`captastic-windows/src/overlay/machine.rs`: what the overlay knows of the user's selection,
and how an input changes it and which effects the shell is to apply.  `transition` is `none`
where the code panics: where `i32` arithmetic overflows and where a `clamp` has its bounds
crossed.  Casts keep the low bits, as the code's do.

The shell (`overlay.rs`) builds the first model and turns messages into inputs; of it,
`open_overlay`, `screen_point` and what happens to the model when windows are destroyed are
here.  `CaptureTool` is the configuration's type, which the machine's own mirrors.
-/

set_option autoImplicit false

namespace Captastic.Model

/-- `u32` out of an `i64`, as a cast makes it. -/
def as_u32 (v : Int) : Nat := (v % 4294967296).toNat

/-- What `as_u32` returns is a `u32`. -/
theorem as_u32_range (v : Int) : InU32 (as_u32 v) := by
  unfold InU32 as_u32
  omega

/-- It leaves what is one already. -/
theorem as_u32_of_range {v : Int} (least : 0 ≤ v) (most : v ≤ 4294967295) :
    (as_u32 v : Int) = v := by
  unfold as_u32
  omega

namespace Rect

/-- `Rect { x: left as i32, y: top as i32, width: width as u32, height: height as u32 }` -/
def of_casts (left top width height : Int) : Rect where
  x := as_i32 left
  y := as_i32 top
  width := as_u32 width
  height := as_u32 height
  x_i32 := as_i32_range left
  y_i32 := as_i32_range top
  width_u32 := as_u32_range width
  height_u32 := as_u32_range height

variable (r bounds : Rect)

/-- SRC: display.rs:133-135 -/
def clamp_to_i32 (value : Int) : Int := max (-2147483648) (min value 2147483647)

/-- What `clamp_to_i32` returns is an `i32`. -/
theorem in_i32_clamp_to_i32 (value : Int) : InI32 (clamp_to_i32 value) := by
  unfold InI32 clamp_to_i32
  omega

/-- SRC: display.rs:69-80 -/
def clamp_within : Option Rect := do
  let width := min r.width bounds.width
  let height := min r.height bounds.height
  let x ← clamp r.x bounds.x (max (bounds.right - width) bounds.x)
  let y ← clamp r.y bounds.y (max (bounds.bottom - height) bounds.y)
  some
    { x := clamp_to_i32 x, y := clamp_to_i32 y, width, height
      x_i32 := in_i32_clamp_to_i32 x, y_i32 := in_i32_clamp_to_i32 y
      width_u32 := Nat.le_trans (Nat.min_le_left _ _) r.width_u32
      height_u32 := Nat.le_trans (Nat.min_le_left _ _) r.height_u32 }

/-- SRC: display.rs:84-91 -/
def translated (dx dy : Int) : Rect where
  x := clamp_to_i32 (r.x + dx)
  y := clamp_to_i32 (r.y + dy)
  width := r.width
  height := r.height
  x_i32 := in_i32_clamp_to_i32 (r.x + dx)
  y_i32 := in_i32_clamp_to_i32 (r.y + dy)
  width_u32 := r.width_u32
  height_u32 := r.height_u32

end Rect

/-! ## The model -/

/-- SRC: machine.rs:19 -/
def DRAG_THRESHOLD : Int := 4

/-- SRC: machine.rs:20 -/
def MIN_REGION_SIZE : Int := 8

/-- SRC: machine.rs:34-60 -/
def LOUPE_SLOW_DIP_PER_SECOND : Int := 150
def LOUPE_FAST_DIP_PER_SECOND : Int := 600
def LOUPE_SLOW_SUSTAIN_MS : Nat := 120
def LOUPE_MIN_SAMPLE_MS : Nat := 8

/-- SRC: overlay.rs:214 -/
abbrev NativeWindowHandle := Int

/-- SRC: window_enumeration.rs:35-38 -/
structure WindowCandidate where
  handle : NativeWindowHandle
  frame : Rect
deriving DecidableEq

/-- SRC: overlay.rs:137-141 -/
inductive SelectionKind where
  | Display
  | Region
  | Window
deriving DecidableEq, Repr

/-- SRC: overlay.rs:145-154 -/
inductive ConfirmIntent where
  | Capture
  | Pin
  | Edit
  | Record
deriving DecidableEq, Repr

/-- SRC: overlay.rs:170-176 -/
inductive PreviewView where
  | Live
  | Frozen
deriving DecidableEq, Repr

/-- SRC: machine.rs:71-77 -/
def CaptureTool.from_selection_kind : SelectionKind → CaptureTool
  | .Display => .FullDisplay
  | .Region => .Region
  | .Window => .Window

/-- SRC: machine.rs:108-112 -/
structure ResizeDrag where
  handle : ResizeHandle
  original : Rect
deriving DecidableEq

/-- SRC: machine.rs:114-118 -/
structure MoveDrag where
  original : Rect
  pointer_origin : Point
deriving DecidableEq

/-- SRC: machine.rs:120-130 -/
inductive LoupeMode where
  | Auto
  | Key
  | Off
deriving DecidableEq, Repr

/-- SRC: machine.rs:135-141 -/
def LoupeMode.next : LoupeMode → LoupeMode
  | .Auto => .Key
  | .Key => .Off
  | .Off => .Auto

/-- SRC: machine.rs:174-185 -/
structure LoupeState where
  mode : LoupeMode
  key_held : Bool
  auto_visible : Bool
  last_sample : Option (Point × UInt32)
  slow_since : Option UInt32
deriving DecidableEq

namespace LoupeState

/-- SRC: machine.rs:189-194 -/
def new (mode : LoupeMode) : LoupeState := ⟨mode, false, false, none, none⟩

/-- SRC: machine.rs:201-205 -/
def forget_motion (loupe : LoupeState) : LoupeState :=
  { loupe with last_sample := none, slow_since := none, auto_visible := false }

/-- The speed tracking after a sample that took long enough to measure.
SRC: machine.rs:1171-1189 -/
def measured (loupe : LoupeState) (point : Point) (time_ms : UInt32)
    (speed slow fast : Int) : LoupeState :=
  let loupe := { loupe with last_sample := some (point, time_ms) }
  if speed > fast then { loupe with auto_visible := false, slow_since := none }
  else if speed < slow then
    match loupe.slow_since with
    | some since =>
      if (time_ms - since).toNat ≥ LOUPE_SLOW_SUSTAIN_MS then { loupe with auto_visible := true }
      else loupe
    | none => { loupe with slow_since := some time_ms }
  else loupe

end LoupeState

/-- SRC: machine.rs:208-211 -/
structure ToolbarDrag where
  pointer_offset : Point
deriving DecidableEq, Repr

/-- SRC: machine.rs:218-286 -/
structure OverlayModel where
  source : Rect
  display_environment : DisplayEnvironment
  view : PreviewView
  initial_view : PreviewView
  view_toggle_available : Bool
  tool : CaptureTool
  selection : Option Rect
  selection_kind : Option SelectionKind
  selected_window : Option NativeWindowHandle
  anchor : Option Point
  dragging : Bool
  resizing : Option ResizeDrag
  moving_region : Option MoveDrag
  hovered_handle : Option ResizeHandle
  last_region : Option Rect
  toolbar_position : Point
  toolbar_drag : Option ToolbarDrag
  options_open : Bool
  dim_background : Bool
  file_output_enabled : Bool
  file_output_switchable : Bool
  pin_available : Bool
  edit_available : Bool
  record_format : Option RecordingFormat
  record_armed : Bool
  hovered_control : Option ToolbarControl
  pointer_local : Option Point
  hovered : Option WindowCandidate
  snap_to_windows : Bool
  snap_targets : Option SnapTargets
  loupe : LoupeState
  active_snaps : ActiveSnaps

/-- SRC: machine.rs:371-377 -/
structure Modifiers where
  ctrl : Bool
  shift : Bool
deriving DecidableEq, Repr

/-- SRC: machine.rs:1306-1314 -/
def confirm_intent (held : Modifiers) : ConfirmIntent :=
  if held.ctrl then .Edit else if held.shift then .Pin else .Capture

/-- SRC: machine.rs:296-363 -/
inductive OverlayInput where
  | PointerMoved (point : Point) (window_hover : Option WindowCandidate) (modifiers : Modifiers)
      (time_ms : UInt32)
  | PointerDown (point : Point) (window_slot : Option NativeWindowHandle) (time_ms : UInt32)
      (modifiers : Modifiers)
  | PointerUp (point : Point) (modifiers : Modifiers)
  | DoubleClicked (point : Point) (modifiers : Modifiers)
  | PointerCaptureLost
  | WindowPreviewResolved (rect : Option Rect) (intent : ConfirmIntent)
  | SnapTargetsReady (targets : SnapTargets)
  | LoupeKeyChanged (held : Bool)
  | Tick (time_ms : UInt32)
  | ToggleView
  | Nudge (dx dy : Int) (resize : Bool)
  | ConfirmRequested (intent : ConfirmIntent)
  | CancelRequested
  | DisplayConfigurationInvalidated (reason : String)
deriving DecidableEq

/-- SRC: machine.rs:391-398 -/
inductive CursorIntent where
  | Arrow
  | Move
  | Crosshair
  | Resize (handle : ResizeHandle)
deriving DecidableEq, Repr

/-- SRC: machine.rs:402-415 -/
inductive CloseOutcome where
  | Confirmed (rect : Rect) (kind : SelectionKind) (window : Option NativeWindowHandle)
      (intent : ConfirmIntent)
  | Cancelled
  | DisplayConfigurationInvalidated (reason : String)
deriving DecidableEq

/-- SRC: machine.rs:420-483 -/
inductive OverlayEffect where
  | SetCursor (intent : CursorIntent)
  | Invalidate
  | CapturePointer
  | ReleasePointer
  | ClearDimensionLabel
  | ClearSelectedWindowFrame
  | RefreshWindowChrome
  | ClearLiveThumbnails
  | HideLiveThumbnails
  | RebuildOverviewCache
  | BuildWindowOverview
  | BuildSnapTargets
  | UpdateWindowPreview (window : Option NativeWindowHandle)
  | PersistToolbarCenter (position : Point)
  | PersistInteraction (region : Option Rect)
  | PersistSnapPreference (enabled : Bool)
  | PersistRegionZoom (mode : LoupeMode)
  | RequestRecordingFormat (format : RecordingFormat)
  | RequestFileOutput (enabled : Bool)
  | Close (outcome : CloseOutcome)
deriving DecidableEq

/-- What a handler leaves: the model, and the effects to apply. -/
abbrev Handled := OverlayModel × List OverlayEffect

/-! ## Rectangles and points -/

/-- SRC: machine.rs:1379-1384 -/
def local_point (source : Rect) (point : Point) : Point :=
  ⟨saturating_sub_i32 point.x source.x, saturating_sub_i32 point.y source.y⟩

/-- SRC: machine.rs:1403-1416 -/
def default_region_for_source (source : Rect) : Option Rect := do
  let width := max (source.width / 2) 1
  let height := max (source.height / 2) 1
  let across ← if width ≤ source.width then some (source.width - width) else none
  let down ← if height ≤ source.height then some (source.height - height) else none
  let x := saturating_add_i32 source.x (min (across / 2) 2147483647 : Nat)
  let y := saturating_add_i32 source.y (min (down / 2) 2147483647 : Nat)
  some (.of_casts x y width height)

/-- The region a run starts from under the Region tool.
SRC: machine.rs:1394-1396 -/
def initial_region (last_region : Option Rect) (source : Rect) : Option Rect :=
  match last_region with
  | some region => region.clamp_within source
  | none => default_region_for_source source

/-- SRC: machine.rs:1386-1401 -/
def initial_selection (tool : CaptureTool) (last_region : Option Rect) (source : Rect) :
    Option (Option Rect × Option SelectionKind) :=
  match tool with
  | .FullDisplay => some (some source, some .Display)
  | .Window => some (none, none)
  | .Region => do
    let region ← initial_region last_region source
    some (some region, some .Region)

/-- SRC: machine.rs:1422-1433 -/
def latest_interaction_region (tool : CaptureTool) (selection : Option Rect)
    (selection_kind : Option SelectionKind) (last_region : Option Rect) : Option Rect :=
  if tool = .Region ∧ selection_kind = some .Region then selection.or last_region
  else last_region

/-- SRC: machine.rs:1435-1448 -/
def rect_from_points (source : Rect) (first second : Point) : Option (Option Rect) := do
  let left ← clamp (min first.x second.x) source.x source.right
  let top ← clamp (min first.y second.y) source.y source.bottom
  let right ← clamp (max first.x second.x) source.x source.right
  let bottom ← clamp (max first.y second.y) source.y source.bottom
  if right > left ∧ bottom > top then some (some (.of_casts left top (right - left) (bottom - top)))
  else some none

/-- SRC: machine.rs:1459-1494 -/
def hit_test_resize_handle (rect : Rect) (point : Point) (metrics : UiMetrics) :
    Option ResizeHandle :=
  let radius := metrics.px 9
  let near_left : Bool := abs_i64 (point.x - rect.x) ≤ radius
  let near_right : Bool := abs_i64 (point.x - rect.right) ≤ radius
  let near_top : Bool := abs_i64 (point.y - rect.y) ≤ radius
  let near_bottom : Bool := abs_i64 (point.y - rect.bottom) ≤ radius
  let between_sides : Bool := rect.x ≤ point.x ∧ point.x ≤ rect.right
  let between_ends : Bool := rect.y ≤ point.y ∧ point.y ≤ rect.bottom
  if near_left && near_top then some .NorthWest
  else if near_right && near_top then some .NorthEast
  else if near_right && near_bottom then some .SouthEast
  else if near_left && near_bottom then some .SouthWest
  else if near_top && between_sides then some .North
  else if near_right && between_ends then some .East
  else if near_bottom && between_sides then some .South
  else if near_left && between_ends then some .West
  else none

/-- The edges of one axis after a resize: the leading one moved if the handle moves it, then
the trailing one.
SRC: machine.rs:1512-1541 -/
def resize_axis (leads trails : Bool) (pointer first last low high : Int) :
    Option (Int × Int) := do
  let first ← if leads then clamp pointer low (max (last - MIN_REGION_SIZE) low) else some first
  let last ← if trails then clamp pointer (min (first + MIN_REGION_SIZE) high) high else some last
  some (first, last)

/-- SRC: machine.rs:1496-1548 -/
def resize_region (original : Rect) (handle : ResizeHandle) (point : Point) (source : Rect) :
    Option Rect := do
  let (left, right) ← resize_axis
    (decide (handle = .NorthWest ∨ handle = .West ∨ handle = .SouthWest))
    (decide (handle = .NorthEast ∨ handle = .East ∨ handle = .SouthEast))
    point.x original.x original.right source.x source.right
  let (top, bottom) ← resize_axis
    (decide (handle = .NorthWest ∨ handle = .North ∨ handle = .NorthEast))
    (decide (handle = .SouthWest ∨ handle = .South ∨ handle = .SouthEast))
    point.y original.y original.bottom source.y source.bottom
  some (.of_casts left top (right - left) (bottom - top))

/-- SRC: machine.rs:1550-1568 -/
def move_region (original : Rect) (pointer_origin point : Point) (source : Rect) :
    Option Rect := do
  let delta_x := point.x - pointer_origin.x
  let delta_y := point.y - pointer_origin.y
  let x ← clamp (original.x + delta_x) source.x (source.x + (source.width - original.width : Nat))
  let y ← clamp (original.y + delta_y) source.y (source.y + (source.height - original.height : Nat))
  some (.of_casts x y original.width original.height)

/-- SRC: machine.rs:1230-1241 -/
def resize_region_by (region : Rect) (dx dy : Int) (source : Rect) : Option Rect := do
  let minimum_right := min (region.x + MIN_REGION_SIZE) source.right
  let minimum_bottom := min (region.y + MIN_REGION_SIZE) source.bottom
  let right ← clamp (region.right + dx) minimum_right source.right
  let bottom ← clamp (region.bottom + dy) minimum_bottom source.bottom
  some ((Rect.from_edges region.x region.y right bottom).getD region)

/-- SRC: machine.rs:1586-1591 -/
def as_point (x y : Int) : Point := ⟨Rect.clamp_to_i32 x, Rect.clamp_to_i32 y⟩

namespace OverlayModel

variable (model : OverlayModel)

/-! ## Snapping -/

/-- SRC: machine.rs:1571-1573 -/
def snap_threshold : Int := model.display_environment.metrics.px SNAP_THRESHOLD_DIP

/-- SRC: machine.rs:1580-1584 -/
def active_targets (modifiers : Modifiers) : Option SnapTargets :=
  if model.snap_to_windows && !modifiers.ctrl then model.snap_targets else none

/-- SRC: machine.rs:1594-1605 -/
def snap_anchor (anchor : Point) (modifiers : Modifiers) : Point :=
  match model.active_targets modifiers with
  | none => anchor
  | some targets =>
    let ((x, y), _) := snap_point anchor.x anchor.y targets model.snap_threshold
    as_point x y

/-- The moving corner of one axis and the edge it is on: an edge the fixed corner is on
already is not snapped onto.
SRC: machine.rs:1634-1650 -/
def free_corner (hit : Option SnapHit) (fixed pointer : Int) : Int × Option SnapHit :=
  match hit with
  | none => (pointer, none)
  | some hit => if hit.position = fixed then (pointer, none) else (hit.position, some hit)

/-- SRC: machine.rs:1614-1664 -/
def rect_from_points_snapped (anchor pointer : Point) (modifiers : Modifiers) :
    Option (Option Rect × ActiveSnaps) := do
  match model.active_targets modifiers with
  | none =>
    let rect ← rect_from_points model.source anchor pointer
    some (rect, NO_SNAPS)
  | some targets =>
    let threshold := model.snap_threshold
    let (_, anchor_hits) := snap_point anchor.x anchor.y targets threshold
    let (_, pointer_hits) := snap_point pointer.x pointer.y targets threshold
    let (x, across) := free_corner pointer_hits.1 anchor.x pointer.x
    let (y, down) := free_corner pointer_hits.2 anchor.y pointer.y
    let rect ← rect_from_points model.source anchor (as_point x y)
    let guides := (across.or anchor_hits.1, down.or anchor_hits.2)
    match rect with
    | some rect => some (some rect, guides_for rect guides)
    | none => some (none, NO_SNAPS)

/-- The pointer's coordinate on one axis, with the edge it was pulled onto if the handle
moves that axis.
SRC: machine.rs:1686-1695 -/
def snapped_axis (targets : SnapTargets) (mask : EdgeMask) (axis : SnapAxis) (pointer : Int) :
    Int × Option SnapHit :=
  let hit := if mask.covers axis then snap_coordinate pointer targets axis model.snap_threshold
    else none
  ((hit.map SnapHit.position).getD pointer, hit)

/-- SRC: machine.rs:1672-1704 -/
def resize_region_snapped (resize : ResizeDrag) (pointer : Point) (modifiers : Modifiers) :
    Option (Rect × ActiveSnaps) := do
  match model.active_targets modifiers with
  | none =>
    let rect ← resize_region resize.original resize.handle pointer model.source
    some (rect, NO_SNAPS)
  | some targets =>
    let mask := EdgeMask.for_handle resize.handle
    let (x, across) := model.snapped_axis targets mask .X pointer.x
    let (y, down) := model.snapped_axis targets mask .Y pointer.y
    let rect ← resize_region resize.original resize.handle (as_point x y) model.source
    some (rect, guides_for rect (across, down))

/-- SRC: machine.rs:1707-1736 -/
def move_region_snapped (moving : MoveDrag) (pointer : Point) (modifiers : Modifiers) :
    Option (Rect × ActiveSnaps) := do
  let moved ← move_region moving.original moving.pointer_origin pointer model.source
  match model.active_targets modifiers with
  | none => some (moved, NO_SNAPS)
  | some targets =>
    let (across, down) := snap_translation (.of moved) targets model.snap_threshold
    let translated := moved.translated ((across.map Prod.fst).getD 0) ((down.map Prod.fst).getD 0)
    let snapped ← translated.clamp_within model.source
    some (snapped, guides_for snapped (across.map Prod.snd, down.map Prod.snd))

end OverlayModel

end Captastic.Model
