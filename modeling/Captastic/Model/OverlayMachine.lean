import Captastic.Model.Overlay

/-!
# The overlay's handlers

`transition` of `captastic-windows/src/overlay/machine.rs` and its handlers, and of the
shell around it (`overlay.rs`, `overlay/shell.rs`) the model a run opens with, the points
that mouse messages carry, and what happens to the model when windows are destroyed.
-/

set_option autoImplicit false

namespace Captastic.Model

namespace OverlayModel

variable (model : OverlayModel)

/-! ## The magnifier -/

/-- SRC: machine.rs:1061-1063 -/
def region_drag_active : Bool :=
  model.resizing.isSome || model.moving_region.isSome || model.anchor.isSome

/-- SRC: machine.rs:1070-1084 -/
def loupe_visible : Bool :=
  if model.tool ≠ .Region ∨ model.loupe.mode = .Off ∨ model.pointer_local.isNone ∨
      model.hovered_control.isSome then false
  else model.loupe.key_held ||
    (decide (model.loupe.mode = .Auto) && model.loupe.auto_visible && model.region_drag_active)

/-- SRC: machine.rs:1096-1106 -/
def loupe_key_changed (held : Bool) : Handled :=
  if model.loupe.key_held = held then (model, [])
  else
    let was_visible := model.loupe_visible
    let changed := { model with loupe := { model.loupe with key_held := held } }
    (changed, if changed.loupe_visible = was_visible then [] else [.Invalidate])

/-- SRC: machine.rs:1138-1189 -/
def observe_pointer_motion (point : Point) (time_ms : UInt32) : Option OverlayModel := do
  let metrics := model.display_environment.metrics
  let slow := metrics.px LOUPE_SLOW_DIP_PER_SECOND
  let fast := metrics.px LOUPE_FAST_DIP_PER_SECOND
  match model.loupe.last_sample with
  | none => some { model with loupe := { model.loupe with last_sample := some (point, time_ms) } }
  | some (previous_point, previous_time) =>
    let elapsed := (time_ms - previous_time).toNat
    if elapsed < LOUPE_MIN_SAMPLE_MS then some model
    else
      let across ← i32 (abs_i64 (saturating_sub_i32 point.x previous_point.x))
      let down ← i32 (abs_i64 (saturating_sub_i32 point.y previous_point.y))
      let speed := max across down * 1000 / elapsed
      some { model with loupe := model.loupe.measured point time_ms speed slow fast }

/-- SRC: machine.rs:1110-1129 -/
def loupe_tick (time_ms : UInt32) : Option Handled := do
  match model.loupe.last_sample with
  | none =>
    let point := match model.pointer_local with
      | none => ⟨0, 0⟩
      | some pointer => ⟨saturating_add_i32 pointer.x model.source.x,
          saturating_add_i32 pointer.y model.source.y⟩
    some ({ model with loupe := { model.loupe with last_sample := some (point, time_ms) } }, [])
  | some (point, _) =>
    let was_visible := model.loupe_visible
    let observed ← model.observe_pointer_motion point time_ms
    some (observed, if observed.loupe_visible = was_visible then [] else [.Invalidate])

/-! ## Ending a run -/

/-- SRC: machine.rs:1361-1370 -/
def persist_interaction : Handled :=
  let region := latest_interaction_region model.tool model.selection model.selection_kind
    model.last_region
  ({ model with last_region := region }, [.PersistInteraction region])

/-- Whether this run offers the intent.
SRC: machine.rs:1335-1340 -/
def offers : ConfirmIntent → Bool
  | .Capture => true
  | .Pin => model.pin_available
  | .Edit => model.edit_available
  | .Record => model.record_format.isSome

/-- The debug assertion that the tool is the kind's is left out: a release does not make it.
SRC: machine.rs:1329-1353 -/
def confirm (intent : ConfirmIntent) : Handled :=
  match model.selection, model.selection_kind with
  | some rect, some kind =>
    if !model.offers intent then (model, [])
    else
      let (model, effects) := model.persist_interaction
      (model, effects ++ [.Close (.Confirmed rect kind model.selected_window intent)])
  | _, _ => (model, [])

/-- SRC: machine.rs:1320-1327 -/
def confirm_or_capture (intent : ConfirmIntent) : Handled :=
  let (confirmed, effects) := model.confirm intent
  if effects.isEmpty ∧ intent ≠ .Capture then confirmed.confirm .Capture
  else (confirmed, effects)

/-- SRC: machine.rs:1355-1359 -/
def cancel : Handled :=
  let (model, effects) := model.persist_interaction
  (model, effects ++ [.Close .Cancelled])

/-! ## The handlers -/

/-- SRC: machine.rs:745-748 -/
def request_snap_targets : List OverlayEffect :=
  if model.snap_to_windows ∧ model.tool = .Region ∧ model.snap_targets.isNone then
    [.BuildSnapTargets]
  else []

/-- SRC: machine.rs:1039-1041 -/
def view_toggle_enabled : Bool := model.view_toggle_available && decide (model.tool ≠ .Window)

/-- SRC: machine.rs:1047-1058 -/
def toggle_view : Handled :=
  if !model.view_toggle_enabled then (model, [])
  else
    let view := match model.view with
      | .Live => .Frozen
      | .Frozen => .Live
    ({ model with view }, [.Invalidate])

/-- SRC: machine.rs:904-950 -/
def activate_tool (tool : CaptureTool) : Option Handled := do
  let tool_changed := model.tool ≠ tool
  let model := { model with
    anchor := none, dragging := false, resizing := none, moving_region := none
    active_snaps := NO_SNAPS, loupe := model.loupe.forget_motion, record_armed := false }
  let (model, cleared) : Handled :=
    if tool_changed then
      ({ model with
          last_region := latest_interaction_region model.tool model.selection
            model.selection_kind model.last_region
          selection := none, selection_kind := none, selected_window := none
          hovered_handle := none, hovered := none },
        [.ClearDimensionLabel, .ClearSelectedWindowFrame])
    else (model, [])
  let model := { model with tool, options_open := false }
  let (model, entered) : Handled ← match tool with
    | .FullDisplay =>
      some ({ model with
        selection := some model.source, selection_kind := some .Display,
        selected_window := none }, [.ClearSelectedWindowFrame])
    | .Window => some (model, [.BuildWindowOverview])
    | .Region =>
      if tool_changed then do
        let (selection, selection_kind) ←
          initial_selection .Region model.last_region model.source
        some ({ model with selection, selection_kind }, [])
      else some (model, [])
  let hidden := if tool ≠ .Window then [.HideLiveThumbnails] else []
  some (model, cleared ++ entered ++ model.request_snap_targets ++ hidden)

/-- What every press of a control ends with that does not return its own effects.
SRC: machine.rs:872-874 -/
def control_handled (handled : Handled) : Handled :=
  (handled.1, handled.2 ++ [.SetCursor .Arrow, .Invalidate])

/-- The press of a control that starts no drag and ends no run.
SRC: machine.rs:782-870 -/
def control_pressed (control : ToolbarControl) : Option Handled :=
  match control with
  | .FullDisplay => model.activate_tool .FullDisplay
  | .Window => model.activate_tool .Window
  | .Region => model.activate_tool .Region
  | .Options =>
    some ({ model with options_open := !model.options_open },
      if model.tool = .Window then [.RefreshWindowChrome] else [])
  | .Record =>
    some ({ model with record_armed := !model.record_armed }, [.RefreshWindowChrome])
  | .DimBackground => some ({ model with dim_background := !model.dim_background }, [])
  | .SnapToWindows =>
    let model := { model with snap_to_windows := !model.snap_to_windows, active_snaps := NO_SNAPS }
    some (model, model.request_snap_targets ++ [.PersistSnapPreference model.snap_to_windows])
  | .RegionZoom =>
    let loupe := { model.loupe with mode := model.loupe.mode.next }
    some ({ model with loupe := loupe.forget_motion }, [.PersistRegionZoom loupe.mode])
  | .PreviewView => some model.toggle_view
  | .FileOutputDestination =>
    if model.file_output_switchable then
      some ({ model with file_output_enabled := !model.file_output_enabled },
        [.RequestFileOutput !model.file_output_enabled])
    else some (model, [])
  | .RecordFormat =>
    match model.record_format with
    | some .Gif =>
      some ({ model with record_format := some .Mp4 }, [.RequestRecordingFormat .Mp4])
    | some .Mp4 =>
      some ({ model with record_format := some .Gif }, [.RequestRecordingFormat .Gif])
    | none => some (model, [])
  | .Background | .Pin | .Edit | .Capture | .ClipboardDestination | .Cancel => some (model, [])

/-- SRC: machine.rs:750-875 -/
def toolbar_control_pressed (control : ToolbarControl) (in_toolbar_bounds : Bool)
    (point : Point) (modifiers : Modifiers) : Option Handled :=
  let model := { model with
    anchor := none, dragging := false, resizing := none, moving_region := none
    hovered_control := some control }
  match control with
  | .Background =>
    if in_toolbar_bounds then
      let effects := if model.tool = .Window then [.ClearLiveThumbnails, .RebuildOverviewCache]
        else []
      let pointer_offset : Point := ⟨saturating_sub_i32 point.x model.toolbar_position.x,
        saturating_sub_i32 point.y model.toolbar_position.y⟩
      some (control_handled ({ model with
        options_open := false, toolbar_drag := some ⟨pointer_offset⟩ },
        effects ++ [.CapturePointer]))
    else some (control_handled (model, []))
  | .Capture => some (model.confirm_or_capture (confirm_intent modifiers))
  | .Pin => some (model.confirm .Pin)
  | .Edit => some (model.confirm .Edit)
  | .Record =>
    if model.tool = .Window ∧ model.selection.isNone ∧ model.record_format.isSome then
      (model.control_pressed .Record).map control_handled
    else some (model.confirm .Record)
  | .Cancel => some model.cancel
  | control => (model.control_pressed control).map control_handled

/-- SRC: machine.rs:881-900 -/
def window_sources_pruned (dead : List NativeWindowHandle) : Handled :=
  let model := { model with
    hovered :=
      if model.hovered.any (fun candidate : WindowCandidate => dead.contains candidate.handle) then none
      else model.hovered }
  if model.selected_window.any dead.contains then
    ({ model with selected_window := none }, [.ClearSelectedWindowFrame])
  else (model, [])

/-- SRC: machine.rs:1372-1377 -/
def cursor_for_handle : Option ResizeHandle → CursorIntent
  | some handle => .Resize handle
  | none => .Crosshair

/-- The cursor over a region: a handle's, or the one for moving it.
SRC: machine.rs:602-613, machine.rs:1003-1013 -/
def region_cursor (hovered_handle : Option ResizeHandle) (point : Point) : CursorIntent :=
  if hovered_handle.isNone ∧
      model.selection.any (fun selection => decide (selection.contains point.x point.y)) then .Move
  else cursor_for_handle hovered_handle

/-- The resize handle of the selection under the pointer.
SRC: machine.rs:598-600, machine.rs:996-998 -/
def handle_under (point : Point) : Option ResizeHandle :=
  model.selection.bind fun selection =>
    hit_test_resize_handle selection point model.display_environment.metrics

/-- Whether the pointer is far enough from the anchor for the press to be a drag.
SRC: machine.rs:577-578 -/
def past_threshold (anchor point : Point) : Option Bool := do
  let across ← i32 (point.x - anchor.x)
  let across ← i32 (abs_i64 across)
  if across ≥ DRAG_THRESHOLD then some true
  else
    let down ← i32 (point.y - anchor.y)
    let down ← i32 (abs_i64 down)
    some (decide (down ≥ DRAG_THRESHOLD))

/-- The region drawn from the anchor, once the press is a drag.
SRC: machine.rs:587-596 -/
def draw_band (anchor point : Point) (modifiers : Modifiers) : Option OverlayModel :=
  if model.dragging then do
    let (selection, active_snaps) ←
      model.rect_from_points_snapped (model.anchor.getD anchor) point modifiers
    some { model with
      selection, active_snaps, selection_kind := some .Region
      selected_window := none, hovered := none, hovered_handle := none }
  else some { model with hovered_handle := none }

/-- A move while a new region is being drawn from its anchor, which is snapped once, as the
press becomes a drag.
SRC: machine.rs:576-596 -/
def rubber_band (anchor point : Point) (modifiers : Modifiers) : Option OverlayModel := do
  let latched ← past_threshold anchor point
  let model := if latched && !model.dragging then
      { model with anchor := some (model.snap_anchor anchor modifiers), dragging := true }
    else model
  model.draw_band anchor point modifiers

/-- What a move does to whatever is under way, or to what the pointer hovers.
SRC: machine.rs:557-626 -/
def follow_pointer (point : Point) (window_hover : Option WindowCandidate)
    (modifiers : Modifiers) : Option (OverlayModel × CursorIntent) :=
  if model.hovered_control.isSome then some ({ model with hovered := none }, .Arrow)
  else
    match model.resizing, model.moving_region, model.anchor with
    | some resize, _, _ => do
      let (rect, active_snaps) ← model.resize_region_snapped resize point modifiers
      some ({ model with
        selection := some rect, active_snaps, hovered_handle := some resize.handle },
        .Resize resize.handle)
    | none, some moving, _ => do
      let (rect, active_snaps) ← model.move_region_snapped moving point modifiers
      some ({ model with selection := some rect, active_snaps, hovered_handle := none }, .Move)
    | none, none, some anchor => do
      let model ← model.rubber_band anchor point modifiers
      some (model, .Crosshair)
    | none, none, none =>
      if model.tool = .Region ∧ model.selection_kind = some .Region then
        let hovered_handle := model.handle_under point
        some ({ model with hovered_handle, hovered := none },
          model.region_cursor hovered_handle point)
      else if model.tool = .Window then
        some ({ model with hovered := window_hover, hovered_handle := none }, .Arrow)
      else
        some ({ model with hovered := none, hovered_handle := none },
          if model.tool = .Region then .Crosshair else .Arrow)

/-- SRC: machine.rs:526-635 -/
def pointer_moved (point : Point) (window_hover : Option WindowCandidate)
    (modifiers : Modifiers) (time_ms : UInt32) : Option Handled := do
  let pointer := local_point model.source point
  let model ← { model with pointer_local := some pointer }.observe_pointer_motion point time_ms
  match model.toolbar_drag with
  | some drag =>
    let toolbar_position ← ToolbarLayout.clamp_origin model.display_environment
      ⟨saturating_sub_i32 pointer.x drag.pointer_offset.x,
        saturating_sub_i32 pointer.y drag.pointer_offset.y⟩
    some ({ model with
      toolbar_position, hovered_control := some .Background, hovered_handle := none
      hovered := none }, [.SetCursor .Arrow, .Invalidate])
  | none =>
    let layout ← ToolbarLayout.new model.display_environment model.toolbar_position
    let hovered_control := if model.region_drag_active then none
      else layout.hit_test pointer model.options_open
    let (model, cursor) ←
      { model with hovered_control }.follow_pointer point window_hover modifiers
    some (model, .SetCursor cursor :: (if model.tool ≠ .Window then [.Invalidate] else []))

/-- The region a press can take hold of.
SRC: machine.rs:677-679 -/
def existing_region : Option Rect :=
  if model.selection_kind = some .Region then model.selection else none

/-- A press outside the toolbar under the Region tool: of a handle, inside the region, or
elsewhere.
SRC: machine.rs:676-736 -/
def press_region (point : Point) : Handled :=
  let existing_region := model.existing_region
  let resize_handle := existing_region.bind fun selection =>
    hit_test_resize_handle selection point model.display_environment.metrics
  let (model, effects) : Handled := match existing_region, resize_handle with
    | some original, some handle =>
      ({ model with
          resizing := some ⟨handle, original⟩, moving_region := none
          hovered_handle := some handle, anchor := none, dragging := false },
        [.SetCursor (.Resize handle), .CapturePointer, .Invalidate])
    | _, _ =>
      if existing_region.any (fun selection => decide (selection.contains point.x point.y)) then
        ({ model with
            moving_region := existing_region.map fun original => ⟨original, point⟩
            anchor := none, dragging := false, hovered_handle := none },
          [.SetCursor .Move, .CapturePointer, .Invalidate])
      else
        ({ model with
            anchor := some point, dragging := false, resizing := none, moving_region := none
            selection := none, selection_kind := none, selected_window := none
            hovered_handle := none, hovered := none },
          [.ClearDimensionLabel, .SetCursor .Crosshair, .CapturePointer, .Invalidate])
  (model, effects ++ model.request_snap_targets)

/-- SRC: machine.rs:637-737 -/
def pointer_down (point : Point) (window_slot : Option NativeWindowHandle) (time_ms : UInt32)
    (modifiers : Modifiers) : Option Handled := do
  let pointer := local_point model.source point
  let layout ← ToolbarLayout.new model.display_environment model.toolbar_position
  match layout.hit_test pointer model.options_open with
  | some control =>
    model.toolbar_control_pressed control (layout.bounds.contains pointer) pointer modifiers
  | none =>
    let options_were_open := model.options_open
    let model := { model with
      loupe := { model.loupe.forget_motion with last_sample := some (point, time_ms) }
      active_snaps := NO_SNAPS, hovered_control := none, options_open := false }
    match model.tool with
    | .Window =>
      some ({ model with selected_window := window_slot },
        (if options_were_open then [.RefreshWindowChrome] else []) ++
          [.UpdateWindowPreview window_slot])
    | .FullDisplay => some (model, [.Invalidate])
    | .Region => some (model.press_region point)

/-- What a release commits of the drag it ends.
SRC: machine.rs:971-989 -/
def commit_drag (point : Point) (modifiers : Modifiers) : Option OverlayModel :=
  match model.resizing, model.moving_region, model.anchor with
  | some resize, _, _ => do
    let (rect, _) ← model.resize_region_snapped resize point modifiers
    some { model with
      resizing := none, selection := some rect, selection_kind := some .Region
      selected_window := none }
  | none, some moving, _ => do
    let (rect, _) ← model.move_region_snapped moving point modifiers
    some { model with
      moving_region := none, selection := some rect, selection_kind := some .Region
      selected_window := none }
  | none, none, some anchor =>
    if model.dragging then do
      let (selection, _) ← model.rect_from_points_snapped anchor point modifiers
      some { model with
        anchor := none, selection, selection_kind := some .Region, selected_window := none }
    else some { model with anchor := none }
  | none, none, none => some model

/-- SRC: machine.rs:952-1016 -/
def pointer_up (point : Point) (modifiers : Modifiers) : Option Handled :=
  match model.toolbar_drag with
  | some _ =>
    some ({ model with toolbar_drag := none, hovered_control := some .Background },
      [.ReleasePointer, .PersistToolbarCenter model.toolbar_position] ++
        (if model.tool = .Window then [.RefreshWindowChrome] else []) ++
        [.SetCursor .Arrow, .Invalidate])
  | none =>
    if model.tool ≠ .Region then some (model, [.ReleasePointer])
    else do
      let model ← model.commit_drag point modifiers
      let model := { model with
        active_snaps := NO_SNAPS, loupe := model.loupe.forget_motion, dragging := false }
      let hovered_handle := if model.selection_kind = some .Region then model.handle_under point
        else none
      let model := { model with hovered_handle }
      some (model,
        [.ReleasePointer, .SetCursor (model.region_cursor hovered_handle point), .Invalidate])

/-- The region an arrow key moves or resizes to, before it is brought inside the display.
SRC: machine.rs:1213-1217 -/
def adjusted_region (region : Rect) (dx dy : Int) (resize : Bool) : Option Rect :=
  if resize then resize_region_by region dx dy model.source else some (region.translated dx dy)

/-- SRC: machine.rs:1196-1226 -/
def nudge (dx dy : Int) (resize : Bool) : Option Handled :=
  if model.tool ≠ .Region ∨ model.selection_kind ≠ some .Region ∨ model.options_open ∨
      model.anchor.isSome ∨ model.resizing.isSome ∨ model.moving_region.isSome then
    some (model, [])
  else
    match model.selection with
    | none => some (model, [])
    | some region => do
      let adjusted ← model.adjusted_region region dx dy resize
      let adjusted ← adjusted.clamp_within model.source
      let had_guides := model.active_snaps ≠ NO_SNAPS
      let model := { model with active_snaps := NO_SNAPS }
      if adjusted = region ∧ ¬had_guides then some (model, [])
      else some ({ model with selection := some adjusted }, [.Invalidate])

/-- SRC: machine.rs:1243-1267 -/
def window_preview_resolved (rect : Option Rect) (intent : ConfirmIntent) : Handled :=
  let model := { model with selection := rect, selection_kind := rect.map fun _ => .Window }
  if model.selection.isSome then
    model.confirm_or_capture (if model.record_armed then .Record else intent)
  else (model, [.RebuildOverviewCache, .Invalidate])

/-- SRC: machine.rs:1269-1280 -/
def double_clicked (point : Point) (modifiers : Modifiers) : Option Handled := do
  let layout ← ToolbarLayout.new model.display_environment model.toolbar_position
  if (layout.hit_test (local_point model.source point) model.options_open).isSome then
    some (model, [])
  else some (model.confirm_or_capture (confirm_intent modifiers))

/-- SRC: machine.rs:1282-1300 -/
def pointer_capture_lost : Handled :=
  let toolbar_dragging := model.toolbar_drag.isSome
  ({ model with
      toolbar_drag := none, resizing := none, moving_region := none, anchor := none
      dragging := false, hovered_handle := none, active_snaps := NO_SNAPS
      loupe := model.loupe.forget_motion },
    (if toolbar_dragging ∧ model.tool = .Window then [.RefreshWindowChrome] else []) ++
      [.SetCursor .Arrow, .Invalidate])

/-- SRC: machine.rs:486-524 -/
def transition : OverlayInput → Option Handled
  | .PointerMoved point window_hover modifiers time_ms =>
    model.pointer_moved point window_hover modifiers time_ms
  | .PointerDown point window_slot time_ms modifiers =>
    model.pointer_down point window_slot time_ms modifiers
  | .WindowPreviewResolved rect intent => some (model.window_preview_resolved rect intent)
  | .SnapTargetsReady targets => some ({ model with snap_targets := some targets }, [])
  | .PointerUp point modifiers => model.pointer_up point modifiers
  | .DoubleClicked point modifiers => model.double_clicked point modifiers
  | .PointerCaptureLost => some model.pointer_capture_lost
  | .LoupeKeyChanged held => some (model.loupe_key_changed held)
  | .Tick time_ms => model.loupe_tick time_ms
  | .ToggleView => some model.toggle_view
  | .Nudge dx dy resize => model.nudge dx dy resize
  | .ConfirmRequested intent => some (model.confirm intent)
  | .CancelRequested => some model.cancel
  | .DisplayConfigurationInvalidated reason =>
    some (model, [.Close (.DisplayConfigurationInvalidated reason)])

end OverlayModel

/-! ## The shell -/

/-- The signed low half of a message parameter, as `lparam as u16 as i16 as i32`. -/
def as_i16 (v : Nat) : Int := Int.bmod v 65536

/-- The point of a mouse message.
SRC: shell.rs:515-523 -/
def screen_point (source : Rect) (lparam : UInt32) : Point :=
  ⟨saturating_add_i32 source.x (as_i16 lparam.toNat),
    saturating_add_i32 source.y (as_i16 (lparam.toNat / 65536))⟩

/-- By how much a display has been turned.
SRC: overlay.rs:1164-1166 -/
def rotation_delta (previous current : UInt16) : Option Nat :=
  if previous.toNat ≤ current.toNat + 360 then some ((current.toNat + 360 - previous.toNat) % 360)
  else none

/-- The size of a region on a display that has been turned.
SRC: overlay.rs:1167-1172 -/
def turned_size (region : CaptureRegion) (turn : Nat) : Nat × Nat :=
  if turn = 90 ∨ turn = 270 then (region.height.val, region.width.val)
  else (region.width.val, region.height.val)

/-- The rectangle a remembered region of another display configuration is restored to, before
it is fitted to the display; `corner` is the corner that `f64` arithmetic gives, rounded.
SRC: overlay.rs:1154-1188 -/
def restore_region_for_display_change (region : CaptureRegion)
    (previous_source : CaptureRegionSource) (source : Rect) (rotation_degrees : UInt16)
    (corner : Int × Int) : Option Rect := do
  let turn ← rotation_delta previous_source.rotation_degrees rotation_degrees
  let (width, height) := turned_size region turn
  { x := saturating_add_i32 source.x corner.1
    y := saturating_add_i32 source.y corner.2
    width := min width source.width
    height := min height source.height
    x_i32 := in_i32_saturating_add_i32 _ _
    y_i32 := in_i32_saturating_add_i32 _ _
    width_u32 := Nat.le_trans (Nat.min_le_right _ _) source.width_u32
    height_u32 := Nat.le_trans (Nat.min_le_right _ _) source.height_u32 : Rect }.clamp_within source

/-- What the configuration remembers of the region of a display.
SRC: captastic-config/src/lib.rs:356-373 -/
structure DisplayUiState where
  region : Option CaptureRegion
  region_source : Option CaptureRegionSource
  region_is_display_local : Bool
deriving DecidableEq

/-- SRC: overlay.rs:1114-1152 -/
def remembered_last_region (remembered : DisplayUiState) (source : Rect)
    (rotation_degrees : UInt16) (corner : Int × Int) : Option (Option Rect) :=
  match remembered.region with
  | none => some none
  | some region =>
    match remembered.region_is_display_local, remembered.region_source with
    | true, some previous_source =>
      (restore_region_for_display_change region previous_source source rotation_degrees
        corner).map some
    | display_local, _ =>
      let x := if display_local then saturating_add_i32 source.x region.x.val else region.x.val
      let y := if display_local then saturating_add_i32 source.y region.y.val else region.y.val
      (Rect.clamp_within (.of_casts x y region.width.val region.height.val) source).map some

/-- What a run is opened with: the display's environment as Windows reports it, the toolbar's
position, what is remembered, and what the run offers. -/
structure OverlayRun where
  display_environment : DisplayEnvironment
  toolbar_position : Point
  remembered : DisplayUiState
  corner : Int × Int
  rotation_degrees : UInt16
  tool : CaptureTool
  initial_view : PreviewView
  view_toggle_available : Bool
  snap_to_windows : Bool
  loupe_mode : LoupeMode
  file_output : Bool
  file_output_switchable : Bool
  pin_available : Bool
  edit_available : Bool
  record_format : Option RecordingFormat

/-- The region a run opens with: the one remembered, or else the middle of the display. -/
def opening_region (source : Rect) (run : OverlayRun) : Option Rect := do
  match ← remembered_last_region run.remembered source run.rotation_degrees run.corner with
  | some region => some region
  | none => default_region_for_source source

/-- The model a run opens with; no overlay is shown over an empty source.
SRC: overlay.rs:652-815 -/
def open_overlay (source : Rect) (run : OverlayRun) : Option OverlayModel :=
  if source.width = 0 ∨ source.height = 0 then none
  else do
    let region ← opening_region source run
    let (selection, selection_kind) ← initial_selection run.tool (some region) source
    some
      { source
        display_environment := run.display_environment
        view := run.initial_view
        initial_view := run.initial_view
        view_toggle_available := run.view_toggle_available
        tool := run.tool
        selection
        selection_kind
        selected_window := none
        anchor := none
        dragging := false
        resizing := none
        moving_region := none
        hovered_handle := none
        last_region := some region
        toolbar_position := run.toolbar_position
        toolbar_drag := none
        options_open := false
        dim_background := true
        file_output_enabled := run.file_output
        file_output_switchable := run.file_output_switchable
        pin_available := run.pin_available
        edit_available := run.edit_available
        record_format := run.record_format
        record_armed := false
        hovered_control := none
        pointer_local := none
        hovered := none
        snap_to_windows := run.snap_to_windows
        snap_targets := none
        loupe := .new run.loupe_mode
        active_snaps := NO_SNAPS }

end Captastic.Model
