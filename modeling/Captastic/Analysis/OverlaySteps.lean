import Captastic.Library.Runs
import Captastic.Model.OverlayMachine

/-!
# What the overlay's inputs can do

One inversion lemma for each handler of the overlay's machine: what it leaves of the
selection and of the drags in flight, and which effects it returns.  Everything said of runs
of the overlay is derived from these, without looking at the handlers again.

A run takes inputs and, between them, has windows destroyed under it.  The shell resolves a
window preview only where the last effect asked for one.
-/

set_option autoImplicit false

namespace Captastic.Analysis

open Captastic.Library Captastic.Model

/-! ## Geometry -/

/-- What an overlay holds of the selection, of the drags in flight, of the display and of what
the run offers. -/
structure Geometry where
  source : Rect
  display_environment : DisplayEnvironment
  tool : CaptureTool
  selection : Option Rect
  selection_kind : Option SelectionKind
  selected_window : Option NativeWindowHandle
  anchor : Option Point
  dragging : Bool
  resizing : Option ResizeDrag
  moving_region : Option MoveDrag
  last_region : Option Rect
  toolbar_drag : Option ToolbarDrag
  pointer_local : Option Point
  pin_available : Bool
  edit_available : Bool
  records : Bool

def geometry (model : OverlayModel) : Geometry where
  source := model.source
  display_environment := model.display_environment
  tool := model.tool
  selection := model.selection
  selection_kind := model.selection_kind
  selected_window := model.selected_window
  anchor := model.anchor
  dragging := model.dragging
  resizing := model.resizing
  moving_region := model.moving_region
  last_region := model.last_region
  toolbar_drag := model.toolbar_drag
  pointer_local := model.pointer_local
  pin_available := model.pin_available
  edit_available := model.edit_available
  records := model.record_format.isSome

/-- Whether the run offers the intent. -/
def Geometry.offers (g : Geometry) : ConfirmIntent → Bool
  | .Capture => true
  | .Pin => g.pin_available
  | .Edit => g.edit_available
  | .Record => g.records

/-- What a model offers to confirm is read from its geometry. -/
theorem geometry_offers (model : OverlayModel) (intent : ConfirmIntent) :
    (geometry model).offers intent = model.offers intent := by
  cases intent with
  | Capture => rfl
  | Pin => rfl
  | Edit => rfl
  | Record => rfl

/-- The region that is remembered when a run ends or the tool is switched away from. -/
def Geometry.latest_region (g : Geometry) : Option Rect :=
  latest_interaction_region g.tool g.selection g.selection_kind g.last_region

/-- No region is being drawn, resized or moved. -/
def Geometry.undragged (g : Geometry) : Geometry :=
  { g with anchor := none, dragging := false, resizing := none, moving_region := none }

/-! ## Effects -/

/-- Effects that neither end the run, nor may, nor remember the interaction. -/
def quiet : OverlayEffect → Bool
  | .Close _ | .UpdateWindowPreview _ | .PersistInteraction _ => false
  | _ => true

/-- All the effects are quiet. -/
def Quiet (effects : List OverlayEffect) : Prop := ∀ effect ∈ effects, quiet effect = true

/-- No effects at all are quiet. -/
@[simp] theorem quiet_nil : Quiet [] := by
  intro effect member
  cases member

/-- Effects are quiet when the first is and the others are. -/
@[simp] theorem quiet_cons {effect : OverlayEffect} {effects : List OverlayEffect} :
    Quiet (effect :: effects) ↔ quiet effect = true ∧ Quiet effects :=
  List.forall_mem_cons

/-- Effects in a row are quiet when both parts are. -/
@[simp] theorem quiet_append {first last : List OverlayEffect} :
    Quiet (first ++ last) ↔ Quiet first ∧ Quiet last :=
  List.forall_mem_append

/-- A choice between quiet effects is quiet. -/
theorem quiet_ite {condition : Prop} [Decidable condition] {first last : List OverlayEffect}
    (then_quiet : Quiet first) (else_quiet : Quiet last) :
    Quiet (if condition then first else last) := by
  split
  · exact then_quiet
  · exact else_quiet

/-- A request for snap targets is quiet. -/
@[simp] theorem quiet_request_snap_targets (model : OverlayModel) :
    Quiet model.request_snap_targets := by
  unfold OverlayModel.request_snap_targets
  apply quiet_ite
  · simp [quiet]
  · exact quiet_nil

/-! ## Settings -/

variable {model model' : OverlayModel} {effects : List OverlayEffect}

/-- Switching between frozen and live leaves the geometry alone. -/
theorem toggle_view_keeps (model : OverlayModel) :
    geometry model.toggle_view.1 = geometry model ∧ Quiet model.toggle_view.2 := by
  unfold OverlayModel.toggle_view
  split
  · exact ⟨rfl, quiet_nil⟩
  · exact ⟨rfl, by simp [quiet]⟩

/-- The loupe's key leaves the geometry alone. -/
theorem loupe_key_changed_keeps (model : OverlayModel) (held : Bool) :
    geometry (model.loupe_key_changed held).1 = geometry model ∧
      Quiet (model.loupe_key_changed held).2 := by
  unfold OverlayModel.loupe_key_changed
  split
  · exact ⟨rfl, quiet_nil⟩
  · exact ⟨rfl, quiet_ite quiet_nil (by simp [quiet])⟩

/-- A press of a control that starts no drag and ends no run switches the tool or changes a
setting. -/
theorem control_pressed_cases {control : ToolbarControl}
    (pressed : model.control_pressed control = some (model', effects)) :
    (∃ tool, model.activate_tool tool = some (model', effects)) ∨
      (geometry model' = geometry model ∧ Quiet effects) := by
  unfold OverlayModel.control_pressed at pressed
  cases control with
  | FullDisplay => exact .inl ⟨_, pressed⟩
  | Window => exact .inl ⟨_, pressed⟩
  | Region => exact .inl ⟨_, pressed⟩
  | Options =>
    cases pressed
    exact .inr ⟨rfl, quiet_ite (by simp [quiet]) quiet_nil⟩
  | Record | DimBackground | RegionZoom =>
    cases pressed
    exact .inr ⟨rfl, by simp [quiet]⟩
  | SnapToWindows =>
    cases pressed
    exact .inr ⟨rfl, quiet_append.mpr ⟨quiet_request_snap_targets _, by simp [quiet]⟩⟩
  | PreviewView =>
    obtain ⟨rfl, rfl⟩ := Prod.ext_iff.mp (Option.some.inj pressed)
    exact .inr (toggle_view_keeps model)
  | FileOutputDestination =>
    right
    simp only at pressed
    split at pressed
    · cases pressed
      exact ⟨rfl, by simp [quiet]⟩
    · cases pressed
      exact ⟨rfl, quiet_nil⟩
  | RecordFormat =>
    right
    simp only at pressed
    split at pressed
    · rename_i format
      cases pressed
      exact ⟨by simp [geometry, format], by simp [quiet]⟩
    · rename_i format
      cases pressed
      exact ⟨by simp [geometry, format], by simp [quiet]⟩
    · cases pressed
      exact ⟨rfl, quiet_nil⟩
  | Background | Pin | Edit | Capture | ClipboardDestination | Cancel =>
    cases pressed
    exact .inr ⟨rfl, quiet_nil⟩

/-! ## Switching tools -/

/-- The geometry under a tool that was just switched to. -/
def Geometry.switched (g : Geometry) (tool : CaptureTool) (last_region : Option Rect)
    (initial : Option Rect × Option SelectionKind) : Geometry :=
  { g.undragged with
    tool, last_region, selection := initial.1, selection_kind := initial.2
    selected_window := none }

/-- A tool that is switched to starts from its initial selection; one that was active
already keeps what it has. -/
theorem activate_tool_cases {tool : CaptureTool}
    (activated : model.activate_tool tool = some (model', effects)) :
    Quiet effects ∧ ((tool = model.tool ∧ geometry model' = (geometry model).undragged) ∨
      ∃ last_region initial,
        (last_region = model.last_region ∨ last_region = (geometry model).latest_region) ∧
        initial_selection tool last_region model.source = some initial ∧
        geometry model' = (geometry model).switched tool last_region initial) := by
  unfold OverlayModel.activate_tool at activated
  by_cases same : model.tool = tool
  · simp only [same, ne_eq, not_true_eq_false, if_false] at activated
    cases tool with
    | FullDisplay =>
      cases activated
      refine ⟨?_, .inr ⟨_, _, .inl rfl, rfl, rfl⟩⟩
      simp [quiet]
    | Window =>
      cases activated
      refine ⟨?_, .inl ⟨same.symm, by simp [geometry, Geometry.undragged, same]⟩⟩
      simp [quiet]
    | Region =>
      cases activated
      refine ⟨?_, .inl ⟨same.symm, by simp [geometry, Geometry.undragged, same]⟩⟩
      simp [quiet]
  · simp only [ne_eq, same, not_false_eq_true, if_true] at activated
    cases tool with
    | FullDisplay =>
      cases activated
      refine ⟨?_, .inr ⟨_, _, .inr rfl, rfl, rfl⟩⟩
      simp [quiet]
    | Window =>
      cases activated
      refine ⟨?_, .inr ⟨_, _, .inr rfl, rfl, rfl⟩⟩
      simp [quiet]
    | Region =>
      simp only [Option.bind_eq_bind, Option.bind_eq_some_iff] at activated
      obtain ⟨initial, selected, ⟨_, _⟩, entered, activated⟩ := activated
      cases entered
      cases activated
      refine ⟨?_, .inr ⟨_, initial, .inr rfl, selected, rfl⟩⟩
      simp [quiet]

/-! ## Ending a run -/

/-- What an attempt to end a run leaves: nothing happens, or the interaction is remembered
and the overlay closes. -/
inductive Ended (model : OverlayModel) : OverlayModel → List OverlayEffect → Prop
  | unavailable : Ended model model []
  | confirmed {rect : Rect} {kind : SelectionKind} {intent : ConfirmIntent}
      (selection : model.selection = some rect) (selection_kind : model.selection_kind = some kind)
      (offered : model.offers intent = true) :
      Ended model { model with last_region := (geometry model).latest_region }
        [.PersistInteraction (geometry model).latest_region,
          .Close (.Confirmed rect kind model.selected_window intent)]
  | cancelled :
      Ended model { model with last_region := (geometry model).latest_region }
        [.PersistInteraction (geometry model).latest_region, .Close .Cancelled]

/-- An attempt to end a run changes what is remembered, if anything. -/
theorem Ended.leaves (ended : Ended model model' effects) :
    ∃ last_region,
      (last_region = model.last_region ∨ last_region = (geometry model).latest_region) ∧
      geometry model' = { geometry model with last_region } := by
  cases ended with
  | unavailable => exact ⟨_, .inl rfl, rfl⟩
  | confirmed => exact ⟨_, .inr rfl, rfl⟩
  | cancelled => exact ⟨_, .inr rfl, rfl⟩

/-- SRC: machine.rs:1329-1353 -/
theorem confirm_ended (model : OverlayModel) (intent : ConfirmIntent) :
    Ended model (model.confirm intent).1 (model.confirm intent).2 := by
  unfold OverlayModel.confirm
  split
  · split
    · exact .unavailable
    · rename_i selection selection_kind offered
      exact .confirmed selection selection_kind (by simpa using offered)
  · exact .unavailable

/-- A confirmation with no effects left the model as it was. -/
theorem confirm_of_empty {intent : ConfirmIntent}
    (empty : (model.confirm intent).2.isEmpty = true) : (model.confirm intent).1 = model := by
  have ended := confirm_ended model intent
  generalize model.confirm intent = left at ended empty
  obtain ⟨model', effects⟩ := left
  cases ended with
  | unavailable => rfl
  | confirmed => cases empty
  | cancelled => cases empty

/-- SRC: machine.rs:1320-1327 -/
theorem confirm_or_capture_ended (model : OverlayModel) (intent : ConfirmIntent) :
    Ended model (model.confirm_or_capture intent).1 (model.confirm_or_capture intent).2 := by
  unfold OverlayModel.confirm_or_capture
  simp only
  split
  · rename_i refused
    rw [confirm_of_empty refused.1]
    exact confirm_ended model .Capture
  · exact confirm_ended model intent

/-- SRC: machine.rs:1355-1359 -/
theorem cancel_ended (model : OverlayModel) : Ended model model.cancel.1 model.cancel.2 :=
  .cancelled

/-! ## Presses -/

/-- Where a press takes hold of the toolbar. -/
def toolbar_grip (model : OverlayModel) (pointer : Point) : ToolbarDrag :=
  ⟨⟨saturating_sub_i32 pointer.x model.toolbar_position.x,
    saturating_sub_i32 pointer.y model.toolbar_position.y⟩⟩

/-- What a press of a control leaves: a drag of the toolbar, the end of the run, a tool's
initial selection, or the selection as it was; no region is being drawn, resized or moved
any more. -/
inductive ControlPressed (model : OverlayModel) (pointer : Point) (control : ToolbarControl)
    (in_toolbar_bounds : Bool) : OverlayModel → List OverlayEffect → Prop
  | dragged {model' : OverlayModel} {effects : List OverlayEffect}
      (background : control = .Background ∧ in_toolbar_bounds = true)
      (leaves : geometry model' =
        { (geometry model).undragged with toolbar_drag := some (toolbar_grip model pointer) })
      (is_quiet : Quiet effects) :
      ControlPressed model pointer control in_toolbar_bounds model' effects
  | ended {model' pressed : OverlayModel} {effects : List OverlayEffect}
      (elsewhere : ¬(control = .Background ∧ in_toolbar_bounds = true))
      (leaves : geometry pressed = (geometry model).undragged)
      (ended : Ended pressed model' effects) :
      ControlPressed model pointer control in_toolbar_bounds model' effects
  | switched {model' : OverlayModel} {effects : List OverlayEffect} {tool : CaptureTool}
      {last_region : Option Rect} {initial : Option Rect × Option SelectionKind}
      (elsewhere : ¬(control = .Background ∧ in_toolbar_bounds = true))
      (last : last_region = model.last_region ∨ last_region = (geometry model).latest_region)
      (selected : initial_selection tool last_region model.source = some initial)
      (leaves : geometry model' = (geometry model).switched tool last_region initial)
      (is_quiet : Quiet effects) :
      ControlPressed model pointer control in_toolbar_bounds model' effects
  | kept {model' : OverlayModel} {effects : List OverlayEffect}
      (elsewhere : ¬(control = .Background ∧ in_toolbar_bounds = true))
      (leaves : geometry model' = (geometry model).undragged) (is_quiet : Quiet effects) :
      ControlPressed model pointer control in_toolbar_bounds model' effects

/-- The press of a control that starts no drag and ends no run. -/
theorem ControlPressed.of_control_pressed {pressed : OverlayModel} {pointer : Point}
    {control : ToolbarControl} {in_toolbar_bounds : Bool} (elsewhere : ¬(control = .Background ∧ in_toolbar_bounds = true))
    (undragged : geometry pressed = (geometry model).undragged)
    (handled : (pressed.control_pressed control).map OverlayModel.control_handled =
      some (model', effects)) :
    ControlPressed model pointer control in_toolbar_bounds model' effects := by
  obtain ⟨⟨left, returned⟩, pressed_eq, handled⟩ := Option.map_eq_some_iff.mp handled
  obtain ⟨rfl, rfl⟩ := Prod.ext_iff.mp handled
  have ends (is_quiet : Quiet returned) :
      Quiet (returned ++ [.SetCursor .Arrow, .Invalidate]) := by
    simp [quiet, is_quiet]
  rcases control_pressed_cases pressed_eq with ⟨tool, activated⟩ | ⟨leaves, is_quiet⟩
  · have source : pressed.source = model.source := congrArg Geometry.source undragged
    have last_region : pressed.last_region = model.last_region :=
      congrArg Geometry.last_region undragged
    have latest : (geometry pressed).latest_region = (geometry model).latest_region := by
      rw [undragged]
      rfl
    obtain ⟨is_quiet, ⟨-, leaves⟩ | ⟨last, initial, either, selected, leaves⟩⟩ :=
      activate_tool_cases activated
    · apply ControlPressed.kept elsewhere _ (ends is_quiet)
      rw [OverlayModel.control_handled, leaves, undragged]
      rfl
    · rw [last_region, latest] at either
      rw [source] at selected
      apply ControlPressed.switched elsewhere either selected _ (ends is_quiet)
      rw [OverlayModel.control_handled, leaves, undragged]
      rfl
  · exact .kept elsewhere (leaves.trans undragged) (ends is_quiet)

/-- SRC: machine.rs:750-875 -/
theorem toolbar_control_pressed_cases {control : ToolbarControl} {in_toolbar_bounds : Bool}
    {pointer : Point} {modifiers : Modifiers}
    (pressed : model.toolbar_control_pressed control in_toolbar_bounds pointer modifiers =
      some (model', effects)) :
    ControlPressed model pointer control in_toolbar_bounds model' effects := by
  unfold OverlayModel.toolbar_control_pressed at pressed
  simp only at pressed
  have elsewhere (other : control ≠ .Background) :
      ¬(control = .Background ∧ in_toolbar_bounds = true) := fun both => other both.1
  cases control with
  | Background =>
    simp only at pressed
    split at pressed
    · rename_i inside
      obtain ⟨rfl, rfl⟩ := Prod.ext_iff.mp (Option.some.inj pressed)
      apply ControlPressed.dragged ⟨rfl, inside⟩ rfl
      simp [OverlayModel.control_handled, quiet, quiet_ite]
    · rename_i outside
      obtain ⟨rfl, rfl⟩ := Prod.ext_iff.mp (Option.some.inj pressed)
      apply ControlPressed.kept (fun both => outside both.2) rfl
      simp [OverlayModel.control_handled, quiet]
  | Capture =>
    obtain ⟨rfl, rfl⟩ := Prod.ext_iff.mp (Option.some.inj pressed)
    exact .ended (elsewhere (by simp)) rfl (confirm_or_capture_ended _ _)
  | Pin =>
    obtain ⟨rfl, rfl⟩ := Prod.ext_iff.mp (Option.some.inj pressed)
    exact .ended (elsewhere (by simp)) rfl (confirm_ended _ _)
  | Edit =>
    obtain ⟨rfl, rfl⟩ := Prod.ext_iff.mp (Option.some.inj pressed)
    exact .ended (elsewhere (by simp)) rfl (confirm_ended _ _)
  | Cancel =>
    obtain ⟨rfl, rfl⟩ := Prod.ext_iff.mp (Option.some.inj pressed)
    exact .ended (elsewhere (by simp)) rfl (cancel_ended _)
  | Record =>
    simp only at pressed
    split at pressed
    · exact .of_control_pressed (elsewhere (by simp)) rfl pressed
    · obtain ⟨rfl, rfl⟩ := Prod.ext_iff.mp (Option.some.inj pressed)
      exact .ended (elsewhere (by simp)) rfl (confirm_ended _ _)
  | _ => exact .of_control_pressed (elsewhere (by simp)) rfl pressed

/-- The control of the toolbar under a press, and whether the press is on the toolbar itself
rather than on its menu. -/
def control_under (model : OverlayModel) (point : Point) : Option (ToolbarControl × Bool) := do
  let layout ← ToolbarLayout.new model.display_environment model.toolbar_position
  let pointer := local_point model.source point
  let control ← layout.hit_test pointer model.options_open
  some (control, layout.bounds.contains pointer)

/-- The region a press can take hold of. -/
def Geometry.region (g : Geometry) : Option Rect :=
  if g.selection_kind = some .Region then g.selection else none

/-- The resize handle of the region under a press. -/
def Geometry.handle_under (g : Geometry) (point : Point) : Option ResizeHandle :=
  g.region.bind fun selection =>
    hit_test_resize_handle selection point g.display_environment.metrics

/-- The press is inside the region. -/
def Geometry.Inside (g : Geometry) (point : Point) : Prop :=
  ∃ selection, g.region = some selection ∧ selection.contains point.x point.y

/-- What a press outside the toolbar leaves. -/
inductive PressedOutside (g : Geometry) (point : Point) :
    OverlayModel → List OverlayEffect → Prop
  | window {model' : OverlayModel} {effects : List OverlayEffect}
      {slot : Option NativeWindowHandle} (tool : g.tool = .Window)
      (leaves : geometry model' = { g with selected_window := slot })
      (is_quiet : Quiet effects) :
      PressedOutside g point model' (effects ++ [.UpdateWindowPreview slot])
  | display {model' : OverlayModel} {effects : List OverlayEffect}
      (tool : g.tool = .FullDisplay) (leaves : geometry model' = g)
      (is_quiet : Quiet effects) : PressedOutside g point model' effects
  | resize {model' : OverlayModel} {effects : List OverlayEffect} {original : Rect}
      {handle : ResizeHandle} (tool : g.tool = .Region) (region : g.region = some original)
      (pressed : g.handle_under point = some handle)
      (leaves : geometry model' = { g.undragged with resizing := some ⟨handle, original⟩ })
      (is_quiet : Quiet effects) : PressedOutside g point model' effects
  | move {model' : OverlayModel} {effects : List OverlayEffect} {original : Rect}
      (tool : g.tool = .Region) (region : g.region = some original)
      (inside : g.Inside point) (pressed : g.handle_under point = none)
      (leaves : geometry model' = { g.undragged with
        resizing := g.resizing, moving_region := some ⟨original, point⟩ })
      (is_quiet : Quiet effects) : PressedOutside g point model' effects
  | band {model' : OverlayModel} {effects : List OverlayEffect} (tool : g.tool = .Region)
      (outside : ¬g.Inside point) (pressed : g.handle_under point = none)
      (leaves : geometry model' = { g.undragged with
        anchor := some point, selection := none, selection_kind := none
        selected_window := none })
      (is_quiet : Quiet effects) : PressedOutside g point model' effects

/-- SRC: machine.rs:676-736 -/
theorem press_region_cases {g : Geometry} {point : Point} (same : geometry model = g)
    (tool : g.tool = .Region) :
    PressedOutside g point (model.press_region point).1 (model.press_region point).2 := by
  subst same
  unfold OverlayModel.press_region
  simp only
  split
  · rename_i original handle region pressed
    exact .resize tool region pressed rfl (by simp [quiet])
  · rename_i no_handle
    have pressed : (geometry model).handle_under point = none := by
      apply Option.eq_none_iff_forall_ne_some.mpr
      intro handle pressed
      obtain ⟨original, region, -⟩ := Option.bind_eq_some_iff.mp pressed
      exact no_handle original handle region pressed
    split
    · rename_i inside
      obtain ⟨original, region, contained⟩ := (Option.any_eq_true _ _).mp inside
      have held : (geometry model).region = some original := region
      apply PressedOutside.move tool held ⟨original, held, of_decide_eq_true contained⟩ pressed
      · simp [geometry, Geometry.undragged, region]
      · simp [quiet]
    · rename_i outside
      apply PressedOutside.band tool _ pressed rfl (by simp [quiet])
      rintro ⟨selection, region, contained⟩
      exact outside ((Option.any_eq_true _ _).mpr ⟨selection, region, decide_eq_true contained⟩)

/-- SRC: machine.rs:637-737 -/
theorem pointer_down_cases {point : Point} {slot : Option NativeWindowHandle} {time_ms : UInt32}
    {modifiers : Modifiers}
    (pressed : model.pointer_down point slot time_ms modifiers = some (model', effects)) :
    (∃ control in_toolbar_bounds, control_under model point = some (control, in_toolbar_bounds) ∧
        ControlPressed model (local_point model.source point) control in_toolbar_bounds
          model' effects) ∨
      (control_under model point = none ∧
        PressedOutside (geometry model) point model' effects) := by
  unfold OverlayModel.pointer_down at pressed
  simp only [Option.bind_eq_bind, Option.bind_eq_some_iff] at pressed
  obtain ⟨layout, layout_eq, pressed⟩ := pressed
  split at pressed
  · rename_i control hit
    refine .inl ⟨control, _, ?_, toolbar_control_pressed_cases pressed⟩
    simp [control_under, layout_eq, hit]
  · rename_i hit
    refine .inr ⟨by simp [control_under, layout_eq, hit], ?_⟩
    split at pressed
    · rename_i tool
      obtain ⟨rfl, rfl⟩ := Prod.ext_iff.mp (Option.some.inj pressed)
      exact .window tool rfl (quiet_ite (by simp [quiet]) quiet_nil)
    · rename_i tool
      obtain ⟨rfl, rfl⟩ := Prod.ext_iff.mp (Option.some.inj pressed)
      exact .display tool rfl (by simp [quiet])
    · rename_i tool
      obtain ⟨rfl, rfl⟩ := Prod.ext_iff.mp (Option.some.inj pressed)
      exact press_region_cases rfl tool

/-! ## Moves and releases -/

/-- A pointer sample leaves the geometry alone.
SRC: machine.rs:1138-1189 -/
theorem observe_pointer_motion_keeps {point : Point} {time_ms : UInt32}
    (observed : model.observe_pointer_motion point time_ms = some model') :
    geometry model' = geometry model ∧
      (model'.loupe.last_sample = model.loupe.last_sample ∨
        model'.loupe.last_sample = some (point, time_ms)) := by
  unfold OverlayModel.observe_pointer_motion at observed
  simp only at observed
  split at observed
  · cases observed
    exact ⟨rfl, .inr rfl⟩
  · split at observed
    · cases observed
      exact ⟨rfl, .inl rfl⟩
    · simp only [Option.bind_eq_bind, Option.bind_eq_some_iff] at observed
      obtain ⟨across, -, down, -, observed⟩ := observed
      cases observed
      refine ⟨rfl, .inr ?_⟩
      unfold LoupeState.measured
      simp only
      split
      · rfl
      · split
        · split
          · split <;> rfl
          · rfl
        · rfl

/-- What a pointer move leaves of the geometry, which is `g` with the pointer's place: nothing
new, or what the drag that is in flight makes of the selection. -/
inductive Moved (model : OverlayModel) (g : Geometry) (point : Point) (modifiers : Modifiers) :
    OverlayModel → Prop
  | hovered {model' : OverlayModel} (leaves : geometry model' = g) :
      Moved model g point modifiers model'
  | resized {model' : OverlayModel} {resize : ResizeDrag} {rect : Rect} {snaps : ActiveSnaps}
      (drag : g.resizing = some resize)
      (made : model.resize_region_snapped resize point modifiers = some (rect, snaps))
      (leaves : geometry model' = { g with selection := some rect }) :
      Moved model g point modifiers model'
  | moved {model' : OverlayModel} {moving : MoveDrag} {rect : Rect} {snaps : ActiveSnaps}
      (drag : g.moving_region = some moving)
      (made : model.move_region_snapped moving point modifiers = some (rect, snaps))
      (leaves : geometry model' = { g with selection := some rect }) :
      Moved model g point modifiers model'
  | banded {model' : OverlayModel} {anchor corner : Point} {selection : Option Rect}
      {snaps : ActiveSnaps} (drag : g.anchor = some anchor)
      (corner_eq : (g.dragging = true ∧ corner = anchor) ∨
        (g.dragging = false ∧ corner = model.snap_anchor anchor modifiers))
      (made : model.rect_from_points_snapped corner point modifiers = some (selection, snaps))
      (leaves : geometry model' = { g with
        anchor := some corner, dragging := true, selection, selection_kind := some .Region
        selected_window := none }) :
      Moved model g point modifiers model'

/-- SRC: machine.rs:576-596 -/
theorem rubber_band_cases {g : Geometry} {anchor point : Point} {modifiers : Modifiers}
    (same : geometry model = g) (drag : model.anchor = some anchor)
    (moved : model.rubber_band anchor point modifiers = some model') :
    Moved model g point modifiers model' ∧ model'.loupe = model.loupe := by
  subst same
  unfold OverlayModel.rubber_band at moved
  simp only [Option.bind_eq_bind, Option.bind_eq_some_iff] at moved
  obtain ⟨latched, -, moved⟩ := moved
  by_cases dragging : model.dragging = true
  · rw [if_neg (by simp [dragging])] at moved
    unfold OverlayModel.draw_band at moved
    simp only [dragging, if_true, drag, Option.getD_some, Option.bind_eq_bind,
      Option.bind_eq_some_iff] at moved
    obtain ⟨⟨selection, snaps⟩, made, moved⟩ := moved
    cases moved
    refine ⟨.banded drag (.inl ⟨dragging, rfl⟩) made ?_, rfl⟩
    simp [geometry, drag, dragging]
  · cases latched with
    | false =>
      rw [if_neg (by simp)] at moved
      unfold OverlayModel.draw_band at moved
      rw [if_neg dragging] at moved
      cases moved
      exact ⟨.hovered rfl, rfl⟩
    | true =>
      rw [if_pos (by simp [dragging])] at moved
      unfold OverlayModel.draw_band at moved
      simp only [if_true, Option.getD_some, Option.bind_eq_bind,
        Option.bind_eq_some_iff] at moved
      obtain ⟨⟨selection, snaps⟩, made, moved⟩ := moved
      cases moved
      exact ⟨.banded drag (.inr ⟨Bool.eq_false_iff.mpr dragging, rfl⟩) made rfl, rfl⟩

/-- SRC: machine.rs:557-626 -/
theorem follow_pointer_cases {g : Geometry} {point : Point}
    {window_hover : Option WindowCandidate} {modifiers : Modifiers} {cursor : CursorIntent}
    (same : geometry model = g)
    (followed : model.follow_pointer point window_hover modifiers = some (model', cursor)) :
    Moved model g point modifiers model' ∧ model'.loupe = model.loupe := by
  subst same
  unfold OverlayModel.follow_pointer at followed
  split at followed
  · cases followed
    exact ⟨.hovered rfl, rfl⟩
  · split at followed
    · rename_i resize drag
      simp only [Option.bind_eq_bind, Option.bind_eq_some_iff] at followed
      obtain ⟨⟨rect, snaps⟩, made, followed⟩ := followed
      cases followed
      exact ⟨.resized drag made rfl, rfl⟩
    · rename_i moving _ drag
      simp only [Option.bind_eq_bind, Option.bind_eq_some_iff] at followed
      obtain ⟨⟨rect, snaps⟩, made, followed⟩ := followed
      cases followed
      exact ⟨.moved drag made rfl, rfl⟩
    · rename_i anchor _ _ drag
      simp only [Option.bind_eq_bind, Option.bind_eq_some_iff] at followed
      obtain ⟨banded, made, followed⟩ := followed
      cases followed
      exact rubber_band_cases rfl drag made
    · split at followed
      · cases followed
        exact ⟨.hovered rfl, rfl⟩
      · split at followed
        · cases followed
          exact ⟨.hovered rfl, rfl⟩
        · cases followed
          exact ⟨.hovered rfl, rfl⟩

/-- The geometry with the pointer at a point. -/
def Geometry.pointed (g : Geometry) (point : Point) : Geometry :=
  { g with pointer_local := some (local_point g.source point) }

/-- SRC: machine.rs:526-635 -/
theorem pointer_moved_cases {point : Point} {window_hover : Option WindowCandidate}
    {modifiers : Modifiers} {time_ms : UInt32}
    (moved : model.pointer_moved point window_hover modifiers time_ms = some (model', effects)) :
    Quiet effects ∧
      (model'.loupe.last_sample = model.loupe.last_sample ∨
        model'.loupe.last_sample = some (point, time_ms)) ∧
      ∃ aimed, geometry aimed = (geometry model).pointed point ∧
        Moved aimed ((geometry model).pointed point) point modifiers model' := by
  unfold OverlayModel.pointer_moved at moved
  simp only [Option.bind_eq_bind, Option.bind_eq_some_iff] at moved
  obtain ⟨observed, sampled, moved⟩ := moved
  obtain ⟨same, sample⟩ := observe_pointer_motion_keeps sampled
  split at moved
  · simp only [Option.bind_eq_some_iff] at moved
    obtain ⟨position, -, moved⟩ := moved
    cases moved
    exact ⟨by simp [quiet], sample, observed, same, .hovered same⟩
  · simp only [Option.bind_eq_some_iff] at moved
    obtain ⟨layout, -, ⟨left, cursor⟩, followed, moved⟩ := moved
    cases moved
    obtain ⟨cases, loupe⟩ := follow_pointer_cases
      (g := (geometry model).pointed point) (by exact same) followed
    rw [loupe]
    refine ⟨?_, sample, _, ?_, cases⟩
    · rw [quiet_cons]
      exact ⟨rfl, quiet_ite (by simp [quiet]) quiet_nil⟩
    · exact same

/-- What a release leaves: the toolbar where it was dragged to, or what the drag of the region
that it ends makes of the selection. -/
inductive Released (model : OverlayModel) (point : Point) (modifiers : Modifiers) :
    OverlayModel → Prop
  | toolbar {model' : OverlayModel} {drag : ToolbarDrag}
      (leaves : geometry model' = { geometry model with toolbar_drag := none })
      (dragged : model.toolbar_drag = some drag) : Released model point modifiers model'
  | elsewhere {model' : OverlayModel} (tool : model.tool ≠ .Region)
      (leaves : geometry model' = geometry model) : Released model point modifiers model'
  | resized {model' : OverlayModel} {resize : ResizeDrag} {rect : Rect} {snaps : ActiveSnaps}
      (tool : model.tool = .Region) (drag : model.resizing = some resize)
      (made : model.resize_region_snapped resize point modifiers = some (rect, snaps))
      (leaves : geometry model' = { geometry model with
        resizing := none, dragging := false, selection := some rect
        selection_kind := some .Region, selected_window := none }) :
      Released model point modifiers model'
  | moved {model' : OverlayModel} {moving : MoveDrag} {rect : Rect} {snaps : ActiveSnaps}
      (tool : model.tool = .Region) (drag : model.moving_region = some moving)
      (made : model.move_region_snapped moving point modifiers = some (rect, snaps))
      (leaves : geometry model' = { geometry model with
        moving_region := none, dragging := false, selection := some rect
        selection_kind := some .Region, selected_window := none }) :
      Released model point modifiers model'
  | banded {model' : OverlayModel} {anchor : Point} {selection : Option Rect}
      {snaps : ActiveSnaps} (tool : model.tool = .Region) (drag : model.anchor = some anchor)
      (made : model.rect_from_points_snapped anchor point modifiers = some (selection, snaps))
      (leaves : geometry model' = { geometry model with
        anchor := none, dragging := false, selection, selection_kind := some .Region
        selected_window := none }) :
      Released model point modifiers model'
  | clicked {model' : OverlayModel} (tool : model.tool = .Region)
      (leaves : geometry model' = { geometry model with anchor := none, dragging := false }) :
      Released model point modifiers model'

/-- What a drag that a release ends makes of the selection, before the pointer is looked at
again.
SRC: machine.rs:971-989 -/
theorem commit_drag_cases {point : Point} {modifiers : Modifiers} {committed : OverlayModel}
    (tool : model.tool = .Region)
    (commits : model.commit_drag point modifiers = some committed)
    (leaves : geometry model' = { geometry committed with dragging := false }) :
    Released model point modifiers model' := by
  unfold OverlayModel.commit_drag at commits
  split at commits
  · rename_i resize drag
    simp only [Option.bind_eq_bind, Option.bind_eq_some_iff] at commits
    obtain ⟨⟨rect, snaps⟩, made, commits⟩ := commits
    cases commits
    exact .resized tool drag made leaves
  · rename_i moving _ drag
    simp only [Option.bind_eq_bind, Option.bind_eq_some_iff] at commits
    obtain ⟨⟨rect, snaps⟩, made, commits⟩ := commits
    cases commits
    exact .moved tool drag made leaves
  · rename_i anchor _ _ drag
    split at commits
    · simp only [Option.bind_eq_bind, Option.bind_eq_some_iff] at commits
      obtain ⟨⟨selection, snaps⟩, made, commits⟩ := commits
      cases commits
      exact .banded tool drag made leaves
    · cases commits
      exact .clicked tool leaves
  · rename_i no_drag
    cases commits
    apply Released.clicked tool
    rw [leaves]
    simp [geometry, no_drag]

/-- SRC: machine.rs:952-1016 -/
theorem pointer_up_cases {point : Point} {modifiers : Modifiers}
    (released : model.pointer_up point modifiers = some (model', effects)) :
    Quiet effects ∧
      (model'.loupe.last_sample = model.loupe.last_sample ∨ model'.loupe.last_sample = none) ∧
      Released model point modifiers model' := by
  unfold OverlayModel.pointer_up at released
  split at released
  · rename_i drag dragged
    cases released
    refine ⟨?_, .inl rfl, .toolbar rfl dragged⟩
    simp [quiet, quiet_ite]
  · split at released
    · rename_i tool
      cases released
      exact ⟨by simp [quiet], .inl rfl, .elsewhere tool rfl⟩
    · rename_i tool
      simp only [Option.bind_eq_bind, Option.bind_eq_some_iff] at released
      obtain ⟨committed, commits, released⟩ := released
      cases released
      exact ⟨by simp [quiet], .inr rfl, commit_drag_cases (not_not.mp tool) commits rfl⟩

/-! ## The other inputs -/

/-- What an arrow key leaves: nothing new, or the region adjusted and brought back inside the
display.
SRC: machine.rs:1196-1226 -/
theorem nudge_cases {dx dy : Int} {resize : Bool}
    (nudged : model.nudge dx dy resize = some (model', effects)) :
    Quiet effects ∧ model'.loupe = model.loupe ∧ (geometry model' = geometry model ∨
      ∃ region adjusted clamped, model.tool = .Region ∧ (geometry model).region = some region ∧
        model.adjusted_region region dx dy resize = some adjusted ∧
        adjusted.clamp_within model.source = some clamped ∧
        geometry model' = { geometry model with selection := some clamped }) := by
  unfold OverlayModel.nudge at nudged
  split at nudged
  · cases nudged
    exact ⟨quiet_nil, rfl, .inl rfl⟩
  · rename_i active
    simp only [not_or, not_not] at active
    split at nudged
    · cases nudged
      exact ⟨quiet_nil, rfl, .inl rfl⟩
    · rename_i region selected
      simp only [Option.bind_eq_bind, Option.bind_eq_some_iff] at nudged
      obtain ⟨adjusted, adjusts, clamped, clamps, nudged⟩ := nudged
      split at nudged
      · cases nudged
        exact ⟨quiet_nil, rfl, .inl rfl⟩
      · cases nudged
        refine ⟨by simp [quiet], rfl, .inr ⟨region, adjusted, clamped, active.1, ?_, adjusts,
          clamps, rfl⟩⟩
        simp [Geometry.region, geometry, active.2.1, selected]

/-- SRC: machine.rs:1110-1129 -/
theorem loupe_tick_cases {time_ms : UInt32}
    (ticked : model.loupe_tick time_ms = some (model', effects)) :
    Quiet effects ∧ geometry model' = geometry model := by
  unfold OverlayModel.loupe_tick at ticked
  split at ticked
  · cases ticked
    exact ⟨quiet_nil, rfl⟩
  · simp only [Option.bind_eq_bind, Option.bind_eq_some_iff] at ticked
    obtain ⟨observed, sampled, ticked⟩ := ticked
    cases ticked
    exact ⟨quiet_ite quiet_nil (by simp [quiet]), (observe_pointer_motion_keeps sampled).1⟩

/-- SRC: machine.rs:1243-1267 -/
theorem window_preview_resolved_cases (model : OverlayModel) (rect : Option Rect)
    (intent : ConfirmIntent) :
    ∃ resolved, geometry resolved = { geometry model with
        selection := rect, selection_kind := rect.map fun _ => .Window } ∧
      (Ended resolved (model.window_preview_resolved rect intent).1
          (model.window_preview_resolved rect intent).2 ∨
        ((model.window_preview_resolved rect intent).1 = resolved ∧
          Quiet (model.window_preview_resolved rect intent).2)) := by
  refine ⟨{ model with selection := rect, selection_kind := rect.map fun _ => .Window }, rfl,
    ?_⟩
  unfold OverlayModel.window_preview_resolved
  simp only
  split
  · exact .inl (confirm_or_capture_ended _ _)
  · exact .inr ⟨rfl, by simp [quiet]⟩

/-- SRC: machine.rs:1269-1280 -/
theorem double_clicked_cases {point : Point} {modifiers : Modifiers}
    (clicked : model.double_clicked point modifiers = some (model', effects)) :
    Ended model model' effects := by
  unfold OverlayModel.double_clicked at clicked
  simp only [Option.bind_eq_bind, Option.bind_eq_some_iff] at clicked
  obtain ⟨layout, -, clicked⟩ := clicked
  split at clicked
  · cases clicked
    exact .unavailable
  · obtain ⟨rfl, rfl⟩ := Prod.ext_iff.mp (Option.some.inj clicked)
    exact confirm_or_capture_ended _ _

/-- SRC: machine.rs:1282-1300 -/
theorem pointer_capture_lost_cases (model : OverlayModel) :
    geometry model.pointer_capture_lost.1 =
        { (geometry model).undragged with toolbar_drag := none } ∧
      Quiet model.pointer_capture_lost.2 := by
  refine ⟨rfl, ?_⟩
  unfold OverlayModel.pointer_capture_lost
  rw [quiet_append]
  exact ⟨quiet_ite (by simp [quiet]) quiet_nil, by simp [quiet]⟩

/-- SRC: machine.rs:881-900 -/
theorem window_sources_pruned_cases (model : OverlayModel) (dead : List NativeWindowHandle) :
    Quiet (model.window_sources_pruned dead).2 ∧
      (geometry (model.window_sources_pruned dead).1 = geometry model ∨
        geometry (model.window_sources_pruned dead).1 =
          { geometry model with selected_window := none }) := by
  unfold OverlayModel.window_sources_pruned
  simp only
  split
  · exact ⟨by simp [quiet], .inr rfl⟩
  · exact ⟨quiet_nil, .inl rfl⟩

end Captastic.Analysis
