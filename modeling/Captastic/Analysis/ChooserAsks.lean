import Captastic.Analysis.OverlaySteps
import Captastic.Model.WindowOverview

/-!
# What inputs ask of the window chooser

An input asks the chooser for at most one thing: to build its overview, to refresh it under a
chrome that moved, or to take its previews down while the toolbar is dragged (`transition_asks`).
What it leaves unasked is what the chooser needs: the tool for windows is entered only with a
build, and a drag of the toolbar is left only with a refresh.
-/

set_option autoImplicit false

namespace Captastic.Analysis

open Captastic.Library Captastic.Model

/-- Whether the effect reaches the chooser's tiles. -/
def reaches_chooser : OverlayEffect → Bool
  | .ClearLiveThumbnails | .BuildWindowOverview | .RefreshWindowChrome => true
  | _ => false

/-- The effects that reach the chooser's tiles. -/
def asked (effects : List OverlayEffect) : List OverlayEffect := effects.filter reaches_chooser

/-- What is asked of the chooser by two lists of effects, one after the other. -/
@[simp] theorem asked_append (first last : List OverlayEffect) :
    asked (first ++ last) = asked first ++ asked last :=
  List.filter_append ..

/-- No effect asks nothing. -/
@[simp] theorem asked_nil : asked [] = [] := rfl

/-- An effect asks where it reaches the chooser. -/
@[simp] theorem asked_cons (effect : OverlayEffect) (effects : List OverlayEffect) :
    asked (effect :: effects) =
      if reaches_chooser effect then effect :: asked effects else asked effects :=
  List.filter_cons

/-- What either of two lists asks. -/
theorem asked_ite (condition : Prop) [Decidable condition] (first last : List OverlayEffect) :
    asked (if condition then first else last) =
      if condition then asked first else asked last := by
  split
  · rfl
  · rfl

/-- Asking for snap targets asks nothing of the chooser. -/
@[simp] theorem asked_request_snap_targets (model : OverlayModel) :
    asked model.request_snap_targets = [] := by
  unfold OverlayModel.request_snap_targets
  split
  · simp [reaches_chooser]
  · rfl

/-- What an input may ask of the chooser, by the tool and the drag of the toolbar before and
after. -/
inductive Asks (model model' : OverlayModel) : List OverlayEffect → Prop
  | nothing (entered : model'.tool = .Window → model.tool = .Window)
      (released : model'.tool = .Window → model'.toolbar_drag = none → model.toolbar_drag = none) :
      Asks model model' []
  | clears (entered : model'.tool = model.tool) (dragged : model'.toolbar_drag.isSome) :
      Asks model model' [.ClearLiveThumbnails]
  | builds : Asks model model' [.BuildWindowOverview]
  | refreshes (entered : model'.tool = .Window → model.tool = .Window) :
      Asks model model' [.RefreshWindowChrome]

variable {model model' : OverlayModel} {effects : List OverlayEffect}

/-- An input that keeps the tool and the drag of the toolbar asks nothing. -/
theorem Asks.keeps (none_asked : asked effects = []) (tool : model'.tool = model.tool)
    (drag : model'.toolbar_drag = model.toolbar_drag) : Asks model model' (asked effects) := by
  rw [none_asked]
  exact .nothing (fun window => tool ▸ window) fun _ released => drag ▸ released

/-- What is asked depends on the tool and the drag of the toolbar only. -/
theorem Asks.of_same {middle : OverlayModel} (asks : Asks middle model' effects)
    (tool : middle.tool = model.tool) (drag : middle.toolbar_drag = model.toolbar_drag) :
    Asks model model' effects := by
  cases asks with
  | nothing entered released => exact .nothing (tool ▸ entered) (drag ▸ released)
  | clears entered dragged => exact .clears (entered.trans tool) dragged
  | builds => exact .builds
  | refreshes entered => exact .refreshes (tool ▸ entered)

/-! ## Presses of the toolbar -/

/-- Confirming asks no more of the chooser than `Asks` allows. -/
theorem confirm_asks (model : OverlayModel) (intent : ConfirmIntent) :
    Asks model (model.confirm intent).1 (asked (model.confirm intent).2) := by
  unfold OverlayModel.confirm OverlayModel.persist_interaction
  split
  · split
    · exact .keeps rfl rfl rfl
    · exact .keeps rfl rfl rfl
  · exact .keeps rfl rfl rfl

/-- It keeps the tool and a drag of the toolbar. -/
theorem confirm_keeps (model : OverlayModel) (intent : ConfirmIntent) :
    (model.confirm intent).1.tool = model.tool ∧
      (model.confirm intent).1.toolbar_drag = model.toolbar_drag := by
  unfold OverlayModel.confirm OverlayModel.persist_interaction
  split
  · split
    · exact ⟨rfl, rfl⟩
    · exact ⟨rfl, rfl⟩
  · exact ⟨rfl, rfl⟩

/-- Nor does capturing at once ask for more. -/
theorem confirm_or_capture_asks (model : OverlayModel) (intent : ConfirmIntent) :
    Asks model (model.confirm_or_capture intent).1
      (asked (model.confirm_or_capture intent).2) := by
  unfold OverlayModel.confirm_or_capture
  simp only
  split
  · obtain ⟨tool, drag⟩ := confirm_keeps model intent
    exact (confirm_asks _ .Capture).of_same tool drag
  · exact confirm_asks model intent

/-- A tool asks for the overview if it is the one for windows, and else for nothing. -/
theorem activate_tool_asks {tool : CaptureTool}
    (activated : model.activate_tool tool = some (model', effects)) :
    Asks model model' (asked effects) := by
  have away (tool_is : model'.tool ≠ .Window) (none_asked : asked effects = []) :
      Asks model model' (asked effects) := by
    rw [none_asked]
    exact .nothing (fun window => absurd window tool_is) fun window => absurd window tool_is
  have window_asks (overview_asked : asked effects = [.BuildWindowOverview]) :
      Asks model model' (asked effects) := by
    rw [overview_asked]
    exact .builds
  unfold OverlayModel.activate_tool at activated
  by_cases same : model.tool = tool
  · simp only [same, ne_eq, not_true_eq_false, if_false] at activated
    cases tool with
    | FullDisplay =>
      cases activated
      exact away nofun (by simp [reaches_chooser])
    | Window =>
      cases activated
      exact window_asks (by simp [reaches_chooser])
    | Region =>
      cases activated
      exact away (by simp) (by simp [reaches_chooser])
  · simp only [ne_eq, same, not_false_eq_true, if_true] at activated
    cases tool with
    | FullDisplay =>
      cases activated
      exact away nofun (by simp [reaches_chooser])
    | Window =>
      cases activated
      exact window_asks (by simp [reaches_chooser])
    | Region =>
      simp only [Option.bind_eq_bind, Option.bind_eq_some_iff] at activated
      obtain ⟨initial, selected, ⟨_, _⟩, entered, activated⟩ := activated
      cases entered
      cases activated
      exact away nofun (by simp [reaches_chooser])

/-- The end of every press of a control asks nothing more. -/
theorem control_handled_asks {pressed : OverlayModel} {returned : List OverlayEffect}
    (asks : Asks model pressed (asked returned)) :
    Asks model (OverlayModel.control_handled (pressed, returned)).1
      (asked (OverlayModel.control_handled (pressed, returned)).2) := by
  simpa [OverlayModel.control_handled, reaches_chooser] using asks

/-- Nor does a control that is pressed. -/
theorem control_pressed_asks {control : ToolbarControl}
    (pressed : model.control_pressed control = some (model', effects))
    (record : control = .Record → model.tool = .Window) :
    Asks model model' (asked effects) := by
  unfold OverlayModel.control_pressed at pressed
  cases control with
  | FullDisplay | Window | Region => exact activate_tool_asks pressed
  | Options =>
    cases pressed
    rw [asked_ite]
    split
    · exact .refreshes id
    · exact .keeps rfl rfl rfl
  | Record =>
    cases pressed
    exact .refreshes id
  | DimBackground | RegionZoom =>
    cases pressed
    exact .keeps rfl rfl rfl
  | SnapToWindows =>
    cases pressed
    exact .keeps (by simp [reaches_chooser]) rfl rfl
  | PreviewView =>
    obtain ⟨rfl, rfl⟩ := Prod.ext_iff.mp (Option.some.inj pressed)
    unfold OverlayModel.toggle_view
    split
    · exact .keeps rfl rfl rfl
    · exact .keeps rfl rfl rfl
  | FileOutputDestination =>
    simp only at pressed
    split at pressed
    · cases pressed
      exact .keeps rfl rfl rfl
    · cases pressed
      exact .keeps rfl rfl rfl
  | RecordFormat =>
    simp only at pressed
    split at pressed
    · cases pressed
      exact .keeps rfl rfl rfl
    · cases pressed
      exact .keeps rfl rfl rfl
    · cases pressed
      exact .keeps rfl rfl rfl
  | Background | Pin | Edit | Capture | ClipboardDestination | Cancel =>
    cases pressed
    exact .keeps rfl rfl rfl

/-- Nor does one that is pressed on the toolbar. -/
theorem toolbar_control_pressed_asks {control : ToolbarControl} {in_toolbar_bounds : Bool}
    {point : Point} {modifiers : Modifiers}
    (pressed : model.toolbar_control_pressed control in_toolbar_bounds point modifiers =
      some (model', effects)) :
    Asks model model' (asked effects) := by
  unfold OverlayModel.toolbar_control_pressed at pressed
  simp only at pressed
  have of_pressed {middle : OverlayModel} {control : ToolbarControl}
      (tool : middle.tool = model.tool) (drag : middle.toolbar_drag = model.toolbar_drag)
      (handled : (middle.control_pressed control).map OverlayModel.control_handled =
        some (model', effects)) (record : control = .Record → middle.tool = .Window) :
      Asks model model' (asked effects) := by
    obtain ⟨⟨left, returned⟩, pressed_eq, handled⟩ := Option.map_eq_some_iff.mp handled
    obtain ⟨rfl, rfl⟩ := Prod.ext_iff.mp handled
    exact (control_handled_asks (control_pressed_asks pressed_eq record)).of_same tool drag
  cases control with
  | Background =>
    simp only at pressed
    split at pressed
    · obtain ⟨rfl, rfl⟩ := Prod.ext_iff.mp (Option.some.inj pressed)
      simp only [OverlayModel.control_handled, asked_append, asked_ite]
      split
      · exact .clears rfl rfl
      · rename_i tool
        exact .nothing id fun window => absurd window tool
    · obtain ⟨rfl, rfl⟩ := Prod.ext_iff.mp (Option.some.inj pressed)
      exact .keeps rfl rfl rfl
  | Capture =>
    obtain ⟨rfl, rfl⟩ := Prod.ext_iff.mp (Option.some.inj pressed)
    exact (confirm_or_capture_asks _ _).of_same rfl rfl
  | Pin | Edit =>
    obtain ⟨rfl, rfl⟩ := Prod.ext_iff.mp (Option.some.inj pressed)
    exact (confirm_asks _ _).of_same rfl rfl
  | Cancel =>
    obtain ⟨rfl, rfl⟩ := Prod.ext_iff.mp (Option.some.inj pressed)
    exact .keeps rfl rfl rfl
  | Record =>
    simp only at pressed
    split at pressed
    · rename_i armed
      exact of_pressed (by rfl) (by rfl) pressed fun _ => armed.1
    · obtain ⟨rfl, rfl⟩ := Prod.ext_iff.mp (Option.some.inj pressed)
      exact (confirm_asks _ _).of_same rfl rfl
  | _ => exact of_pressed (by rfl) (by rfl) pressed (by simp)

/-! ## Other inputs -/

/-- Nor does a press. -/
theorem pointer_down_asks {point : Point} {slot : Option NativeWindowHandle} {time_ms : UInt32}
    {modifiers : Modifiers}
    (pressed : model.pointer_down point slot time_ms modifiers = some (model', effects)) :
    Asks model model' (asked effects) := by
  unfold OverlayModel.pointer_down at pressed
  simp only [Option.bind_eq_bind, Option.bind_eq_some_iff] at pressed
  obtain ⟨layout, -, pressed⟩ := pressed
  split at pressed
  · exact toolbar_control_pressed_asks pressed
  · split at pressed
    · obtain ⟨rfl, rfl⟩ := Prod.ext_iff.mp (Option.some.inj pressed)
      rw [asked_append, asked_ite]
      split
      · exact .refreshes id
      · exact .keeps rfl rfl rfl
    · cases pressed
      exact .keeps rfl rfl rfl
    · rename_i tool
      obtain ⟨rfl, rfl⟩ := Prod.ext_iff.mp (Option.some.inj pressed)
      unfold OverlayModel.press_region
      simp only
      split
      · exact .keeps (by simp [reaches_chooser]) rfl rfl
      · split
        · exact .keeps (by simp [reaches_chooser]) rfl rfl
        · exact .keeps (by simp [reaches_chooser]) rfl rfl

/-- A handler that leaves the tool and the drag of the toolbar in the geometry, and returns none of
the chooser's effects, asks nothing. -/
theorem Asks.of_geometry {g : Geometry} (leaves : geometry model' = g) (tool : g.tool = model.tool)
    (drag : g.toolbar_drag = model.toolbar_drag) (none_asked : asked effects = []) :
    Asks model model' (asked effects) :=
  .keeps none_asked ((congrArg Geometry.tool leaves).trans tool)
    ((congrArg Geometry.toolbar_drag leaves).trans drag)

/-- Nor does a move. -/
theorem pointer_moved_asks {point : Point} {window_hover : Option WindowCandidate}
    {modifiers : Modifiers} {time_ms : UInt32}
    (moved : model.pointer_moved point window_hover modifiers time_ms = some (model', effects)) :
    Asks model model' (asked effects) := by
  have none_asked : asked effects = [] := by
    unfold OverlayModel.pointer_moved at moved
    simp only [Option.bind_eq_bind, Option.bind_eq_some_iff] at moved
    obtain ⟨observed, -, moved⟩ := moved
    split at moved
    · simp only [Option.bind_eq_some_iff] at moved
      obtain ⟨position, -, moved⟩ := moved
      cases moved
      rfl
    · simp only [Option.bind_eq_some_iff] at moved
      obtain ⟨layout, -, ⟨left, cursor⟩, -, moved⟩ := moved
      cases moved
      rw [asked_cons, asked_ite]
      simp [reaches_chooser]
  obtain ⟨-, -, aimed, -, moved⟩ := pointer_moved_cases moved
  cases moved with
  | hovered leaves => exact .of_geometry leaves rfl rfl none_asked
  | resized _ _ leaves => exact .of_geometry leaves rfl rfl none_asked
  | moved _ _ leaves => exact .of_geometry leaves rfl rfl none_asked
  | banded _ _ _ leaves => exact .of_geometry leaves rfl rfl none_asked

/-- A release leaves the tool. -/
theorem Released.tool {point : Point} {modifiers : Modifiers}
    (released : Released model point modifiers model') : model'.tool = model.tool := by
  cases released with
  | toolbar leaves _ => exact congrArg Geometry.tool leaves
  | elsewhere _ leaves => exact congrArg Geometry.tool leaves
  | resized _ _ _ leaves => exact congrArg Geometry.tool leaves
  | moved _ _ _ leaves => exact congrArg Geometry.tool leaves
  | banded _ _ _ leaves => exact congrArg Geometry.tool leaves
  | clicked _ leaves => exact congrArg Geometry.tool leaves

/-- Nor does a release. -/
theorem pointer_up_asks {point : Point} {modifiers : Modifiers}
    (released : model.pointer_up point modifiers = some (model', effects)) :
    Asks model model' (asked effects) := by
  have same_tool := (pointer_up_cases released).2.2.tool
  unfold OverlayModel.pointer_up at released
  split at released
  · cases released
    simp only [asked_append, asked_ite]
    split
    · exact .refreshes id
    · rename_i tool
      exact .nothing id fun window => absurd window tool
  · split at released
    · cases released
      exact .keeps rfl rfl rfl
    · rename_i tool
      have away : model'.tool ≠ .Window := by
        rw [same_tool, not_not.mp tool]
        exact nofun
      simp only [Option.bind_eq_bind, Option.bind_eq_some_iff] at released
      obtain ⟨committed, -, released⟩ := released
      cases released
      exact .nothing (fun window => absurd window away) fun window => absurd window away

/-- Nor does a nudge. -/
theorem nudge_asks {dx dy : Int} {resize : Bool}
    (nudged : model.nudge dx dy resize = some (model', effects)) :
    Asks model model' (asked effects) := by
  unfold OverlayModel.nudge at nudged
  split at nudged
  · cases nudged
    exact .keeps rfl rfl rfl
  · split at nudged
    · cases nudged
      exact .keeps rfl rfl rfl
    · simp only [Option.bind_eq_bind, Option.bind_eq_some_iff] at nudged
      obtain ⟨adjusted, -, clamped, -, nudged⟩ := nudged
      split at nudged
      · cases nudged
        exact .keeps rfl rfl rfl
      · cases nudged
        exact .keeps rfl rfl rfl

/-- Nor does the loupe's timer. -/
theorem loupe_tick_asks {time_ms : UInt32}
    (ticked : model.loupe_tick time_ms = some (model', effects)) :
    Asks model model' (asked effects) := by
  refine .of_geometry (loupe_tick_cases ticked).2 rfl rfl ?_
  unfold OverlayModel.loupe_tick at ticked
  split at ticked
  · cases ticked
    rfl
  · simp only [Option.bind_eq_bind, Option.bind_eq_some_iff] at ticked
    obtain ⟨observed, -, ticked⟩ := ticked
    cases ticked
    rw [asked_ite]
    split <;> simp [reaches_chooser]

/-- Nor does the answer to a request for a preview. -/
theorem window_preview_resolved_asks (model : OverlayModel) (rect : Option Rect)
    (intent : ConfirmIntent) :
    Asks model (model.window_preview_resolved rect intent).1
      (asked (model.window_preview_resolved rect intent).2) := by
  unfold OverlayModel.window_preview_resolved
  simp only
  split
  · exact (confirm_or_capture_asks _ _).of_same rfl rfl
  · exact .keeps rfl rfl rfl

/-- Nor does a double click. -/
theorem double_clicked_asks {point : Point} {modifiers : Modifiers}
    (clicked : model.double_clicked point modifiers = some (model', effects)) :
    Asks model model' (asked effects) := by
  unfold OverlayModel.double_clicked at clicked
  simp only [Option.bind_eq_bind, Option.bind_eq_some_iff] at clicked
  obtain ⟨layout, -, clicked⟩ := clicked
  split at clicked
  · cases clicked
    exact .keeps rfl rfl rfl
  · obtain ⟨rfl, rfl⟩ := Prod.ext_iff.mp (Option.some.inj clicked)
    exact confirm_or_capture_asks _ _

/-- Nor does losing the pointer's capture. -/
theorem pointer_capture_lost_asks (model : OverlayModel) :
    Asks model model.pointer_capture_lost.1 (asked model.pointer_capture_lost.2) := by
  unfold OverlayModel.pointer_capture_lost
  simp only [asked_append, asked_ite]
  split
  · exact .refreshes id
  · rename_i no_refresh
    refine .nothing (fun window => window) fun window _ => ?_
    by_contra dragged
    exact no_refresh ⟨Option.isSome_iff_ne_none.mpr dragged, window⟩

/-- SRC: machine.rs:486-524 -/
theorem transition_asks {input : OverlayInput}
    (taken : model.transition input = some (model', effects)) :
    Asks model model' (asked effects) := by
  cases input with
  | PointerMoved point window_hover modifiers time_ms => exact pointer_moved_asks taken
  | PointerDown point slot time_ms modifiers => exact pointer_down_asks taken
  | PointerUp point modifiers => exact pointer_up_asks taken
  | DoubleClicked point modifiers => exact double_clicked_asks taken
  | PointerCaptureLost =>
    cases taken
    exact pointer_capture_lost_asks model
  | WindowPreviewResolved rect intent =>
    obtain ⟨rfl, rfl⟩ := Prod.ext_iff.mp (Option.some.inj taken)
    exact window_preview_resolved_asks model rect intent
  | SnapTargetsReady targets =>
    cases taken
    exact .keeps rfl rfl rfl
  | LoupeKeyChanged held =>
    obtain ⟨rfl, rfl⟩ := Prod.ext_iff.mp (Option.some.inj taken)
    refine .of_geometry (loupe_key_changed_keeps model held).1 rfl rfl ?_
    unfold OverlayModel.loupe_key_changed
    split
    · rfl
    · rw [asked_ite]
      split <;> simp [reaches_chooser]
  | Tick time_ms => exact loupe_tick_asks taken
  | ToggleView =>
    obtain ⟨rfl, rfl⟩ := Prod.ext_iff.mp (Option.some.inj taken)
    unfold OverlayModel.toggle_view
    split
    · exact .keeps rfl rfl rfl
    · exact .keeps rfl rfl rfl
  | Nudge dx dy resize => exact nudge_asks taken
  | ConfirmRequested intent =>
    obtain ⟨rfl, rfl⟩ := Prod.ext_iff.mp (Option.some.inj taken)
    exact confirm_asks model intent
  | CancelRequested =>
    cases taken
    exact .keeps rfl rfl rfl
  | DisplayConfigurationInvalidated reason =>
    cases taken
    exact .keeps rfl rfl rfl

end Captastic.Analysis
