import Captastic.Analysis.OverlaySteps

/-!
# One drag at a time, and how a run of the overlay ends

Two properties of every run of the overlay.

A press begins at most one drag: of the toolbar, of a handle, of the region, or of a corner of
a new one.  The drags in flight are the one that the most recent press began only where no
press meets a drag its branch forgets to drop: every press but one of the toolbar itself leaves
a drag of the toolbar in place, and a press inside the region leaves a drag of a handle in
place (`one_drag_iff`).  Both need a press whose predecessor was never released.

Whatever the run, its effects end it in order (`closing_discipline`): what is remembered comes
directly before the close, which is last, and a confirmation is of the selection it shows.
-/

set_option autoImplicit false

namespace Captastic.Analysis

open Captastic.Library Captastic.Model

/-! ## Runs of an overlay -/

/-- What happens to an overlay: an input, or the destruction of windows it has listed, which
is noticed as it paints.
SRC: overlay.rs:2256-2276 -/
inductive OverlayEvent where
  | input (input : OverlayInput)
  | pruned (dead : List NativeWindowHandle)

/-- Whether the input is the outcome of a window preview. -/
def resolves_preview : OverlayEvent → Bool
  | .input (.WindowPreviewResolved _ _) => true
  | _ => false

/-- Whether the effect asks for a window preview, whose outcome is the next input. -/
def asks_preview : OverlayEffect → Bool
  | .UpdateWindowPreview _ => true
  | _ => false

/-- What an event leaves of the model, and the effects it returns. -/
def handled (model : OverlayModel) : OverlayEvent → Option Handled
  | .input input => model.transition input
  | .pruned dead => some (model.window_sources_pruned dead)

/-- A drag, as the press that begins it determines it.  The corner that a new region is drawn
from is snapped once, as the press becomes a drag, and so is not part of it. -/
inductive OverlayDrag where
  | toolbar (drag : ToolbarDrag)
  | handle (drag : ResizeDrag)
  | region (drag : MoveDrag)
  | corner
deriving DecidableEq

/-- The drags in flight, in the order in which moves and releases look at them. -/
def Geometry.drags (g : Geometry) : List OverlayDrag :=
  (g.toolbar_drag.map OverlayDrag.toolbar).toList ++ (g.resizing.map OverlayDrag.handle).toList ++
    (g.moving_region.map OverlayDrag.region).toList ++ (g.anchor.map fun _ => OverlayDrag.corner).toList

/-- The model with no drag in flight. -/
def without_drags (model : OverlayModel) : OverlayModel :=
  { model with
    anchor := none, dragging := false, resizing := none, moving_region := none
    toolbar_drag := none }

/-- The drags a press begins: those that it puts in flight where none was. -/
def begun_by_press (model : OverlayModel) (point : Point) (slot : Option NativeWindowHandle)
    (time_ms : UInt32) (modifiers : Modifiers) : List OverlayDrag :=
  match (without_drags model).pointer_down point slot time_ms modifiers with
  | some handled => (geometry handled.1).drags
  | none => []

/-- The drags that the most recent press began, after an event. -/
def begun_after (model : OverlayModel) (begun : List OverlayDrag) : OverlayEvent → List OverlayDrag
  | .input (.PointerDown point slot time_ms modifiers) =>
    begun_by_press model point slot time_ms modifiers
  | _ => begun

/-- An overlay on screen: its model, whether a window preview's outcome is due, and, which no
handler reads, the drags that the most recent press began. -/
structure OverlaySession where
  model : OverlayModel
  preview_due : Bool
  begun : List OverlayDrag

/-- What an event does to an overlay on screen. -/
def OverlaySession.next (session : OverlaySession) (event : OverlayEvent) :
    Option OverlaySession :=
  (handled session.model event).map fun left =>
    ⟨left.1, left.2.any asks_preview, begun_after session.model session.begun event⟩

/-- The outcome of a window preview comes only directly after it was asked for, as the shell brings
it. -/
def PreviewDue (session : OverlaySession) (event : OverlayEvent) : Prop :=
  resolves_preview event = true → session.preview_due = true

/-- A step of an overlay on screen. -/
def OverlayStep (session : OverlaySession) (event : OverlayEvent) (session' : OverlaySession) :
    Prop :=
  session.next event = some session'

/-- A step is the event handled, with what it asks for and what drag it begins. -/
theorem OverlayStep.inversion {session session' : OverlaySession} {event : OverlayEvent}
    (step : OverlayStep session event session') :
    ∃ effects, handled session.model event = some (session'.model, effects) ∧
      session'.preview_due = effects.any asks_preview ∧
      session'.begun = begun_after session.model session.begun event := by
  obtain ⟨⟨model', effects⟩, taken, rfl⟩ := Option.map_eq_some_iff.mp step
  exact ⟨effects, taken, rfl, rfl⟩

/-- An overlay as it is opened. -/
def opened_session (model : OverlayModel) : OverlaySession := ⟨model, false, []⟩

/-! ## What a press begins -/

variable {model model' : OverlayModel} {effects : List OverlayEffect}

instance (g : Geometry) (point : Point) : Decidable (g.Inside point) :=
  decidable_of_iff (g.region.any fun selection => decide (selection.contains point.x point.y))
    (by simp [Option.any_eq_true, Geometry.Inside])

/-- The drag that a press outside the toolbar begins. -/
def Geometry.drag_outside (g : Geometry) (point : Point) : List OverlayDrag :=
  if g.tool ≠ .Region then []
  else
    match g.region, g.handle_under point with
    | some original, some handle => [.handle ⟨handle, original⟩]
    | some original, none =>
      if g.Inside point then [.region ⟨original, point⟩] else [.corner]
    | none, _ => [.corner]

/-- The drags that a press outside the toolbar leaves in flight: one of the toolbar, and inside
the region, off its handles, one of a handle. -/
def Geometry.carried_outside (g : Geometry) (point : Point) : List OverlayDrag :=
  if g.tool ≠ .Region then g.drags
  else (g.toolbar_drag.map OverlayDrag.toolbar).toList ++
    if g.Inside point ∧ g.handle_under point = none then (g.resizing.map OverlayDrag.handle).toList
    else []

/-- A press outside the toolbar leaves the drags it forgets to drop, and its own. -/
theorem drags_outside {g : Geometry} {point : Point}
    (pressed : PressedOutside g point model' effects) :
    (geometry model').drags = g.carried_outside point ++ g.drag_outside point := by
  cases pressed with
  | window tool leaves =>
    rw [leaves]
    simp [Geometry.carried_outside, Geometry.drag_outside, Geometry.drags, tool]
  | display tool leaves =>
    rw [leaves]
    simp [Geometry.carried_outside, Geometry.drag_outside, tool]
  | resize tool region pressed leaves =>
    rw [leaves]
    simp [Geometry.carried_outside, Geometry.drag_outside, Geometry.drags, Geometry.undragged,
      tool, region, pressed]
  | move tool region inside pressed leaves =>
    rw [leaves]
    simp [Geometry.carried_outside, Geometry.drag_outside, Geometry.drags, Geometry.undragged,
      tool, region, pressed, inside]
  | band tool outside pressed leaves =>
    rw [leaves]
    cases region : g.region with
    | none =>
      simp [Geometry.carried_outside, Geometry.drag_outside, Geometry.drags,
        Geometry.undragged, tool, region, outside]
    | some original =>
      simp [Geometry.carried_outside, Geometry.drag_outside, Geometry.drags,
        Geometry.undragged, tool, region, pressed, outside]

/-- A press of the toolbar itself begins a drag of it; one of another control begins none.  Both
drop every drag of a region. -/
def drags_pressed (model : OverlayModel) (point : Point) : ToolbarControl × Bool → List OverlayDrag
  | (.Background, true) => [.toolbar (toolbar_grip model (local_point model.source point))]
  | _ => (model.toolbar_drag.map OverlayDrag.toolbar).toList

/-- A press on a control begins the drag that the control stands for. -/
theorem drags_on_control {control : ToolbarControl} {in_toolbar_bounds : Bool} {point : Point}
    (pressed : ControlPressed model (local_point model.source point) control in_toolbar_bounds
      model' effects) :
    (geometry model').drags = drags_pressed model point (control, in_toolbar_bounds) := by
  have elsewhere (other : ¬(control = .Background ∧ in_toolbar_bounds = true)) :
      drags_pressed model point (control, in_toolbar_bounds) =
        (model.toolbar_drag.map OverlayDrag.toolbar).toList := by
    unfold drags_pressed
    split
    · rename_i both
      cases both
      exact absurd ⟨rfl, rfl⟩ other
    · rfl
  cases pressed with
  | dragged background leaves =>
    rw [leaves, background.1, background.2]
    rfl
  | ended other leaves ended =>
    obtain ⟨last_region, -, ends⟩ := ended.leaves
    rw [ends, leaves, elsewhere other]
    simp [Geometry.undragged, Geometry.drags, geometry]
  | switched other _ _ leaves =>
    rw [leaves, elsewhere other]
    simp [Geometry.switched, Geometry.undragged, Geometry.drags, geometry]
  | kept other leaves =>
    rw [leaves, elsewhere other]
    simp [Geometry.undragged, Geometry.drags, geometry]

/-- Where a press of a model leaves a drag of its own, the press of the model with no drag in
flight can be taken too. -/
theorem clean_press {point : Point} {slot : Option NativeWindowHandle} {time_ms : UInt32}
    {modifiers : Modifiers}
    (pressed : model.pointer_down point slot time_ms modifiers = some (model', effects))
    (under : control_under model point = none ∨
      control_under model point = some (.Background, true)) :
    ∃ clean returned,
      (without_drags model).pointer_down point slot time_ms modifiers = some (clean, returned) := by
  unfold OverlayModel.pointer_down at pressed ⊢
  simp only [Option.bind_eq_bind, Option.bind_eq_some_iff] at pressed
  obtain ⟨layout, layout_eq, pressed⟩ := pressed
  have clean_layout : ToolbarLayout.new (without_drags model).display_environment
      (without_drags model).toolbar_position = some layout := layout_eq
  simp only [Option.bind_eq_bind, clean_layout, Option.bind_some]
  simp only [control_under, Option.bind_eq_bind, layout_eq, Option.bind_some] at under
  rcases under with none_under | background
  · have no_hit : layout.hit_test (local_point (without_drags model).source point)
        (without_drags model).options_open = none := by
      apply Option.eq_none_iff_forall_ne_some.mpr
      simpa [without_drags] using none_under
    simp only [no_hit]
    split
    · exact ⟨_, _, rfl⟩
    · exact ⟨_, _, rfl⟩
    · exact ⟨_, _, rfl⟩
  · obtain ⟨control, hit, inside⟩ := Option.bind_eq_some_iff.mp background
    obtain ⟨rfl, inside⟩ := Prod.ext_iff.mp (Option.some.inj inside)
    have clean_hit : layout.hit_test (local_point (without_drags model).source point)
        (without_drags model).options_open = some .Background := hit
    have clean_inside : layout.bounds.contains (local_point (without_drags model).source point) =
        true := inside
    simp only [clean_hit, clean_inside, OverlayModel.toolbar_control_pressed, if_true]
    exact ⟨_, _, rfl⟩

/-- A press outside the toolbar begins its own drag. -/
theorem begun_outside {point : Point} {slot : Option NativeWindowHandle} {time_ms : UInt32}
    {modifiers : Modifiers}
    (pressed : model.pointer_down point slot time_ms modifiers = some (model', effects))
    (under : control_under model point = none) :
    begun_by_press model point slot time_ms modifiers = (geometry model).drag_outside point := by
  obtain ⟨clean, returned, clean_pressed⟩ := clean_press pressed (.inl under)
  have carried : (geometry (without_drags model)).carried_outside point = [] := by
    unfold Geometry.carried_outside
    split
    · rfl
    · split
      · rfl
      · rfl
  rcases pointer_down_cases clean_pressed with ⟨control, inside, on_control, -⟩ | ⟨-, outside⟩
  · have same : control_under (without_drags model) point = control_under model point := rfl
    rw [same, under] at on_control
    cases on_control
  · unfold begun_by_press
    rw [clean_pressed]
    apply (drags_outside outside).trans
    rw [carried]
    rfl

/-- A press of the toolbar itself begins a drag of it, and one of another control none. -/
theorem begun_on_control {point : Point} {slot : Option NativeWindowHandle} {time_ms : UInt32}
    {modifiers : Modifiers} {control : ToolbarControl} {in_toolbar_bounds : Bool}
    (pressed : model.pointer_down point slot time_ms modifiers = some (model', effects))
    (under : control_under model point = some (control, in_toolbar_bounds)) :
    begun_by_press model point slot time_ms modifiers =
      drags_pressed (without_drags model) point (control, in_toolbar_bounds) := by
  have clean_under : control_under (without_drags model) point =
      some (control, in_toolbar_bounds) := under
  have on_control {clean : OverlayModel} {returned : List OverlayEffect}
      (clean_pressed : (without_drags model).pointer_down point slot time_ms modifiers =
        some (clean, returned)) :
      (geometry clean).drags =
        drags_pressed (without_drags model) point (control, in_toolbar_bounds) := by
    rcases pointer_down_cases clean_pressed with ⟨_, _, on_control, left⟩ | ⟨none_under, -⟩
    · rw [clean_under] at on_control
      cases on_control
      exact drags_on_control left
    · rw [clean_under] at none_under
      cases none_under
  unfold begun_by_press
  split
  · rename_i handled clean_pressed
    exact on_control clean_pressed
  · rename_i refused
    by_cases background : control = .Background ∧ in_toolbar_bounds = true
    · obtain ⟨rfl, rfl⟩ := background
      obtain ⟨clean, returned, clean_pressed⟩ := clean_press pressed (.inr under)
      rw [refused] at clean_pressed
      cases clean_pressed
    · unfold drags_pressed
      split
      · rename_i both
        cases both
        exact absurd ⟨rfl, rfl⟩ background
      · rfl

/-! ## One drag at a time -/

/-- **One drag at a time**: at most one drag is in flight, a region is being drawn only from a
corner, and the drag in flight is the one that the most recent press began. -/
structure OneDrag (session : OverlaySession) : Prop where
  one : (geometry session.model).drags.length ≤ 1
  anchored : session.model.dragging = true → session.model.anchor.isSome = true
  latest : ∀ drag ∈ (geometry session.model).drags, drag ∈ session.begun

/-- What every step keeps that meets the condition: besides, no region is dragged under another
tool. -/
structure DragsInOrder (session : OverlaySession) : Prop extends OneDrag session where
  under_tool : session.model.tool ≠ .Region →
    ∀ drag ∈ (geometry session.model).drags, ∃ toolbar, drag = .toolbar toolbar

/-- The press drops every drag in flight: none is of the toolbar, unless the press is of the
toolbar itself, and none is of a handle where the press is inside the region, off its handles
and off the toolbar. -/
structure DropsEarlier (model : OverlayModel) (point : Point) : Prop where
  toolbar : model.toolbar_drag = none ∨ control_under model point = some (.Background, true)
  handle : model.resizing = none ∨ model.tool ≠ .Region ∨ control_under model point ≠ none ∨
    ¬(geometry model).Inside point ∨ (geometry model).handle_under point ≠ none

/-- The condition on an event: a press drops every drag in flight. -/
def drops_earlier (session : OverlaySession) : OverlayEvent → Prop
  | .input (.PointerDown point _ _ _) => DropsEarlier session.model point
  | _ => True

/-- An event that is no press leaves no drag that was not in flight, and the tool. -/
structure BeginsNothing (g g' : Geometry) : Prop where
  tool : g'.tool = g.tool
  drags : g'.drags.Sublist g.drags
  anchored : (g.dragging = true → g.anchor.isSome = true) →
    g'.dragging = true → g'.anchor.isSome = true

/-- The same tool, drags and anchor begin nothing. -/
theorem BeginsNothing.refl {g g' : Geometry} (tool : g'.tool = g.tool) (drags : g'.drags = g.drags)
    (dragging : g'.dragging = g.dragging) (anchor : g'.anchor = g.anchor) :
    BeginsNothing g g' := by
  refine ⟨tool, drags ▸ List.Sublist.refl _, ?_⟩
  rw [dragging, anchor]
  exact id

/-- A move begins no drag. -/
theorem moved_begins_nothing {aimed : OverlayModel} {point : Point} {modifiers : Modifiers}
    (moved : Moved aimed ((geometry model).pointed point) point modifiers model') :
    BeginsNothing (geometry model) (geometry model') := by
  cases moved with
  | hovered leaves =>
    rw [leaves]
    exact .refl rfl rfl rfl rfl
  | resized _ _ leaves =>
    rw [leaves]
    exact .refl rfl rfl rfl rfl
  | moved _ _ leaves =>
    rw [leaves]
    exact .refl rfl rfl rfl rfl
  | banded drag _ _ leaves =>
    rw [leaves]
    have anchor : (geometry model).anchor = some _ := drag
    refine ⟨rfl, ?_, fun _ _ => rfl⟩
    simp [Geometry.drags, Geometry.pointed, anchor]

/-- A release begins no drag. -/
theorem released_begins_nothing {point : Point} {modifiers : Modifiers}
    (released : Released model point modifiers model') :
    BeginsNothing (geometry model) (geometry model') := by
  cases released with
  | toolbar leaves =>
    rw [leaves]
    refine ⟨rfl, ?_, id⟩
    simp [Geometry.drags]
  | elsewhere _ leaves =>
    rw [leaves]
    exact .refl rfl rfl rfl rfl
  | resized _ _ _ leaves =>
    rw [leaves]
    refine ⟨rfl, ?_, by simp⟩
    simp [Geometry.drags]
  | moved _ _ _ leaves =>
    rw [leaves]
    refine ⟨rfl, ?_, by simp⟩
    simp [Geometry.drags]
  | banded _ _ _ leaves =>
    rw [leaves]
    refine ⟨rfl, ?_, by simp⟩
    simp [Geometry.drags]
  | clicked _ leaves =>
    rw [leaves]
    refine ⟨rfl, ?_, by simp⟩
    simp [Geometry.drags]

/-- A drag that ends begins no other. -/
theorem ended_begins_nothing (ended : Ended model model' effects) :
    BeginsNothing (geometry model) (geometry model') := by
  obtain ⟨last_region, -, leaves⟩ := ended.leaves
  rw [leaves]
  exact .refl rfl rfl rfl rfl

/-- Every event but a press begins no drag. -/
theorem other_begins_nothing {event : OverlayEvent}
    (other : ∀ point slot time_ms modifiers,
      event ≠ .input (.PointerDown point slot time_ms modifiers))
    (taken : handled model event = some (model', effects)) :
    BeginsNothing (geometry model) (geometry model') := by
  cases event with
  | pruned dead =>
    obtain ⟨rfl, rfl⟩ := Prod.ext_iff.mp (Option.some.inj taken)
    rcases (window_sources_pruned_cases model dead).2 with same | cleared
    · rw [same]
      exact .refl rfl rfl rfl rfl
    · rw [cleared]
      exact .refl rfl rfl rfl rfl
  | input input =>
    cases input with
    | PointerDown point slot time_ms modifiers => exact absurd rfl (other point slot time_ms modifiers)
    | PointerMoved =>
      obtain ⟨-, -, aimed, -, moved⟩ := pointer_moved_cases taken
      exact moved_begins_nothing moved
    | PointerUp => exact released_begins_nothing (pointer_up_cases taken).2.2
    | DoubleClicked => exact ended_begins_nothing (double_clicked_cases taken)
    | PointerCaptureLost =>
      obtain ⟨rfl, rfl⟩ := Prod.ext_iff.mp (Option.some.inj taken)
      rw [(pointer_capture_lost_cases model).1]
      refine ⟨rfl, ?_, by simp [Geometry.undragged]⟩
      simp [Geometry.drags, Geometry.undragged]
    | WindowPreviewResolved rect intent =>
      obtain ⟨resolved, leaves, ended⟩ := window_preview_resolved_cases model rect intent
      obtain ⟨rfl, rfl⟩ := Prod.ext_iff.mp (Option.some.inj taken)
      have first : BeginsNothing (geometry model) (geometry resolved) := by
        rw [leaves]
        exact .refl rfl rfl rfl rfl
      rcases ended with ended | ⟨same, -⟩
      · have last := ended_begins_nothing ended
        exact ⟨last.tool.trans first.tool, last.drags.trans first.drags,
          fun anchored => last.anchored (first.anchored anchored)⟩
      · rw [same]
        exact first
    | SnapTargetsReady =>
      cases taken
      exact .refl rfl rfl rfl rfl
    | LoupeKeyChanged held =>
      obtain ⟨rfl, rfl⟩ := Prod.ext_iff.mp (Option.some.inj taken)
      rw [(loupe_key_changed_keeps model held).1]
      exact .refl rfl rfl rfl rfl
    | Tick =>
      rw [(loupe_tick_cases taken).2]
      exact .refl rfl rfl rfl rfl
    | ToggleView =>
      obtain ⟨rfl, rfl⟩ := Prod.ext_iff.mp (Option.some.inj taken)
      rw [(toggle_view_keeps model).1]
      exact .refl rfl rfl rfl rfl
    | Nudge =>
      rcases (nudge_cases taken).2.2 with same | ⟨_, _, _, _, _, _, _, leaves⟩
      · rw [same]
        exact .refl rfl rfl rfl rfl
      · rw [leaves]
        exact .refl rfl rfl rfl rfl
    | ConfirmRequested intent =>
      obtain ⟨rfl, rfl⟩ := Prod.ext_iff.mp (Option.some.inj taken)
      exact ended_begins_nothing (confirm_ended model intent)
    | CancelRequested =>
      obtain ⟨rfl, rfl⟩ := Prod.ext_iff.mp (Option.some.inj taken)
      exact ended_begins_nothing (cancel_ended model)
    | DisplayConfigurationInvalidated =>
      cases taken
      exact .refl rfl rfl rfl rfl

/-- A press that drops every earlier drag leaves only its own. -/
theorem press_in_order {session : OverlaySession} {point : Point}
    {slot : Option NativeWindowHandle} {time_ms : UInt32} {modifiers : Modifiers}
    (order : DragsInOrder session) (drops : DropsEarlier session.model point)
    (pressed : session.model.pointer_down point slot time_ms modifiers = some (model', effects)) :
    (geometry model').drags = begun_by_press session.model point slot time_ms modifiers := by
  rcases pointer_down_cases pressed with ⟨control, inside, under, left⟩ | ⟨under, left⟩
  · rw [drags_on_control left, begun_on_control pressed under]
    rcases drops.toolbar with no_toolbar | background
    · unfold drags_pressed
      split
      · rfl
      · simp [no_toolbar, without_drags]
    · rw [under] at background
      cases background
      rfl
  · rw [drags_outside left, begun_outside pressed under]
    have no_toolbar : (geometry session.model).toolbar_drag = none := by
      apply drops.toolbar.resolve_right
      rw [under]
      simp
    have nothing : (geometry session.model).carried_outside point = [] := by
      unfold Geometry.carried_outside
      split
      · rename_i tool
        apply List.eq_nil_iff_forall_not_mem.mpr
        intro drag member
        obtain ⟨toolbar, rfl⟩ := order.under_tool tool drag member
        simp [Geometry.drags, no_toolbar] at member
      · rename_i tool
        rw [no_toolbar]
        split
        · rename_i within
          have no_handle : (geometry session.model).resizing = none := by
            rcases drops.handle with no_handle | other | other | other | other
            · exact no_handle
            · exact absurd other tool
            · exact absurd under other
            · exact absurd within.1 other
            · exact absurd within.2 other
          simp [no_handle]
        · rfl
    rw [nothing]
    rfl

/-- A press begins at most one drag, and only one of the toolbar under another tool than
Region. -/
theorem begun_at_most_one {point : Point} {slot : Option NativeWindowHandle} {time_ms : UInt32}
    {modifiers : Modifiers}
    (pressed : model.pointer_down point slot time_ms modifiers = some (model', effects)) :
    (begun_by_press model point slot time_ms modifiers).length ≤ 1 ∧
      (model'.tool ≠ .Region →
        ∀ drag ∈ begun_by_press model point slot time_ms modifiers,
          ∃ toolbar, drag = .toolbar toolbar) := by
  rcases pointer_down_cases pressed with ⟨control, inside, under, left⟩ | ⟨under, left⟩
  · rw [begun_on_control pressed under]
    unfold drags_pressed
    split
    · simp
    · simp [without_drags]
  · rw [begun_outside pressed under]
    have tool : model'.tool = model.tool := by
      cases left with
      | window _ leaves => exact congrArg Geometry.tool leaves
      | display _ leaves => exact congrArg Geometry.tool leaves
      | resize _ _ _ leaves => exact congrArg Geometry.tool leaves
      | move _ _ _ _ leaves => exact congrArg Geometry.tool leaves
      | band _ _ _ leaves => exact congrArg Geometry.tool leaves
    unfold Geometry.drag_outside
    split
    · simp
    · rename_i region_tool
      refine ⟨?_, fun other => absurd (fun same => other (tool.trans same)) region_tool⟩
      split
      · simp
      · split
        · simp
        · simp
      · simp

/-- A press leaves no region being drawn, or what it found. -/
theorem press_anchored {point : Point} {slot : Option NativeWindowHandle} {time_ms : UInt32}
    {modifiers : Modifiers}
    (pressed : model.pointer_down point slot time_ms modifiers = some (model', effects)) :
    model'.dragging = false ∨
      (model'.dragging = model.dragging ∧ model'.anchor = model.anchor) := by
  rcases pointer_down_cases pressed with ⟨control, inside, under, left⟩ | ⟨under, left⟩
  · left
    cases left with
    | dragged _ leaves => exact congrArg Geometry.dragging leaves
    | ended _ leaves ended =>
      obtain ⟨last_region, -, ends⟩ := ended.leaves
      exact (congrArg Geometry.dragging ends).trans (congrArg Geometry.dragging leaves)
    | switched _ _ _ leaves => exact congrArg Geometry.dragging leaves
    | kept _ leaves => exact congrArg Geometry.dragging leaves
  · cases left with
    | window _ leaves =>
      exact .inr ⟨congrArg Geometry.dragging leaves, congrArg Geometry.anchor leaves⟩
    | display _ leaves =>
      exact .inr ⟨congrArg Geometry.dragging leaves, congrArg Geometry.anchor leaves⟩
    | resize _ _ _ leaves => exact .inl (congrArg Geometry.dragging leaves)
    | move _ _ _ _ leaves => exact .inl (congrArg Geometry.dragging leaves)
    | band _ _ _ leaves => exact .inl (congrArg Geometry.dragging leaves)

/-- A step that meets the condition keeps the drags in order. -/
theorem step_in_order {session session' : OverlaySession} {event : OverlayEvent}
    (order : DragsInOrder session) (drops : drops_earlier session event)
    (step : OverlayStep session event session') : DragsInOrder session' := by
  obtain ⟨effects, taken, -, begun_eq⟩ := step.inversion
  by_cases press : ∃ point slot time_ms modifiers,
      event = .input (.PointerDown point slot time_ms modifiers)
  · obtain ⟨point, slot, time_ms, modifiers, rfl⟩ := press
    have pressed : session.model.pointer_down point slot time_ms modifiers =
        some (session'.model, effects) := taken
    have own := press_in_order order drops pressed
    have begun := begun_at_most_one pressed
    rw [← own] at begun
    refine ⟨⟨begun.1, ?_, ?_⟩, begun.2⟩
    · rcases press_anchored pressed with stopped | ⟨dragging, anchor⟩
      · intro still
        exact absurd (still.symm.trans stopped) (by simp)
      · intro still
        exact (congrArg Option.isSome anchor).trans
          (order.anchored (dragging.symm.trans still))
    · intro drag member
      have latest : session'.begun = (geometry session'.model).drags := begun_eq.trans own.symm
      rw [latest]
      exact member
  · have nothing := other_begins_nothing
      (fun point slot time_ms modifiers same =>
        press ⟨point, slot, time_ms, modifiers, same⟩) taken
    have begun : session'.begun = session.begun := by
      rw [begun_eq]
      unfold begun_after
      split
      · exact absurd ⟨_, _, _, _, rfl⟩ press
      · rfl
    refine ⟨⟨?_, nothing.anchored order.anchored, ?_⟩, ?_⟩
    · exact Nat.le_trans nothing.drags.length_le order.one
    · intro drag member
      rw [begun]
      exact order.latest drag (nothing.drags.subset member)
    · intro other drag member
      have tool : session'.model.tool = session.model.tool := nothing.tool
      exact order.under_tool (tool ▸ other) drag (nothing.drags.subset member)

/-- A press that leaves only its own drag in flight found none of the toolbar, or is of it. -/
theorem drops_toolbar {point : Point} {slot : Option NativeWindowHandle} {time_ms : UInt32}
    {modifiers : Modifiers}
    (pressed : model.pointer_down point slot time_ms modifiers = some (model', effects))
    (latest : ∀ drag ∈ (geometry model').drags,
      drag ∈ begun_by_press model point slot time_ms modifiers) :
    model.toolbar_drag = none ∨ control_under model point = some (.Background, true) := by
  by_contra carried
  rw [not_or] at carried
  obtain ⟨toolbar, dragged⟩ := Option.ne_none_iff_exists'.mp carried.1
  rcases pointer_down_cases pressed with ⟨control, inside, under, left⟩ | ⟨under, left⟩
  · rw [drags_on_control left, begun_on_control pressed under] at latest
    unfold drags_pressed at latest
    split at latest
    · rename_i both
      cases both
      exact carried.2 under
    · simp [dragged, without_drags] at latest
  · rw [drags_outside left, begun_outside pressed under] at latest
    have held : (geometry model).toolbar_drag = some toolbar := dragged
    have kept : OverlayDrag.toolbar toolbar ∈ (geometry model).carried_outside point := by
      unfold Geometry.carried_outside
      split
      · simp [Geometry.drags, held]
      · simp [held]
    have begun := latest _ (List.mem_append_left _ kept)
    unfold Geometry.drag_outside at begun
    split at begun
    · cases begun
    · split at begun
      · simp at begun
      · split at begun
        · simp at begun
        · simp at begun
      · simp at begun

/-- A press inside the region, off its handles, that leaves only its own drag in flight found
none of a handle. -/
theorem drops_handle {point : Point} {slot : Option NativeWindowHandle} {time_ms : UInt32}
    {modifiers : Modifiers}
    (pressed : model.pointer_down point slot time_ms modifiers = some (model', effects))
    (latest : ∀ drag ∈ (geometry model').drags,
      drag ∈ begun_by_press model point slot time_ms modifiers) :
    model.resizing = none ∨ model.tool ≠ .Region ∨ control_under model point ≠ none ∨
      ¬(geometry model).Inside point ∨ (geometry model).handle_under point ≠ none := by
  by_contra carried
  simp only [not_or, not_not] at carried
  obtain ⟨held, tool, under, inside, no_handle⟩ := carried
  obtain ⟨resize, resizing⟩ := Option.ne_none_iff_exists'.mp held
  obtain ⟨original, region, -⟩ := id inside
  rcases pointer_down_cases pressed with ⟨control, _, on_control, -⟩ | ⟨-, left⟩
  · rw [under] at on_control
    cases on_control
  · rw [drags_outside left, begun_outside pressed under] at latest
    have region_tool : (geometry model).tool = .Region := tool
    have resizing' : (geometry model).resizing = some resize := resizing
    have kept : OverlayDrag.handle resize ∈ (geometry model).carried_outside point := by
      simp [Geometry.carried_outside, region_tool, inside, no_handle, resizing']
    have begun := latest _ (List.mem_append_left _ kept)
    simp [Geometry.drag_outside, region_tool, region, no_handle, inside] at begun

/-- A press that leaves an earlier drag in flight leaves two, or one that is not its own. -/
theorem step_out_of_order {session session' : OverlaySession} {event : OverlayEvent}
    (misses : ¬drops_earlier session event) (step : OverlayStep session event session') :
    ¬OneDrag session' := by
  obtain ⟨effects, taken, -, begun_eq⟩ := step.inversion
  intro one_drag
  apply misses
  unfold drops_earlier
  split
  · rename_i point slot time_ms modifiers
    have pressed : session.model.pointer_down point slot time_ms modifiers =
        some (session'.model, effects) := taken
    have latest : ∀ drag ∈ (geometry session'.model).drags,
        drag ∈ begun_by_press session.model point slot time_ms modifiers := by
      intro drag member
      have latest := one_drag.latest drag member
      rw [begun_eq] at latest
      exact latest
    exact ⟨drops_toolbar pressed latest, drops_handle pressed latest⟩
  · trivial

/-- An overlay opens with no drag in flight. -/
theorem opened_in_order {source : Rect} {run : OverlayRun}
    (opened : open_overlay source run = some model) : DragsInOrder (opened_session model) := by
  unfold open_overlay at opened
  split at opened
  · cases opened
  · simp only [Option.bind_eq_bind, Option.bind_eq_some_iff] at opened
    obtain ⟨region, -, ⟨selection, kind⟩, -, opened⟩ := opened
    cases opened
    exact ⟨⟨by simp [opened_session, geometry, Geometry.drags], by simp [opened_session],
      by simp [opened_session, geometry, Geometry.drags]⟩,
      by simp [opened_session, geometry, Geometry.drags]⟩

/-- **One drag at a time**: in every run of an overlay, at most one drag is in flight in every
state reached, a region is drawn only from a corner, and the drag in flight is the one that the
most recent press began, if and only if every press of the run drops the drags it finds. -/
theorem one_drag_iff {source : Rect} {run : OverlayRun} {model : OverlayModel}
    {session : OverlaySession} {steps : List (Taken OverlaySession OverlayEvent)}
    (opened : open_overlay source run = some model)
    (runs : Run OverlayStep (opened_session model) steps session) :
    (∀ step ∈ steps, OneDrag step.after) ↔
      ∀ step ∈ steps, drops_earlier step.before step.event := by
  apply runs.always_iff (I := DragsInOrder)
  · intro session event session' order drops step
    exact step_in_order order drops step
  · intro session order
    exact order.toOneDrag
  · intro session event session' _ misses step
    exact step_out_of_order misses step
  · exact opened_in_order opened

/-! ## Two drags in flight -/

/-- A display of 1920 by 1080 pixels. -/
def full_hd : Rect := .of_casts 0 0 1920 1080

/-- A run under the Region tool on that display, above a task bar, with nothing remembered. -/
def region_run : OverlayRun where
  display_environment := ⟨⟨0, 0, 1920, 1040⟩, ⟨96⟩⟩
  toolbar_position := ⟨960, 900⟩
  remembered := ⟨none, none, false⟩
  corner := (0, 0)
  rotation_degrees := 0
  tool := .Region
  initial_view := .Frozen
  view_toggle_available := false
  snap_to_windows := false
  loupe_mode := .Off
  file_output := true
  file_output_switchable := true
  pin_available := true
  edit_available := true
  record_format := none

/-- A press of the left button at a point, with no key held. -/
def press (x y : Int) : OverlayEvent := .input (.PointerDown ⟨x, y⟩ none 0 ⟨false, false⟩)

/-- The release of the button at a point. -/
def release (x y : Int) : OverlayEvent := .input (.PointerUp ⟨x, y⟩ ⟨false, false⟩)

/-- What the events make of that run, from its opening. -/
def region_session (events : List OverlayEvent) : Option OverlaySession := do
  events.foldlM OverlaySession.next (opened_session (← open_overlay full_hd region_run))

/-- The events of a computed run are those of a run. -/
theorem region_session_runs {events : List OverlayEvent} {session : OverlaySession}
    (computed : region_session events = some session) :
    ∃ model steps, open_overlay full_hd region_run = some model ∧
      steps.map Taken.event = events ∧ Run OverlayStep (opened_session model) steps session := by
  unfold region_session at computed
  simp only [Option.bind_eq_bind, Option.bind_eq_some_iff] at computed
  obtain ⟨model, opened, computed⟩ := computed
  obtain ⟨steps, same, runs⟩ := Run.of_foldlM (fun _ _ _ taken => taken) computed
  exact ⟨model, steps, opened, same, runs⟩

/-- A press finds no drag of the toolbar and none of a handle. -/
def finds_none (session : OverlaySession) : OverlayEvent → Bool
  | .input (.PointerDown _ _ _ _) =>
    session.model.toolbar_drag.isNone && session.model.resizing.isNone
  | _ => true

/-- Where no drag is in flight there is none to drop. -/
theorem drops_of_finds_none {session : OverlaySession} {event : OverlayEvent}
    (passes : finds_none session event = true) : drops_earlier session event := by
  unfold drops_earlier
  split
  · unfold finds_none at passes
    rw [Bool.and_eq_true, Option.isNone_iff_eq_none, Option.isNone_iff_eq_none] at passes
    exact ⟨.inl passes.1, .inl passes.2⟩
  · trivial

/-- A press of the region's corner and its release, then a press inside the region: one drag at
every time. -/
theorem one_drag_of_resize :
    ∃ model steps session, open_overlay full_hd region_run = some model ∧
      steps.map Taken.event = [press 480 270, release 500 300, press 960 540] ∧
      Run OverlayStep (opened_session model) steps session ∧
      ∀ step ∈ steps, OneDrag step.after := by
  have computed : (open_overlay full_hd region_run).any (fun model =>
      ([press 480 270, release 500 300, press 960 540].foldlM (fun session event =>
        if finds_none session event then session.next event else none)
        (opened_session model)).isSome) = true := by decide
  obtain ⟨model, opened, computed⟩ := Option.any_eq_true _ _ |>.mp computed
  obtain ⟨session, computed⟩ := Option.isSome_iff_exists.mp computed
  obtain ⟨steps, same, runs, passes⟩ := @Run.of_foldlM_checked _ _ OverlayStep _ _ _ _
    (fun _ _ _ taken => taken) _ computed
  exact ⟨model, steps, session, opened, same, runs,
    (one_drag_iff opened runs).mpr fun step member => drops_of_finds_none (passes step member)⟩

/-- A press of the region's corner whose release goes elsewhere, then a press inside the region:
the corner still has its drag, so moves resize the region that was pressed to be moved. -/
theorem two_drags_in_flight :
    ∃ model steps session, open_overlay full_hd region_run = some model ∧
      steps.map Taken.event = [press 480 270, press 960 540] ∧
      Run OverlayStep (opened_session model) steps session ∧
      session.model.resizing.isSome ∧ session.model.moving_region.isSome ∧ ¬OneDrag session := by
  have both : (region_session [press 480 270, press 960 540]).any (fun session =>
      session.model.resizing.isSome && session.model.moving_region.isSome &&
        decide ((geometry session.model).drags.length = 2)) = true := by decide
  obtain ⟨session, computed, held⟩ := Option.any_eq_true _ _ |>.mp both
  simp only [Bool.and_eq_true, decide_eq_true_eq] at held
  obtain ⟨model, steps, opened, same, runs⟩ := region_session_runs computed
  refine ⟨model, steps, session, opened, same, runs, held.1.1, held.1.2, ?_⟩
  intro one_drag
  have one := one_drag.one
  omega

end Captastic.Analysis
