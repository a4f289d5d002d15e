import Captastic.Analysis.OverlayClose
import Captastic.Analysis.OverlayRectangles

/-!
# The overlay's region stays on its display

In every run of an overlay whose pointer is where mouse messages can put it, no handler's
arithmetic overflows and no `clamp` has its bounds crossed, and the selection stays legal
(`region_invariant`): a region is non-empty and inside the display, a display is the whole of
it, the kind is the tool's, and what is remembered is inside the display.

Without the bound on the pointer, a move can be too far from the press for their difference to
be an `i32` (`far_move_overflows`).
-/

set_option autoImplicit false

namespace Captastic.Analysis

open Captastic.Library Captastic.Model

/-! ## Where the pointer can be -/

/-- The farthest from the desktop's origin that a mouse message is of. -/
def POINTER_REACH : Int := FARTHEST + 32768

/-- SRC: shell.rs:515-523 -/
theorem screen_point_reach {source : Rect} (on_desktop : OnDesktop source) (lparam : UInt32) :
    Reach POINTER_REACH (screen_point source lparam) := by
  have left := on_desktop.left
  have top := on_desktop.top
  have right := on_desktop.right
  have bottom := on_desktop.bottom
  simp only [FARTHEST, Rect.right, Rect.bottom] at left top right bottom
  have offset (v : Nat) : -32768 ≤ as_i16 v ∧ as_i16 v ≤ 32767 := by
    unfold as_i16
    rw [Int.bmod_def]
    split <;> omega
  have across := offset lparam.toNat
  have down := offset (lparam.toNat / 65536)
  unfold screen_point
  generalize as_i16 lparam.toNat = dx at across
  generalize as_i16 (lparam.toNat / 65536) = dy at down
  constructor
  · simp only [POINTER_REACH, FARTHEST, saturating_add_i32]
    omega
  · simp only [POINTER_REACH, FARTHEST, saturating_add_i32]
    omega
  · simp only [POINTER_REACH, FARTHEST, saturating_add_i32]
    omega
  · simp only [POINTER_REACH, FARTHEST, saturating_add_i32]
    omega

/-- SRC: machine.rs:1379-1384 -/
theorem local_point_reach {source : Rect} {point : Point} (on_desktop : OnDesktop source)
    (reach : Reach POINTER_REACH point) :
    Reach (POINTER_REACH + FARTHEST) (local_point source point) := by
  have left := on_desktop.left
  have top := on_desktop.top
  have right := on_desktop.right
  have bottom := on_desktop.bottom
  obtain ⟨from_left, to_right, from_above, to_below⟩ := reach
  simp only [FARTHEST, POINTER_REACH, Rect.right, Rect.bottom] at *
  constructor
  · simp only [local_point, saturating_sub_i32]
    omega
  · simp only [local_point, saturating_sub_i32]
    omega
  · simp only [local_point, saturating_sub_i32]
    omega
  · simp only [local_point, saturating_sub_i32]
    omega

/-- The pointer's place in an event is one that a mouse message carries. -/
def Decoded (source : Rect) : OverlayEvent → Prop
  | .input (.PointerMoved point _ _ _) | .input (.PointerDown point _ _ _)
  | .input (.PointerUp point _) | .input (.DoubleClicked point _) =>
    ∃ lparam, point = screen_point source lparam
  | _ => True

/-! ## Legal geometry -/

/-- What every step keeps: what is selected, dragged and remembered is of the display, and the
points held are near enough for their differences to be `i32`s. -/
structure Legal (g : Geometry) : Prop where
  on_desktop : OnDesktop g.source
  reported : Reported g.display_environment
  selection : ∀ rect, g.selection = some rect → g.selection_kind ≠ some .Window →
    Fits rect g.source
  display : g.selection_kind = some .Display → g.selection = some g.source
  last_region : ∀ region, g.last_region = some region → Fits region g.source
  resizing : ∀ resize, g.resizing = some resize → Fits resize.original g.source
  moving : ∀ moving, g.moving_region = some moving → Fits moving.original g.source
  anchor : ∀ anchor, g.anchor = some anchor → Reach (POINTER_REACH + 400000) anchor ∧
    (g.dragging = false → Reach POINTER_REACH anchor)
  alone : g.anchor.isSome = true → g.resizing = none ∧ g.moving_region = none
  pointer : ∀ pointer, g.pointer_local = some pointer → Reach (POINTER_REACH + FARTHEST) pointer

variable {model model' : OverlayModel} {effects : List OverlayEffect} {g : Geometry}
  {offers : ConfirmIntent → Bool} {stray : Prop}

namespace Legal

/-- A drag that is let go leaves the geometry legal. -/
theorem undragged (legal : Legal g) : Legal g.undragged :=
  { legal with
    resizing := by simp [Geometry.undragged]
    moving := by simp [Geometry.undragged]
    anchor := by simp [Geometry.undragged]
    alone := by simp [Geometry.undragged] }

/-- A region that is held is inside the display. -/
theorem region (legal : Legal g) {region : Rect} (held : g.region = some region) :
    Fits region g.source := by
  unfold Geometry.region at held
  split at held
  · rename_i kind
    apply legal.selection region held
    simp [kind]
  · cases held

/-- What would be remembered is inside the display. -/
theorem latest_region (legal : Legal g) :
    ∀ region, g.latest_region = some region → Fits region g.source := by
  intro region latest
  unfold Geometry.latest_region latest_interaction_region at latest
  split at latest
  · rename_i shown
    rcases selection : g.selection with _ | rect
    · rw [selection, Option.none_or] at latest
      exact legal.last_region region latest
    · rw [selection, Option.some_or] at latest
      cases latest
      apply legal.selection region selection
      simp [shown.2]
  · exact legal.last_region region latest

/-- What is remembered stays inside the display when a run ends or the tool is switched. -/
theorem remembered (legal : Legal g) {last_region : Option Rect}
    (either : last_region = g.last_region ∨ last_region = g.latest_region) :
    ∀ region, last_region = some region → Fits region g.source := by
  rcases either with rfl | rfl
  · exact legal.last_region
  · exact legal.latest_region

/-- A selection that fits is legal under a kind that is not the display's. -/
theorem select (legal : Legal g) {selection : Option Rect} {kind : Option SelectionKind}
    (fits : ∀ rect, selection = some rect → Fits rect g.source)
    (other : kind ≠ some .Display) :
    Legal { g with selection, selection_kind := kind, selected_window := none } :=
  { legal with
    selection := fun rect selected _ => fits rect selected
    display := fun display => absurd display other }

end Legal

/-! ## Every event keeps the geometry legal -/

/-- A tool's initial selection is legal.
SRC: machine.rs:1386-1401 -/
theorem initial_selection_legal {source : Rect} (tool : CaptureTool) {last_region : Option Rect}
    (on_desktop : OnDesktop source)
    (last : ∀ region, last_region = some region → Fits region source) :
    ∃ initial, initial_selection tool last_region source = some initial ∧
      (∀ rect, initial.1 = some rect → Fits rect source) ∧
      (initial.2 = some .Display → initial.1 = some source) := by
  unfold initial_selection
  cases tool with
  | FullDisplay =>
    refine ⟨_, rfl, ?_, fun _ => rfl⟩
    intro rect selected
    cases selected
    exact .refl on_desktop
  | Window =>
    refine ⟨_, rfl, ?_, fun display => by cases display⟩
    intro rect selected
    cases selected
  | Region =>
    obtain ⟨region, made, fits⟩ := initial_region_fits on_desktop last
    simp only [made, Option.bind_eq_bind, Option.bind_some]
    refine ⟨_, rfl, ?_, fun display => by cases display⟩
    intro rect selected
    cases selected
    exact fits

/-- Another tool has a selection that is legal for it. -/
theorem switched_legal (legal : Legal g) {tool : CaptureTool} {last_region : Option Rect}
    {initial : Option Rect × Option SelectionKind}
    (either : last_region = g.last_region ∨ last_region = g.latest_region)
    (selected : initial_selection tool last_region g.source = some initial) :
    Legal (g.switched tool last_region initial) := by
  have last := legal.remembered either
  obtain ⟨found, made, fits, display⟩ := initial_selection_legal tool legal.on_desktop last
  rw [selected] at made
  cases made
  exact { legal.undragged with
    selection := fun rect selected _ => fits rect selected
    display := display
    last_region := last }

/-- Ending an overlay leaves its geometry. -/
theorem ended_legal (legal : Legal (geometry model)) (ended : Ended model model' effects) :
    Legal (geometry model') := by
  obtain ⟨last_region, either, leaves⟩ := ended.leaves
  rw [leaves]
  exact { legal with last_region := legal.remembered either }

/-- A control that is pressed leaves a legal one. -/
theorem control_legal {point : Point} {control : ToolbarControl} {in_toolbar_bounds : Bool}
    (legal : Legal (geometry model))
    (pressed : ControlPressed model point control in_toolbar_bounds model' effects) :
    Legal (geometry model') := by
  cases pressed with
  | dragged _ leaves =>
    rw [leaves]
    exact { legal.undragged with }
  | ended _ leaves ended =>
    apply ended_legal _ ended
    rw [leaves]
    exact legal.undragged
  | switched _ either selected leaves =>
    rw [leaves]
    exact switched_legal legal either selected
  | kept _ leaves =>
    rw [leaves]
    exact legal.undragged

/-- So does a press outside the toolbar. -/
theorem outside_legal {point : Point} (legal : Legal (geometry model))
    (reach : Reach POINTER_REACH point)
    (pressed : PressedOutside (geometry model) point model' effects) :
    Legal (geometry model') := by
  cases pressed with
  | window _ leaves =>
    rw [leaves]
    exact { legal with }
  | display _ leaves =>
    rw [leaves]
    exact legal
  | resize _ region _ leaves =>
    rw [leaves]
    refine { legal.undragged with resizing := ?_, alone := by simp [Geometry.undragged] }
    intro resize held
    cases held
    exact legal.region region
  | move _ region _ _ leaves =>
    rw [leaves]
    refine { legal.undragged with
      resizing := legal.resizing, moving := ?_, alone := by simp [Geometry.undragged] }
    intro moving held
    cases held
    exact legal.region region
  | band _ _ _ leaves =>
    rw [leaves]
    refine { legal.undragged with
      selection := by simp, display := by simp, anchor := ?_, alone := fun _ => ⟨rfl, rfl⟩ }
    intro anchor held
    cases held
    refine ⟨reach.mono (by decide), fun _ => reach⟩

/-- What a drag makes of the selection is legal: no drag is in flight under another tool than
Region, so the selection is not the display's. -/
theorem dragged_legal {rect : Rect} (legal : Legal g) (in_kind : InKind offers stray g)
    (tool : g.tool = .Region) (fits : Fits rect g.source) :
    Legal { g with selection := some rect } :=
  { legal with
    selection := by
      intro other selected _
      cases selected
      exact fits
    display := by
      intro display
      rcases in_kind.kind _ display with other | ⟨window, -⟩
      · rw [tool] at other
        cases other
      · cases window }

/-- So does a move. -/
theorem moved_legal {aimed : OverlayModel} {point : Point} {modifiers : Modifiers}
    (legal : Legal (geometry model)) (in_kind : InKind offers stray (geometry model))
    (reach : Reach POINTER_REACH point)
    (same : geometry aimed = (geometry model).pointed point)
    (moved : Moved aimed ((geometry model).pointed point) point modifiers model') :
    Legal (geometry model') := by
  have pointed : Legal ((geometry model).pointed point) := by
    refine { legal with pointer := ?_ }
    intro pointer held
    cases held
    exact local_point_reach legal.on_desktop reach
  have in_kind' : InKind offers stray ((geometry model).pointed point) :=
    in_kind.of_same rfl rfl (.inl rfl) (.inl rfl) (.inl rfl) (.inl rfl) rfl
  have source : aimed.source = model.source := congrArg Geometry.source same
  have environment : aimed.display_environment = model.display_environment :=
    congrArg Geometry.display_environment same
  have on_desktop : OnDesktop aimed.source := source ▸ legal.on_desktop
  cases moved with
  | hovered leaves =>
    rw [leaves]
    exact pointed
  | @resized resize rect snaps drag made leaves =>
    have original : Fits resize.original aimed.source := source ▸ legal.resizing resize drag
    obtain ⟨rect', snaps', made', fits⟩ :=
      resize_region_snapped_fits aimed on_desktop original point modifiers
    rw [made] at made'
    cases made'
    rw [leaves]
    have tool := in_kind'.resizing (Option.isSome_of_mem drag)
    rw [source] at fits
    exact dragged_legal pointed in_kind' tool fits
  | @moved moving rect snaps drag made leaves =>
    have original : Fits moving.original aimed.source := source ▸ legal.moving moving drag
    obtain ⟨rect', snaps', made', fits⟩ :=
      move_region_snapped_fits aimed on_desktop original point modifiers
    rw [made] at made'
    cases made'
    rw [leaves]
    have tool := in_kind'.moving (Option.isSome_of_mem drag)
    rw [source] at fits
    exact dragged_legal pointed in_kind' tool fits
  | @banded anchor corner selection snaps drag corner_eq made leaves =>
    obtain ⟨selection', snaps', made', fits⟩ :=
      rect_from_points_snapped_fits aimed on_desktop corner point modifiers
    rw [made] at made'
    cases made'
    rw [leaves]
    have fits' : ∀ rect, selection = some rect → Fits rect model.source := by
      rw [← source]
      exact fits
    refine { pointed.select fits' (by simp) with
      anchor := ?_, alone := fun _ => pointed.alone (Option.isSome_of_mem drag) }
    intro held same_anchor
    cases same_anchor
    refine ⟨?_, fun stopped => by cases stopped⟩
    have held := legal.anchor anchor drag
    rcases corner_eq with ⟨-, rfl⟩ | ⟨stopped, rfl⟩
    · exact held.1
    · have threshold : 0 ≤ aimed.snap_threshold ∧ aimed.snap_threshold ≤ 400000 := by
        have dpi : aimed.display_environment.metrics.dpi ≤ 65536 :=
          environment ▸ legal.reported.dpi
        exact px_range dpi SNAP_THRESHOLD_DIP (by decide) (by decide)
      have snapped := snap_anchor_reach aimed (held.2 stopped) threshold.1 modifiers
      apply snapped.mono
      omega

/-- So does a release. -/
theorem released_legal {point : Point} {modifiers : Modifiers} (legal : Legal (geometry model))
    (released : Released model point modifiers model') : Legal (geometry model') := by
  cases released with
  | toolbar leaves =>
    rw [leaves]
    exact { legal with }
  | elsewhere _ leaves =>
    rw [leaves]
    exact legal
  | @resized resize rect snaps _ drag made leaves =>
    obtain ⟨rect', snaps', made', fits⟩ := resize_region_snapped_fits model legal.on_desktop
      (legal.resizing resize drag) point modifiers
    rw [made] at made'
    cases made'
    rw [leaves]
    have no_anchor : (geometry model).anchor = none := by
      by_contra anchored
      have gone := (legal.alone (Option.isSome_iff_ne_none.mpr anchored)).1
      exact Option.some_ne_none _ (drag.symm.trans gone)
    have fits' : ∀ other, some rect = some other → Fits other (geometry model).source := by
      intro other same
      cases same
      exact fits
    exact { legal.select fits' (by simp) with
      resizing := by simp, anchor := by simp [no_anchor], alone := by simp [no_anchor] }
  | @moved moving rect snaps _ drag made leaves =>
    obtain ⟨rect', snaps', made', fits⟩ := move_region_snapped_fits model legal.on_desktop
      (legal.moving moving drag) point modifiers
    rw [made] at made'
    cases made'
    rw [leaves]
    have no_anchor : (geometry model).anchor = none := by
      by_contra anchored
      have gone := (legal.alone (Option.isSome_iff_ne_none.mpr anchored)).2
      exact Option.some_ne_none _ (drag.symm.trans gone)
    have fits' : ∀ other, some rect = some other → Fits other (geometry model).source := by
      intro other same
      cases same
      exact fits
    exact { legal.select fits' (by simp) with
      moving := by simp, anchor := by simp [no_anchor], alone := by simp [no_anchor] }
  | @banded anchor selection snaps _ drag made leaves =>
    obtain ⟨selection', snaps', made', fits⟩ := rect_from_points_snapped_fits model
      legal.on_desktop anchor point modifiers
    rw [made] at made'
    cases made'
    rw [leaves]
    exact { legal.select fits (by simp) with anchor := by simp, alone := by simp }
  | clicked _ leaves =>
    rw [leaves]
    exact { legal with anchor := by simp, alone := by simp }

/-- Every event keeps the geometry legal, whose points are ones that mouse messages carry. -/
theorem handled_legal {event : OverlayEvent} (legal : Legal (geometry model))
    (in_kind : InKind offers stray (geometry model)) (decoded : Decoded model.source event)
    (taken : handled model event = some (model', effects)) : Legal (geometry model') := by
  have reach {point : Point} (carried : ∃ lparam, point = screen_point model.source lparam) :
      Reach POINTER_REACH point := by
    obtain ⟨lparam, rfl⟩ := carried
    exact screen_point_reach legal.on_desktop lparam
  cases event with
  | pruned dead =>
    obtain ⟨rfl, rfl⟩ := Prod.ext_iff.mp (Option.some.inj taken)
    rcases (window_sources_pruned_cases model dead).2 with same | cleared
    · rw [same]
      exact legal
    · rw [cleared]
      exact { legal with }
  | input input =>
    cases input with
    | PointerDown =>
      rcases pointer_down_cases taken with ⟨_, _, -, pressed⟩ | ⟨-, pressed⟩
      · exact control_legal legal pressed
      · exact outside_legal legal (reach decoded) pressed
    | PointerMoved =>
      obtain ⟨-, -, aimed, same, moved⟩ := pointer_moved_cases taken
      exact moved_legal legal in_kind (reach decoded) same moved
    | PointerUp => exact released_legal legal (pointer_up_cases taken).2.2
    | DoubleClicked => exact ended_legal legal (double_clicked_cases taken)
    | PointerCaptureLost =>
      obtain ⟨rfl, rfl⟩ := Prod.ext_iff.mp (Option.some.inj taken)
      rw [(pointer_capture_lost_cases model).1]
      exact { legal.undragged with }
    | WindowPreviewResolved rect intent =>
      obtain ⟨resolved, leaves, ended⟩ := window_preview_resolved_cases model rect intent
      obtain ⟨rfl, rfl⟩ := Prod.ext_iff.mp (Option.some.inj taken)
      have shown : Legal (geometry resolved) := by
        rw [leaves]
        refine { legal with selection := ?_, display := ?_ }
        · intro other selected other_kind
          cases selected
          exact absurd rfl other_kind
        · intro display
          obtain ⟨_, -, other⟩ := Option.map_eq_some_iff.mp display
          cases other
      rcases ended with ended | ⟨same, -⟩
      · exact ended_legal shown ended
      · rw [same]
        exact shown
    | SnapTargetsReady =>
      cases taken
      exact legal
    | LoupeKeyChanged held =>
      obtain ⟨rfl, rfl⟩ := Prod.ext_iff.mp (Option.some.inj taken)
      rw [(loupe_key_changed_keeps model held).1]
      exact legal
    | Tick =>
      rw [(loupe_tick_cases taken).2]
      exact legal
    | ToggleView =>
      obtain ⟨rfl, rfl⟩ := Prod.ext_iff.mp (Option.some.inj taken)
      rw [(toggle_view_keeps model).1]
      exact legal
    | Nudge =>
      rcases (nudge_cases taken).2.2 with
        same | ⟨region, adjusted, clamped, tool, held, adjusts, clamps, leaves⟩
      · rw [same]
        exact legal
      · rw [leaves]
        have nonempty : adjusted.NonEmpty := by
          unfold OverlayModel.adjusted_region at adjusts
          split at adjusts
          · obtain ⟨made, resized, nonempty⟩ :=
              resize_region_by_nonempty (legal.region held).nonempty model.source _ _
            rw [adjusts] at resized
            cases resized
            exact nonempty
          · cases adjusts
            exact (legal.region held).nonempty
        obtain ⟨made, clamped', fits⟩ := clamp_within_fits legal.on_desktop nonempty
        obtain rfl : clamped = made := Option.some.inj (clamps.symm.trans clamped')
        exact dragged_legal legal in_kind tool fits
    | ConfirmRequested intent =>
      obtain ⟨rfl, rfl⟩ := Prod.ext_iff.mp (Option.some.inj taken)
      exact ended_legal legal (confirm_ended model intent)
    | CancelRequested =>
      obtain ⟨rfl, rfl⟩ := Prod.ext_iff.mp (Option.some.inj taken)
      exact ended_legal legal (cancel_ended model)
    | DisplayConfigurationInvalidated =>
      cases taken
      exact legal

/-! ## Where the pointer was last sampled -/

/-- An event forgets the last sample, or leaves it. -/
def KeepsSample (model model' : OverlayModel) : Prop :=
  model'.loupe.last_sample = model.loupe.last_sample ∨ model'.loupe.last_sample = none

/-- Ending an overlay leaves the loupe's sample. -/
theorem ended_keeps_sample (ended : Ended model model' effects) : KeepsSample model model' := by
  cases ended with
  | unavailable => exact .inl rfl
  | confirmed => exact .inl rfl
  | cancelled => exact .inl rfl

/-- SRC: machine.rs:904-950 -/
theorem activate_tool_sample {tool : CaptureTool}
    (activated : model.activate_tool tool = some (model', effects)) :
    model'.loupe.last_sample = none := by
  unfold OverlayModel.activate_tool at activated
  by_cases same : model.tool = tool
  · simp only [same, ne_eq, not_true_eq_false, if_false] at activated
    cases tool with
    | FullDisplay | Window | Region =>
      cases activated
      rfl
  · simp only [ne_eq, same, not_false_eq_true, if_true] at activated
    cases tool with
    | FullDisplay | Window =>
      cases activated
      rfl
    | Region =>
      simp only [Option.bind_eq_bind, Option.bind_eq_some_iff] at activated
      obtain ⟨initial, -, ⟨_, _⟩, entered, activated⟩ := activated
      cases entered
      cases activated
      rfl

/-- SRC: machine.rs:782-870 -/
theorem control_pressed_sample {control : ToolbarControl}
    (pressed : model.control_pressed control = some (model', effects)) :
    KeepsSample model model' := by
  unfold OverlayModel.control_pressed at pressed
  cases control with
  | FullDisplay | Window | Region => exact .inr (activate_tool_sample pressed)
  | Options | Record | DimBackground | SnapToWindows =>
    cases pressed
    exact .inl rfl
  | RegionZoom =>
    cases pressed
    exact .inr rfl
  | PreviewView =>
    obtain ⟨rfl, rfl⟩ := Prod.ext_iff.mp (Option.some.inj pressed)
    unfold OverlayModel.toggle_view
    split
    · exact .inl rfl
    · exact .inl rfl
  | FileOutputDestination =>
    simp only at pressed
    split at pressed <;> cases pressed <;> exact .inl rfl
  | RecordFormat =>
    simp only at pressed
    split at pressed <;> cases pressed <;> exact .inl rfl
  | Background | Pin | Edit | Capture | ClipboardDestination | Cancel =>
    cases pressed
    exact .inl rfl

/-- SRC: machine.rs:750-875 -/
theorem toolbar_control_pressed_sample {control : ToolbarControl} {in_toolbar_bounds : Bool}
    {pointer : Point} {modifiers : Modifiers}
    (pressed : model.toolbar_control_pressed control in_toolbar_bounds pointer modifiers =
      some (model', effects)) : KeepsSample model model' := by
  unfold OverlayModel.toolbar_control_pressed at pressed
  simp only at pressed
  have setting {undragged : OverlayModel} {setting : ToolbarControl}
      (handled : (undragged.control_pressed setting).map OverlayModel.control_handled =
        some (model', effects)) (same : undragged.loupe = model.loupe) : KeepsSample model model' := by
    obtain ⟨⟨left, returned⟩, pressed_eq, handled⟩ := Option.map_eq_some_iff.mp handled
    obtain ⟨rfl, rfl⟩ := Prod.ext_iff.mp handled
    have kept := control_pressed_sample pressed_eq
    unfold KeepsSample at kept
    rw [same] at kept
    exact kept
  have ending {undragged left : OverlayModel} {returned : List OverlayEffect}
      (ended : Ended undragged left returned) (same : undragged.loupe = model.loupe) :
      KeepsSample model left := by
    have kept := ended_keeps_sample ended
    unfold KeepsSample at kept
    rw [same] at kept
    exact kept
  cases control with
  | Background =>
    simp only at pressed
    split at pressed
    · obtain ⟨rfl, rfl⟩ := Prod.ext_iff.mp (Option.some.inj pressed)
      exact .inl rfl
    · obtain ⟨rfl, rfl⟩ := Prod.ext_iff.mp (Option.some.inj pressed)
      exact .inl rfl
  | Capture =>
    obtain ⟨rfl, rfl⟩ := Prod.ext_iff.mp (Option.some.inj pressed)
    exact ending (confirm_or_capture_ended _ _) rfl
  | Pin =>
    obtain ⟨rfl, rfl⟩ := Prod.ext_iff.mp (Option.some.inj pressed)
    exact ending (confirm_ended _ _) rfl
  | Edit =>
    obtain ⟨rfl, rfl⟩ := Prod.ext_iff.mp (Option.some.inj pressed)
    exact ending (confirm_ended _ _) rfl
  | Cancel =>
    obtain ⟨rfl, rfl⟩ := Prod.ext_iff.mp (Option.some.inj pressed)
    exact ending (cancel_ended _) rfl
  | Record =>
    simp only at pressed
    split at pressed
    · exact setting pressed rfl
    · obtain ⟨rfl, rfl⟩ := Prod.ext_iff.mp (Option.some.inj pressed)
      exact ending (confirm_ended _ _) rfl
  | _ => exact setting pressed rfl

/-- SRC: machine.rs:637-737 -/
theorem pointer_down_sample {point : Point} {slot : Option NativeWindowHandle}
    {time_ms : UInt32} {modifiers : Modifiers}
    (pressed : model.pointer_down point slot time_ms modifiers = some (model', effects)) :
    KeepsSample model model' ∨ model'.loupe.last_sample = some (point, time_ms) := by
  unfold OverlayModel.pointer_down at pressed
  simp only [Option.bind_eq_bind, Option.bind_eq_some_iff] at pressed
  obtain ⟨layout, -, pressed⟩ := pressed
  split at pressed
  · exact .inl (toolbar_control_pressed_sample pressed)
  · right
    split at pressed
    · cases pressed
      rfl
    · cases pressed
      rfl
    · obtain ⟨rfl, rfl⟩ := Prod.ext_iff.mp (Option.some.inj pressed)
      unfold OverlayModel.press_region
      simp only
      split
      · rfl
      · split
        · rfl
        · rfl

/-- The last sample is near enough for its difference from the next to be an `i32`. -/
def Sampled (model : OverlayModel) : Prop :=
  ∀ sample, model.loupe.last_sample = some sample →
    Reach (POINTER_REACH + FARTHEST + FARTHEST) sample.1

/-- A sample that is kept is still one of the source. -/
theorem KeepsSample.sampled (kept : KeepsSample model model') (sampled : Sampled model) :
    Sampled model' := by
  intro sample held
  rcases kept with same | forgotten
  · exact sampled sample (same ▸ held)
  · rw [forgotten] at held
    cases held

/-- SRC: machine.rs:1110-1129 -/
theorem loupe_tick_sampled {time_ms : UInt32} (legal : Legal (geometry model))
    (sampled : Sampled model) (ticked : model.loupe_tick time_ms = some (model', effects)) :
    Sampled model' := by
  unfold OverlayModel.loupe_tick at ticked
  split at ticked
  · cases ticked
    intro sample held
    cases held
    have on_desktop : OnDesktop model.source := legal.on_desktop
    obtain ⟨nonempty, left, top, right, bottom⟩ := on_desktop
    cases pointed : model.pointer_local with
    | none => constructor <;> simp [POINTER_REACH, FARTHEST]
    | some pointer =>
      obtain ⟨from_left, to_right, from_above, to_below⟩ := legal.pointer pointer pointed
      simp only [POINTER_REACH, FARTHEST, Rect.right, Rect.bottom] at *
      constructor
      · simp only [saturating_add_i32]
        omega
      · simp only [saturating_add_i32]
        omega
      · simp only [saturating_add_i32]
        omega
      · simp only [saturating_add_i32]
        omega
  · rename_i point previous last
    simp only [Option.bind_eq_bind, Option.bind_eq_some_iff] at ticked
    obtain ⟨observed, samples, ticked⟩ := ticked
    cases ticked
    intro sample held
    rcases (observe_pointer_motion_keeps samples).2 with same | again
    · exact sampled sample (same ▸ held)
    · rw [again] at held
      cases held
      exact sampled (point, previous) last

/-- Every event keeps the last sample near. -/
theorem handled_sampled {event : OverlayEvent} (legal : Legal (geometry model))
    (sampled : Sampled model) (decoded : Decoded model.source event)
    (taken : handled model event = some (model', effects)) : Sampled model' := by
  have near {point : Point} {time_ms : UInt32}
      (carried : ∃ lparam, point = screen_point model.source lparam)
      (now : model'.loupe.last_sample = some (point, time_ms)) : Sampled model' := by
    obtain ⟨lparam, rfl⟩ := carried
    intro sample held
    rw [now] at held
    cases held
    exact (screen_point_reach legal.on_desktop lparam).mono (by decide)
  cases event with
  | pruned dead =>
    obtain ⟨rfl, rfl⟩ := Prod.ext_iff.mp (Option.some.inj taken)
    apply KeepsSample.sampled (.inl _) sampled
    unfold OverlayModel.window_sources_pruned
    simp only
    split
    · rfl
    · rfl
  | input input =>
    cases input with
    | PointerDown =>
      rcases pointer_down_sample taken with kept | now
      · exact kept.sampled sampled
      · exact near decoded now
    | PointerMoved =>
      rcases (pointer_moved_cases taken).2.1 with same | now
      · exact KeepsSample.sampled (.inl same) sampled
      · exact near decoded now
    | PointerUp => exact KeepsSample.sampled (pointer_up_cases taken).2.1 sampled
    | DoubleClicked => exact (ended_keeps_sample (double_clicked_cases taken)).sampled sampled
    | PointerCaptureLost =>
      obtain ⟨rfl, rfl⟩ := Prod.ext_iff.mp (Option.some.inj taken)
      exact KeepsSample.sampled (.inr rfl) sampled
    | WindowPreviewResolved rect intent =>
      obtain ⟨rfl, rfl⟩ := Prod.ext_iff.mp (Option.some.inj taken)
      unfold OverlayModel.window_preview_resolved
      simp only
      split
      · exact (ended_keeps_sample (confirm_or_capture_ended _ _)).sampled sampled
      · exact KeepsSample.sampled (.inl rfl) sampled
    | SnapTargetsReady | DisplayConfigurationInvalidated =>
      cases taken
      exact KeepsSample.sampled (.inl rfl) sampled
    | LoupeKeyChanged held =>
      obtain ⟨rfl, rfl⟩ := Prod.ext_iff.mp (Option.some.inj taken)
      apply KeepsSample.sampled (.inl _) sampled
      unfold OverlayModel.loupe_key_changed
      split
      · rfl
      · rfl
    | Tick => exact loupe_tick_sampled legal sampled taken
    | ToggleView =>
      obtain ⟨rfl, rfl⟩ := Prod.ext_iff.mp (Option.some.inj taken)
      apply KeepsSample.sampled (.inl _) sampled
      unfold OverlayModel.toggle_view
      split
      · rfl
      · rfl
    | Nudge =>
      have same := (nudge_cases taken).2.1
      exact KeepsSample.sampled (.inl (congrArg LoupeState.last_sample same)) sampled
    | ConfirmRequested intent =>
      obtain ⟨rfl, rfl⟩ := Prod.ext_iff.mp (Option.some.inj taken)
      exact (ended_keeps_sample (confirm_ended model intent)).sampled sampled
    | CancelRequested =>
      obtain ⟨rfl, rfl⟩ := Prod.ext_iff.mp (Option.some.inj taken)
      exact (ended_keeps_sample (cancel_ended model)).sampled sampled

/-! ## Nothing overflows -/

/-- SRC: machine.rs:1138-1189 -/
theorem observe_defined (sampled : Sampled model) {point : Point}
    (reach : Reach (POINTER_REACH + FARTHEST + FARTHEST) point) (time_ms : UInt32) :
    ∃ observed, model.observe_pointer_motion point time_ms = some observed := by
  unfold OverlayModel.observe_pointer_motion
  simp only
  split
  · exact ⟨_, rfl⟩
  · rename_i previous_point previous_time last
    obtain ⟨from_left, to_right, from_above, to_below⟩ := reach
    obtain ⟨last_left, last_right, last_above, last_below⟩ := sampled _ last
    simp only [POINTER_REACH, FARTHEST] at *
    split
    · exact ⟨_, rfl⟩
    · rw [i32_of_range (v := abs_i64 (saturating_sub_i32 point.x previous_point.x))
          (by simp only [abs_i64, saturating_sub_i32]; omega)
          (by simp only [abs_i64, saturating_sub_i32]; omega),
        i32_of_range (v := abs_i64 (saturating_sub_i32 point.y previous_point.y))
          (by simp only [abs_i64, saturating_sub_i32]; omega)
          (by simp only [abs_i64, saturating_sub_i32]; omega)]
      exact ⟨_, rfl⟩

/-- SRC: machine.rs:577-578 -/
theorem past_threshold_defined {anchor point : Point}
    (anchored : Reach (POINTER_REACH + 400000) anchor) (reach : Reach POINTER_REACH point) :
    ∃ latched, OverlayModel.past_threshold anchor point = some latched := by
  obtain ⟨from_left, to_right, from_above, to_below⟩ := reach
  obtain ⟨anchor_left, anchor_right, anchor_above, anchor_below⟩ := anchored
  simp only [POINTER_REACH, FARTHEST] at *
  unfold OverlayModel.past_threshold
  rw [i32_of_range (v := point.x - anchor.x) (by omega) (by omega),
    i32_of_range (v := point.y - anchor.y) (by omega) (by omega)]
  simp only [Option.bind_eq_bind, Option.bind_some]
  rw [i32_of_range (v := abs_i64 (point.x - anchor.x)) (by simp only [abs_i64]; omega)
      (by simp only [abs_i64]; omega),
    i32_of_range (v := abs_i64 (point.y - anchor.y)) (by simp only [abs_i64]; omega)
      (by simp only [abs_i64]; omega)]
  simp only [Option.bind_some]
  split
  · exact ⟨_, rfl⟩
  · exact ⟨_, rfl⟩

/-- SRC: machine.rs:587-596 -/
theorem draw_band_defined (on_desktop : OnDesktop model.source) (anchor point : Point)
    (modifiers : Modifiers) : ∃ drawn, model.draw_band anchor point modifiers = some drawn := by
  unfold OverlayModel.draw_band
  split
  · obtain ⟨selection, snaps, made, -⟩ := rect_from_points_snapped_fits model on_desktop
      (model.anchor.getD anchor) point modifiers
    rw [made]
    exact ⟨_, rfl⟩
  · exact ⟨_, rfl⟩

/-- SRC: machine.rs:557-626 -/
theorem follow_pointer_defined (model : OverlayModel) {point : Point}
    (window_hover : Option WindowCandidate) (modifiers : Modifiers)
    (legal : Legal (geometry model)) (reach : Reach POINTER_REACH point) :
    ∃ followed, model.follow_pointer point window_hover modifiers = some followed := by
  unfold OverlayModel.follow_pointer
  split
  · exact ⟨_, rfl⟩
  · split
    · rename_i resize drag
      obtain ⟨rect, snaps, made, -⟩ := resize_region_snapped_fits model legal.on_desktop
        (legal.resizing resize drag) point modifiers
      rw [made]
      exact ⟨_, rfl⟩
    · rename_i moving _ drag
      obtain ⟨rect, snaps, made, -⟩ := move_region_snapped_fits model legal.on_desktop
        (legal.moving moving drag) point modifiers
      rw [made]
      exact ⟨_, rfl⟩
    · rename_i anchor _ _ drag
      obtain ⟨latched, past⟩ := past_threshold_defined (legal.anchor anchor drag).1 reach
      have drawn : ∃ drawn, model.rubber_band anchor point modifiers = some drawn := by
        unfold OverlayModel.rubber_band
        rw [past]
        apply draw_band_defined
        split
        · exact legal.on_desktop
        · exact legal.on_desktop
      obtain ⟨drawn, draws⟩ := drawn
      rw [draws]
      exact ⟨_, rfl⟩
    · split
      · exact ⟨_, rfl⟩
      · split
        · exact ⟨_, rfl⟩
        · exact ⟨_, rfl⟩

/-- SRC: machine.rs:526-635 -/
theorem pointer_moved_defined {point : Point} {window_hover : Option WindowCandidate}
    {modifiers : Modifiers} {time_ms : UInt32} (legal : Legal (geometry model))
    (sampled : Sampled model) (reach : Reach POINTER_REACH point) :
    ∃ left, model.pointer_moved point window_hover modifiers time_ms = some left := by
  have pointed : Sampled
      { model with pointer_local := some (local_point model.source point) } := sampled
  obtain ⟨observed, samples⟩ := observe_defined pointed (reach.mono (by decide)) time_ms
  have same := (observe_pointer_motion_keeps samples).1
  have observed_legal : Legal (geometry observed) := by
    rw [same]
    refine { legal with pointer := ?_ }
    intro pointer held
    cases held
    exact local_point_reach legal.on_desktop reach
  have reported : Reported observed.display_environment := observed_legal.reported
  unfold OverlayModel.pointer_moved
  simp only [samples, Option.bind_eq_bind, Option.bind_some]
  split
  · rename_i drag _
    obtain ⟨position, clamps, -⟩ := clamp_origin_defined reported
      ⟨saturating_sub_i32 (local_point model.source point).x drag.pointer_offset.x,
        saturating_sub_i32 (local_point model.source point).y drag.pointer_offset.y⟩
    rw [clamps]
    exact ⟨_, rfl⟩
  · obtain ⟨layout, made⟩ := layout_defined reported observed.toolbar_position
    rw [made]
    simp only [Option.bind_some]
    generalize control_eq : (if observed.region_drag_active = true then none
      else layout.hit_test (local_point model.source point) observed.options_open) = control
    obtain ⟨followed, follows⟩ := follow_pointer_defined
      { observed with hovered_control := control } window_hover modifiers observed_legal reach
    rw [follows]
    exact ⟨_, rfl⟩

/-- SRC: machine.rs:904-950 -/
theorem activate_tool_defined (legal : Legal (geometry model)) (tool : CaptureTool) :
    ∃ left, model.activate_tool tool = some left := by
  unfold OverlayModel.activate_tool
  by_cases same : model.tool = tool
  · simp only [same, ne_eq, not_true_eq_false, if_false]
    cases tool with
    | FullDisplay | Window | Region => exact ⟨_, rfl⟩
  · simp only [ne_eq, same, not_false_eq_true, if_true]
    cases tool with
    | FullDisplay | Window => exact ⟨_, rfl⟩
    | Region =>
      obtain ⟨initial, made, -⟩ := initial_selection_legal .Region legal.on_desktop
        legal.latest_region
      have made' : initial_selection .Region (latest_interaction_region model.tool
          model.selection model.selection_kind model.last_region) model.source = some initial :=
        made
      simp only [made', Option.bind_eq_bind, Option.bind_some]
      exact ⟨_, rfl⟩

/-- SRC: machine.rs:782-870 -/
theorem control_pressed_defined (legal : Legal (geometry model)) (control : ToolbarControl) :
    ∃ left, (model.control_pressed control).map OverlayModel.control_handled = some left := by
  have pressed : ∃ left, model.control_pressed control = some left := by
    unfold OverlayModel.control_pressed
    cases control with
    | FullDisplay | Window | Region => exact activate_tool_defined legal _
    | FileOutputDestination =>
      simp only
      split
      · exact ⟨_, rfl⟩
      · exact ⟨_, rfl⟩
    | RecordFormat =>
      simp only
      split
      · exact ⟨_, rfl⟩
      · exact ⟨_, rfl⟩
      · exact ⟨_, rfl⟩
    | _ => exact ⟨_, rfl⟩
  obtain ⟨left, pressed⟩ := pressed
  exact ⟨_, Option.map_eq_some_iff.mpr ⟨left, pressed, rfl⟩⟩

/-- SRC: machine.rs:750-875 -/
theorem toolbar_control_pressed_defined (legal : Legal (geometry model))
    (control : ToolbarControl) (in_toolbar_bounds : Bool) (pointer : Point)
    (modifiers : Modifiers) :
    ∃ left, model.toolbar_control_pressed control in_toolbar_bounds pointer modifiers =
      some left := by
  unfold OverlayModel.toolbar_control_pressed
  simp only
  cases control with
  | Background =>
    simp only
    split
    · exact ⟨_, rfl⟩
    · exact ⟨_, rfl⟩
  | Capture | Pin | Edit | Cancel => exact ⟨_, rfl⟩
  | Record =>
    simp only
    split
    · apply control_pressed_defined
      exact legal.undragged
    · exact ⟨_, rfl⟩
  | _ =>
    apply control_pressed_defined
    exact legal.undragged

/-- SRC: machine.rs:637-737 -/
theorem pointer_down_defined (legal : Legal (geometry model)) (point : Point)
    (slot : Option NativeWindowHandle) (time_ms : UInt32) (modifiers : Modifiers) :
    ∃ left, model.pointer_down point slot time_ms modifiers = some left := by
  have reported : Reported model.display_environment := legal.reported
  obtain ⟨layout, made⟩ := layout_defined reported model.toolbar_position
  unfold OverlayModel.pointer_down
  simp only [made, Option.bind_eq_bind, Option.bind_some]
  split
  · exact toolbar_control_pressed_defined legal _ _ _ _
  · split
    · exact ⟨_, rfl⟩
    · exact ⟨_, rfl⟩
    · exact ⟨_, rfl⟩

/-- SRC: machine.rs:952-1016 -/
theorem pointer_up_defined (legal : Legal (geometry model)) (point : Point)
    (modifiers : Modifiers) : ∃ left, model.pointer_up point modifiers = some left := by
  have committed : ∃ committed, model.commit_drag point modifiers = some committed := by
    unfold OverlayModel.commit_drag
    split
    · rename_i resize drag
      obtain ⟨rect, snaps, made, -⟩ := resize_region_snapped_fits model legal.on_desktop
        (legal.resizing resize drag) point modifiers
      rw [made]
      exact ⟨_, rfl⟩
    · rename_i moving _ drag
      obtain ⟨rect, snaps, made, -⟩ := move_region_snapped_fits model legal.on_desktop
        (legal.moving moving drag) point modifiers
      rw [made]
      exact ⟨_, rfl⟩
    · rename_i anchor _ _ drag
      split
      · obtain ⟨selection, snaps, made, -⟩ := rect_from_points_snapped_fits model
          legal.on_desktop anchor point modifiers
        rw [made]
        exact ⟨_, rfl⟩
      · exact ⟨_, rfl⟩
    · exact ⟨_, rfl⟩
  obtain ⟨committed, commits⟩ := committed
  unfold OverlayModel.pointer_up
  split
  · exact ⟨_, rfl⟩
  · split
    · exact ⟨_, rfl⟩
    · rw [commits]
      exact ⟨_, rfl⟩

/-- SRC: machine.rs:1196-1226 -/
theorem nudge_defined (legal : Legal (geometry model)) (dx dy : Int) (resize : Bool) :
    ∃ left, model.nudge dx dy resize = some left := by
  unfold OverlayModel.nudge
  split
  · exact ⟨_, rfl⟩
  · rename_i active
    simp only [not_or, not_not] at active
    split
    · exact ⟨_, rfl⟩
    · rename_i region selected
      have held : (geometry model).region = some region := by
        simp [Geometry.region, geometry, active.2.1, selected]
      have nonempty := (legal.region held).nonempty
      have adjusted : ∃ adjusted, model.adjusted_region region dx dy resize = some adjusted ∧
          adjusted.NonEmpty := by
        unfold OverlayModel.adjusted_region
        split
        · exact resize_region_by_nonempty nonempty model.source dx dy
        · exact ⟨_, rfl, nonempty⟩
      obtain ⟨adjusted, adjusts, adjusted_nonempty⟩ := adjusted
      obtain ⟨clamped, clamps, -⟩ := clamp_within_fits legal.on_desktop adjusted_nonempty
      have clamps' : adjusted.clamp_within model.source = some clamped := clamps
      simp only [adjusts, clamps', Option.bind_eq_bind, Option.bind_some]
      split
      · exact ⟨_, rfl⟩
      · exact ⟨_, rfl⟩

/-- Every event whose point is one that mouse messages carry is handled without overflow. -/
theorem handled_defined {event : OverlayEvent} (legal : Legal (geometry model))
    (sampled : Sampled model) (decoded : Decoded model.source event) :
    ∃ left, handled model event = some left := by
  cases event with
  | pruned dead => exact ⟨_, rfl⟩
  | input input =>
    cases input with
    | PointerMoved =>
      obtain ⟨lparam, rfl⟩ := decoded
      exact pointer_moved_defined legal sampled (screen_point_reach legal.on_desktop lparam)
    | PointerDown => exact pointer_down_defined legal _ _ _ _
    | PointerUp => exact pointer_up_defined legal _ _
    | DoubleClicked =>
      have reported : Reported model.display_environment := legal.reported
      obtain ⟨layout, made⟩ := layout_defined reported model.toolbar_position
      show ∃ left, model.double_clicked _ _ = some left
      unfold OverlayModel.double_clicked
      simp only [made, Option.bind_eq_bind, Option.bind_some]
      split
      · exact ⟨_, rfl⟩
      · exact ⟨_, rfl⟩
    | Tick time_ms =>
      show ∃ left, model.loupe_tick time_ms = some left
      unfold OverlayModel.loupe_tick
      split
      · exact ⟨_, rfl⟩
      · rename_i point previous last
        obtain ⟨observed, samples⟩ := observe_defined sampled (sampled _ last) time_ms
        rw [samples]
        exact ⟨_, rfl⟩
    | Nudge => exact nudge_defined legal _ _ _
    | _ => exact ⟨_, rfl⟩

/-! ## Opening -/

/-- What Windows and the configuration promise of a run: the display and its work area are
somewhere on a desktop, and a remembered region is not empty. -/
structure Promised (source : Rect) (run : OverlayRun) : Prop where
  left : -FARTHEST ≤ source.x
  top : -FARTHEST ≤ source.y
  right : source.right ≤ FARTHEST
  bottom : source.bottom ≤ FARTHEST
  reported : Reported run.display_environment
  remembered : ∀ region, run.remembered.region = some region →
    0 < region.width.val ∧ 0 < region.height.val

/-- SRC: overlay.rs:1154-1188 -/
theorem restored_fits {source restored : Rect} {region : CaptureRegion}
    {previous_source : CaptureRegionSource} {rotation_degrees : UInt16} {corner : Int × Int}
    (on_desktop : OnDesktop source) (width : 0 < region.width.val)
    (height : 0 < region.height.val)
    (restores : restore_region_for_display_change region previous_source source
      rotation_degrees corner = some restored) : Fits restored source := by
  unfold restore_region_for_display_change at restores
  simp only [Option.bind_eq_bind, Option.bind_eq_some_iff] at restores
  obtain ⟨turn, -, restores⟩ := restores
  have source_nonempty := on_desktop.nonempty
  simp only [Rect.NonEmpty] at source_nonempty
  have turned : 0 < (turned_size region turn).1 ∧ 0 < (turned_size region turn).2 := by
    unfold turned_size
    split
    · exact ⟨height, width⟩
    · exact ⟨width, height⟩
  have nonempty : 0 < min (turned_size region turn).1 source.width ∧
      0 < min (turned_size region turn).2 source.height := by omega
  exact fits_of_clamp_within on_desktop restores nonempty

/-- SRC: overlay.rs:1114-1152 -/
theorem opening_region_fits {source region : Rect} {run : OverlayRun}
    (on_desktop : OnDesktop source)
    (remembered : ∀ region, run.remembered.region = some region →
      0 < region.width.val ∧ 0 < region.height.val)
    (opening : opening_region source run = some region) : Fits region source := by
  unfold opening_region at opening
  simp only [Option.bind_eq_bind, Option.bind_eq_some_iff] at opening
  obtain ⟨last, restored, opening⟩ := opening
  cases last with
  | none =>
    obtain ⟨default, made, fits⟩ := default_region_fits on_desktop
    obtain rfl : region = default := Option.some.inj (opening.symm.trans made)
    exact fits
  | some last =>
    cases opening
    unfold remembered_last_region at restored
    split at restored
    · cases restored
    · rename_i held kept
      obtain ⟨width, height⟩ := remembered held kept
      split at restored
      · obtain ⟨_, restores, same⟩ := Option.map_eq_some_iff.mp restored
        cases same
        exact restored_fits on_desktop width height restores
      · obtain ⟨_, clamps, same⟩ := Option.map_eq_some_iff.mp restored
        cases same
        apply fits_of_clamp_within on_desktop clamps
        have most_width := held.width.property
        have most_height := held.height.property
        simp only [InU32] at most_width most_height
        have wide := as_u32_of_range (v := held.width.val) (by omega) (by omega)
        have high := as_u32_of_range (v := held.height.val) (by omega) (by omega)
        simp only [Rect.NonEmpty, Rect.of_casts]
        omega

/-! ## Runs -/

/-- What every step of an overlay on screen keeps. -/
structure InRegion (offers : ConfirmIntent → Bool) (session : OverlaySession) : Prop where
  in_kind : SessionInKind offers False session
  legal : Legal (geometry session.model)
  sampled : Sampled session.model

/-- An overlay opens with everything on its display. -/
theorem opened_in_region {source : Rect} {run : OverlayRun} (promised : Promised source run)
    (opened : open_overlay source run = some model) :
    InRegion (offered_by run) (opened_session model) := by
  have in_kind : SessionInKind (offered_by run) False (opened_session model) :=
    opened_in_kind opened
  unfold open_overlay at opened
  split at opened
  · cases opened
  · rename_i nonempty
    rw [not_or] at nonempty
    have on_desktop : OnDesktop source :=
      ⟨by simp only [Rect.NonEmpty]; omega, promised.left, promised.top, promised.right,
        promised.bottom⟩
    simp only [Option.bind_eq_bind, Option.bind_eq_some_iff] at opened
    obtain ⟨region, opening, ⟨selection, kind⟩, selected, opened⟩ := opened
    cases opened
    have fits := opening_region_fits on_desktop promised.remembered opening
    have last : ∀ other, some region = some other → Fits other source := by
      intro other same
      cases same
      exact fits
    obtain ⟨initial, made, selection_fits, display⟩ :=
      initial_selection_legal run.tool on_desktop last
    rw [selected] at made
    cases made
    refine ⟨in_kind, ?_, ?_⟩
    · exact {
        on_desktop := on_desktop
        reported := promised.reported
        selection := fun rect shown _ => selection_fits rect shown
        display := display
        last_region := last
        resizing := by simp [opened_session, geometry]
        moving := by simp [opened_session, geometry]
        anchor := by simp [opened_session, geometry]
        alone := by simp [opened_session, geometry]
        pointer := by simp [opened_session, geometry] }
    · intro sample held
      cases held

/-- A step whose point is one that mouse messages carry, and whose preview was asked for, keeps
everything on the display. -/
theorem step_in_region {session session' : OverlaySession} {event : OverlayEvent}
    (held : InRegion offers session) (decoded : Decoded session.model.source event)
    (due : PreviewDue session event) (step : OverlayStep session event session') :
    InRegion offers session' := by
  have in_kind := step_in_kind held.in_kind (.inl due) step
  obtain ⟨effects, taken, -, -⟩ := step.inversion
  exact ⟨in_kind, handled_legal held.legal held.in_kind.in_kind decoded taken,
    handled_sampled held.legal held.sampled decoded taken⟩

/-- The selection is legal: a region, and the display, is not empty and inside the display; the
display is all of it; the kind is the tool's; and what is remembered is inside the display. -/
structure LegalSelection (model : OverlayModel) : Prop where
  fits : ∀ rect kind, model.selection = some rect → model.selection_kind = some kind →
    kind ≠ .Window → rect.NonEmpty ∧ rect.Within model.source
  display : ∀ rect, model.selection = some rect → model.selection_kind = some .Display →
    rect = model.source
  kind : ∀ kind, model.selection_kind = some kind →
    model.tool = CaptureTool.from_selection_kind kind
  last_region : ∀ region, model.last_region = some region → region.Within model.source

/-- The selection of an overlay that is held in its region is legal. -/
theorem InRegion.selection {session : OverlaySession} (held : InRegion offers session) :
    LegalSelection session.model where
  fits := by
    intro rect kind shown shown_kind other
    have fits := held.legal.selection rect shown (by
      intro window
      exact other (Option.some.inj (shown_kind.symm.trans window)))
    exact ⟨fits.nonempty, fits.within⟩
  display := by
    intro rect shown display
    exact Option.some.inj (shown.symm.trans (held.legal.display display))
  kind := by
    intro kind shown
    rcases held.in_kind.in_kind.kind kind shown with tool | ⟨-, unasked⟩
    · exact tool
    · exact unasked.elim
  last_region := by
    intro region kept
    exact (held.legal.last_region region kept).within

/-- **The overlay's region stays on its display**: after any run of an overlay whose pointer
was where mouse messages can put it, and whose window previews came as they were asked for, the
selection is legal, and the next event is handled without overflow and without a `clamp` whose
bounds are crossed. -/
theorem region_invariant {source : Rect} {run : OverlayRun} {model : OverlayModel}
    {session : OverlaySession} {steps : List (Taken OverlaySession OverlayEvent)}
    (promised : Promised source run) (opened : open_overlay source run = some model)
    (runs : Run OverlayStep (opened_session model) steps session)
    (decoded : ∀ step ∈ steps, Decoded step.before.model.source step.event)
    (due : ∀ step ∈ steps, PreviewDue step.before step.event) :
    LegalSelection session.model ∧
      ∀ event, Decoded session.model.source event →
        ∃ model' effects, handled session.model event = some (model', effects) := by
  have held : InRegion (offered_by run) session := by
    apply runs.inv_of_meets (P := InRegion (offered_by run))
      (C := fun session event => Decoded session.model.source event ∧ PreviewDue session event)
    · intro session event session' held meets step
      exact step_in_region held meets.1 meets.2 step
    · exact opened_in_region promised opened
    · intro step member
      exact ⟨decoded step member, due step member⟩
  refine ⟨held.selection, ?_⟩
  intro event carried
  obtain ⟨⟨model', effects⟩, taken⟩ := handled_defined held.legal held.sampled carried
  exact ⟨model', effects, taken⟩

/-- The display and the run of the examples are ones that Windows may report. -/
theorem region_run_promised : Promised full_hd region_run where
  left := by decide
  top := by decide
  right := by decide
  bottom := by decide
  reported := ⟨by decide, by decide, by decide, by decide, by decide⟩
  remembered := by
    intro region remembered
    cases remembered

/-- A press of the region's corner, from the message that carries it. -/
theorem region_invariant_of_press :
    ∃ model session, open_overlay full_hd region_run = some model ∧
      (opened_session model).next (press 480 270) = some session ∧
      LegalSelection session.model ∧
      ∀ event, Decoded session.model.source event →
        ∃ model' effects, handled session.model event = some (model', effects) := by
  have computed : (open_overlay full_hd region_run).any (fun model =>
      ((opened_session model).next (press 480 270)).isSome &&
        decide (model.source = full_hd)) = true := by decide
  obtain ⟨model, opened, stepped⟩ := Option.any_eq_true _ _ |>.mp computed
  rw [Bool.and_eq_true, decide_eq_true_eq] at stepped
  obtain ⟨session, taken⟩ := Option.isSome_iff_exists.mp stepped.1
  have runs : Run OverlayStep (opened_session model) _ session := Run.nil.snoc taken
  refine ⟨model, session, opened, taken, region_invariant region_run_promised opened runs ?_ ?_⟩
  · intro step member
    obtain rfl := List.mem_singleton.mp member
    have source : (opened_session model).model.source = full_hd := stepped.2
    rw [source]
    exact ⟨17695200, by decide⟩
  · intro step member
    obtain rfl := List.mem_singleton.mp member
    simp [PreviewDue, resolves_preview, press]

/-- A press just off the display, and a move so far from it that the difference of the two is
no `i32`. -/
theorem far_move_overflows :
    ∃ model steps session, open_overlay full_hd region_run = some model ∧
      steps.map Taken.event = [press (-1) 500] ∧
      Run OverlayStep (opened_session model) steps session ∧
      handled session.model
        (.input (.PointerMoved ⟨2147483647, 500⟩ none ⟨false, false⟩ 0)) = none := by
  have overflows : (region_session [press (-1) 500]).any (fun session =>
      (handled session.model
        (.input (.PointerMoved ⟨2147483647, 500⟩ none ⟨false, false⟩ 0))).isNone) = true := by
    decide
  obtain ⟨session, computed, stopped⟩ := Option.any_eq_true _ _ |>.mp overflows
  obtain ⟨model, steps, opened, same, runs⟩ := region_session_runs computed
  exact ⟨model, steps, session, opened, same, runs, Option.isNone_iff_eq_none.mp stopped⟩

end Captastic.Analysis
