import Captastic.Analysis.OverlayClose
import Captastic.Analysis.DragsShown

/-!
# Guides

A guide is drawn only where a snapped edge of the selection lies on an edge of the inventory, and
selection and guides change together, or the guides go.  The shell answers each request for the
inventory once, and it is asked for only where there is none, so the inventory is never replaced.

Only a release that ends a drag of the toolbar leaves the guides it finds (`guides_told_iff`), and
it finds some only where a region drag's own release went elsewhere (`guides_left_by_toolbar`).
-/

set_option autoImplicit false

namespace Captastic.Analysis

open Captastic.Library Captastic.Model

variable {model model' : OverlayModel} {effects : List OverlayEffect}

/-! ## Guides that are true -/

/-- The leading or trailing edge of a rectangle on an axis. -/
def edge_on (rect : Rect) : SnapAxis → Bool → Int
  | .X, false => rect.x
  | .X, true => rect.right
  | .Y, false => rect.y
  | .Y, true => rect.bottom

/-- A guide lies on the edge of the selection it speaks of, and on an edge of the inventory. -/
def GuideSits (inventory : Option SnapTargets) (selection : Option Rect) (guide : SnapGuide) :
    Prop :=
  ∃ rect targets target, selection = some rect ∧ inventory = some targets ∧ target ∈ targets ∧
    (guide.position, guide.span) ∈ target_edges target.rect guide.axis ∧
    guide.position = edge_on rect guide.axis guide.trailing

/-- Each guide is of its own axis, and sits. -/
structure Sits (inventory : Option SnapTargets) (selection : Option Rect) (snaps : ActiveSnaps) :
    Prop where
  across : ∀ guide, snaps.1 = some guide → guide.axis = .X ∧ GuideSits inventory selection guide
  down : ∀ guide, snaps.2 = some guide → guide.axis = .Y ∧ GuideSits inventory selection guide

/-- Where nothing is snapped no guide is out of place. -/
theorem sits_of_none (inventory : Option SnapTargets) (selection : Option Rect) :
    Sits inventory selection NO_SNAPS where
  across := nofun
  down := nofun

/-- Without an inventory there are no guides. -/
theorem Sits.no_snaps {selection : Option Rect} {snaps : ActiveSnaps}
    (sits : Sits none selection snaps) : snaps = NO_SNAPS := by
  obtain ⟨across, down⟩ := snaps
  have first : across = none := by
    cases across with
    | none => rfl
    | some guide =>
      obtain ⟨-, rect, targets, target, -, nothing, -⟩ := sits.across guide rfl
      cases nothing
  have second : down = none := by
    cases down with
    | none => rfl
    | some guide =>
      obtain ⟨-, rect, targets, target, -, nothing, -⟩ := sits.down guide rfl
      cases nothing
  rw [first, second]
  rfl

/-- Without a selection there are no guides. -/
theorem Sits.no_selection {inventory : Option SnapTargets} {snaps : ActiveSnaps}
    (sits : Sits inventory none snaps) : snaps = NO_SNAPS := by
  obtain ⟨across, down⟩ := snaps
  have first : across = none := by
    cases across with
    | none => rfl
    | some guide =>
      obtain ⟨-, rect, targets, target, nothing, -⟩ := sits.across guide rfl
      cases nothing
  have second : down = none := by
    cases down with
    | none => rfl
    | some guide =>
      obtain ⟨-, rect, targets, target, nothing, -⟩ := sits.down guide rfl
      cases nothing
  rw [first, second]
  rfl

/-! ## Snapping onto edges of the inventory -/

/-- The edge is one of the targets'. -/
def OnTargets (targets : SnapTargets) (axis : SnapAxis) (hit : SnapHit) : Prop :=
  ∃ target ∈ targets, (hit.position, hit.span) ∈ target_edges target.rect axis

/-- **An edge that is snapped onto** is one of the targets'. -/
theorem snap_coordinate_on_targets {v threshold : Int} {targets : SnapTargets} {axis : SnapAxis}
    {hit : SnapHit} (snapped : snap_coordinate v targets axis threshold = some hit) :
    OnTargets targets axis hit := by
  let Held (best : Option (Int × SnapHit)) : Prop :=
    ∀ nearest, best = some nearest → OnTargets targets axis nearest.2
  have held : Held (targets.foldl (fun best target =>
      (target_edges target.rect axis).foldl (keep_closest v threshold) best) none) := by
    apply List.foldlRecOn (motive := Held)
    · intro nearest nothing
      cases nothing
    · intro best held target listed
      apply List.foldlRecOn (motive := Held)
      · exact held
      · intro best held edge edged nearest kept
        unfold keep_closest at kept
        simp only at kept
        split at kept
        · exact held nearest kept
        · split at kept
          · cases kept
            exact ⟨target, listed, edged⟩
          · exact held nearest kept
  obtain ⟨nearest, found, rfl⟩ := Option.map_eq_some_iff.mp snapped
  exact held nearest found

/-- The edges of both axes are the targets'. -/
structure HitsOnTargets (targets : SnapTargets) (hits : Option SnapHit × Option SnapHit) :
    Prop where
  across : ∀ hit, hits.1 = some hit → OnTargets targets .X hit
  down : ∀ hit, hits.2 = some hit → OnTargets targets .Y hit

/-- A guide says where it lies. -/
theorem guide_for_spec {hit : Option SnapHit} {axis : SnapAxis} {leading trailing : Int}
    {guide : SnapGuide} (made : guide_for hit axis leading trailing = some guide) :
    ∃ edge, hit = some edge ∧ guide.axis = axis ∧ guide.position = edge.position ∧
      guide.span = edge.span ∧
      guide.position = if guide.trailing then trailing else leading := by
  have same (v w : Int) (fits : try_i32 v = some w) : v = w := by
    unfold try_i32 at fits
    split at fits
    · exact Option.some.inj fits
    · cases fits
  have placed (edge : SnapHit) (trails : Bool)
      (made : ((try_i32 edge.position).bind fun position => (try_i32 edge.span.1).bind fun first =>
        (try_i32 edge.span.2).bind fun last =>
          some (SnapGuide.mk axis position (first, last) trails)) = some guide) :
      guide = ⟨axis, edge.position, edge.span, trails⟩ := by
    simp only [Option.bind_eq_some_iff] at made
    obtain ⟨position, place, first, low, last, high, made⟩ := made
    cases made
    rw [same _ _ place, ← same _ _ low, ← same _ _ high]
  unfold guide_for at made
  simp only [Option.bind_eq_bind] at made
  obtain ⟨edge, found, made⟩ := Option.bind_eq_some_iff.mp made
  refine ⟨edge, found, ?_⟩
  split at made
  · rename_i leads
    rw [placed edge false made]
    exact ⟨rfl, rfl, rfl, leads⟩
  · split at made
    · rename_i trails
      rw [placed edge true made]
      exact ⟨rfl, rfl, rfl, trails⟩
    · cases made

/-- **The guides of a rectangle** sit on its edges. -/
theorem guides_for_sits {rect : Rect} {hits : Option SnapHit × Option SnapHit}
    {targets : SnapTargets} (on_targets : HitsOnTargets targets hits) :
    Sits (some targets) (some rect) (guides_for rect hits) where
  across := by
    intro guide made
    obtain ⟨edge, found, axis, position, span, side⟩ := guide_for_spec made
    obtain ⟨target, listed, edged⟩ := on_targets.across edge found
    refine ⟨axis, rect, targets, target, rfl, rfl, listed, ?_, ?_⟩
    · rw [axis, position, span]
      exact edged
    · rw [side, axis]
      cases guide.trailing <;> rfl
  down := by
    intro guide made
    obtain ⟨edge, found, axis, position, span, side⟩ := guide_for_spec made
    obtain ⟨target, listed, edged⟩ := on_targets.down edge found
    refine ⟨axis, rect, targets, target, rfl, rfl, listed, ?_, ?_⟩
    · rw [axis, position, span]
      exact edged
    · rw [side, axis]
      cases guide.trailing <;> rfl

/-- The targets in use are the model's. -/
theorem active_targets_eq {modifiers : Modifiers} {targets : SnapTargets}
    (active : model.active_targets modifiers = some targets) :
    model.snap_targets = some targets := by
  unfold OverlayModel.active_targets at active
  split at active
  · exact active
  · cases active

/-- A point snaps to edges of the inventory. -/
theorem snap_point_on_targets (x y threshold : Int) (targets : SnapTargets) :
    HitsOnTargets targets (snap_point x y targets threshold).2 where
  across := fun _ snapped => snap_coordinate_on_targets snapped
  down := fun _ snapped => snap_coordinate_on_targets snapped

/-- A corner that is dragged keeps the hit it was given. -/
theorem free_corner_hit {edge : SnapHit} {found : Option SnapHit} {fixed pointer : Int}
    (free : (OverlayModel.free_corner found fixed pointer).2 = some edge) : found = some edge := by
  unfold OverlayModel.free_corner at free
  split at free
  · cases free
  · split at free
    · cases free
    · exact free

/-- SRC: machine.rs:1614-1664 -/
theorem rect_from_points_snapped_sits {anchor pointer : Point} {modifiers : Modifiers}
    {selection : Option Rect} {snaps : ActiveSnaps}
    (made : model.rect_from_points_snapped anchor pointer modifiers = some (selection, snaps)) :
    Sits model.snap_targets selection snaps := by
  unfold OverlayModel.rect_from_points_snapped at made
  split at made
  · simp only [Option.bind_eq_bind, Option.bind_eq_some_iff] at made
    obtain ⟨rect, -, made⟩ := made
    cases made
    exact sits_of_none _ _
  · rename_i targets active
    simp only [Option.bind_eq_bind, Option.bind_eq_some_iff] at made
    obtain ⟨rect, -, made⟩ := made
    have anchored := snap_point_on_targets anchor.x anchor.y model.snap_threshold targets
    have pointed := snap_point_on_targets pointer.x pointer.y model.snap_threshold targets
    split at made
    · cases made
      rw [active_targets_eq active]
      apply guides_for_sits
      constructor
      · intro edge found
        rcases Option.or_eq_some_iff.mp found with free | ⟨-, fixed⟩
        · exact pointed.across edge (free_corner_hit free)
        · exact anchored.across edge fixed
      · intro edge found
        rcases Option.or_eq_some_iff.mp found with free | ⟨-, fixed⟩
        · exact pointed.down edge (free_corner_hit free)
        · exact anchored.down edge fixed
    · cases made
      exact sits_of_none _ _

/-- An axis snaps to an edge of the inventory. -/
theorem snapped_axis_hit {targets : SnapTargets} {mask : EdgeMask} {axis : SnapAxis}
    {pointer : Int} {edge : SnapHit}
    (snapped : (model.snapped_axis targets mask axis pointer).2 = some edge) :
    OnTargets targets axis edge := by
  unfold OverlayModel.snapped_axis at snapped
  simp only at snapped
  split at snapped
  · exact snap_coordinate_on_targets snapped
  · cases snapped

/-- SRC: machine.rs:1672-1704 -/
theorem resize_region_snapped_sits {resize : ResizeDrag} {pointer : Point}
    {modifiers : Modifiers} {rect : Rect} {snaps : ActiveSnaps}
    (made : model.resize_region_snapped resize pointer modifiers = some (rect, snaps)) :
    Sits model.snap_targets (some rect) snaps := by
  unfold OverlayModel.resize_region_snapped at made
  split at made
  · simp only [Option.bind_eq_bind, Option.bind_eq_some_iff] at made
    obtain ⟨sized, -, made⟩ := made
    cases made
    exact sits_of_none _ _
  · rename_i targets active
    simp only [Option.bind_eq_bind, Option.bind_eq_some_iff] at made
    obtain ⟨sized, -, made⟩ := made
    cases made
    rw [active_targets_eq active]
    apply guides_for_sits
    constructor
    · intro edge found
      exact snapped_axis_hit found
    · intro edge found
      exact snapped_axis_hit found

/-- So does the edge that wins of two. -/
theorem axis_winner_hit {targets : SnapTargets} {threshold : Int} {axis : SnapAxis}
    {leading trailing : Int} {first last : Bool} {won : Bool × SnapHit}
    (winner : axis_winner targets threshold axis leading trailing first last = some won) :
    OnTargets targets axis won.2 := by
  have allowed {v : Int} {permitted : Bool} {hit : SnapHit}
      (snapped : (if permitted then snap_coordinate v targets axis threshold else none) =
        some hit) : OnTargets targets axis hit := by
    split at snapped
    · exact snap_coordinate_on_targets snapped
    · cases snapped
  unfold axis_winner at winner
  simp only at winner
  split at winner
  · rename_i leads trails
    split at winner
    · cases winner
      exact allowed trails
    · cases winner
      exact allowed leads
  · rename_i leads _
    cases winner
    exact allowed leads
  · rename_i _ trails
    cases winner
    exact allowed trails
  · cases winner

/-- SRC: machine.rs:1707-1736 -/
theorem move_region_snapped_sits {moving : MoveDrag} {pointer : Point} {modifiers : Modifiers}
    {rect : Rect} {snaps : ActiveSnaps}
    (made : model.move_region_snapped moving pointer modifiers = some (rect, snaps)) :
    Sits model.snap_targets (some rect) snaps := by
  unfold OverlayModel.move_region_snapped at made
  simp only [Option.bind_eq_bind, Option.bind_eq_some_iff] at made
  obtain ⟨moved, -, made⟩ := made
  split at made
  · cases made
    exact sits_of_none _ _
  · rename_i targets active
    simp only [Option.bind_eq_some_iff] at made
    obtain ⟨snapped, -, made⟩ := made
    cases made
    rw [active_targets_eq active]
    apply guides_for_sits
    constructor
    · intro edge found
      obtain ⟨shift, shifted, rfl⟩ := Option.map_eq_some_iff.mp found
      obtain ⟨hit, won, rfl⟩ := Option.map_eq_some_iff.mp shifted
      obtain ⟨winner, winning, rfl⟩ := Option.map_eq_some_iff.mp won
      exact axis_winner_hit winning
    · intro edge found
      obtain ⟨shift, shifted, rfl⟩ := Option.map_eq_some_iff.mp found
      obtain ⟨hit, won, rfl⟩ := Option.map_eq_some_iff.mp shifted
      obtain ⟨winner, winning, rfl⟩ := Option.map_eq_some_iff.mp won
      exact axis_winner_hit winning

/-! ## What the handlers leave of the guides -/

/-- Whether the effect asks for the inventory. -/
def asks_targets : OverlayEffect → Bool
  | .BuildSnapTargets => true
  | _ => false

/-- What a handler leaves of selection and guides: both as they were, no guides, or, under the
same tool, what a drag in flight makes of both. -/
inductive SnapsLeft (model model' : OverlayModel) : Prop
  | kept (tool : model'.tool = model.tool) (selection : model'.selection = model.selection)
      (snaps : model'.active_snaps = model.active_snaps)
  | cleared (snaps : model'.active_snaps = NO_SNAPS)
  | placed (tool : model'.tool = model.tool) (active : model.region_drag_active = true)
      (sits : Sits model'.snap_targets model'.selection model'.active_snaps)

/-- What a handler leaves that the shell does not answer with: the inventory, which it asks for
only where there is none. -/
structure GuidesLeft (model model' : OverlayModel) (effects : List OverlayEffect) : Prop where
  left : SnapsLeft model model'
  inventory : model'.snap_targets = model.snap_targets
  asks : effects.any asks_targets = true → model.snap_targets = none

/-- Nothing about the guides changes. -/
theorem guides_kept (tool : model'.tool = model.tool)
    (selection : model'.selection = model.selection)
    (snaps : model'.active_snaps = model.active_snaps)
    (inventory : model'.snap_targets = model.snap_targets)
    (silent : effects.any asks_targets = false) : GuidesLeft model model' effects where
  left := .kept tool selection snaps
  inventory := inventory
  asks := fun asks => by
    rw [silent] at asks
    cases asks

/-- Targets are asked for only where there are none. -/
theorem request_snap_targets_asks
    (asks : model.request_snap_targets.any asks_targets = true) : model.snap_targets = none := by
  unfold OverlayModel.request_snap_targets at asks
  split at asks
  · rename_i wanted
    exact Option.isNone_iff_eq_none.mp wanted.2.2
  · cases asks

/-- The guides go, and the inventory stays. -/
theorem guides_cleared (snaps : model'.active_snaps = NO_SNAPS)
    (inventory : model'.snap_targets = model.snap_targets)
    (asks : effects.any asks_targets = true → model'.snap_targets = none) :
    GuidesLeft model model' effects :=
  ⟨.cleared snaps, inventory, fun asked => inventory.symm.trans (asks asked)⟩

/-- SRC: machine.rs:904-950 -/
theorem activate_tool_guides {tool : CaptureTool}
    (activated : model.activate_tool tool = some (model', effects)) :
    GuidesLeft model model' effects := by
  have hidden (condition : Prop) [Decidable condition] :
      (if condition then [OverlayEffect.HideLiveThumbnails] else []).any asks_targets = false := by
    split <;> rfl
  unfold OverlayModel.activate_tool at activated
  by_cases same : model.tool = tool
  · simp only [same, ne_eq, not_true_eq_false, if_false] at activated
    cases tool with
    | FullDisplay | Window | Region =>
      cases activated
      refine guides_cleared rfl rfl fun asks => ?_
      rw [List.any_append, List.any_append, hidden, Bool.or_false] at asks
      rcases (Bool.or_eq_true _ _).mp asks with silent | asks
      · cases silent
      · exact request_snap_targets_asks asks
  · simp only [ne_eq, same, not_false_eq_true, if_true] at activated
    cases tool with
    | FullDisplay | Window =>
      cases activated
      refine guides_cleared rfl rfl fun asks => ?_
      rw [List.any_append, List.any_append, hidden, Bool.or_false] at asks
      rcases (Bool.or_eq_true _ _).mp asks with silent | asks
      · cases silent
      · exact request_snap_targets_asks asks
    | Region =>
      simp only [Option.bind_eq_bind, Option.bind_eq_some_iff] at activated
      obtain ⟨selected, -, _, entered, activated⟩ := activated
      cases entered
      cases activated
      refine guides_cleared rfl rfl fun asks => ?_
      rw [List.any_append, List.any_append, hidden, Bool.or_false] at asks
      rcases (Bool.or_eq_true _ _).mp asks with silent | asks
      · cases silent
      · exact request_snap_targets_asks asks

/-- An attempt to end a run leaves the guides. -/
theorem ended_guides (ended : Ended model model' effects) : GuidesLeft model model' effects := by
  cases ended with
  | unavailable => exact guides_kept rfl rfl rfl rfl rfl
  | confirmed => exact guides_kept rfl rfl rfl rfl rfl
  | cancelled => exact guides_kept rfl rfl rfl rfl rfl

/-- Ending an overlay shows no guide. -/
theorem ended_snaps (ended : Ended model model' effects)
    (none_left : model.active_snaps = NO_SNAPS) :
    model'.active_snaps = NO_SNAPS := by
  cases ended with
  | unavailable => exact none_left
  | confirmed => exact none_left
  | cancelled => exact none_left

/-- What is changed before a handler is entered, and after it, is nothing of the guides'. -/
theorem GuidesLeft.around {entered : OverlayModel} (left : GuidesLeft entered model' effects)
    (model : OverlayModel) (last : List OverlayEffect) (tool : entered.tool = model.tool)
    (selection : entered.selection = model.selection)
    (snaps : entered.active_snaps = model.active_snaps)
    (inventory : entered.snap_targets = model.snap_targets)
    (active : entered.region_drag_active = true → model.region_drag_active = true)
    (silent : last.any asks_targets = false) : GuidesLeft model model' (effects ++ last) where
  left := by
    cases left.left with
    | kept same_tool same_selection same_snaps =>
      exact .kept (same_tool.trans tool) (same_selection.trans selection) (same_snaps.trans snaps)
    | cleared cleared => exact .cleared cleared
    | placed same_tool dragged sits => exact .placed (same_tool.trans tool) (active dragged) sits
  inventory := left.inventory.trans inventory
  asks := by
    intro asks
    rw [List.any_append, silent, Bool.or_false] at asks
    exact inventory.symm.trans (left.asks asks)

/-- The same of a handler that the guides were cleared before. -/
theorem GuidesLeft.cleared_before {entered : OverlayModel}
    (left : GuidesLeft entered model' effects) (cleared : model'.active_snaps = NO_SNAPS)
    (inventory : entered.snap_targets = model.snap_targets) : GuidesLeft model model' effects where
  left := .cleared cleared
  inventory := left.inventory.trans inventory
  asks := fun asks => inventory.symm.trans (left.asks asks)

/-- SRC: machine.rs:1047-1058 -/
theorem toggle_view_guides (model : OverlayModel) :
    GuidesLeft model model.toggle_view.1 model.toggle_view.2 := by
  unfold OverlayModel.toggle_view
  split
  · exact guides_kept rfl rfl rfl rfl rfl
  · exact guides_kept rfl rfl rfl rfl rfl

/-- SRC: machine.rs:782-870 -/
theorem control_pressed_guides {control : ToolbarControl}
    (pressed : model.control_pressed control = some (model', effects)) :
    GuidesLeft model model' effects := by
  unfold OverlayModel.control_pressed at pressed
  split at pressed
  · exact activate_tool_guides pressed
  · exact activate_tool_guides pressed
  · exact activate_tool_guides pressed
  · cases pressed
    refine guides_kept rfl rfl rfl rfl ?_
    split <;> rfl
  · cases pressed
    exact guides_kept rfl rfl rfl rfl rfl
  · cases pressed
    exact guides_kept rfl rfl rfl rfl rfl
  · cases pressed
    refine guides_cleared rfl rfl fun asks => ?_
    rw [List.any_append, show [OverlayEffect.PersistSnapPreference _].any asks_targets = false
      from rfl, Bool.or_false] at asks
    exact request_snap_targets_asks asks
  · cases pressed
    exact guides_kept rfl rfl rfl rfl rfl
  · obtain ⟨rfl, rfl⟩ := Prod.ext_iff.mp (Option.some.inj pressed)
    exact toggle_view_guides model
  · split at pressed
    · cases pressed
      exact guides_kept rfl rfl rfl rfl rfl
    · cases pressed
      exact guides_kept rfl rfl rfl rfl rfl
  · split at pressed
    · cases pressed
      exact guides_kept rfl rfl rfl rfl rfl
    · cases pressed
      exact guides_kept rfl rfl rfl rfl rfl
    · cases pressed
      exact guides_kept rfl rfl rfl rfl rfl
  all_goals
    cases pressed
    exact guides_kept rfl rfl rfl rfl rfl

/-- SRC: machine.rs:750-875 -/
theorem toolbar_control_pressed_guides {control : ToolbarControl} {in_toolbar_bounds : Bool}
    {pointer : Point} {modifiers : Modifiers}
    (pressed : model.toolbar_control_pressed control in_toolbar_bounds pointer modifiers =
      some (model', effects)) :
    GuidesLeft model model' effects := by
  have ended {left : Handled}
      (ends : Ended { model with
        anchor := none, dragging := false, resizing := none, moving_region := none
        hovered_control := some control } left.1 left.2) :
      GuidesLeft model left.1 left.2 := by
    have left := (ended_guides ends).around model [] rfl rfl rfl rfl nofun rfl
    rwa [List.append_nil] at left
  have followed {left : Option Handled}
      (handled : left.map OverlayModel.control_handled = some (model', effects))
      (guides : ∀ model'' returned, left = some (model'', returned) →
        GuidesLeft { model with
          anchor := none, dragging := false, resizing := none, moving_region := none
          hovered_control := some control } model'' returned) :
      GuidesLeft model model' effects := by
    obtain ⟨⟨model'', returned⟩, entered, made⟩ := Option.map_eq_some_iff.mp handled
    cases made
    exact (guides _ _ entered).around model _ rfl rfl rfl rfl nofun rfl
  unfold OverlayModel.toolbar_control_pressed at pressed
  simp only at pressed
  split at pressed
  · split at pressed
    · cases pressed
      refine guides_kept rfl rfl rfl rfl ?_
      split <;> rfl
    · cases pressed
      exact guides_kept rfl rfl rfl rfl rfl
  · obtain ⟨rfl, rfl⟩ := Prod.ext_iff.mp (Option.some.inj pressed)
    exact ended (confirm_or_capture_ended _ _)
  · obtain ⟨rfl, rfl⟩ := Prod.ext_iff.mp (Option.some.inj pressed)
    exact ended (confirm_ended _ _)
  · obtain ⟨rfl, rfl⟩ := Prod.ext_iff.mp (Option.some.inj pressed)
    exact ended (confirm_ended _ _)
  · split at pressed
    · exact followed pressed fun _ _ entered => control_pressed_guides entered
    · obtain ⟨rfl, rfl⟩ := Prod.ext_iff.mp (Option.some.inj pressed)
      exact ended (confirm_ended _ _)
  · obtain ⟨rfl, rfl⟩ := Prod.ext_iff.mp (Option.some.inj pressed)
    exact ended (cancel_ended _)
  · exact followed pressed fun _ _ entered => control_pressed_guides entered

/-- A press of the region leaves the guides to the moves that follow.
SRC: machine.rs:676-736 -/
theorem press_region_guides (model : OverlayModel) (point : Point)
    (none_left : model.active_snaps = NO_SNAPS) :
    GuidesLeft model (model.press_region point).1 (model.press_region point).2 := by
  unfold OverlayModel.press_region
  simp only
  split
  · refine guides_cleared none_left rfl fun asks => ?_
    rw [List.any_append] at asks
    rcases (Bool.or_eq_true _ _).mp asks with silent | asks
    · cases silent
    · exact request_snap_targets_asks asks
  · split
    · refine guides_cleared none_left rfl fun asks => ?_
      rw [List.any_append] at asks
      rcases (Bool.or_eq_true _ _).mp asks with silent | asks
      · cases silent
      · exact request_snap_targets_asks asks
    · refine guides_cleared none_left rfl fun asks => ?_
      rw [List.any_append] at asks
      rcases (Bool.or_eq_true _ _).mp asks with silent | asks
      · cases silent
      · exact request_snap_targets_asks asks

/-- A press on the region shows none. -/
theorem press_region_snaps (model : OverlayModel) (point : Point) :
    (model.press_region point).1.active_snaps = model.active_snaps := by
  unfold OverlayModel.press_region
  simp only
  split
  · rfl
  · split <;> rfl

/-- SRC: machine.rs:637-737 -/
theorem pointer_down_guides {point : Point} {slot : Option NativeWindowHandle}
    {time_ms : UInt32} {modifiers : Modifiers}
    (pressed : model.pointer_down point slot time_ms modifiers = some (model', effects)) :
    GuidesLeft model model' effects := by
  unfold OverlayModel.pointer_down at pressed
  simp only [Option.bind_eq_bind, Option.bind_eq_some_iff] at pressed
  obtain ⟨layout, -, pressed⟩ := pressed
  split at pressed
  · exact toolbar_control_pressed_guides pressed
  · split at pressed
    · cases pressed
      refine guides_cleared rfl rfl fun asks => ?_
      split at asks <;> cases asks
    · cases pressed
      exact guides_cleared rfl rfl nofun
    · obtain ⟨rfl, rfl⟩ := Prod.ext_iff.mp (Option.some.inj pressed)
      apply (press_region_guides _ point rfl).cleared_before
      · rw [press_region_snaps]
      · rfl

/-- SRC: machine.rs:576-596 -/
theorem rubber_band_snaps {anchor point : Point} {modifiers : Modifiers}
    (active : model.region_drag_active = true)
    (drawn : model.rubber_band anchor point modifiers = some model') :
    SnapsLeft model model' ∧ model'.snap_targets = model.snap_targets := by
  have band {latched : OverlayModel}
      (drawn : latched.draw_band anchor point modifiers = some model')
      (tool : latched.tool = model.tool) (selection : latched.selection = model.selection)
      (snaps : latched.active_snaps = model.active_snaps)
      (inventory : latched.snap_targets = model.snap_targets) :
      SnapsLeft model model' ∧ model'.snap_targets = model.snap_targets := by
    unfold OverlayModel.draw_band at drawn
    split at drawn
    · simp only [Option.bind_eq_bind, Option.bind_eq_some_iff] at drawn
      obtain ⟨⟨selection, snaps⟩, made, drawn⟩ := drawn
      cases drawn
      exact ⟨.placed tool active (rect_from_points_snapped_sits made), inventory⟩
    · cases drawn
      exact ⟨.kept tool selection snaps, inventory⟩
  unfold OverlayModel.rubber_band at drawn
  simp only [Option.bind_eq_bind, Option.bind_eq_some_iff] at drawn
  obtain ⟨latched, -, drawn⟩ := drawn
  split at drawn
  · exact band drawn rfl rfl rfl rfl
  · exact band drawn rfl rfl rfl rfl

/-- SRC: machine.rs:971-989 -/
theorem commit_drag_inventory {point : Point} {modifiers : Modifiers}
    (commits : model.commit_drag point modifiers = some model') :
    model'.snap_targets = model.snap_targets := by
  unfold OverlayModel.commit_drag at commits
  split at commits
  · simp only [Option.bind_eq_bind, Option.bind_eq_some_iff] at commits
    obtain ⟨_, -, commits⟩ := commits
    cases commits
    rfl
  · simp only [Option.bind_eq_bind, Option.bind_eq_some_iff] at commits
    obtain ⟨_, -, commits⟩ := commits
    cases commits
    rfl
  · split at commits
    · simp only [Option.bind_eq_bind, Option.bind_eq_some_iff] at commits
      obtain ⟨_, -, commits⟩ := commits
      cases commits
      rfl
    · cases commits
      rfl
  · cases commits
    rfl

/-- SRC: machine.rs:557-626 -/
theorem follow_pointer_snaps {point : Point} {hover : Option WindowCandidate}
    {modifiers : Modifiers} {cursor : CursorIntent}
    (followed : model.follow_pointer point hover modifiers = some (model', cursor)) :
    SnapsLeft model model' ∧ model'.snap_targets = model.snap_targets := by
  unfold OverlayModel.follow_pointer at followed
  split at followed
  · cases followed
    exact ⟨.kept rfl rfl rfl, rfl⟩
  · split at followed
    · rename_i resize resizing
      simp only [Option.bind_eq_bind, Option.bind_eq_some_iff] at followed
      obtain ⟨⟨rect, snaps⟩, made, followed⟩ := followed
      cases followed
      refine ⟨.placed rfl ?_ (resize_region_snapped_sits made), rfl⟩
      unfold OverlayModel.region_drag_active
      rw [resizing]
      rfl
    · rename_i moving no_resize moved
      simp only [Option.bind_eq_bind, Option.bind_eq_some_iff] at followed
      obtain ⟨⟨rect, snaps⟩, made, followed⟩ := followed
      cases followed
      refine ⟨.placed rfl ?_ (move_region_snapped_sits made), rfl⟩
      unfold OverlayModel.region_drag_active
      rw [moved, Option.isSome_some, Bool.or_true, Bool.true_or]
    · rename_i anchor no_resize no_move anchored
      have active : model.region_drag_active = true := by
        unfold OverlayModel.region_drag_active
        rw [anchored, Option.isSome_some, Bool.or_true]
      simp only [Option.bind_eq_bind, Option.bind_eq_some_iff] at followed
      obtain ⟨banded, drawn, followed⟩ := followed
      cases followed
      exact rubber_band_snaps active drawn
    · split at followed
      · cases followed
        exact ⟨.kept rfl rfl rfl, rfl⟩
      · split at followed
        · cases followed
          exact ⟨.kept rfl rfl rfl, rfl⟩
        · cases followed
          exact ⟨.kept rfl rfl rfl, rfl⟩

/-- SRC: machine.rs:526-635 -/
theorem pointer_moved_guides {point : Point} {hover : Option WindowCandidate}
    {modifiers : Modifiers} {time_ms : UInt32}
    (moved : model.pointer_moved point hover modifiers time_ms = some (model', effects)) :
    GuidesLeft model model' effects := by
  unfold OverlayModel.pointer_moved at moved
  simp only [Option.bind_eq_bind, Option.bind_eq_some_iff] at moved
  obtain ⟨observed, sampled, moved⟩ := moved
  obtain ⟨loupe, rfl⟩ := observe_pointer_motion_loupe sampled
  split at moved
  · simp only [Option.bind_eq_some_iff] at moved
    obtain ⟨position, -, moved⟩ := moved
    cases moved
    exact guides_kept rfl rfl rfl rfl rfl
  · simp only [Option.bind_eq_some_iff] at moved
    obtain ⟨layout, -, ⟨left, cursor⟩, followed, moved⟩ := moved
    cases moved
    obtain ⟨snaps, inventory⟩ := follow_pointer_snaps followed
    have silent (condition : Prop) [Decidable condition] :
        (OverlayEffect.SetCursor cursor ::
          (if condition then [OverlayEffect.Invalidate] else [])).any asks_targets = false := by
      split <;> rfl
    have entered : GuidesLeft _ left [] := ⟨snaps, inventory, nofun⟩
    exact entered.around model (_ :: _) rfl rfl rfl rfl id (silent _)

/-- A release of a drag of the toolbar leaves the guides there are, as does one under another
tool; any other leaves none.
SRC: machine.rs:952-1016 -/
theorem pointer_up_guides {point : Point} {modifiers : Modifiers}
    (released : model.pointer_up point modifiers = some (model', effects)) :
    GuidesLeft model model' effects ∧
      (model.toolbar_drag.isSome = true ∨ model.tool ≠ .Region →
        model'.active_snaps = model.active_snaps) ∧
      (model.toolbar_drag = none → model.tool = .Region → model'.active_snaps = NO_SNAPS) := by
  unfold OverlayModel.pointer_up at released
  split at released
  · rename_i drag dragged
    cases released
    refine ⟨guides_kept rfl rfl rfl rfl ?_, fun _ => rfl, ?_⟩
    · split <;> rfl
    · intro free
      cases free.symm.trans dragged
  · rename_i free
    split at released
    · rename_i elsewhere
      cases released
      refine ⟨guides_kept rfl rfl rfl rfl rfl, fun _ => rfl, ?_⟩
      intro _ region
      exact absurd region elsewhere
    · rename_i under
      simp only [Option.bind_eq_bind, Option.bind_eq_some_iff] at released
      obtain ⟨committed, commits, released⟩ := released
      cases released
      have inventory := commit_drag_inventory commits
      refine ⟨guides_cleared rfl inventory nofun, ?_, fun _ _ => rfl⟩
      rintro (dragged | elsewhere)
      · rw [free] at dragged
        cases dragged
      · exact absurd elsewhere under

/-- A nudge that is refused: of no region, under an open menu or during a drag.
SRC: machine.rs:1197-1211 -/
def nudge_refused (model : OverlayModel) : Prop :=
  model.tool ≠ .Region ∨ model.selection_kind ≠ some .Region ∨ model.options_open = true ∨
    model.region_drag_active = true ∨ model.selection = none

/-- SRC: machine.rs:1196-1226 -/
theorem nudge_guides {dx dy : Int} {resize : Bool}
    (nudged : model.nudge dx dy resize = some (model', effects)) :
    GuidesLeft model model' effects ∧
      (¬nudge_refused model → model'.active_snaps = NO_SNAPS) := by
  unfold OverlayModel.nudge at nudged
  split at nudged
  · rename_i refused
    cases nudged
    refine ⟨guides_kept rfl rfl rfl rfl rfl, fun taken => absurd ?_ taken⟩
    unfold nudge_refused OverlayModel.region_drag_active
    simp only [Bool.or_eq_true]
    tauto
  · split at nudged
    · rename_i unselected
      cases nudged
      exact ⟨guides_kept rfl rfl rfl rfl rfl, fun taken =>
        absurd (.inr (.inr (.inr (.inr unselected)))) taken⟩
    · simp only [Option.bind_eq_bind, Option.bind_eq_some_iff] at nudged
      obtain ⟨adjusted, -, clamped, -, nudged⟩ := nudged
      split at nudged
      · cases nudged
        exact ⟨guides_cleared rfl rfl nofun, fun _ => rfl⟩
      · cases nudged
        exact ⟨guides_cleared rfl rfl nofun, fun _ => rfl⟩

/-- SRC: machine.rs:1110-1129 -/
theorem loupe_tick_guides {time_ms : UInt32}
    (ticked : model.loupe_tick time_ms = some (model', effects)) :
    GuidesLeft model model' effects := by
  unfold OverlayModel.loupe_tick at ticked
  split at ticked
  · cases ticked
    exact guides_kept rfl rfl rfl rfl rfl
  · simp only [Option.bind_eq_bind, Option.bind_eq_some_iff] at ticked
    obtain ⟨observed, sampled, ticked⟩ := ticked
    cases ticked
    obtain ⟨loupe, rfl⟩ := observe_pointer_motion_loupe sampled
    refine guides_kept rfl rfl rfl rfl ?_
    split <;> rfl

/-- SRC: machine.rs:1096-1106 -/
theorem loupe_key_changed_guides (model : OverlayModel) (held : Bool) :
    GuidesLeft model (model.loupe_key_changed held).1 (model.loupe_key_changed held).2 := by
  unfold OverlayModel.loupe_key_changed
  split
  · exact guides_kept rfl rfl rfl rfl rfl
  · refine guides_kept rfl rfl rfl rfl ?_
    simp only
    split <;> rfl

/-- SRC: machine.rs:881-900 -/
theorem window_sources_pruned_guides (model : OverlayModel) (dead : List NativeWindowHandle) :
    GuidesLeft model (model.window_sources_pruned dead).1
      (model.window_sources_pruned dead).2 := by
  unfold OverlayModel.window_sources_pruned
  simp only
  split
  · exact guides_kept rfl rfl rfl rfl rfl
  · exact guides_kept rfl rfl rfl rfl rfl

/-- A preview's outcome is what is selected under the Window tool, which has no guides.
SRC: machine.rs:1243-1267 -/
theorem window_preview_resolved_guides {rect : Option Rect} {intent : ConfirmIntent}
    (none_left : model.active_snaps = NO_SNAPS) :
    GuidesLeft model (model.window_preview_resolved rect intent).1
      (model.window_preview_resolved rect intent).2 := by
  unfold OverlayModel.window_preview_resolved
  simp only
  split
  · have ended := confirm_or_capture_ended { model with
      selection := rect, selection_kind := rect.map fun _ => .Window }
      (if model.record_armed then .Record else intent)
    exact (ended_guides ended).cleared_before (ended_snaps ended none_left) rfl
  · exact guides_cleared none_left rfl nofun

/-! ## An overlay whose inventory the shell answers with -/

/-- Whether the event is the inventory that the shell has built. -/
def brings_targets : OverlayEvent → Bool
  | .input (.SnapTargetsReady _) => true
  | _ => false

/-- An overlay on screen, and whether the shell has been asked for the inventory and is to answer.
SRC: overlay.rs:2034-2050 -/
structure SnapSession where
  overlay : OverlaySession
  targets_due : Bool

/-- What an event does to an overlay on screen, as the shell brings it: the inventory, and the
outcome of a window preview, come only where they were asked for. -/
def SnapSession.next (session : SnapSession) (event : OverlayEvent) : Option SnapSession :=
  if brings_targets event ∧ session.targets_due = false ∨
      resolves_preview event ∧ session.overlay.preview_due = false then none
  else do
    let overlay ← session.overlay.next event
    let left ← handled session.overlay.model event
    some ⟨overlay, left.2.any asks_targets || (session.targets_due && !brings_targets event)⟩

/-- A step of an overlay on screen. -/
def SnapStep (session : SnapSession) (event : OverlayEvent) (session' : SnapSession) : Prop :=
  session.next event = some session'

/-- What a step says: that what it brings was asked for, and what the overlay makes of it. -/
theorem SnapStep.inversion {session session' : SnapSession} {event : OverlayEvent}
    (step : SnapStep session event session') :
    (brings_targets event = true → session.targets_due = true) ∧
      PreviewDue session.overlay event ∧ OverlayStep session.overlay event session'.overlay ∧
      ∃ effects, handled session.overlay.model event = some (session'.overlay.model, effects) ∧
        session'.targets_due =
          (effects.any asks_targets || (session.targets_due && !brings_targets event)) := by
  unfold SnapStep SnapSession.next at step
  split at step
  · cases step
  · rename_i due
    simp only [not_or, not_and, Bool.not_eq_false] at due
    simp only [Option.bind_eq_bind, Option.bind_eq_some_iff] at step
    obtain ⟨overlay, next, ⟨model', effects⟩, taken, step⟩ := step
    cases step
    have overlay_step : OverlayStep session.overlay event overlay := next
    obtain ⟨effects', taken', -⟩ := overlay_step.inversion
    have same := Option.some.inj (taken.symm.trans taken')
    refine ⟨due.1, due.2, next, effects, ?_, rfl⟩
    · rw [taken, same]
      cases same
      rfl

/-- What every step keeps: the guides sit, there are none under another tool, and the inventory is
asked for only where there is none. -/
structure GuidesInPlace (offers : ConfirmIntent → Bool) (session : SnapSession) : Prop where
  in_kind : SessionInKind offers False session.overlay
  sits : Sits session.overlay.model.snap_targets session.overlay.model.selection
    session.overlay.model.active_snaps
  elsewhere : session.overlay.model.tool ≠ .Region →
    session.overlay.model.active_snaps = NO_SNAPS
  due : session.targets_due = true → session.overlay.model.snap_targets = none

/-- An event that brings no inventory leaves of the guides what a handler does. -/
theorem handled_guides {event : OverlayEvent} (other : brings_targets event = false)
    (previewed : resolves_preview event = true → model.active_snaps = NO_SNAPS)
    (taken : handled model event = some (model', effects)) : GuidesLeft model model' effects := by
  cases event with
  | pruned dead =>
    obtain ⟨rfl, rfl⟩ := Prod.ext_iff.mp (Option.some.inj taken)
    exact window_sources_pruned_guides model dead
  | input input =>
    cases input with
    | PointerMoved => exact pointer_moved_guides taken
    | PointerDown => exact pointer_down_guides taken
    | WindowPreviewResolved =>
      obtain ⟨rfl, rfl⟩ := Prod.ext_iff.mp (Option.some.inj taken)
      exact window_preview_resolved_guides (previewed rfl)
    | SnapTargetsReady => cases other
    | PointerUp => exact (pointer_up_guides taken).1
    | DoubleClicked => exact ended_guides (double_clicked_cases taken)
    | PointerCaptureLost =>
      cases taken
      refine guides_cleared rfl rfl fun asks => ?_
      split at asks <;> cases asks
    | LoupeKeyChanged held =>
      obtain ⟨rfl, rfl⟩ := Prod.ext_iff.mp (Option.some.inj taken)
      exact loupe_key_changed_guides model held
    | Tick => exact loupe_tick_guides taken
    | ToggleView =>
      obtain ⟨rfl, rfl⟩ := Prod.ext_iff.mp (Option.some.inj taken)
      exact toggle_view_guides model
    | Nudge => exact (nudge_guides taken).1
    | ConfirmRequested intent =>
      obtain ⟨rfl, rfl⟩ := Prod.ext_iff.mp (Option.some.inj taken)
      exact ended_guides (confirm_ended model intent)
    | CancelRequested =>
      obtain ⟨rfl, rfl⟩ := Prod.ext_iff.mp (Option.some.inj taken)
      exact ended_guides (cancel_ended model)
    | DisplayConfigurationInvalidated =>
      cases taken
      exact guides_kept rfl rfl rfl rfl rfl

/-- What the guides' invariant makes of what a handler leaves. -/
theorem SnapsLeft.in_place (left : SnapsLeft model model')
    (inventory : model'.snap_targets = model.snap_targets)
    (dragged : model.region_drag_active = true → model.tool = .Region)
    (sits : Sits model.snap_targets model.selection model.active_snaps)
    (elsewhere : model.tool ≠ .Region → model.active_snaps = NO_SNAPS) :
    Sits model'.snap_targets model'.selection model'.active_snaps ∧
      (model'.tool ≠ .Region → model'.active_snaps = NO_SNAPS) ∧
      (model'.tool ≠ model.tool → model'.active_snaps = NO_SNAPS) := by
  cases left with
  | kept tool selection snaps =>
    rw [inventory, selection, snaps, tool]
    exact ⟨sits, elsewhere, fun switched => absurd rfl switched⟩
  | cleared cleared =>
    rw [cleared]
    exact ⟨sits_of_none _ _, fun _ => rfl, fun _ => rfl⟩
  | placed tool active placed =>
    refine ⟨placed, fun other => ?_, fun switched => absurd tool switched⟩
    exact absurd (tool.trans (dragged active)) other

/-- What is promised of the guides after an event. -/
structure GuidesTold (before : SnapSession) (event : OverlayEvent) (after : SnapSession) :
    Prop where
  sits : Sits after.overlay.model.snap_targets after.overlay.model.selection
    after.overlay.model.active_snaps
  unselected : after.overlay.model.selection = none → after.overlay.model.active_snaps = NO_SNAPS
  released : ∀ point modifiers, event = .input (.PointerUp point modifiers) →
    after.overlay.model.active_snaps = NO_SNAPS
  lost : event = .input .PointerCaptureLost → after.overlay.model.active_snaps = NO_SNAPS
  switched : after.overlay.model.tool ≠ before.overlay.model.tool →
    after.overlay.model.active_snaps = NO_SNAPS
  nudged : ∀ dx dy resize, event = .input (.Nudge dx dy resize) →
    ¬nudge_refused before.overlay.model → after.overlay.model.active_snaps = NO_SNAPS

/-- A release that ends a drag of the toolbar finds no guides. -/
def toolbar_released_bare (session : SnapSession) : OverlayEvent → Prop
  | .input (.PointerUp _ _) =>
    session.overlay.model.toolbar_drag.isSome = true →
      session.overlay.model.active_snaps = NO_SNAPS
  | _ => True

variable {session session' : SnapSession} {event : OverlayEvent} {offers : ConfirmIntent → Bool}

/-- Every step keeps the guides in place, and is silent where the tool changes. -/
theorem step_in_place (held : GuidesInPlace offers session)
    (step : SnapStep session event session') :
    GuidesInPlace offers session' ∧
      (session'.overlay.model.tool ≠ session.overlay.model.tool →
        session'.overlay.model.active_snaps = NO_SNAPS) := by
  obtain ⟨brought, previewed, overlay, effects, taken, due⟩ := step.inversion
  have in_kind := step_in_kind held.in_kind (.inl previewed) overlay
  by_cases brings : brings_targets event = true
  · have nothing := held.due (brought brings)
    have bare : session.overlay.model.active_snaps = NO_SNAPS := by
      have sits := held.sits
      rw [nothing] at sits
      exact sits.no_snaps
    unfold brings_targets at brings
    split at brings
    · obtain ⟨left, silent⟩ := Prod.ext_iff.mp (Option.some.inj taken)
      have same : _ = session'.overlay.model := left
      have quiet : _ = effects := silent
      have cleared : session'.overlay.model.active_snaps = NO_SNAPS := by
        rw [← same]
        exact bare
      refine ⟨⟨in_kind, ?_, fun _ => cleared, ?_⟩, fun _ => cleared⟩
      · rw [cleared]
        exact sits_of_none _ _
      · intro asked
        rw [due, ← quiet] at asked
        simp [brings_targets] at asked
    · cases brings
  · have left := handled_guides (Bool.eq_false_iff.mpr brings) ?_ taken
    · have dragged : session.overlay.model.region_drag_active = true →
          session.overlay.model.tool = .Region := by
        intro active
        unfold OverlayModel.region_drag_active at active
        simp only [Bool.or_eq_true] at active
        rcases active with (resizing | moving) | anchor
        · exact held.in_kind.in_kind.resizing resizing
        · exact held.in_kind.in_kind.moving moving
        · exact held.in_kind.in_kind.anchor anchor
      obtain ⟨sits, elsewhere, switched⟩ :=
        left.left.in_place left.inventory dragged held.sits held.elsewhere
      refine ⟨⟨in_kind, sits, elsewhere, ?_⟩, switched⟩
      intro asked
      rw [left.inventory]
      rw [due] at asked
      rcases (Bool.or_eq_true _ _).mp asked with asks | still
      · exact left.asks asks
      · exact held.due ((Bool.and_eq_true _ _).mp still).1
    · intro resolves
      have tool := held.in_kind.due (previewed resolves)
      apply held.elsewhere
      rw [tool]
      nofun

/-- **One step** keeps what is promised where it meets the condition, and only there. -/
theorem step_told (held : GuidesInPlace offers session)
    (step : SnapStep session event session') :
    GuidesTold session event session' ↔ toolbar_released_bare session event := by
  obtain ⟨after, switched⟩ := step_in_place held step
  obtain ⟨-, -, -, effects, taken, -⟩ := step.inversion
  constructor
  · intro promised
    unfold toolbar_released_bare
    split
    · rename_i point modifiers
      intro dragged
      rw [← (pointer_up_guides taken).2.1 (.inl dragged)]
      exact promised.released point modifiers rfl
    · trivial
  · intro meets
    exact
      { sits := after.sits
        unselected := by
          intro unselected
          have sits := after.sits
          rw [unselected] at sits
          exact sits.no_selection
        released := by
          rintro point modifiers rfl
          obtain ⟨-, kept, cleared⟩ := pointer_up_guides taken
          by_cases dragged : session.overlay.model.toolbar_drag.isSome = true
          · rw [kept (.inl dragged)]
            exact meets dragged
          · by_cases region : session.overlay.model.tool = .Region
            · exact cleared (Option.not_isSome_iff_eq_none.mp dragged) region
            · rw [kept (.inr region)]
              exact held.elsewhere region
        lost := by
          rintro rfl
          have left : _ = session'.overlay.model := congrArg Prod.fst (Option.some.inj taken)
          rw [← left]
          rfl
        switched := switched
        nudged := by
          rintro dx dy resize rfl not_refused
          exact (nudge_guides taken).2 not_refused }

/-- An overlay as it is opened: nothing is asked for. -/
def opened_snaps (model : OverlayModel) : SnapSession := ⟨opened_session model, false⟩

/-- An overlay opens without guides. -/
theorem opened_bare {source : Rect} {run : OverlayRun}
    (opened : open_overlay source run = some model) : model.active_snaps = NO_SNAPS := by
  unfold open_overlay at opened
  split at opened
  · cases opened
  · simp only [Option.bind_eq_bind, Option.bind_eq_some_iff] at opened
    obtain ⟨region, -, ⟨selection, kind⟩, selected, opened⟩ := opened
    cases opened
    rfl

/-- So the guides are in place as it opens. -/
theorem opened_in_place {source : Rect} {run : OverlayRun}
    (opened : open_overlay source run = some model) :
    GuidesInPlace (offered_by run) (opened_snaps model) := by
  have bare := opened_bare opened
  refine ⟨opened_in_kind opened, ?_, fun _ => bare, nofun⟩
  show Sits model.snap_targets model.selection model.active_snaps
  rw [bare]
  exact sits_of_none _ _

/-- **Guides tell the truth**: an overlay opens with none, and in every run each guide lies on its
edge of the selection and on an edge of the inventory, with none where nothing is selected, after
a release, a lost capture, a switch of the tool or a nudge, if and only if every release of the
run that ends a drag of the toolbar finds none. -/
theorem guides_told_iff {source : Rect} {run : OverlayRun} {session : SnapSession}
    {steps : List (Taken SnapSession OverlayEvent)}
    (opened : open_overlay source run = some model)
    (runs : Run SnapStep (opened_snaps model) steps session) :
    model.active_snaps = NO_SNAPS ∧
      ((∀ step ∈ steps, GuidesTold step.before step.event step.after) ↔
        ∀ step ∈ steps, toolbar_released_bare step.before step.event) := by
  have first := opened_in_place opened
  constructor
  · exact opened_bare opened
  · apply forall₂_congr
    intro step member
    obtain ⟨taken, earlier, reached⟩ := runs.of_mem member
    have held : GuidesInPlace (offered_by run) step.before :=
      reached.inv (fun _ _ _ held step => (step_in_place held step).1) first
    exact step_told held taken

/-! ## A release that leaves its guides -/

/-- The run under the Region tool, with edges that snap. -/
def snapping_run : OverlayRun := { region_run with snap_to_windows := true }

/-- What the events make of that run, from its opening. -/
def snapping_session (events : List OverlayEvent) : Option SnapSession := do
  events.foldlM SnapSession.next (opened_snaps (← open_overlay full_hd snapping_run))

/-- The events of a computed run are those of a run. -/
theorem snapping_session_runs {events : List OverlayEvent} {session : SnapSession}
    (computed : snapping_session events = some session) :
    ∃ model steps, open_overlay full_hd snapping_run = some model ∧
      steps.map Taken.event = events ∧ Run SnapStep (opened_snaps model) steps session := by
  unfold snapping_session at computed
  simp only [Option.bind_eq_bind, Option.bind_eq_some_iff] at computed
  obtain ⟨model, opened, computed⟩ := computed
  obtain ⟨steps, same, runs⟩ := Run.of_foldlM (fun _ _ _ taken => taken) computed
  exact ⟨model, steps, opened, same, runs⟩

/-- The resize of the region from its corner onto the corner of a window at (400, 200). -/
def resized_onto_window : List OverlayEvent :=
  [press 480 270, .input (.SnapTargetsReady [⟨.of_casts 400 200 1000 700, .Window⟩]),
    .input (.PointerMoved ⟨402, 205⟩ none ⟨false, false⟩ 0)]

/-- A release ends no drag of the toolbar. -/
def releases_no_toolbar (session : SnapSession) : OverlayEvent → Bool
  | .input (.PointerUp _ _) => session.overlay.model.toolbar_drag.isNone
  | _ => true

/-- A check that no toolbar drag is released with guides shown. -/
theorem bare_of_releases {session : SnapSession} {event : OverlayEvent}
    (passes : releases_no_toolbar session event = true) : toolbar_released_bare session event := by
  unfold toolbar_released_bare
  split
  · unfold releases_no_toolbar at passes
    intro dragged
    rw [Option.isNone_iff_eq_none.mp passes] at dragged
    cases dragged
  · trivial

/-- The resize, and its release: the guides tell the truth at every time. -/
theorem guides_told_of_resize :
    ∃ model steps session, open_overlay full_hd snapping_run = some model ∧
      steps.map Taken.event = resized_onto_window ++ [release 402 205] ∧
      Run SnapStep (opened_snaps model) steps session ∧ model.active_snaps = NO_SNAPS ∧
      ∀ step ∈ steps, GuidesTold step.before step.event step.after := by
  have computed : (open_overlay full_hd snapping_run).any (fun model =>
      ((resized_onto_window ++ [release 402 205]).foldlM (fun session event =>
        if releases_no_toolbar session event then session.next event else none)
        (opened_snaps model)).isSome) = true := by decide
  obtain ⟨model, opened, computed⟩ := Option.any_eq_true _ _ |>.mp computed
  obtain ⟨session, computed⟩ := Option.isSome_iff_exists.mp computed
  obtain ⟨steps, same, runs, passes⟩ := @Run.of_foldlM_checked _ _ SnapStep _ _ _ _
    (fun _ _ _ taken => taken) _ computed
  have told := guides_told_iff opened runs
  exact ⟨model, steps, session, opened, same, runs, told.1,
    told.2.mpr fun step member => bare_of_releases (passes step member)⟩

/-- The resize, whose release goes elsewhere, then a press of the toolbar and its release: the
guides are still there, and nothing is dragged. -/
theorem guides_left_by_toolbar :
    ∃ model steps session, open_overlay full_hd snapping_run = some model ∧
      steps.map Taken.event = resized_onto_window ++ [press 965 905, release 965 905] ∧
      Run SnapStep (opened_snaps model) steps session ∧
      session.overlay.model.region_drag_active = false ∧
      session.overlay.model.active_snaps ≠ NO_SNAPS ∧
      ¬∀ step ∈ steps, GuidesTold step.before step.event step.after := by
  have left : (snapping_session (resized_onto_window ++
      [press 965 905, release 965 905])).any (fun session =>
        !session.overlay.model.region_drag_active &&
          session.overlay.model.active_snaps.1.isSome) = true := by decide
  obtain ⟨session, computed, held⟩ := (Option.any_eq_true _ _).mp left
  simp only [Bool.and_eq_true, Bool.not_eq_true'] at held
  obtain ⟨model, steps, opened, same, runs⟩ := snapping_session_runs computed
  have shown : session.overlay.model.active_snaps ≠ NO_SNAPS := by
    intro bare
    rw [bare] at held
    cases held.2
  refine ⟨model, steps, session, opened, same, runs, held.1, shown, fun told => ?_⟩
  cases runs with
  | nil => cases same
  | @snoc steps before after event runs taken =>
    have member : (⟨before, event, session⟩ : Taken SnapSession OverlayEvent) ∈
        steps ++ [⟨before, event, session⟩] :=
      List.mem_append_right _ (List.mem_singleton.mpr rfl)
    have last : event = release 965 905 := by
      have ends := congrArg List.getLast? same
      rw [List.map_append, List.map_singleton, List.getLast?_concat] at ends
      exact Option.some.inj ends
    exact shown ((told _ member).released _ _ last)

end Captastic.Analysis
