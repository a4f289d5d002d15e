import Captastic.Analysis.OverlayRuns

/-!
# What a drag shows

A move recomputes what is shown of the drag in flight from where the drag began, never from what
was shown before, and a release computes the same again: so a release commits what was shown,
and a move that is delivered again changes nothing (`release_commits`).
-/

set_option autoImplicit false

namespace Captastic.Analysis

open Captastic.Library Captastic.Model

variable {model model' : OverlayModel} {effects : List OverlayEffect}

/-! ## What is shown -/

/-- What the overlay shows is what the drag in flight makes of the pointer at a point; a press
that is no drag yet is near its anchor. -/
structure ShowsDrag (model : OverlayModel) (point : Point) (modifiers : Modifiers) : Prop where
  resized : ∀ resize, model.resizing = some resize → ∃ rect, model.selection = some rect ∧
    model.resize_region_snapped resize point modifiers = some (rect, model.active_snaps)
  moved : ∀ moving, model.resizing = none → model.moving_region = some moving →
    ∃ rect, model.selection = some rect ∧
      model.move_region_snapped moving point modifiers = some (rect, model.active_snaps)
  banded : ∀ anchor, model.resizing = none → model.moving_region = none →
    model.anchor = some anchor → model.dragging = true →
    model.rect_from_points_snapped anchor point modifiers =
      some (model.selection, model.active_snaps)
  pressed : ∀ anchor, model.resizing = none → model.moving_region = none →
    model.anchor = some anchor → model.dragging = false →
    OverlayModel.past_threshold anchor point = some false

/-- A pointer sample changes nothing but the magnifier's. -/
theorem observe_pointer_motion_loupe {point : Point} {time_ms : UInt32}
    (observed : model.observe_pointer_motion point time_ms = some model') :
    ∃ loupe, model' = { model with loupe } := by
  unfold OverlayModel.observe_pointer_motion at observed
  simp only at observed
  split at observed
  · cases observed
    exact ⟨_, rfl⟩
  · split at observed
    · cases observed
      exact ⟨_, rfl⟩
    · simp only [Option.bind_eq_bind, Option.bind_eq_some_iff] at observed
      obtain ⟨across, -, down, -, observed⟩ := observed
      cases observed
      exact ⟨_, rfl⟩

/-- **Moving** while the toolbar is dragged moves the toolbar only; else the drag of the region
follows the pointer, with no control under it. -/
theorem pointer_moved_follows {point : Point} {hover : Option WindowCandidate}
    {modifiers : Modifiers} {time_ms : UInt32} (active : model.region_drag_active = true)
    (moved : model.pointer_moved point hover modifiers time_ms = some (model', effects)) :
    (model'.toolbar_drag = model.toolbar_drag ∧ model.toolbar_drag.isSome = true ∧
        model'.selection = model.selection ∧ model'.active_snaps = model.active_snaps ∧
        model'.region_drag_active = true) ∨
      (model.toolbar_drag = none ∧ ∃ loupe pointer_local cursor,
        OverlayModel.follow_pointer { model with loupe, pointer_local, hovered_control := none }
          point hover modifiers = some (model', cursor)) := by
  unfold OverlayModel.pointer_moved at moved
  simp only [Option.bind_eq_bind, Option.bind_eq_some_iff] at moved
  obtain ⟨observed, sampled, moved⟩ := moved
  obtain ⟨loupe, rfl⟩ := observe_pointer_motion_loupe sampled
  split at moved
  · rename_i drag dragged
    simp only [Option.bind_eq_some_iff] at moved
    obtain ⟨position, -, moved⟩ := moved
    cases moved
    exact .inl ⟨rfl, Option.isSome_iff_exists.mpr ⟨drag, dragged⟩, rfl, rfl, active⟩
  · rename_i free
    simp only [Option.bind_eq_some_iff] at moved
    obtain ⟨layout, -, ⟨left, cursor⟩, followed, moved⟩ := moved
    cases moved
    split at followed
    · exact .inr ⟨free, loupe, some (local_point model.source point), cursor, followed⟩
    · rename_i idle
      exact absurd active idle

/-- A move of a region that is being drawn shows it, or leaves the press where it is. -/
theorem draw_band_shows (model : OverlayModel) {start anchor point : Point}
    {modifiers : Modifiers} (no_resize : model.resizing = none)
    (no_move : model.moving_region = none) (anchored : model.anchor = some anchor)
    (near : model.dragging = false → OverlayModel.past_threshold anchor point = some false)
    (drawn : model.draw_band start point modifiers = some model') :
    ShowsDrag model' point modifiers ∧ model'.toolbar_drag = model.toolbar_drag ∧
      model'.region_drag_active = true ∧
      (ShowsDrag model point modifiers →
        model'.selection = model.selection ∧ model'.active_snaps = model.active_snaps) := by
  have active : model.region_drag_active = true := by
    unfold OverlayModel.region_drag_active
    rw [anchored, Option.isSome_some, Bool.or_true]
  unfold OverlayModel.draw_band at drawn
  split at drawn
  · rename_i dragging
    simp only [Option.bind_eq_bind, Option.bind_eq_some_iff] at drawn
    obtain ⟨⟨selection, snaps⟩, made, drawn⟩ := drawn
    have corner : model.anchor.getD start = anchor := by rw [anchored, Option.getD_some]
    rw [corner] at made
    cases drawn
    refine ⟨?_, rfl, active, fun shows => ?_⟩
    · exact
        { resized := fun resize held => by cases held.symm.trans no_resize
          moved := fun moving _ held => by cases held.symm.trans no_move
          banded := fun other _ _ held _ => by
            obtain rfl := Option.some.inj (Eq.trans held.symm anchored)
            exact made
          pressed := fun other _ _ _ held => by cases held.symm.trans dragging }
    · have same := shows.banded anchor no_resize no_move anchored dragging
      rw [made] at same
      obtain ⟨rfl, rfl⟩ := Prod.mk.inj (Option.some.inj same)
      exact ⟨rfl, rfl⟩
  · rename_i idle
    have still : model.dragging = false := Bool.eq_false_iff.mpr idle
    cases drawn
    refine ⟨?_, rfl, active, fun _ => ⟨rfl, rfl⟩⟩
    exact
      { resized := fun resize held => by cases held.symm.trans no_resize
        moved := fun moving _ held => by cases held.symm.trans no_move
        banded := fun other _ _ _ held => by cases held.symm.trans still
        pressed := fun other _ _ held _ => by
          obtain rfl := Option.some.inj (Eq.trans held.symm anchored)
          exact near still }

/-- A press that becomes a drag has its anchor snapped, this once. -/
theorem rubber_band_shows {anchor point : Point} {modifiers : Modifiers}
    (no_resize : model.resizing = none) (no_move : model.moving_region = none)
    (anchored : model.anchor = some anchor)
    (drawn : model.rubber_band anchor point modifiers = some model') :
    ShowsDrag model' point modifiers ∧ model'.toolbar_drag = model.toolbar_drag ∧
      model'.region_drag_active = true ∧
      (ShowsDrag model point modifiers →
        model'.selection = model.selection ∧ model'.active_snaps = model.active_snaps) := by
  unfold OverlayModel.rubber_band at drawn
  simp only [Option.bind_eq_bind, Option.bind_eq_some_iff] at drawn
  obtain ⟨latched, past, drawn⟩ := drawn
  split at drawn
  · rename_i latches
    rw [Bool.and_eq_true, Bool.not_eq_true'] at latches
    obtain ⟨far, still⟩ := latches
    obtain ⟨shown, toolbar, held, -⟩ := draw_band_shows
      { model with anchor := some (model.snap_anchor anchor modifiers), dragging := true }
      no_resize no_move rfl (fun other => Bool.noConfusion other) drawn
    refine ⟨shown, toolbar, held, fun shows => ?_⟩
    have near := shows.pressed anchor no_resize no_move anchored still
    rw [far, near] at past
    cases past
  · rename_i unlatched
    refine draw_band_shows model no_resize no_move anchored (fun still => ?_) drawn
    have near : latched = false := by simpa [still] using unlatched
    rw [past, near]

/-- **What a drag shows** after it followed the pointer is what it makes of the pointer, and
nothing changes where that was shown already. -/
theorem follow_pointer_shows (model : OverlayModel) {point : Point} {hover : Option WindowCandidate}
    {modifiers : Modifiers} {cursor : CursorIntent} (active : model.region_drag_active = true)
    (no_control : model.hovered_control = none)
    (followed : model.follow_pointer point hover modifiers = some (model', cursor)) :
    ShowsDrag model' point modifiers ∧ model'.toolbar_drag = model.toolbar_drag ∧
      model'.region_drag_active = true ∧
      (ShowsDrag model point modifiers →
        model'.selection = model.selection ∧ model'.active_snaps = model.active_snaps) := by
  unfold OverlayModel.follow_pointer at followed
  rw [if_neg (by rw [no_control]; exact Bool.false_ne_true)] at followed
  split at followed
  · rename_i resize resizing
    simp only [Option.bind_eq_bind, Option.bind_eq_some_iff] at followed
    obtain ⟨⟨rect, snaps⟩, made, followed⟩ := followed
    cases followed
    refine ⟨?_, rfl, active, fun shows => ?_⟩
    · exact
        { resized := fun other held => by
            obtain rfl := Option.some.inj (Eq.trans held.symm resizing)
            exact ⟨rect, rfl, made⟩
          moved := fun moving held => by cases held.symm.trans resizing
          banded := fun corner held => by cases held.symm.trans resizing
          pressed := fun corner held => by cases held.symm.trans resizing }
    · obtain ⟨shown, selected, same⟩ := shows.resized resize resizing
      rw [made] at same
      obtain ⟨rfl, rfl⟩ := Prod.mk.inj (Option.some.inj same)
      exact ⟨selected.symm, rfl⟩
  · rename_i moving resizing moving_region
    simp only [Option.bind_eq_bind, Option.bind_eq_some_iff] at followed
    obtain ⟨⟨rect, snaps⟩, made, followed⟩ := followed
    cases followed
    refine ⟨?_, rfl, active, fun shows => ?_⟩
    · exact
        { resized := fun resize held => by cases held.symm.trans resizing
          moved := fun other _ held => by
            obtain rfl := Option.some.inj (Eq.trans held.symm moving_region)
            exact ⟨rect, rfl, made⟩
          banded := fun corner _ held => by cases held.symm.trans moving_region
          pressed := fun corner _ held => by cases held.symm.trans moving_region }
    · obtain ⟨shown, selected, same⟩ := shows.moved moving resizing moving_region
      rw [made] at same
      obtain ⟨rfl, rfl⟩ := Prod.mk.inj (Option.some.inj same)
      exact ⟨selected.symm, rfl⟩
  · rename_i anchor resizing moving_region anchored
    simp only [Option.bind_eq_bind, Option.bind_eq_some_iff] at followed
    obtain ⟨banded, drawn, followed⟩ := followed
    cases followed
    exact rubber_band_shows resizing moving_region anchored drawn
  · rename_i resizing moving_region anchored
    unfold OverlayModel.region_drag_active at active
    rw [resizing, moving_region, anchored] at active
    cases active

/-- A region drag is in flight, and what is shown is what it makes of the pointer, unless the
toolbar is dragged. -/
structure FollowsPointer (model : OverlayModel) (point : Point) (modifiers : Modifiers) : Prop where
  active : model.region_drag_active = true
  shows : model.toolbar_drag = none → ShowsDrag model point modifiers

/-- **A move** of the pointer while a region drag is in flight. -/
theorem moved_follows {point : Point} {hover : Option WindowCandidate} {modifiers : Modifiers}
    {time_ms : UInt32} (active : model.region_drag_active = true)
    (moved : model.pointer_moved point hover modifiers time_ms = some (model', effects)) :
    FollowsPointer model' point modifiers ∧ (FollowsPointer model point modifiers →
      model'.selection = model.selection ∧ model'.active_snaps = model.active_snaps) := by
  rcases pointer_moved_follows active moved with
    ⟨toolbar, dragged, selection, snaps, held⟩ | ⟨free, loupe, pointer, cursor, followed⟩
  · refine ⟨⟨held, fun none_dragged => ?_⟩, fun _ => ⟨selection, snaps⟩⟩
    rw [toolbar] at none_dragged
    rw [none_dragged] at dragged
    cases dragged
  · obtain ⟨shown, toolbar, held, same⟩ := follow_pointer_shows
      { model with loupe, pointer_local := pointer, hovered_control := none } active rfl followed
    refine ⟨⟨held, fun _ => shown⟩, fun follows => same ?_⟩
    obtain ⟨resized, moving, banded, pressed⟩ := follows.shows free
    exact ⟨resized, moving, banded, pressed⟩

/-! ## Releases and repeated moves -/

/-- What a release commits of the drag in flight is what is shown. -/
theorem commit_drag_shown {point : Point} {modifiers : Modifiers}
    (shows : ShowsDrag model point modifiers) :
    ∃ committed, model.commit_drag point modifiers = some committed ∧
      committed.selection = model.selection := by
  unfold OverlayModel.commit_drag
  split
  · rename_i resize resizing
    obtain ⟨rect, selected, made⟩ := shows.resized resize resizing
    rw [made]
    exact ⟨_, rfl, selected.symm⟩
  · rename_i moving resizing moving_region
    obtain ⟨rect, selected, made⟩ := shows.moved moving resizing moving_region
    rw [made]
    exact ⟨_, rfl, selected.symm⟩
  · rename_i anchor resizing moving_region anchored
    split
    · rename_i dragging
      rw [shows.banded anchor resizing moving_region anchored dragging]
      exact ⟨_, rfl, rfl⟩
    · exact ⟨_, rfl, rfl⟩
  · exact ⟨_, rfl, rfl⟩

/-- **A release** leaves the selection as it is shown. -/
theorem released_as_shown {point : Point} {modifiers : Modifiers}
    (follows : FollowsPointer model point modifiers) :
    ∃ released effects, model.pointer_up point modifiers = some (released, effects) ∧
      released.selection = model.selection := by
  unfold OverlayModel.pointer_up
  split
  · exact ⟨_, _, rfl, rfl⟩
  · rename_i free
    split
    · exact ⟨_, _, rfl, rfl⟩
    · obtain ⟨committed, commits, shown⟩ := commit_drag_shown (follows.shows free)
      rw [commits]
      exact ⟨_, _, rfl, shown⟩

/-- The moves to one point, with one set of modifiers, one after the other; each has its own time
and finds its own window under the pointer. -/
def moved_again (model : OverlayModel) (point : Point) (modifiers : Modifiers)
    (deliveries : List (Option WindowCandidate × UInt32)) : Option OverlayModel :=
  deliveries.foldlM (fun model delivery =>
    (model.pointer_moved point delivery.1 modifiers delivery.2).map Prod.fst) model

/-- **Moves that are delivered again** change nothing that is shown. -/
theorem moved_again_keeps {point : Point} {modifiers : Modifiers} {last : OverlayModel}
    (deliveries : List (Option WindowCandidate × UInt32))
    (follows : FollowsPointer model point modifiers)
    (moved : moved_again model point modifiers deliveries = some last) :
    last.selection = model.selection ∧ last.active_snaps = model.active_snaps := by
  unfold moved_again at moved
  induction deliveries generalizing model with
  | nil =>
    cases moved
    exact ⟨rfl, rfl⟩
  | cons delivery deliveries ih =>
    rw [List.foldlM_cons, Option.bind_eq_bind, Option.bind_eq_some_iff] at moved
    obtain ⟨next, delivered, moved⟩ := moved
    obtain ⟨⟨left, effects⟩, handled, rfl⟩ := Option.map_eq_some_iff.mp delivered
    obtain ⟨next_follows, same⟩ := moved_follows follows.active handled
    obtain ⟨selection, snaps⟩ := same follows
    obtain ⟨last_selection, last_snaps⟩ := ih next_follows moved
    exact ⟨last_selection.trans selection, last_snaps.trans snaps⟩

/-- What is promised of a move while a region drag is in flight: a release at the same point, with
the same modifiers, leaves the selection as the move left it, and the move changes neither
selection nor guides when it is delivered again, however often. -/
structure ReleaseCommits (model : OverlayModel) : Prop where
  released : ∀ point hover modifiers time_ms moved effects,
    model.pointer_moved point hover modifiers time_ms = some (moved, effects) →
      ∃ released effects', moved.pointer_up point modifiers = some (released, effects') ∧
        released.selection = moved.selection
  repeated : ∀ point hover modifiers time_ms moved effects,
    model.pointer_moved point hover modifiers time_ms = some (moved, effects) →
      ∀ deliveries last, moved_again moved point modifiers deliveries = some last →
        last.selection = moved.selection ∧ last.active_snaps = moved.active_snaps

/-- **A release commits what was shown**, in every state with a region drag in flight. -/
theorem release_commits (model : OverlayModel) (active : model.region_drag_active = true) :
    ReleaseCommits model where
  released := by
    intro point hover modifiers time_ms moved effects handled
    exact released_as_shown (moved_follows active handled).1
  repeated := by
    intro point hover modifiers time_ms moved effects handled deliveries last again
    exact moved_again_keeps deliveries (moved_follows active handled).1 again

/-- The resize that a press of the region's corner begins. -/
theorem release_commits_of_resize :
    ∃ session, region_session [press 480 270] = some session ∧ ReleaseCommits session.model := by
  have computed : (region_session [press 480 270]).any (fun session =>
      session.model.region_drag_active) = true := by decide
  obtain ⟨session, begun, active⟩ := Option.any_eq_true _ _ |>.mp computed
  exact ⟨session, begun, release_commits session.model active⟩

end Captastic.Analysis
