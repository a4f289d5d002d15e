import Captastic.Analysis.OverlayRectangles
import Captastic.Library.Extrema

/-!
# What snapping changes

`snap_coordinate` finds the first of the nearest target edges within its threshold
(`snap_coordinate_spec`), and that edge is found again from itself.  So a rectangle whose edges
were snapped stays as it is (`snap_edges_idempotent`), and one that is moved by what
`snap_translation` asks for has an edge on its target, where the saturating move can reach it.

Without targets every snapped operation is its plain counterpart; a move is clamped into the
display once more, which leaves what lies inside it alone.
-/

set_option autoImplicit false

namespace Captastic.Analysis

open Captastic.Library Captastic.Model

/-! ## The nearest edge -/

/-- Every target's edges on one axis, front to back. -/
def edges_on (targets : SnapTargets) (axis : SnapAxis) : List (Int × (Int × Int)) :=
  targets.flatMap fun target => target_edges target.rect axis

/-- How far an edge is from a coordinate. -/
def distance_from (v : Int) (edge : Int × (Int × Int)) : Int := abs_i64 (edge.1 - v)

/-- A distance is not negative. -/
theorem distance_nonneg (v : Int) (edge : Int × (Int × Int)) : 0 ≤ distance_from v edge := by
  unfold distance_from abs_i64
  omega

/-- Only an edge at the value itself is at no distance. -/
theorem distance_pos {v : Int} {edge : Int × (Int × Int)} (apart : edge.1 ≠ v) :
    0 < distance_from v edge := by
  unfold distance_from abs_i64
  omega

/-- The nearest edge after some edges. -/
structure Nearest (v threshold : Int) (seen : List (Int × (Int × Int)))
    (best : Option (Int × SnapHit)) : Prop where
  nothing : best = none → ∀ edge ∈ seen, threshold < distance_from v edge
  found : ∀ distance hit, best = some (distance, hit) → distance ≤ threshold ∧
    distance = distance_from v (hit.position, hit.span) ∧
    FirstLeast (distance_from v) seen (hit.position, hit.span)

/-- Where every edge is too far none is nearest. -/
theorem Nearest.of_none {v threshold : Int} {seen : List (Int × (Int × Int))}
    (far : ∀ edge ∈ seen, threshold < distance_from v edge) : Nearest v threshold seen none where
  nothing _ := far
  found distance hit found := by cases found

/-- A first least edge that is close enough is the nearest. -/
theorem Nearest.of_some {v threshold : Int} {seen : List (Int × (Int × Int))}
    (edge : Int × (Int × Int)) (close : distance_from v edge ≤ threshold)
    (least : FirstLeast (distance_from v) seen edge) :
    Nearest v threshold seen (some (distance_from v edge, ⟨edge.1, edge.2⟩)) where
  nothing nothing := by cases nothing
  found distance hit found := by
    cases found
    exact ⟨close, rfl, least⟩

/-- One more edge replaces the nearest only if it is nearer.
SRC: snap.rs:229-236 -/
theorem Nearest.step {v threshold : Int} {seen : List (Int × (Int × Int))}
    {best : Option (Int × SnapHit)} (nearest : Nearest v threshold seen best)
    (edge : Int × (Int × Int)) :
    Nearest v threshold (seen ++ [edge]) (keep_closest v threshold best edge) := by
  have unfolded : keep_closest v threshold best edge =
      if distance_from v edge > threshold then best
      else if best.all (fun nearest => decide (distance_from v edge < nearest.1)) then
        some (distance_from v edge, ⟨edge.1, edge.2⟩)
      else best := rfl
  rw [unfolded]
  cases best with
  | none =>
    have none_near := nearest.nothing rfl
    by_cases far : distance_from v edge > threshold
    · rw [if_pos far]
      apply Nearest.of_none
      intro other member
      rcases List.mem_append.mp member with member | member
      · exact none_near other member
      · rw [List.mem_singleton.mp member]
        exact far
    · rw [if_neg far, if_pos Option.all_none]
      refine .of_some edge (not_lt.mp far) (.replace ?_)
      intro other member
      exact (not_lt.mp far).trans_lt (none_near other member)
  | some kept =>
    obtain ⟨distance, hit⟩ := kept
    obtain ⟨close, rfl, least⟩ := nearest.found distance hit rfl
    by_cases far : distance_from v edge > threshold
    · rw [if_pos far]
      exact .of_some (hit.position, hit.span) close (least.keep (close.trans (le_of_lt far)))
    · rw [if_neg far]
      simp only [Option.all_some, decide_eq_true_eq]
      by_cases nearer : distance_from v edge < distance_from v (hit.position, hit.span)
      · rw [if_pos nearer]
        refine .of_some edge (not_lt.mp far) (.replace ?_)
        intro other member
        exact lt_of_lt_of_le nearer (least.le member)
      · rw [if_neg nearer]
        exact .of_some (hit.position, hit.span) close (least.keep (not_lt.mp nearer))

/-- Every edge, one after the other. -/
theorem nearest_of_edges {v threshold : Int} (edges : List (Int × (Int × Int))) :
    Nearest v threshold edges (edges.foldl (keep_closest v threshold) none) := by
  induction edges using List.reverseRecOn with
  | nil => exact .of_none fun edge member => absurd member List.not_mem_nil
  | append_singleton seen edge ih =>
    rw [List.foldl_append]
    exact ih.step edge

/-- The first of the nearest edges within the threshold, or none if all are further.
SRC: snap.rs:217-240 -/
theorem snap_coordinate_spec (v : Int) (targets : SnapTargets) (axis : SnapAxis)
    (threshold : Int) :
    (snap_coordinate v targets axis threshold = none →
      ∀ edge ∈ edges_on targets axis, threshold < distance_from v edge) ∧
    ∀ hit, snap_coordinate v targets axis threshold = some hit →
      distance_from v (hit.position, hit.span) ≤ threshold ∧
      FirstLeast (distance_from v) (edges_on targets axis) (hit.position, hit.span) := by
  have nearest : Nearest v threshold (edges_on targets axis) _ :=
    nearest_of_edges (edges_on targets axis)
  have same : snap_coordinate v targets axis threshold =
      ((edges_on targets axis).foldl (keep_closest v threshold) none).map Prod.snd := by
    unfold snap_coordinate edges_on
    rw [List.foldl_flatMap]
  rw [same]
  constructor
  · intro nothing
    exact nearest.nothing (Option.map_eq_none_iff.mp nothing)
  · intro hit found
    obtain ⟨⟨distance, hit'⟩, best, rfl⟩ := Option.map_eq_some_iff.mp found
    obtain ⟨close, measured, least⟩ := nearest.found distance hit' best
    exact ⟨measured ▸ close, least⟩

/-- An edge a coordinate snaps onto is found again from the edge itself. -/
theorem snap_coordinate_again {v : Int} {targets : SnapTargets} {axis : SnapAxis}
    {threshold : Int} {hit : SnapHit}
    (snapped : snap_coordinate v targets axis threshold = some hit) :
    snap_coordinate hit.position targets axis threshold = some hit := by
  obtain ⟨close, least⟩ := (snap_coordinate_spec v targets axis threshold).2 hit snapped
  have here : distance_from hit.position (hit.position, hit.span) = 0 := by
    unfold distance_from abs_i64
    omega
  have again : FirstLeast (distance_from hit.position) (edges_on targets axis)
      (hit.position, hit.span) := by
    apply least.of_lt
    · intro edge further
      rw [here]
      apply distance_pos
      intro same
      unfold distance_from at further
      rw [same] at further
      exact lt_irrefl _ further
    · intro edge
      rw [here]
      exact distance_nonneg _ _
  have positive := distance_nonneg v (hit.position, hit.span)
  obtain ⟨none_far, some_least⟩ := snap_coordinate_spec hit.position targets axis threshold
  cases found : snap_coordinate hit.position targets axis threshold with
  | none =>
    have far := none_far found _ least.mem
    omega
  | some other =>
    have same := (some_least other found).2.unique again
    cases other
    cases hit
    cases same
    rfl

/-! ## Snapping edges -/

section Edges

variable {targets : SnapTargets} {threshold : Int} {axis : SnapAxis} {leading trailing : Int}
  {leading_allowed trailing_allowed : Bool} {hit : SnapHit}

/-- The edge the scan of one side finds, if that side may move. -/
def side_hit (allowed : Bool) (v : Int) (targets : SnapTargets) (axis : SnapAxis)
    (threshold : Int) : Option SnapHit :=
  if allowed then snap_coordinate v targets axis threshold else none

/-- A side that has snapped snaps again, to the same edge. -/
theorem side_hit_again {allowed : Bool} {v : Int}
    (found : side_hit allowed v targets axis threshold = some hit) :
    side_hit allowed hit.position targets axis threshold = some hit := by
  unfold side_hit at found ⊢
  cases allowed with
  | false => cases found
  | true => exact snap_coordinate_again found

/-- The side that wins is the one closer to its edge, or the only one that snaps. -/
theorem axis_winner_eq :
    axis_winner targets threshold axis leading trailing leading_allowed trailing_allowed =
      match side_hit leading_allowed leading targets axis threshold,
        side_hit trailing_allowed trailing targets axis threshold with
      | some first, some last =>
        if abs_i64 (last.position - trailing) < abs_i64 (first.position - leading) then
          some (true, last)
        else some (false, first)
      | some hit, none => some (false, hit)
      | none, some hit => some (true, hit)
      | none, none => none := rfl

/-- The leading edge wins if only it is near, or if the trailing one is not nearer. -/
theorem axis_winner_leading :
    axis_winner targets threshold axis leading trailing leading_allowed trailing_allowed =
        some (false, hit) ↔
      side_hit leading_allowed leading targets axis threshold = some hit ∧
        ∀ last, side_hit trailing_allowed trailing targets axis threshold = some last →
          abs_i64 (hit.position - leading) ≤ abs_i64 (last.position - trailing) := by
  rw [axis_winner_eq]
  cases side_hit leading_allowed leading targets axis threshold with
  | none =>
    cases side_hit trailing_allowed trailing targets axis threshold with
    | none => simp
    | some last => simp
  | some first =>
    cases side_hit trailing_allowed trailing targets axis threshold with
    | none => simp
    | some last =>
      simp only [Option.some.injEq, forall_eq']
      split
      · rename_i nearer
        constructor
        · intro wins
          cases wins
        · rintro ⟨rfl, further⟩
          omega
      · rename_i further
        constructor
        · intro wins
          cases wins
          exact ⟨rfl, by omega⟩
        · rintro ⟨rfl, -⟩
          rfl

/-- The trailing edge wins if only it is near, or if it is nearer. -/
theorem axis_winner_trailing :
    axis_winner targets threshold axis leading trailing leading_allowed trailing_allowed =
        some (true, hit) ↔
      side_hit trailing_allowed trailing targets axis threshold = some hit ∧
        ∀ first, side_hit leading_allowed leading targets axis threshold = some first →
          abs_i64 (hit.position - trailing) < abs_i64 (first.position - leading) := by
  rw [axis_winner_eq]
  cases side_hit leading_allowed leading targets axis threshold with
  | none =>
    cases side_hit trailing_allowed trailing targets axis threshold with
    | none => simp
    | some last => simp
  | some first =>
    cases side_hit trailing_allowed trailing targets axis threshold with
    | none => simp
    | some last =>
      simp only [Option.some.injEq, forall_eq']
      split
      · rename_i nearer
        constructor
        · intro wins
          cases wins
          exact ⟨rfl, nearer⟩
        · rintro ⟨rfl, -⟩
          rfl
      · rename_i further
        constructor
        · intro wins
          cases wins
        · rintro ⟨rfl, nearer⟩
          exact absurd nearer further

/-- A leading edge that won wins again where it landed. -/
theorem axis_winner_leading_again
    (wins : axis_winner targets threshold axis leading trailing leading_allowed trailing_allowed =
      some (false, hit)) :
    axis_winner targets threshold axis hit.position trailing leading_allowed trailing_allowed =
      some (false, hit) := by
  obtain ⟨found, -⟩ := axis_winner_leading.mp wins
  apply axis_winner_leading.mpr
  refine ⟨side_hit_again found, ?_⟩
  intro last _
  unfold abs_i64
  omega

/-- A trailing edge that won wins again where it landed. -/
theorem axis_winner_trailing_again
    (wins : axis_winner targets threshold axis leading trailing leading_allowed trailing_allowed =
      some (true, hit)) :
    axis_winner targets threshold axis leading hit.position leading_allowed trailing_allowed =
      some (true, hit) := by
  obtain ⟨found, nearer⟩ := axis_winner_trailing.mp wins
  apply axis_winner_trailing.mpr
  refine ⟨side_hit_again found, ?_⟩
  intro first leads
  have further := nearer first leads
  unfold abs_i64 at further ⊢
  omega

/-- Snapping the edges a snap has left changes nothing and finds the same edges, whatever the
mask.
SRC: snap.rs:274-320 -/
theorem snap_edges_idempotent (edges : RectEdges) (mask : EdgeMask) (targets : SnapTargets)
    (threshold : Int) :
    snap_edges (snap_edges edges mask targets threshold).1 mask targets threshold =
      snap_edges edges mask targets threshold := by
  unfold snap_edges
  cases across : axis_winner targets threshold .X edges.left edges.right mask.left mask.right with
  | none =>
    cases down : axis_winner targets threshold .Y edges.top edges.bottom mask.top mask.bottom with
    | none => simp only [across, down]
    | some won =>
      obtain ⟨trails, hit⟩ := won
      cases trails with
      | false => simp only [across, axis_winner_leading_again down]
      | true => simp only [across, axis_winner_trailing_again down]
  | some first =>
    obtain ⟨trails, hit⟩ := first
    cases down : axis_winner targets threshold .Y edges.top edges.bottom mask.top mask.bottom with
    | none =>
      cases trails with
      | false => simp only [down, axis_winner_leading_again across]
      | true => simp only [down, axis_winner_trailing_again across]
    | some won =>
      obtain ⟨trails', hit'⟩ := won
      cases trails with
      | false =>
        cases trails' with
        | false =>
          simp only [axis_winner_leading_again across, axis_winner_leading_again down]
        | true =>
          simp only [axis_winner_leading_again across, axis_winner_trailing_again down]
      | true =>
        cases trails' with
        | false =>
          simp only [axis_winner_trailing_again across, axis_winner_leading_again down]
        | true =>
          simp only [axis_winner_trailing_again across, axis_winner_trailing_again down]

end Edges

/-! ## Translating -/

/-- The two edges of an axis after a snap. -/
def snapped_ends (winner : Option (Bool × SnapHit)) (leading trailing : Int) : Int × Int :=
  match winner with
  | some (false, hit) => (hit.position, trailing)
  | some (true, hit) => (leading, hit.position)
  | none => (leading, trailing)

/-- How far the winning edge of an axis moves. -/
def asked_for (winner : Option (Bool × SnapHit)) (leading trailing : Int) : Int :=
  if (snapped_ends winner leading trailing).1 = leading then
    (snapped_ends winner leading trailing).2 - trailing
  else (snapped_ends winner leading trailing).1 - leading

/-- One axis after the other.
SRC: snap.rs:322-356 -/
theorem snap_translation_eq (edges : RectEdges) (targets : SnapTargets) (threshold : Int) :
    snap_translation edges targets threshold =
      ((axis_winner targets threshold .X edges.left edges.right true true).map fun winner =>
          (asked_for (some winner) edges.left edges.right, winner.2),
        (axis_winner targets threshold .Y edges.top edges.bottom true true).map fun winner =>
          (asked_for (some winner) edges.top edges.bottom, winner.2)) := by
  unfold snap_translation snap_edges
  simp only [EdgeMask.ALL]
  generalize axis_winner targets threshold .X edges.left edges.right true true = across
  generalize axis_winner targets threshold .Y edges.top edges.bottom true true = down
  rcases across with - | ⟨- | -, hit⟩
  · rcases down with - | ⟨- | -, hit'⟩ <;> rfl
  · rcases down with - | ⟨- | -, hit'⟩ <;> rfl
  · rcases down with - | ⟨- | -, hit'⟩ <;> rfl

/-- A move of a pair of edges is at most the threshold, and puts one of the two on the target
edge it names. -/
def Lands (targets : SnapTargets) (axis : SnapAxis) (threshold leading trailing delta : Int)
    (hit : SnapHit) : Prop :=
  (leading + delta = hit.position ∨ trailing + delta = hit.position) ∧
    (hit.position, hit.span) ∈ edges_on targets axis ∧ abs_i64 delta ≤ threshold

/-- A rectangle whose side wins lands on its edge. -/
theorem asked_for_lands {targets : SnapTargets} {threshold : Int} {axis : SnapAxis}
    {leading trailing : Int} {winner : Bool × SnapHit}
    (wins : axis_winner targets threshold axis leading trailing true true = some winner) :
    Lands targets axis threshold leading trailing (asked_for (some winner) leading trailing)
      winner.2 := by
  obtain ⟨trails, hit⟩ := winner
  have is_edge {v : Int} (found : snap_coordinate v targets axis threshold = some hit) :
      (hit.position, hit.span) ∈ edges_on targets axis ∧
        abs_i64 (hit.position - v) ≤ threshold := by
    obtain ⟨close, least⟩ := (snap_coordinate_spec v targets axis threshold).2 hit found
    exact ⟨least.mem, close⟩
  cases trails with
  | false =>
    obtain ⟨member, close⟩ := is_edge (axis_winner_leading.mp wins).1
    have asked : asked_for (some (false, hit)) leading trailing = hit.position - leading := by
      show (if hit.position = leading then trailing - trailing else hit.position - leading) = _
      split <;> omega
    rw [Lands, asked]
    exact ⟨.inl (add_sub_cancel _ _), member, close⟩
  | true =>
    obtain ⟨member, close⟩ := is_edge (axis_winner_trailing.mp wins).1
    have asked : asked_for (some (true, hit)) leading trailing = hit.position - trailing :=
      if_pos rfl
    rw [Lands, asked]
    exact ⟨.inr (add_sub_cancel _ _), member, close⟩

/-- On both axes, what a translation asks for lands an edge on its target. -/
theorem snap_translation_lands (edges : RectEdges) (targets : SnapTargets) (threshold : Int) :
    (∀ delta hit, (snap_translation edges targets threshold).1 = some (delta, hit) →
      Lands targets .X threshold edges.left edges.right delta hit) ∧
    ∀ delta hit, (snap_translation edges targets threshold).2 = some (delta, hit) →
      Lands targets .Y threshold edges.top edges.bottom delta hit := by
  rw [snap_translation_eq]
  constructor
  · intro delta hit asked
    obtain ⟨winner, wins, same⟩ := Option.map_eq_some_iff.mp asked
    cases same
    exact asked_for_lands wins
  · intro delta hit asked
    obtain ⟨winner, wins, same⟩ := Option.map_eq_some_iff.mp asked
    cases same
    exact asked_for_lands wins

/-- A rectangle moved by what a translation asks for keeps its size, is to go no farther than the
threshold onto edges of the targets, and has an edge on the one of each axis on which its origin
stays in `i32`. -/
structure Landed (targets : SnapTargets) (threshold : Int) (rect moved : Rect) (dx dy : Int)
    (across down : Option SnapHit) : Prop where
  width : moved.width = rect.width
  height : moved.height = rect.height
  onto_across : ∀ hit, across = some hit →
    (hit.position, hit.span) ∈ edges_on targets .X ∧ abs_i64 dx ≤ threshold
  onto_down : ∀ hit, down = some hit →
    (hit.position, hit.span) ∈ edges_on targets .Y ∧ abs_i64 dy ≤ threshold
  across : ∀ hit, across = some hit → InI32 (rect.x + dx) →
    moved.x = hit.position ∨ moved.right = hit.position
  down : ∀ hit, down = some hit → InI32 (rect.y + dy) →
    moved.y = hit.position ∨ moved.bottom = hit.position

/-- What a translation asks for on one axis, or nothing. -/
def delta_of (asked : Option (Int × SnapHit)) : Int := (asked.map Prod.fst).getD 0

/-- Clamping leaves what is in range. -/
theorem clamp_to_i32_of_range {v : Int} (range : InI32 v) : Rect.clamp_to_i32 v = v := by
  unfold InI32 at range
  unfold Rect.clamp_to_i32
  omega

/-- SRC: machine.rs:1724-1728 -/
theorem translated_landed (rect : Rect) (targets : SnapTargets) (threshold : Int) :
    Landed targets threshold rect
      (rect.translated (delta_of (snap_translation (.of rect) targets threshold).1)
        (delta_of (snap_translation (.of rect) targets threshold).2))
      (delta_of (snap_translation (.of rect) targets threshold).1)
      (delta_of (snap_translation (.of rect) targets threshold).2)
      ((snap_translation (.of rect) targets threshold).1.map Prod.snd)
      ((snap_translation (.of rect) targets threshold).2.map Prod.snd) := by
  obtain ⟨lands_across, lands_down⟩ := snap_translation_lands (.of rect) targets threshold
  generalize snap_translation (.of rect) targets threshold = asked at *
  refine ⟨rfl, rfl, ?_, ?_, ?_, ?_⟩
  · intro hit found
    obtain ⟨⟨delta, hit'⟩, split, rfl⟩ := Option.map_eq_some_iff.mp found
    rw [split]
    exact (lands_across delta hit' split).2
  · intro hit found
    obtain ⟨⟨delta, hit'⟩, split, rfl⟩ := Option.map_eq_some_iff.mp found
    rw [split]
    exact (lands_down delta hit' split).2
  · intro hit found range
    obtain ⟨⟨delta, hit'⟩, split, rfl⟩ := Option.map_eq_some_iff.mp found
    have moved : (rect.translated (delta_of asked.1) (delta_of asked.2)).x = rect.x + delta := by
      rw [split] at range
      show Rect.clamp_to_i32 (rect.x + delta_of asked.1) = _
      rw [split]
      exact clamp_to_i32_of_range range
    rcases (lands_across delta hit' split).1 with leads | trails
    · exact .inl (moved.trans leads)
    · refine .inr ?_
      unfold Rect.right
      rw [moved]
      show rect.x + delta + rect.width = hit'.position
      change rect.x + rect.width + delta = hit'.position at trails
      omega
  · intro hit found range
    obtain ⟨⟨delta, hit'⟩, split, rfl⟩ := Option.map_eq_some_iff.mp found
    have moved : (rect.translated (delta_of asked.1) (delta_of asked.2)).y = rect.y + delta := by
      rw [split] at range
      show Rect.clamp_to_i32 (rect.y + delta_of asked.2) = _
      rw [split]
      exact clamp_to_i32_of_range range
    rcases (lands_down delta hit' split).1 with leads | trails
    · exact .inl (moved.trans leads)
    · refine .inr ?_
      unfold Rect.bottom
      rw [moved]
      show rect.y + delta + rect.height = hit'.position
      change rect.y + rect.height + delta = hit'.position at trails
      omega

/-! ## Nothing to snap to -/

section Unsnapped

variable (model : OverlayModel) {modifiers : Modifiers}

/-- Ctrl puts an edge exactly where the pointer is. -/
theorem no_targets_of_ctrl (ctrl : modifiers.ctrl = true) :
    model.active_targets modifiers = none := by
  unfold OverlayModel.active_targets
  rw [ctrl, Bool.not_true, Bool.and_false]
  exact if_neg Bool.false_ne_true

/-- Without targets there are none, or they are of an empty inventory. -/
theorem targets_of_empty (empty : model.snap_targets = some []) :
    model.active_targets modifiers = none ∨ model.active_targets modifiers = some [] := by
  unfold OverlayModel.active_targets
  split
  · exact .inr empty
  · exact .inl rfl

/-- A point in range is made as it is. -/
theorem as_point_eq {point : Point} (x : InI32 point.x) (y : InI32 point.y) :
    as_point point.x point.y = point := by
  unfold as_point
  rw [clamp_to_i32_of_range x, clamp_to_i32_of_range y]

variable {model}

/-- SRC: machine.rs:1614-1664 -/
theorem rect_from_points_unsnapped
    (none_or_empty : model.active_targets modifiers = none ∨
      model.active_targets modifiers = some [])
    (anchor : Point) {pointer : Point} (x : InI32 pointer.x) (y : InI32 pointer.y) :
    model.rect_from_points_snapped anchor pointer modifiers =
      (rect_from_points model.source anchor pointer).map fun rect => (rect, NO_SNAPS) := by
  unfold OverlayModel.rect_from_points_snapped
  rcases none_or_empty with nothing | empty
  · rw [nothing]
    cases rect_from_points model.source anchor pointer <;> rfl
  · rw [empty]
    show (rect_from_points model.source anchor (as_point pointer.x pointer.y)).bind _ = _
    rw [as_point_eq x y]
    rcases rect_from_points model.source anchor pointer with - | - | rect <;> rfl

/-- SRC: machine.rs:1672-1704 -/
theorem resize_region_unsnapped
    (none_or_empty : model.active_targets modifiers = none ∨
      model.active_targets modifiers = some [])
    (resize : ResizeDrag) {pointer : Point} (x : InI32 pointer.x) (y : InI32 pointer.y) :
    model.resize_region_snapped resize pointer modifiers =
      (resize_region resize.original resize.handle pointer model.source).map
        fun rect => (rect, NO_SNAPS) := by
  have no_hit (axis : SnapAxis) (v : Int) :
      model.snapped_axis [] (EdgeMask.for_handle resize.handle) axis v = (v, none) := by
    unfold OverlayModel.snapped_axis
    split <;> rfl
  unfold OverlayModel.resize_region_snapped
  rcases none_or_empty with nothing | empty
  · rw [nothing]
    cases resize_region resize.original resize.handle pointer model.source <;> rfl
  · rw [empty]
    simp only [no_hit, as_point_eq x y]
    cases resize_region resize.original resize.handle pointer model.source <;> rfl

/-- A region no larger than the display, on a display in which its origin stays in `i32`. -/
structure MovesInside (region source : Rect) : Prop where
  width : region.width ≤ source.width
  height : region.height ≤ source.height
  x : InI32 (source.right - region.width)
  y : InI32 (source.bottom - region.height)

/-- SRC: machine.rs:1550-1568 -/
theorem move_region_within {original source moved : Rect} (inside : MovesInside original source)
    {pointer_origin pointer : Point}
    (moves : move_region original pointer_origin pointer source = some moved) :
    moved.Within source := by
  obtain ⟨narrow, low, right_range, bottom_range⟩ := inside
  unfold InI32 Rect.right at right_range
  unfold InI32 Rect.bottom at bottom_range
  have x_range := source.x_i32
  have y_range := source.y_i32
  have width_range := original.width_u32
  have height_range := original.height_u32
  unfold InI32 at x_range y_range
  unfold InU32 at width_range height_range
  unfold move_region at moves
  obtain ⟨x, x_eq, x_least, x_most⟩ := @clamp_of_le
    (original.x + (pointer.x - pointer_origin.x)) source.x
    (source.x + (source.width - original.width : Nat)) (by omega)
  obtain ⟨y, y_eq, y_least, y_most⟩ := @clamp_of_le
    (original.y + (pointer.y - pointer_origin.y)) source.y
    (source.y + (source.height - original.height : Nat)) (by omega)
  simp only [x_eq, y_eq, Option.bind_eq_bind, Option.bind_some] at moves
  cases moves
  have x_kept : as_i32 x = x := as_i32_of_range (by omega) (by omega)
  have y_kept : as_i32 y = y := as_i32_of_range (by omega) (by omega)
  have width_kept : (as_u32 original.width : Int) = original.width :=
    as_u32_of_range (by omega) (by omega)
  have height_kept : (as_u32 original.height : Int) = original.height :=
    as_u32_of_range (by omega) (by omega)
  unfold Rect.Within Rect.right Rect.bottom Rect.of_casts
  simp only [x_kept, y_kept, width_kept, height_kept]
  omega

/-- Moving by nothing moves nothing. -/
theorem translated_zero (rect : Rect) : rect.translated 0 0 = rect := by
  have x_range := rect.x_i32
  have y_range := rect.y_i32
  apply Rect.ext_fields
  · show Rect.clamp_to_i32 (rect.x + 0) = rect.x
    rw [Int.add_zero, clamp_to_i32_of_range x_range]
  · show Rect.clamp_to_i32 (rect.y + 0) = rect.y
    rw [Int.add_zero, clamp_to_i32_of_range y_range]
  · rfl
  · rfl

/-- What lies inside is not moved.
SRC: display.rs:69-80 -/
theorem clamp_within_of_within {rect bounds : Rect} (within : rect.Within bounds) :
    rect.clamp_within bounds = some rect := by
  unfold Rect.Within Rect.right Rect.bottom at within
  have x_range := rect.x_i32
  have y_range := rect.y_i32
  have narrow : min rect.width bounds.width = rect.width := by omega
  have low : min rect.height bounds.height = rect.height := by omega
  have x_kept : clamp rect.x bounds.x (max (bounds.right - rect.width) bounds.x) =
      some rect.x := by
    unfold clamp Rect.right
    rw [if_pos (by omega)]
    exact congrArg some (by omega)
  have y_kept : clamp rect.y bounds.y (max (bounds.bottom - rect.height) bounds.y) =
      some rect.y := by
    unfold clamp Rect.bottom
    rw [if_pos (by omega)]
    exact congrArg some (by omega)
  unfold Rect.clamp_within
  simp only [narrow, low, x_kept, y_kept, Option.bind_eq_bind, Option.bind_some]
  apply congrArg some
  apply Rect.ext_fields
  · exact clamp_to_i32_of_range x_range
  · exact clamp_to_i32_of_range y_range
  · rfl
  · rfl

/-- SRC: machine.rs:1707-1736 -/
theorem move_region_unsnapped {moving : MoveDrag}
    (none_or_empty : model.active_targets modifiers = none ∨
      (model.active_targets modifiers = some [] ∧ MovesInside moving.original model.source))
    (pointer : Point) :
    model.move_region_snapped moving pointer modifiers =
      (move_region moving.original moving.pointer_origin pointer model.source).map
        fun rect => (rect, NO_SNAPS) := by
  unfold OverlayModel.move_region_snapped
  cases moves : move_region moving.original moving.pointer_origin pointer model.source with
  | none => rfl
  | some moved =>
    rcases none_or_empty with nothing | ⟨empty, inside⟩
    · rw [nothing]
      rfl
    · rw [empty]
      show ((moved.translated 0 0).clamp_within model.source).bind _ = _
      rw [translated_zero, clamp_within_of_within (move_region_within inside moves)]
      rfl

end Unsnapped

/-! ## Snapping is conservative -/

/-- Whatever the inventory, the rectangle, the mask and the threshold, a snap goes to the first
of the nearest edges or nowhere, stays where it went, and moves a rectangle by so much; without
targets, every operation is the plain one.
SRC: snap.rs:217-356, machine.rs:1580-1736 -/
theorem snapping_conservative :
    (∀ (v : Int) (targets : SnapTargets) (axis : SnapAxis) (threshold : Int),
      (snap_coordinate v targets axis threshold = none →
        ∀ edge ∈ edges_on targets axis, threshold < distance_from v edge) ∧
      ∀ hit, snap_coordinate v targets axis threshold = some hit →
        distance_from v (hit.position, hit.span) ≤ threshold ∧
        FirstLeast (distance_from v) (edges_on targets axis) (hit.position, hit.span)) ∧
    (∀ (edges : RectEdges) (mask : EdgeMask) (targets : SnapTargets) (threshold : Int),
      snap_edges (snap_edges edges mask targets threshold).1 mask targets threshold =
        snap_edges edges mask targets threshold) ∧
    (∀ (rect : Rect) (targets : SnapTargets) (threshold : Int),
      Landed targets threshold rect
        (rect.translated (delta_of (snap_translation (.of rect) targets threshold).1)
          (delta_of (snap_translation (.of rect) targets threshold).2))
        (delta_of (snap_translation (.of rect) targets threshold).1)
        (delta_of (snap_translation (.of rect) targets threshold).2)
        ((snap_translation (.of rect) targets threshold).1.map Prod.snd)
        ((snap_translation (.of rect) targets threshold).2.map Prod.snd)) ∧
    ∀ (model : OverlayModel) (modifiers : Modifiers) (pointer : Point),
      InI32 pointer.x → InI32 pointer.y →
      modifiers.ctrl = true ∨ model.snap_targets = some [] →
      (∀ anchor, model.rect_from_points_snapped anchor pointer modifiers =
        (rect_from_points model.source anchor pointer).map fun rect => (rect, NO_SNAPS)) ∧
      (∀ resize, model.resize_region_snapped resize pointer modifiers =
        (resize_region resize.original resize.handle pointer model.source).map
          fun rect => (rect, NO_SNAPS)) ∧
      ∀ moving, modifiers.ctrl = true ∨ MovesInside moving.original model.source →
        model.move_region_snapped moving pointer modifiers =
          (move_region moving.original moving.pointer_origin pointer model.source).map
            fun rect => (rect, NO_SNAPS) := by
  refine ⟨snap_coordinate_spec, snap_edges_idempotent, translated_landed, ?_⟩
  intro model modifiers pointer x y unsnapped
  have none_or_empty : model.active_targets modifiers = none ∨
      model.active_targets modifiers = some [] := by
    rcases unsnapped with ctrl | empty
    · exact .inl (no_targets_of_ctrl model ctrl)
    · exact targets_of_empty model empty
  refine ⟨?_, ?_, ?_⟩
  · intro anchor
    exact rect_from_points_unsnapped none_or_empty anchor x y
  · intro resize
    exact resize_region_unsnapped none_or_empty resize x y
  · intro moving inside
    apply move_region_unsnapped
    rcases inside with ctrl | inside
    · exact .inl (no_targets_of_ctrl model ctrl)
    · rcases none_or_empty with nothing | empty
      · exact .inl nothing
      · exact .inr ⟨empty, inside⟩

/-- An overlay with an inventory and nothing under way. -/
def snapping_model (source : Rect) (targets : SnapTargets) : OverlayModel where
  source := source
  display_environment := ⟨⟨0, 0, 100, 100⟩, .new 96⟩
  view := .Frozen
  initial_view := .Frozen
  view_toggle_available := false
  tool := .Region
  selection := none
  selection_kind := none
  selected_window := none
  anchor := none
  dragging := false
  resizing := none
  moving_region := none
  hovered_handle := none
  last_region := none
  toolbar_position := ⟨0, 0⟩
  toolbar_drag := none
  options_open := false
  dim_background := false
  file_output_enabled := false
  file_output_switchable := false
  pin_available := false
  edit_available := false
  record_format := none
  record_armed := false
  hovered_control := none
  pointer_local := none
  hovered := none
  snap_to_windows := true
  snap_targets := some targets
  loupe := .new .Auto
  active_snaps := NO_SNAPS

/-- A square of a display of 100 by 100 pixels, moved over an empty desktop. -/
theorem snapping_conservative_empty_desktop :
    (snapping_model { x := 0, y := 0, width := 100, height := 100 } []).move_region_snapped
        ⟨{ x := 10, y := 10, width := 50, height := 50 }, ⟨20, 20⟩⟩ ⟨30, 25⟩ ⟨false, false⟩ =
      some ({ x := 20, y := 15, width := 50, height := 50 }, NO_SNAPS) := by
  have plain := (snapping_conservative.2.2.2
    (snapping_model { x := 0, y := 0, width := 100, height := 100 } []) ⟨false, false⟩ ⟨30, 25⟩
    (by decide) (by decide) (.inr rfl)).2.2
    ⟨{ x := 10, y := 10, width := 50, height := 50 }, ⟨20, 20⟩⟩
    (.inr ⟨by decide, by decide, by decide, by decide⟩)
  rw [plain]
  decide

/-- A rectangle near the end of `i32` cannot go as far as its target; and over an empty desktop,
moving a region wider than the display makes it as wide as the display. -/
theorem snapping_saturates_and_shrinks :
    (∃ (rect : Rect) (targets : SnapTargets) (hit : SnapHit) (delta : Int),
      (snap_translation (.of rect) targets 8).1 = some (delta, hit) ∧
        (rect.translated delta 0).x ≠ hit.position ∧
        (rect.translated delta 0).right ≠ hit.position) ∧
    ∃ (moving : MoveDrag) (pointer : Point),
      (snapping_model { x := 0, y := 0, width := 100, height := 100 } []).move_region_snapped
          moving pointer ⟨false, false⟩ ≠
        (move_region moving.original moving.pointer_origin pointer
          { x := 0, y := 0, width := 100, height := 100 }).map fun rect => (rect, NO_SNAPS) := by
  constructor
  · refine ⟨{ x := -2147483647, y := 0, width := 10, height := 10 },
      [⟨{ x := -2147483641, y := 0, width := 100, height := 100 }, .Window⟩],
      ⟨-2147483641, (0, 100)⟩, -4, ?_⟩
    decide
  · refine ⟨⟨{ x := 0, y := 0, width := 200, height := 50 }, ⟨0, 0⟩⟩, ⟨0, 0⟩, ?_⟩
    decide

end Captastic.Analysis
