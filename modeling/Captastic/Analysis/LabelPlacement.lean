import Captastic.Analysis.LoupePlacement
import Captastic.Model.DimensionLabel

/-!
# Where the size badge stands

`layout_dimension_label` takes the best of the places that fit (`dimension_candidates`), and a
clamped place where none does.  What it takes does not depend on the placement it is told it had
before, other than by preferring it: a place inside the selection is taken whenever it is one of
the best, a margin only removes that place, and any other place is found again
(`select_again`, `fallback_again`).  The areas of a clamped place are plain `i64` sums of `i32`
distances, which overflow for rectangles out of all proportion (`badge_area_overflows`).
-/

set_option autoImplicit false

namespace Captastic.Analysis

open Captastic.Library Captastic.Model

/-! ## The inputs -/

/-- No edge of a rectangle is further than an `i32` can tell from the safe area. -/
structure Measurable (safe rect : UiRect) : Prop where
  columns : rect.left - safe.left ≤ 2147483648 ∧ safe.right - rect.right ≤ 2147483648 ∧
    rect.left - rect.right ≤ 2147483648
  rows : rect.top - safe.top ≤ 2147483648 ∧ safe.bottom - rect.bottom ≤ 2147483648 ∧
    rect.top - rect.bottom ≤ 2147483648

/-- A monitor's rectangle without its inset on every side. -/
def inset_area (monitor : UiRect) (inset : Int) : UiRect :=
  ⟨monitor.left + inset, monitor.top + inset, monitor.right - inset, monitor.bottom - inset⟩

/-- A monitor larger than its insets, and a selection inside it. -/
structure Badged (monitor selection : UiRect) (tokens : RegionLayoutTokens) : Prop where
  corner : -2147483648 ≤ monitor.left ∧ -2147483648 ≤ monitor.top
  ends : monitor.right ≤ 2147483647 ∧ monitor.bottom ≤ 2147483647
  sides : monitor.right - monitor.left ≤ 2147483647 ∧ monitor.bottom - monitor.top ≤ 2147483647
  larger : monitor.left + 2 * tokens.monitor_inset < monitor.right ∧
    monitor.top + 2 * tokens.monitor_inset < monitor.bottom
  selected : UiInside selection monitor
  nonempty : selection.left < selection.right ∧ selection.top < selection.bottom

/-- The rectangles that a label keeps clear of. -/
structure Obstacles (monitor : UiRect) (tokens : RegionLayoutTokens) (reserved : List UiRect)
    (pointer_exclusion : Option UiRect) : Prop where
  each : ∀ rect ∈ reserved, Measurable (inset_area monitor tokens.monitor_inset) rect
  pointer : ∀ rect, pointer_exclusion = some rect →
    Measurable (inset_area monitor tokens.monitor_inset) rect
  few : reserved.length *
    ((monitor.right - monitor.left) * (monitor.bottom - monitor.top)) ≤ 9223372036854775807

/-! ## Lengths -/

/-- A longer length takes no fewer pixels. -/
theorem px_mono (metrics : UiMetrics) {dip longer : Int} (least : 0 ≤ dip) (le : dip ≤ longer) :
    metrics.px dip ≤ metrics.px longer := by
  have scaled : dip * metrics.dpi ≤ longer * metrics.dpi :=
    Int.mul_le_mul_of_nonneg_right le (Int.natCast_nonneg _)
  have scaled_least : 0 ≤ dip * metrics.dpi := Int.mul_nonneg least (Int.natCast_nonneg _)
  unfold UiMetrics.px
  simp only
  rw [Int.tdiv_eq_ediv_of_nonneg (by omega), Int.tdiv_eq_ediv_of_nonneg (by omega)]
  split
  next shorter =>
    split
    · omega
    · unfold InI32 at shorter
      omega
  next too_long =>
    split
    · unfold InI32 at *
      omega
    · omega

/-- What a placement relies on of its lengths. -/
structure BadgeTokens (tokens : RegionLayoutTokens) : Prop where
  inset : 0 ≤ tokens.monitor_inset ∧ tokens.monitor_inset ≤ tokens.handle_clearance
  gap : 0 ≤ tokens.selection_gap
  hysteresis : 0 ≤ tokens.inside_hysteresis

/-- The lengths of the badge are lengths. -/
theorem badge_tokens (metrics : UiMetrics) : BadgeTokens metrics.region_tokens := by
  constructor
  · exact ⟨px_nonneg metrics (by decide), px_mono metrics (by decide) (by decide)⟩
  · exact px_nonneg metrics (by decide)
  · exact px_nonneg metrics (by decide)

section Numbers

variable {monitor selection : UiRect} {tokens : RegionLayoutTokens}

/-- SRC: layout.rs:744-755 -/
theorem label_safe_area_eq (badged : Badged monitor selection tokens)
    (lengths : BadgeTokens tokens) :
    label_safe_area monitor tokens = some (inset_area monitor tokens.monitor_inset) := by
  obtain ⟨corner, ends, sides, larger, -, -⟩ := badged
  obtain ⟨⟨inset, -⟩, -, -⟩ := lengths
  unfold label_safe_area
  rw [i32_of_range (by omega) (by omega)]
  show some _ = some _
  rw [Option.some.injEq, inset_area, UiRect.mk.injEq]
  unfold saturating_add_i32 saturating_sub_i32
  omega

/-- The size of a label: at least a pixel, and no larger than the safe area. -/
structure BadgeSize (safe : UiRect) (size : UiSize) : Prop where
  width : 1 ≤ size.width ∧ size.width ≤ safe.right - safe.left
  height : 1 ≤ size.height ∧ size.height ≤ safe.bottom - safe.top

/-- SRC: layout.rs:756-759 -/
theorem label_size_spec (badged : Badged monitor selection tokens) (lengths : BadgeTokens tokens)
    (requested : UiSize) :
    ∃ size, label_size requested (inset_area monitor tokens.monitor_inset) = some size ∧
      BadgeSize (inset_area monitor tokens.monitor_inset) size := by
  obtain ⟨corner, ends, sides, larger, -, -⟩ := badged
  obtain ⟨⟨inset, -⟩, -, -⟩ := lengths
  unfold label_size UiRect.width UiRect.height inset_area
  dsimp only
  rw [i32_of_range (by omega) (by omega), i32_of_range (by omega) (by omega)]
  refine ⟨_, rfl, ?_⟩
  constructor
  · dsimp only
    omega
  · dsimp only
    omega

/-- The sides of the selection do not overflow. -/
theorem selection_sides (badged : Badged monitor selection tokens) :
    selection.width = some (selection.right - selection.left) ∧
      selection.height = some (selection.bottom - selection.top) := by
  obtain ⟨corner, ends, sides, -, selected, nonempty⟩ := badged
  unfold UiInside at selected
  unfold UiRect.width UiRect.height
  rw [i32_of_range (by omega) (by omega), i32_of_range (by omega) (by omega), Option.map_some,
    Option.map_some, max_eq_left (by omega), max_eq_left (by omega)]
  exact ⟨rfl, rfl⟩

/-- The middle of a side is in the safe area, and in a selection that holds the label's length with
a clearance no smaller than the inset.
SRC: layout.rs:776-791 -/
theorem centered_spec {first last length low high : Int} (low_least : -2147483648 ≤ low)
    (high_most : high ≤ 2147483647) (length_pos : 1 ≤ length) (fits : length ≤ high - low)
    (safe_side : high - low ≤ 2147483647) (side : 0 < last - first)
    (side_most : last - first ≤ 2147483647) (first_least : -2147483648 ≤ first)
    (last_most : last ≤ 2147483647) :
    ∃ middle, centered first (last - first) length low high = some middle ∧ low ≤ middle ∧
      middle + length ≤ high ∧
      (∀ clearance, 0 ≤ clearance → length + 2 * clearance ≤ last - first →
        low ≤ first + clearance → last - clearance ≤ high →
        first ≤ middle ∧ middle + length ≤ last) := by
  obtain ⟨middle, clamps, middle_eq⟩ : ∃ middle,
      clamp_coordinate (saturating_add_i32 first ((last - first - length).tdiv 2)) low
        (saturating_sub_i32 high length) = some middle ∧
      middle = max low (min (saturating_add_i32 first ((last - first - length).tdiv 2))
        (high - length)) := by
    have most : saturating_sub_i32 high length = high - length := by
      unfold saturating_sub_i32
      omega
    rw [most]
    unfold clamp_coordinate clamp
    split
    · exact ⟨low, rfl, by omega⟩
    · rw [if_pos (by omega)]
      exact ⟨_, rfl, rfl⟩
  refine ⟨middle, ?_, ?_, ?_, ?_⟩
  · unfold centered
    rw [i32_of_range (by omega) (by omega)]
    exact clamps
  · omega
  · omega
  · intro clearance nonneg holds from_low to_high
    rw [Int.tdiv_eq_ediv_of_nonneg (by omega)] at middle_eq
    unfold saturating_add_i32 at middle_eq
    omega

end Numbers

/-! ## The candidates -/

section Candidates

variable (safe selection : UiRect) (reserved : List UiRect) (pointer_exclusion : Option UiRect)
  (size : UiSize) (horizontal_left vertical_top : Int) (tokens : RegionLayoutTokens)

/-- The rectangle of each place. -/
def badge_place : DimensionLabelPlacement → UiRect
  | .Inside =>
    label_at horizontal_left (saturating_add_i32 selection.top tokens.handle_clearance) size
  | .Top =>
    label_at horizontal_left
      (saturating_sub_i32 (saturating_sub_i32 selection.top tokens.selection_gap) size.height) size
  | .Bottom =>
    label_at horizontal_left (saturating_add_i32 selection.bottom tokens.selection_gap) size
  | .Left =>
    label_at
      (saturating_sub_i32 (saturating_sub_i32 selection.left tokens.selection_gap) size.width)
      vertical_top size
  | .Right =>
    label_at (saturating_add_i32 selection.right tokens.selection_gap) vertical_top size

/-- What fits, at one place. -/
structure CandidateSound (candidate : DimensionCandidate) : Prop where
  place : candidate.layout.bounds =
    badge_place selection size horizontal_left vertical_top tokens candidate.layout.placement
  in_safe : UiInside candidate.layout.bounds safe
  clear : candidate.layout.placement ≠ .Inside →
    candidate.layout.bounds.intersects selection = false
  obstacles : candidate.obstacle_overlap =
    reserved.any fun obstacle => candidate.layout.bounds.intersects obstacle

/-- What one place adds to the candidates. -/
def candidates_at (layout : DimensionLabelLayout) (clearance : Int) : List DimensionCandidate :=
  push_dimension_candidate safe selection reserved pointer_exclusion [] layout clearance

variable {safe selection reserved pointer_exclusion size horizontal_left vertical_top tokens}

/-- SRC: layout.rs:914-940 -/
theorem push_dimension_candidate_eq (candidates : List DimensionCandidate)
    (layout : DimensionLabelLayout) (clearance : Int) :
    push_dimension_candidate safe selection reserved pointer_exclusion candidates layout clearance =
      candidates ++ candidates_at safe selection reserved pointer_exclusion layout clearance := by
  unfold candidates_at push_dimension_candidate
  split
  · exact (List.append_nil _).symm
  · rfl

/-- A candidate where the badge would be at its place is one of the candidates. -/
theorem mem_candidates_at {layout : DimensionLabelLayout} {clearance : Int}
    {candidate : DimensionCandidate}
    (member : candidate ∈ candidates_at safe selection reserved pointer_exclusion layout clearance)
    (place : layout.bounds =
      badge_place selection size horizontal_left vertical_top tokens layout.placement) :
    candidate.layout = layout ∧
      CandidateSound safe selection reserved size horizontal_left vertical_top tokens
        candidate := by
  unfold candidates_at push_dimension_candidate at member
  split at member
  next => cases member
  next fits =>
    rw [List.nil_append, List.mem_singleton] at member
    subst member
    simp only [not_or, not_and, Int.not_lt, Bool.not_eq_true] at fits
    obtain ⟨left, top, right, bottom, clear⟩ := fits
    exact ⟨rfl, place, ⟨left, right, top, bottom⟩, clear, rfl⟩

variable (safe selection reserved pointer_exclusion size horizontal_left vertical_top tokens) in
/-- The place in the selection, and the places beside it.
SRC: layout.rs:793-896 -/
theorem dimension_candidates_eq :
    ∃ within beside, (∀ candidate ∈ within, candidate.layout.placement = .Inside) ∧
      (∀ candidate ∈ beside, candidate.layout.placement ≠ .Inside) ∧
      (∀ candidate ∈ within ++ beside,
        CandidateSound safe selection reserved size horizontal_left vertical_top tokens
          candidate) ∧
      ∀ inside, dimension_candidates safe selection reserved pointer_exclusion size inside
        horizontal_left vertical_top tokens = (if inside then within else []) ++ beside := by
  let place := badge_place selection size horizontal_left vertical_top tokens
  let fitting := candidates_at safe selection reserved pointer_exclusion
  have sound : ∀ {placement : DimensionLabelPlacement} {clearance : Int}
      {candidate : DimensionCandidate},
      candidate ∈ fitting ⟨place placement, placement⟩ clearance →
        candidate.layout.placement = placement ∧
          CandidateSound safe selection reserved size horizontal_left vertical_top tokens
            candidate := by
    intro placement clearance candidate member
    obtain ⟨layout, sound⟩ := mem_candidates_at member rfl
    exact ⟨congrArg DimensionLabelLayout.placement layout, sound⟩
  refine ⟨fitting ⟨place .Inside, .Inside⟩ (2147483647 / 2),
    fitting ⟨place .Top, .Top⟩ (saturating_sub_i32 (place .Top).top safe.top) ++
      fitting ⟨place .Bottom, .Bottom⟩ (saturating_sub_i32 safe.bottom (place .Bottom).bottom) ++
      fitting ⟨place .Left, .Left⟩ (saturating_sub_i32 (place .Left).left safe.left) ++
      fitting ⟨place .Right, .Right⟩ (saturating_sub_i32 safe.right (place .Right).right),
    ?_, ?_, ?_, ?_⟩
  · exact fun candidate member => (sound member).1
  · intro candidate member
    simp only [List.mem_append] at member
    rcases member with ((member | member) | member) | member
    all_goals
      rw [(sound member).1]
      decide
  · intro candidate member
    simp only [List.mem_append] at member
    rcases member with member | ((member | member) | member) | member
    all_goals exact (sound member).2
  · intro inside
    unfold dimension_candidates
    dsimp only
    simp only [push_dimension_candidate_eq, List.nil_append, List.append_assoc]
    rfl

end Candidates

/-! ## The choice -/

instance trans_compare_collisions : Std.TransCmp compare_collisions :=
  inferInstanceAs (Std.TransCmp (compareLex (compareOn DimensionCandidate.obstacle_overlap)
    (compareOn DimensionCandidate.pointer_overlap)))

instance trans_compare_clearances : Std.TransCmp compare_clearances :=
  inferInstanceAs (Std.TransCmp (compareLex (compareOn DimensionCandidate.clearance)
    (compareOn fun candidate : DimensionCandidate =>
      placement_tiebreak candidate.layout.placement)))

/-- What a candidate collides with. -/
def collisions (candidate : DimensionCandidate) : Bool × Bool :=
  (candidate.obstacle_overlap, candidate.pointer_overlap)

/-- Candidates that compare equal collide with as much. -/
theorem collisions_eq_of_compare {a b : DimensionCandidate} (same : compare_collisions a b = .eq) :
    collisions a = collisions b := by
  unfold compare_collisions at same
  rw [Ordering.then_eq_eq, compare_eq_iff_eq, compare_eq_iff_eq] at same
  unfold collisions
  rw [same.1, same.2]

/-- The candidates that collide as the best one does. -/
def viable (best : DimensionCandidate) (candidates : List DimensionCandidate) :
    List DimensionCandidate :=
  candidates.filter fun candidate => collisions candidate = collisions best

/-- The viable candidates are those that collide with as little as the best. -/
theorem mem_viable {best candidate : DimensionCandidate} {candidates : List DimensionCandidate} :
    candidate ∈ viable best candidates ↔
      candidate ∈ candidates ∧ collisions candidate = collisions best := by
  unfold viable
  rw [List.mem_filter, decide_eq_true_iff]

section Selection

variable {candidates : List DimensionCandidate} {previous : Option DimensionLabelPlacement}
  {best chosen : DimensionCandidate}

/-- Of the viable candidates, one inside comes first, then the one shown before, then the best. -/
theorem select_eq (found : min_by compare_collisions candidates = some best) :
    select_dimension_candidate candidates previous =
      (((viable best candidates).find? fun candidate => candidate.layout.placement = .Inside) <|>
        (previous.bind fun previous =>
          (viable best candidates).find? fun candidate => candidate.layout.placement = previous) <|>
        max_by compare_clearances (viable best candidates)) := by
  unfold select_dimension_candidate
  rw [found]
  rfl

/-- Nothing is selected exactly from no candidates. -/
theorem select_eq_none_iff :
    select_dimension_candidate candidates previous = none ↔ candidates = [] := by
  constructor
  · intro missing
    by_contra some_candidate
    cases found : min_by compare_collisions candidates with
    | none => exact some_candidate (pick_eq_none_iff.mp found)
    | some best =>
      have member : best ∈ viable best candidates :=
        mem_viable.mpr ⟨(min_by_top _ _ found).1, rfl⟩
      rw [select_eq found, Option.orElse_eq_none, Option.orElse_eq_none] at missing
      have empty := pick_eq_none_iff.mp missing.2.2
      rw [empty] at member
      cases member
  · rintro rfl
    rfl

/-- What is chosen is one of the best, and inside the selection if any of those is. -/
structure Chosen (candidates : List DimensionCandidate) (best chosen : DimensionCandidate) :
    Prop where
  is_best : min_by compare_collisions candidates = some best
  member : chosen ∈ viable best candidates
  outside : chosen.layout.placement ≠ .Inside →
    ∀ candidate ∈ viable best candidates, candidate.layout.placement ≠ .Inside

/-- SRC: layout.rs:942-975 -/
theorem select_spec (selected : select_dimension_candidate candidates previous = some chosen) :
    ∃ best, Chosen candidates best chosen ∧
      (chosen.layout.placement = .Inside →
        ∀ other, select_dimension_candidate candidates other = some chosen) := by
  cases found : min_by compare_collisions candidates with
  | none =>
    rw [pick_eq_none_iff.mp found] at selected
    cases selected
  | some best =>
    refine ⟨best, ?_⟩
    rw [select_eq found] at selected
    cases inside : (viable best candidates).find? fun candidate =>
        candidate.layout.placement = .Inside with
    | some within =>
      rw [inside] at selected
      obtain rfl := Option.some.inj selected
      have placed := List.find?_some inside
      simp only [decide_eq_true_eq] at placed
      refine ⟨⟨found, List.mem_of_find?_eq_some inside, fun other => absurd placed other⟩, ?_⟩
      intro _ other
      rw [select_eq found, inside]
      rfl
    | none =>
      have outside : ∀ candidate ∈ viable best candidates,
          candidate.layout.placement ≠ .Inside := by
        intro candidate member placed
        exact List.find?_eq_none.mp inside candidate member (decide_eq_true placed)
      have member : chosen ∈ viable best candidates := by
        rw [inside] at selected
        cases unmoved : previous.bind fun previous =>
            (viable best candidates).find? fun candidate =>
              candidate.layout.placement = previous with
        | some kept =>
          rw [unmoved] at selected
          obtain rfl := Option.some.inj selected
          obtain ⟨placement, -, kept⟩ := Option.bind_eq_some_iff.mp unmoved
          exact List.mem_of_find?_eq_some kept
        | none =>
          rw [unmoved] at selected
          exact (max_by_top _ _ selected).1
      exact ⟨⟨found, member, fun _ => outside⟩, fun placed => absurd placed (outside _ member)⟩

/-- Candidates that collide with as much compare alike with any other. -/
theorem compare_collisions_congr {a b c : DimensionCandidate} (same : collisions a = collisions b) :
    compare_collisions a c = compare_collisions b c ∧
      compare_collisions c a = compare_collisions c b := by
  unfold collisions at same
  rw [Prod.mk.injEq] at same
  unfold compare_collisions
  rw [same.1, same.2]
  exact ⟨rfl, rfl⟩

/-- What is chosen collides no more than any candidate. -/
theorem Chosen.le (chosen_of : Chosen candidates best chosen) {candidate : DimensionCandidate}
    (member : candidate ∈ candidates) : (compare_collisions chosen candidate).isLE = true := by
  rw [(compare_collisions_congr (mem_viable.mp chosen_of.member).2).1]
  exact (min_by_top _ _ chosen_of.is_best).2 candidate member

/-- **A placement is found again** in a part of the candidates that has kept it. -/
theorem select_again {fewer : List DimensionCandidate} (chosen_of : Chosen candidates best chosen)
    (outside : chosen.layout.placement ≠ .Inside)
    (part : ∀ candidate ∈ fewer, candidate ∈ candidates) (kept : chosen ∈ fewer) :
    ∃ again ∈ fewer, select_dimension_candidate fewer (some chosen.layout.placement) = some again ∧
      again.layout.placement = chosen.layout.placement := by
  cases found : min_by compare_collisions fewer with
  | none =>
    rw [pick_eq_none_iff.mp found] at kept
    cases kept
  | some least =>
    obtain ⟨least_member, least_le⟩ := min_by_top _ _ found
    have same : collisions least = collisions chosen := collisions_eq_of_compare
      (eq_of_isLE (least_le chosen kept) (chosen_of.le (part least least_member)))
    have viable_again : ∀ candidate ∈ viable least fewer, candidate ∈ viable best candidates := by
      intro candidate member
      obtain ⟨member, collides⟩ := mem_viable.mp member
      refine mem_viable.mpr ⟨part candidate member, ?_⟩
      rw [collides, same, (mem_viable.mp chosen_of.member).2]
    have no_inside : ((viable least fewer).find? fun candidate =>
        candidate.layout.placement = .Inside) = none := by
      apply List.find?_eq_none.mpr
      intro candidate member placed
      exact chosen_of.outside outside candidate (viable_again candidate member)
        (of_decide_eq_true placed)
    have found_again : ((viable least fewer).find? fun candidate =>
        candidate.layout.placement = chosen.layout.placement).isSome = true := by
      apply List.find?_isSome.mpr
      exact ⟨chosen, mem_viable.mpr ⟨kept, same.symm⟩, decide_eq_true rfl⟩
    obtain ⟨again, again_eq⟩ := Option.isSome_iff_exists.mp found_again
    have placed := List.find?_some again_eq
    simp only [decide_eq_true_eq] at placed
    refine ⟨again, (mem_viable.mp (List.mem_of_find?_eq_some again_eq)).1, ?_, placed⟩
    rw [select_eq found, no_inside, Option.bind_some, again_eq]
    rfl

end Selection

/-! ## The clamped place -/

/-- The sides of a safe area, and the pixels in it. -/
structure SafeArea (safe : UiRect) : Prop where
  corner : -2147483648 ≤ safe.left ∧ -2147483648 ≤ safe.top
  ends : safe.right ≤ 2147483647 ∧ safe.bottom ≤ 2147483647
  sides : safe.right - safe.left ≤ 2147483647 ∧ safe.bottom - safe.top ≤ 2147483647

section Clamped

variable {safe selection : UiRect} {size : UiSize} {reserved : List UiRect}
  {pointer_exclusion : Option UiRect}

/-- A rectangle of the label's size in the safe area, at a corner. -/
theorem clamped_corner (area : SafeArea safe) (fits : BadgeSize safe size) (left top : Int) :
    ∃ x y, clamp_coordinate left safe.left (saturating_sub_i32 safe.right size.width) = some x ∧
      clamp_coordinate top safe.top (saturating_sub_i32 safe.bottom size.height) = some y ∧
      UiInside (label_at x y size) safe ∧ (label_at x y size).left ≤ (label_at x y size).right ∧
      (label_at x y size).top ≤ (label_at x y size).bottom := by
  obtain ⟨corner, ends, sides⟩ := area
  obtain ⟨width, height⟩ := fits
  obtain ⟨x, x_eq, -, -⟩ :=
    clamp_coordinate_defined left safe.left (saturating_sub_i32 safe.right size.width)
  obtain ⟨y, y_eq, -, -⟩ :=
    clamp_coordinate_defined top safe.top (saturating_sub_i32 safe.bottom size.height)
  have across := clamp_inside corner.1 ends.1 (by omega) (by omega) x_eq
  have down := clamp_inside corner.2 ends.2 (by omega) (by omega) y_eq
  refine ⟨x, y, x_eq, y_eq, ?_, ?_, ?_⟩
  · unfold UiInside label_at saturating_add_i32
    dsimp only
    omega
  · unfold label_at saturating_add_i32
    dsimp only
    omega
  · unfold label_at saturating_add_i32
    dsimp only
    omega

/-- The pixels of a label under a rectangle are counted, and are no more than the safe area's.
SRC: layout.rs:58-62 -/
theorem intersection_area_spec (area : SafeArea safe) {bounds rect : UiRect}
    (inside : UiInside bounds safe)
    (ordered : bounds.left ≤ bounds.right ∧ bounds.top ≤ bounds.bottom)
    (measurable : Measurable safe rect) :
    ∃ pixels, bounds.intersection_area rect = some pixels ∧ 0 ≤ pixels ∧
      pixels ≤ (safe.right - safe.left) * (safe.bottom - safe.top) := by
  obtain ⟨corner, ends, sides⟩ := area
  obtain ⟨columns, rows⟩ := measurable
  unfold UiInside at inside
  have width_nonneg : 0 ≤ max (min bounds.right rect.right - max bounds.left rect.left) 0 :=
    le_max_right _ _
  have height_nonneg : 0 ≤ max (min bounds.bottom rect.bottom - max bounds.top rect.top) 0 :=
    le_max_right _ _
  have pixels := Int.mul_le_mul
    (show max (min bounds.right rect.right - max bounds.left rect.left) 0 ≤
      safe.right - safe.left from by omega)
    (show max (min bounds.bottom rect.bottom - max bounds.top rect.top) 0 ≤
      safe.bottom - safe.top from by omega) height_nonneg (by omega)
  have most : (safe.right - safe.left) * (safe.bottom - safe.top) ≤ 2147483647 * 2147483647 :=
    Int.mul_le_mul sides.1 sides.2 (by omega) (by omega)
  have nonneg := Int.mul_nonneg width_nonneg height_nonneg
  unfold UiRect.intersection_area
  rw [i32_of_range (by omega) (by omega), i32_of_range (by omega) (by omega)]
  refine ⟨_, if_pos ⟨?_, ?_⟩, nonneg, pixels⟩
  · exact Int.le_trans (by decide) nonneg
  · exact Int.le_trans pixels (Int.le_trans most (by decide))

/-- The pixels under all the obstacles are counted.
SRC: layout.rs:1040-1043 -/
theorem obstacle_area_spec {bounds : UiRect} {most : Int}
    (each : ∀ rect ∈ reserved, ∃ pixels, bounds.intersection_area rect = some pixels ∧
      0 ≤ pixels ∧ pixels ≤ most) (few : reserved.length * most ≤ 9223372036854775807) :
    ∃ total, obstacle_area bounds reserved = some total := by
  have counted : ∀ (rest : List UiRect) (total : Int), (∀ rect ∈ rest, rect ∈ reserved) →
      0 ≤ total → total + rest.length * most ≤ 9223372036854775807 →
      ∃ sum, rest.foldlM (fun total obstacle => do
        i64 (total + (← bounds.intersection_area obstacle))) total = some sum := by
    intro rest
    induction rest with
    | nil => exact fun total _ _ _ => ⟨total, rfl⟩
    | cons rect rest ih =>
      intro total part nonneg room
      obtain ⟨pixels, counts, pixels_nonneg, pixels_most⟩ :=
        each rect (part rect List.mem_cons_self)
      have rest_nonneg : 0 ≤ (rest.length : Int) * most :=
        Int.mul_nonneg (Int.natCast_nonneg _) (Int.le_trans pixels_nonneg pixels_most)
      rw [List.length_cons, Int.natCast_succ, Int.add_mul, Int.one_mul] at room
      have added : i64 (total + pixels) = some (total + pixels) := if_pos ⟨by omega, by omega⟩
      obtain ⟨sum, sums⟩ := ih (total + pixels)
        (fun other member => part other (List.mem_cons_of_mem rect member)) (by omega) (by omega)
      refine ⟨sum, ?_⟩
      rw [List.foldlM_cons, counts]
      show (i64 (total + pixels)).bind _ = some sum
      rw [added]
      exact sums
  exact counted reserved 0 (fun _ member => member) (Int.le_refl 0) (by omega)

/-- What the fallback counts is there to be counted. -/
structure Countable (safe selection : UiRect) (reserved : List UiRect)
    (pointer_exclusion : Option UiRect) : Prop where
  selection : Measurable safe selection
  each : ∀ rect ∈ reserved, Measurable safe rect
  pointer : ∀ rect, pointer_exclusion = some rect → Measurable safe rect
  few : reserved.length * ((safe.right - safe.left) * (safe.bottom - safe.top)) ≤
    9223372036854775807

/-- What is clamped is a label in the safe area, and whether it has changed is all that depends on
the placement before.
SRC: layout.rs:1029-1049 -/
theorem clamped_label_spec (area : SafeArea safe) (fits : BadgeSize safe size)
    (countable : Countable safe selection reserved pointer_exclusion)
    (placement : DimensionLabelPlacement) (left top : Int) :
    ∃ label : ClampedLabel, (∀ previous,
      clamped_label safe selection size reserved pointer_exclusion previous placement left top =
        some { label with changed := decide (previous ≠ some placement) }) ∧
      label.layout.placement = placement ∧ label.order = -placement_tiebreak placement ∧
      UiInside label.layout.bounds safe := by
  obtain ⟨x, y, x_eq, y_eq, inside, ordered⟩ := clamped_corner area fits left top
  obtain ⟨selected, selected_eq, -⟩ :=
    intersection_area_spec area inside ordered countable.selection
  obtain ⟨covered, covered_eq⟩ := obstacle_area_spec
    (fun rect member => intersection_area_spec area inside ordered (countable.each rect member))
    countable.few
  obtain ⟨pointed, pointed_eq⟩ :
      ∃ pixels, pointer_area (label_at x y size) pointer_exclusion = some pixels := by
    cases pointer_eq : pointer_exclusion with
    | none => exact ⟨0, rfl⟩
    | some pointer =>
      obtain ⟨pixels, counted, -⟩ :=
        intersection_area_spec area inside ordered (countable.pointer pointer pointer_eq)
      exact ⟨pixels, counted⟩
  refine ⟨⟨⟨label_at x y size, placement⟩, selected, covered, pointed, false,
    -placement_tiebreak placement⟩, ?_, rfl, rfl, inside⟩
  intro previous
  unfold clamped_label
  rw [x_eq, y_eq]
  simp only [Option.bind_eq_bind, Option.bind_some]
  rw [selected_eq, covered_eq]
  simp only [Option.bind_some]
  rw [pointed_eq]
  rfl

end Clamped

/-! ## The fallback, again -/

instance trans_compare_clamped : Std.TransCmp compare_clamped :=
  inferInstanceAs (Std.TransCmp (compareLex (compareOn ClampedLabel.selection_area)
    (compareLex (compareOn ClampedLabel.obstacle_area)
      (compareLex (compareOn ClampedLabel.pointer_area)
        (compareLex (compareOn ClampedLabel.changed) (compareOn ClampedLabel.order))))))

/-- Clamped labels that compare equal were listed at one place. -/
theorem order_eq_of_compare {a b : ClampedLabel} (same : compare_clamped a b = .eq) :
    a.order = b.order := by
  unfold compare_clamped at same
  simp only [Ordering.then_eq_eq, compare_eq_iff_eq] at same
  exact same.2.2.2.2

/-- A label that is least is no greater than another once it is the one that has not changed. -/
theorem le_of_unchanged {a b : ClampedLabel} {changed other : Bool}
    (le : (compare_clamped { a with changed := changed } { b with changed := other }).isLE =
      true) :
    (compare_clamped { a with changed := false } { b with changed := true }).isLE = true := by
  unfold compare_clamped at *
  dsimp only at *
  cases selected : compare a.selection_area b.selection_area with
  | lt => rfl
  | gt =>
    rw [selected] at le
    cases le
  | eq =>
    rw [selected] at le
    cases covered : compare a.obstacle_area b.obstacle_area with
    | lt => rfl
    | gt =>
      rw [covered] at le
      cases le
    | eq =>
      rw [covered] at le
      cases pointed : compare a.pointer_area b.pointer_area with
      | lt => rfl
      | gt =>
        rw [pointed] at le
        cases le
      | eq => rfl

/-- Each placement has a rank of its own. -/
theorem placement_of_tiebreak {a b : DimensionLabelPlacement}
    (same : placement_tiebreak a = placement_tiebreak b) : a = b := by
  cases a <;> cases b <;> first | rfl | cases same

/-- A clamped label, after a placement. -/
def relabelled (previous : Option DimensionLabelPlacement) (label : ClampedLabel) : ClampedLabel :=
  { label with changed := decide (previous ≠ some label.layout.placement) }

/-- Labels of different placements, in the order of these. -/
structure Labels (labels : List ClampedLabel) : Prop where
  order : ∀ label ∈ labels, label.order = -placement_tiebreak label.layout.placement
  apart : ∀ a ∈ labels, ∀ b ∈ labels, a.layout.placement = b.layout.placement → a = b

/-- The least label is the least again, after its own placement. -/
theorem least_again {labels : List ClampedLabel} (labelled : Labels labels)
    {previous : Option DimensionLabelPlacement} {best : ClampedLabel}
    (found : min_by compare_clamped (labels.map (relabelled previous)) = some best) :
    ∃ label ∈ labels, best = relabelled previous label ∧
      min_by compare_clamped (labels.map (relabelled (some label.layout.placement))) =
        some (relabelled (some label.layout.placement) label) := by
  obtain ⟨member, least⟩ := min_by_top _ _ found
  obtain ⟨label, label_member, rfl⟩ := List.mem_map.mp member
  refine ⟨label, label_member, rfl, ?_⟩
  cases again : min_by compare_clamped
      (labels.map (relabelled (some label.layout.placement))) with
  | none =>
    rw [List.map_eq_nil_iff.mp (pick_eq_none_iff.mp again)] at label_member
    cases label_member
  | some other =>
    obtain ⟨other_member, other_least⟩ := min_by_top _ _ again
    obtain ⟨other, member', rfl⟩ := List.mem_map.mp other_member
    by_cases same : other.layout.placement = label.layout.placement
    · rw [labelled.apart other member' label label_member same]
    · exfalso
      have le : (compare_clamped (relabelled (some label.layout.placement) label)
          (relabelled (some label.layout.placement) other)).isLE = true := by
        have unchanged : decide (some label.layout.placement ≠ some label.layout.placement) =
            false := decide_eq_false fun other => other rfl
        have changed : decide (some label.layout.placement ≠ some other.layout.placement) =
            true := decide_eq_true fun placed => same (Option.some.inj placed).symm
        unfold relabelled
        rw [unchanged, changed]
        exact le_of_unchanged (least _ (List.mem_map_of_mem member'))
      have tied := eq_of_isLE le (other_least _ (List.mem_map_of_mem label_member))
      have order := order_eq_of_compare tied
      change label.order = other.order at order
      rw [labelled.order label label_member, labelled.order other member'] at order
      exact same (placement_of_tiebreak (Int.neg_inj.mp order)).symm

section Fallback

variable {safe selection : UiRect} {size : UiSize} {reserved : List UiRect}
  {pointer_exclusion : Option UiRect} {width height centered_left centered_top : Int}

/-- **The fallback stays where it is**, in the safe area and beside the selection.
SRC: layout.rs:977-1066 -/
theorem fallback_again (area : SafeArea safe) (fits : BadgeSize safe size)
    (countable : Countable safe selection reserved pointer_exclusion)
    (width_eq : selection.width = some width) (height_eq : selection.height = some height)
    (left_eq : centered selection.left width size.width safe.left safe.right = some centered_left)
    (top_eq : centered selection.top height size.height safe.top safe.bottom = some centered_top)
    (gap : Int) (previous : Option DimensionLabelPlacement) :
    ∃ layout, fallback_dimension_label safe selection size reserved pointer_exclusion previous gap =
        some layout ∧
      UiInside layout.bounds safe ∧ layout.placement ≠ .Inside ∧
      fallback_dimension_label safe selection size reserved pointer_exclusion
        (some layout.placement) gap = some layout := by
  have label := clamped_label_spec area fits countable
  obtain ⟨top, top_label, top_placed, top_order, top_inside⟩ := label .Top centered_left
    (saturating_sub_i32 (saturating_sub_i32 selection.top gap) size.height)
  obtain ⟨bottom, bottom_label, bottom_placed, bottom_order, bottom_inside⟩ :=
    label .Bottom centered_left (saturating_add_i32 selection.bottom gap)
  obtain ⟨left, left_label, left_placed, left_order, left_inside⟩ := label .Left
    (saturating_sub_i32 (saturating_sub_i32 selection.left gap) size.width) centered_top
  obtain ⟨right, right_label, right_placed, right_order, right_inside⟩ :=
    label .Right (saturating_add_i32 selection.right gap) centered_top
  have fallback_eq : ∀ previous, fallback_dimension_label safe selection size reserved
      pointer_exclusion previous gap =
        (min_by compare_clamped ([top, bottom, left, right].map (relabelled previous))).elim
          (some ⟨safe, .Top⟩) (fun best => some best.layout) := by
    intro previous
    have relabel : ∀ label : ClampedLabel, ∀ placement, label.layout.placement = placement →
        { label with changed := decide (previous ≠ some placement) } =
          relabelled previous label := by
      rintro label placement rfl
      rfl
    unfold fallback_dimension_label
    rw [width_eq, height_eq]
    simp only [Option.bind_eq_bind, Option.bind_some]
    rw [left_eq, top_eq]
    simp only [Option.bind_some]
    rw [top_label, bottom_label, left_label, right_label, relabel top _ top_placed,
      relabel bottom _ bottom_placed, relabel left _ left_placed, relabel right _ right_placed]
    simp only [Option.bind_some]
    rw [List.map_cons, List.map_cons, List.map_cons, List.map_cons, List.map_nil]
    cases min_by compare_clamped [relabelled previous top, relabelled previous bottom,
        relabelled previous left, relabelled previous right] with
    | none => rfl
    | some best => rfl
  have labelled : Labels [top, bottom, left, right] := by
    constructor
    · intro label member
      simp only [List.mem_cons, List.not_mem_nil, or_false] at member
      rcases member with rfl | rfl | rfl | rfl
      · rw [top_order, top_placed]
      · rw [bottom_order, bottom_placed]
      · rw [left_order, left_placed]
      · rw [right_order, right_placed]
    · have distinct :
          ([top, bottom, left, right].map fun label => label.layout.placement).Nodup := by
        simp only [List.map_cons, List.map_nil, top_placed, bottom_placed, left_placed,
          right_placed]
        decide
      intro a a_member b b_member same
      exact List.inj_on_of_nodup_map distinct a_member b_member same
  have sound : ∀ label ∈ [top, bottom, left, right],
      UiInside label.layout.bounds safe ∧ label.layout.placement ≠ .Inside := by
    intro label member
    simp only [List.mem_cons, List.not_mem_nil, or_false] at member
    rcases member with rfl | rfl | rfl | rfl
    · exact ⟨top_inside, by rw [top_placed]; decide⟩
    · exact ⟨bottom_inside, by rw [bottom_placed]; decide⟩
    · exact ⟨left_inside, by rw [left_placed]; decide⟩
    · exact ⟨right_inside, by rw [right_placed]; decide⟩
  cases found : min_by compare_clamped ([top, bottom, left, right].map (relabelled previous)) with
  | none => cases pick_eq_none_iff.mp found
  | some best =>
    obtain ⟨label, member, rfl, again⟩ := least_again labelled found
    refine ⟨label.layout, ?_, (sound label member).1, (sound label member).2, ?_⟩
    · rw [fallback_eq, found]
      rfl
    · rw [fallback_eq, again]
      rfl

end Fallback

/-! ## The place in the selection -/

section Within

variable {monitor selection : UiRect} {tokens : RegionLayoutTokens} {size : UiSize}

/-- A side that seems to hold the label holds it, or is as long as a side can be. -/
theorem side_fits_spec {side length margin : Int} (lengths : BadgeTokens tokens)
    (length_nonneg : 0 ≤ length) (margin_nonneg : 0 ≤ margin)
    (fits : side_fits side length margin tokens = true) :
    length + 2 * tokens.handle_clearance ≤ side ∨ 2147483647 ≤ side := by
  obtain ⟨inset, -, -⟩ := lengths
  have fits := of_decide_eq_true fits
  unfold saturating_add_i32 saturating_mul_i32 at fits
  omega

/-- A smaller margin is met as well. -/
theorem side_fits_mono {side length margin more : Int} (le : margin ≤ more)
    (fits : side_fits side length more tokens = true) :
    side_fits side length margin tokens = true := by
  have fits := of_decide_eq_true fits
  apply decide_eq_true
  unfold saturating_add_i32 at *
  omega

/-- SRC: layout.rs:765-774 -/
theorem inside_fits_eq (badged : Badged monitor selection tokens) (margin : Int) :
    inside_fits selection size margin tokens =
      some (side_fits (selection.right - selection.left) size.width margin tokens &&
        side_fits (selection.bottom - selection.top) size.height margin tokens) := by
  obtain ⟨width, height⟩ := selection_sides badged
  unfold inside_fits
  rw [width, height]
  simp only [Option.bind_eq_bind, Option.bind_some]
  cases side_fits (selection.right - selection.left) size.width margin tokens with
  | true => rfl
  | false => rfl

/-- The margin to come back inside is no longer than the hysteresis. -/
theorem reentry_margin_le (lengths : BadgeTokens tokens)
    (previous : Option DimensionLabelPlacement) :
    0 ≤ reentry_margin previous tokens ∧
      reentry_margin previous tokens ≤ tokens.inside_hysteresis := by
  have hysteresis := lengths.hysteresis
  unfold reentry_margin
  split
  · exact ⟨Int.le_refl 0, hysteresis⟩
  · exact ⟨hysteresis, Int.le_refl _⟩

/-- Whether the place in the selection is a candidate, after a placement. -/
def within_fits (selection : UiRect) (size : UiSize) (tokens : RegionLayoutTokens)
    (previous : Option DimensionLabelPlacement) : Bool :=
  side_fits (selection.right - selection.left) size.width (reentry_margin previous tokens) tokens &&
    side_fits (selection.bottom - selection.top) size.height (reentry_margin previous tokens)
      tokens

/-- It is a candidate after itself, whatever it was before. -/
theorem within_fits_after_itself (lengths : BadgeTokens tokens)
    {previous : Option DimensionLabelPlacement}
    (fits : within_fits selection size tokens previous = true) :
    within_fits selection size tokens (some .Inside) = true := by
  have margin := (reentry_margin_le lengths previous).1
  unfold within_fits at *
  rw [Bool.and_eq_true] at *
  exact ⟨side_fits_mono margin fits.1, side_fits_mono margin fits.2⟩

/-- After another placement it is a candidate only if it was one before. -/
theorem within_fits_before (lengths : BadgeTokens tokens)
    {previous : Option DimensionLabelPlacement} {placement : DimensionLabelPlacement}
    (outside : placement ≠ .Inside)
    (fits : within_fits selection size tokens (some placement) = true) :
    within_fits selection size tokens previous = true := by
  have margin : reentry_margin previous tokens ≤ reentry_margin (some placement) tokens := by
    have other : reentry_margin (some placement) tokens = tokens.inside_hysteresis := by
      unfold reentry_margin
      rw [if_neg]
      rintro (same | missing)
      · exact outside (Option.some.inj same)
      · cases missing
    rw [other]
    exact (reentry_margin_le lengths previous).2
  unfold within_fits at *
  rw [Bool.and_eq_true] at *
  exact ⟨side_fits_mono margin fits.1, side_fits_mono margin fits.2⟩

/-- The label in the selection is in the selection. -/
theorem badge_place_within (badged : Badged monitor selection tokens) (lengths : BadgeTokens tokens)
    (fits : BadgeSize (inset_area monitor tokens.monitor_inset) size)
    {previous : Option DimensionLabelPlacement} {horizontal_left vertical_top : Int}
    (within : within_fits selection size tokens previous = true)
    (from_left : (inset_area monitor tokens.monitor_inset).left ≤ horizontal_left)
    (to_right : horizontal_left + size.width ≤ (inset_area monitor tokens.monitor_inset).right)
    (middle : ∀ clearance, 0 ≤ clearance →
      size.width + 2 * clearance ≤ selection.right - selection.left →
      (inset_area monitor tokens.monitor_inset).left ≤ selection.left + clearance →
      selection.right - clearance ≤ (inset_area monitor tokens.monitor_inset).right →
      selection.left ≤ horizontal_left ∧ horizontal_left + size.width ≤ selection.right)
    (in_safe : UiInside
      (badge_place selection size horizontal_left vertical_top tokens .Inside)
      (inset_area monitor tokens.monitor_inset)) :
    UiInside (badge_place selection size horizontal_left vertical_top tokens .Inside)
      selection := by
  have margin := (reentry_margin_le lengths previous).1
  have inset := lengths.inset
  obtain ⟨⟨width, -⟩, height, -⟩ := fits
  unfold within_fits at within
  rw [Bool.and_eq_true] at within
  have wide := side_fits_spec lengths (by omega) margin within.1
  have high := side_fits_spec lengths (by omega) margin within.2
  obtain ⟨corner, ends, sides, larger, selected, nonempty⟩ := badged
  clear within
  unfold UiInside inset_area at *
  dsimp only at *
  unfold badge_place label_at saturating_add_i32 at *
  dsimp only at *
  have across : selection.left ≤ horizontal_left ∧
      horizontal_left + size.width ≤ selection.right := by
    rcases wide with wide | whole
    · exact middle tokens.handle_clearance (by omega) (by omega) (by omega) (by omega)
    · omega
  clear middle
  omega

end Within

/-! ## The badge -/

section Badge

variable {monitor selection : UiRect} {tokens : RegionLayoutTokens} {reserved : List UiRect}
  {pointer_exclusion : Option UiRect}

/-- The monitor, inset, is a safe area. -/
theorem safe_area_of_badged (badged : Badged monitor selection tokens)
    (lengths : BadgeTokens tokens) : SafeArea (inset_area monitor tokens.monitor_inset) := by
  obtain ⟨corner, ends, sides, larger, -, -⟩ := badged
  have inset := lengths.inset.1
  unfold inset_area
  constructor
  · dsimp only
    omega
  · dsimp only
    omega
  · dsimp only
    omega

/-- Overlaps with the obstacles can be counted without overflow. -/
theorem countable_of_obstacles (badged : Badged monitor selection tokens)
    (lengths : BadgeTokens tokens)
    (obstacles : Obstacles monitor tokens reserved pointer_exclusion) :
    Countable (inset_area monitor tokens.monitor_inset) selection reserved
      pointer_exclusion := by
  obtain ⟨corner, ends, sides, larger, selected, nonempty⟩ := badged
  have inset := lengths.inset.1
  obtain ⟨each, pointer, few⟩ := obstacles
  refine ⟨?_, each, pointer, ?_⟩
  · unfold UiInside at selected
    unfold inset_area
    constructor
    · dsimp only
      omega
    · dsimp only
      omega
  · refine Int.le_trans (Int.mul_le_mul_of_nonneg_left ?_ (Int.natCast_nonneg _)) few
    unfold inset_area
    dsimp only
    exact Int.mul_le_mul (by omega) (by omega) (by omega) (by omega)

variable (reserved pointer_exclusion) in
/-- The steps before the choice, and what they give.
SRC: layout.rs:744-896 -/
theorem fitting_candidates_spec (badged : Badged monitor selection tokens)
    (lengths : BadgeTokens tokens) (requested : UiSize) :
    ∃ size horizontal_left vertical_top, BadgeSize (inset_area monitor tokens.monitor_inset) size ∧
      centered selection.left (selection.right - selection.left) size.width
        (inset_area monitor tokens.monitor_inset).left
        (inset_area monitor tokens.monitor_inset).right = some horizontal_left ∧
      centered selection.top (selection.bottom - selection.top) size.height
        (inset_area monitor tokens.monitor_inset).top
        (inset_area monitor tokens.monitor_inset).bottom = some vertical_top ∧
      (∀ previous, within_fits selection size tokens previous = true →
        UiInside (badge_place selection size horizontal_left vertical_top tokens .Inside)
          (inset_area monitor tokens.monitor_inset) →
        UiInside (badge_place selection size horizontal_left vertical_top tokens .Inside)
          selection) ∧
      ∀ previous, fitting_candidates monitor selection requested reserved pointer_exclusion
        previous tokens =
          some (inset_area monitor tokens.monitor_inset, size,
            dimension_candidates (inset_area monitor tokens.monitor_inset) selection reserved
              pointer_exclusion size (within_fits selection size tokens previous)
              horizontal_left vertical_top tokens) := by
  obtain ⟨size, size_eq, fits⟩ := label_size_spec badged lengths requested
  obtain ⟨width, height⟩ := selection_sides badged
  obtain ⟨safe_corner, safe_ends, safe_sides⟩ := safe_area_of_badged badged lengths
  have selected := badged.selected
  have nonempty := badged.nonempty
  have corner := badged.corner
  have ends := badged.ends
  have sides := badged.sides
  unfold UiInside at selected
  obtain ⟨left, left_eq, from_left, to_right, middle⟩ :=
    @centered_spec selection.left selection.right size.width _ _ safe_corner.1 safe_ends.1
      fits.width.1 fits.width.2 safe_sides.1 (by omega) (by omega) (by omega) (by omega)
  obtain ⟨top, top_eq, -⟩ :=
    @centered_spec selection.top selection.bottom size.height _ _ safe_corner.2 safe_ends.2
      fits.height.1 fits.height.2 safe_sides.2 (by omega) (by omega) (by omega) (by omega)
  refine ⟨size, left, top, fits, left_eq, top_eq, ?_, ?_⟩
  · intro previous within in_safe
    exact badge_place_within badged lengths fits within from_left to_right middle in_safe
  · intro previous
    unfold fitting_candidates
    rw [label_safe_area_eq badged lengths]
    simp only [Option.bind_eq_bind, Option.bind_some]
    rw [size_eq, width, height]
    simp only [Option.bind_some]
    rw [inside_fits_eq badged, left_eq, top_eq]
    rfl

variable (monitor selection reserved pointer_exclusion tokens) in
/-- A label that keeps its place, in the safe area; it is in the selection or beside it, and over
a reserved rectangle only where every place that fits is. -/
structure BadgeSteady (requested : UiSize) (previous : Option DimensionLabelPlacement)
    (layout : DimensionLabelLayout) : Prop where
  in_safe : UiInside layout.bounds (inset_area monitor tokens.monitor_inset)
  again : layout_dimension_label monitor selection requested reserved pointer_exclusion
    (some layout.placement) tokens = some layout
  within : layout.placement = .Inside → UiInside layout.bounds selection
  chosen : ∃ safe size candidates, fitting_candidates monitor selection requested reserved
      pointer_exclusion previous tokens = some (safe, size, candidates) ∧
    (candidates ≠ [] → (∃ candidate ∈ candidates, candidate.layout = layout) ∧
      (layout.placement ≠ .Inside → layout.bounds.intersects selection = false)) ∧
    ((∃ obstacle ∈ reserved, layout.bounds.intersects obstacle = true) →
      ∀ candidate ∈ candidates, ∃ obstacle ∈ reserved,
        candidate.layout.bounds.intersects obstacle = true)

/-- A label is taken over an obstacle only where every candidate is over one. -/
theorem obstacles_of_chosen {size : UiSize} {safe : UiRect} {horizontal_left vertical_top : Int}
    {candidates : List DimensionCandidate} {best chosen : DimensionCandidate}
    (chosen_of : Chosen candidates best chosen)
    (sound : ∀ candidate ∈ candidates, CandidateSound safe selection reserved size
      horizontal_left vertical_top tokens candidate)
    (overlaps : ∃ obstacle ∈ reserved, chosen.layout.bounds.intersects obstacle = true) :
    ∀ candidate ∈ candidates, ∃ obstacle ∈ reserved,
      candidate.layout.bounds.intersects obstacle = true := by
  intro candidate member
  have taken : chosen.obstacle_overlap = true := by
    rw [(sound chosen (mem_viable.mp chosen_of.member).1).obstacles]
    exact List.any_eq_true.mpr overlaps
  have le := chosen_of.le member
  have other : candidate.obstacle_overlap = true := by
    cases free : candidate.obstacle_overlap with
    | true => rfl
    | false =>
      unfold compare_collisions at le
      rw [taken, free] at le
      cases le
  rw [(sound candidate member).obstacles] at other
  exact List.any_eq_true.mp other

/-- **The badge does not flicker or stray.**
SRC: layout.rs:735-1084 -/
theorem badge_steady (badged : Badged monitor selection tokens) (lengths : BadgeTokens tokens)
    (obstacles : Obstacles monitor tokens reserved pointer_exclusion) (requested : UiSize)
    (previous : Option DimensionLabelPlacement) :
    ∃ layout, layout_dimension_label monitor selection requested reserved pointer_exclusion
        previous tokens = some layout ∧
      BadgeSteady monitor selection tokens reserved pointer_exclusion requested previous
        layout := by
  obtain ⟨size, horizontal_left, vertical_top, fits, left_eq, top_eq, in_selection, fitting⟩ :=
    fitting_candidates_spec reserved pointer_exclusion badged lengths requested
  obtain ⟨within, beside, within_placed, beside_placed, sound, candidates_eq⟩ :=
    dimension_candidates_eq (inset_area monitor tokens.monitor_inset) selection reserved
      pointer_exclusion size horizontal_left vertical_top tokens
  let taken := fun previous =>
    (if within_fits selection size tokens previous then within else []) ++ beside
  have fitting_eq : ∀ previous, fitting_candidates monitor selection requested reserved
      pointer_exclusion previous tokens =
        some (inset_area monitor tokens.monitor_inset, size, taken previous) := by
    intro previous
    rw [fitting, candidates_eq]
  have layout_eq : ∀ previous, layout_dimension_label monitor selection requested reserved
      pointer_exclusion previous tokens =
        (select_dimension_candidate (taken previous) previous).elim
          (fallback_dimension_label (inset_area monitor tokens.monitor_inset) selection size
            reserved pointer_exclusion previous tokens.selection_gap)
          (fun candidate => some candidate.layout) := by
    intro previous
    unfold layout_dimension_label
    rw [fitting_eq]
    simp only [Option.bind_eq_bind, Option.bind_some]
    cases select_dimension_candidate (taken previous) previous with
    | none => rfl
    | some candidate => rfl
  have mem_taken : ∀ {previous candidate}, candidate ∈ taken previous →
      (candidate ∈ within ∧ within_fits selection size tokens previous = true) ∨
        candidate ∈ beside := by
    intro previous candidate member
    rcases List.mem_append.mp member with member | member
    · split at member
      next holds => exact Or.inl ⟨member, holds⟩
      next => cases member
    · exact Or.inr member
  have taken_sound : ∀ previous, ∀ candidate ∈ taken previous,
      CandidateSound (inset_area monitor tokens.monitor_inset) selection reserved size
        horizontal_left vertical_top tokens candidate := by
    intro previous candidate member
    apply sound
    rcases mem_taken member with member | member
    · exact List.mem_append_left _ member.1
    · exact List.mem_append_right _ member
  -- A margin takes only the place in the selection away.
  have part : ∀ {placement : DimensionLabelPlacement}, placement ≠ .Inside →
      ∀ candidate ∈ taken (some placement), candidate ∈ taken previous := by
    intro placement outside candidate member
    rcases mem_taken member with ⟨member, holds⟩ | member
    · apply List.mem_append_left
      rw [if_pos (within_fits_before lengths outside holds)]
      exact member
    · exact List.mem_append_right _ member
  cases selected : select_dimension_candidate (taken previous) previous with
  | none =>
    obtain ⟨width_eq, height_eq⟩ := selection_sides badged
    obtain ⟨layout, fallback_eq, in_safe, outside, again⟩ :=
      fallback_again (safe_area_of_badged badged lengths) fits
        (countable_of_obstacles badged lengths obstacles) width_eq height_eq left_eq top_eq
        tokens.selection_gap previous
    have empty := select_eq_none_iff.mp selected
    have none_again : taken (some layout.placement) = [] := by
      apply List.eq_nil_iff_forall_not_mem.mpr
      intro candidate member
      have member := part outside candidate member
      rw [empty] at member
      cases member
    refine ⟨layout, ?_, in_safe, ?_, fun placed => absurd placed outside, _, _, _,
      fitting_eq previous, ?_, ?_⟩
    · rw [layout_eq, selected]
      exact fallback_eq
    · rw [layout_eq, select_eq_none_iff.mpr none_again]
      exact again
    · exact fun some_candidate => absurd empty some_candidate
    · rw [empty]
      intro _ candidate member
      cases member
  | some chosen =>
    obtain ⟨best, chosen_of, still_inside⟩ := select_spec selected
    have member := (mem_viable.mp chosen_of.member).1
    have chosen_sound := taken_sound previous chosen member
    have holds : chosen.layout.placement = .Inside →
        within_fits selection size tokens previous = true := by
      intro placed
      rcases mem_taken member with member | member
      · exact member.2
      · exact absurd placed (beside_placed chosen member)
    refine ⟨chosen.layout, ?_, chosen_sound.in_safe, ?_, ?_, _, _, _, fitting_eq previous, ?_, ?_⟩
    · rw [layout_eq, selected]
      rfl
    · rw [layout_eq]
      by_cases placed : chosen.layout.placement = .Inside
      · have same : taken (some chosen.layout.placement) = taken previous := by
          have holds_again := within_fits_after_itself lengths (holds placed)
          rw [placed]
          dsimp only [taken]
          rw [holds placed, holds_again]
        rw [same, still_inside placed]
        rfl
      · have kept : chosen ∈ taken (some chosen.layout.placement) := by
          rcases mem_taken member with member | member
          · exact absurd (within_placed chosen member.1) placed
          · exact List.mem_append_right _ member
        obtain ⟨again, again_member, again_eq, same⟩ :=
          select_again chosen_of placed (part placed) kept
        rw [again_eq]
        have again_sound := taken_sound _ again again_member
        have bounds : again.layout.bounds = chosen.layout.bounds := by
          rw [again_sound.place, chosen_sound.place, same]
        cases layout_again : again.layout
        cases layout_chosen : chosen.layout
        rw [layout_again, layout_chosen] at same bounds
        dsimp only at same bounds
        rw [Option.elim_some, layout_again, same, bounds]
    · intro placed
      have place := chosen_sound.place
      rw [placed] at place
      rw [place]
      apply in_selection previous (holds placed)
      rw [← place]
      exact chosen_sound.in_safe
    · exact fun _ => ⟨⟨chosen, member, rfl⟩, chosen_sound.clear⟩
    · exact obstacles_of_chosen chosen_of (taken_sound previous)

/-- SRC: layout.rs:735-1084, 1246-1294 -/
theorem dimension_badge_steady (metrics : UiMetrics)
    (badged : Badged monitor selection metrics.region_tokens)
    (obstacles : Obstacles monitor metrics.region_tokens reserved pointer_exclusion)
    (requested : UiSize) (previous : Option DimensionLabelPlacement) :
    ∃ layout, layout_dimension_label monitor selection requested reserved pointer_exclusion
        previous metrics.region_tokens = some layout ∧
      BadgeSteady monitor selection metrics.region_tokens reserved pointer_exclusion requested
        previous layout :=
  badge_steady badged (badge_tokens metrics) obstacles requested previous

end Badge

/-! ## Rectangles out of proportion -/

/-- The lengths at 96 DPI. -/
def usual_tokens : RegionLayoutTokens := (UiMetrics.mk 96).region_tokens

/-- A selection at the top of a small monitor, with a reserved rectangle below it. -/
theorem dimension_badge_steady_small_monitor :
    ∃ layout, layout_dimension_label ⟨0, 0, 800, 600⟩ ⟨100, 20, 160, 60⟩ ⟨120, 30⟩
        [⟨0, 500, 800, 600⟩] none (some .Bottom) usual_tokens = some layout ∧
      BadgeSteady ⟨0, 0, 800, 600⟩ ⟨100, 20, 160, 60⟩ usual_tokens [⟨0, 500, 800, 600⟩] none
        ⟨120, 30⟩ (some .Bottom) layout := by
  apply dimension_badge_steady ⟨96⟩
  · refine ⟨by decide, by decide, by decide, by decide, ?_, by decide⟩
    unfold UiInside
    decide
  · constructor
    · intro rect member
      obtain rfl := List.mem_singleton.mp member
      constructor <;> decide
    · intro rect missing
      cases missing
    · decide

/-- A monitor wider than an `i32`, a reserved rectangle wider than one, and three that cover a
monitor of the greatest size overflow. -/
theorem badge_area_overflows :
    layout_dimension_label ⟨-2147483648, 0, 2147483647, 600⟩ ⟨0, 100, 50, 150⟩ ⟨60, 20⟩ [] none
        none usual_tokens = none ∧
      layout_dimension_label ⟨0, 0, 800, 600⟩ ⟨0, 0, 800, 600⟩ ⟨800, 600⟩
        [⟨-2147483648, 0, -2147483648, 10⟩] none none usual_tokens = none ∧
      layout_dimension_label ⟨0, 0, 2147483647, 2147483647⟩ ⟨0, 0, 2147483647, 2147483647⟩
        ⟨2147483647, 2147483647⟩
        [⟨0, 0, 2147483647, 2147483647⟩, ⟨0, 0, 2147483647, 2147483647⟩,
          ⟨0, 0, 2147483647, 2147483647⟩] none none usual_tokens = none := by
  decide

end Captastic.Analysis
