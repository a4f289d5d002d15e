import Captastic.Model.OverlayMachine

/-!
# What the overlay makes of rectangles and of the toolbar

Each function of the overlay that makes a rectangle returns one, non-empty and inside the
display, whatever points, snap targets and key presses it is given, as long as the rectangle it
starts from is such a one (`Fits`): no `clamp` has its bounds crossed.  On a display and with a
scale of which Windows has any, the toolbar's layout is made without overflow.
-/

set_option autoImplicit false

namespace Captastic.Analysis

open Captastic.Model

/-! ## Displays -/

/-- The farthest from the desktop's origin that anything is on it. -/
def FARTHEST : Int := 268435456

/-- A non-empty display that is somewhere on a desktop. -/
structure OnDesktop (source : Rect) : Prop where
  nonempty : source.NonEmpty
  left : -FARTHEST ≤ source.x
  top : -FARTHEST ≤ source.y
  right : source.right ≤ FARTHEST
  bottom : source.bottom ≤ FARTHEST

/-- A non-empty rectangle inside a display. -/
structure Fits (rect source : Rect) : Prop where
  nonempty : rect.NonEmpty
  within : rect.Within source

/-- A source fits itself. -/
theorem Fits.refl {source : Rect} (on_desktop : OnDesktop source) : Fits source source :=
  ⟨on_desktop.nonempty, Int.le_refl _, Int.le_refl _, Int.le_refl _, Int.le_refl _⟩

/-! ## Casts and clamps -/

/-- A clamp of a value between bounds in order. -/
theorem clamp_of_le {v low high : Int} (ordered : low ≤ high) :
    ∃ clamped, clamp v low high = some clamped ∧ low ≤ clamped ∧ clamped ≤ high := by
  refine ⟨max low (min v high), ?_, ?_, ?_⟩
  · unfold clamp
    exact if_pos ordered
  · omega
  · omega

/-- The casts keep edges that are inside a display. -/
theorem fits_of_casts {source : Rect} {left top width height : Int}
    (on_desktop : OnDesktop source) (least_left : source.x ≤ left) (least_top : source.y ≤ top)
    (wide : 0 < width) (high : 0 < height) (most_right : left + width ≤ source.right)
    (most_bottom : top + height ≤ source.bottom) :
    Fits (.of_casts left top width height) source := by
  have right := on_desktop.right
  have bottom := on_desktop.bottom
  have left_bound := on_desktop.left
  have top_bound := on_desktop.top
  simp only [FARTHEST] at right bottom left_bound top_bound
  have x : (Rect.of_casts left top width height).x = left :=
    as_i32_of_range (by omega) (by omega)
  have y : (Rect.of_casts left top width height).y = top :=
    as_i32_of_range (by omega) (by omega)
  have w : ((Rect.of_casts left top width height).width : Int) = width :=
    as_u32_of_range (by omega) (by omega)
  have h : ((Rect.of_casts left top width height).height : Int) = height :=
    as_u32_of_range (by omega) (by omega)
  constructor
  · simp only [Rect.NonEmpty]
    omega
  · simp only [Rect.Within, Rect.right, Rect.bottom, x, y, w, h]
    simp only [Rect.right, Rect.bottom] at most_right most_bottom
    omega

/-- SRC: display.rs:69-80 -/
theorem clamp_within_fits {rect source : Rect} (on_desktop : OnDesktop source)
    (nonempty : rect.NonEmpty) :
    ∃ clamped, rect.clamp_within source = some clamped ∧ Fits clamped source := by
  have source_nonempty := on_desktop.nonempty
  have right := on_desktop.right
  have bottom := on_desktop.bottom
  have left_bound := on_desktop.left
  have top_bound := on_desktop.top
  simp only [FARTHEST, Rect.right, Rect.bottom] at right bottom left_bound top_bound
  simp only [Rect.NonEmpty] at nonempty source_nonempty
  obtain ⟨x, across, least_x, most_x⟩ := clamp_of_le (v := rect.x)
    (Int.le_max_right (source.right - (min rect.width source.width : Nat)) source.x)
  obtain ⟨y, down, least_y, most_y⟩ := clamp_of_le (v := rect.y)
    (Int.le_max_right (source.bottom - (min rect.height source.height : Nat)) source.y)
  unfold Rect.clamp_within
  simp only [across, down, Option.bind_eq_bind, Option.bind_some]
  refine ⟨_, rfl, ?_, ?_⟩
  · simp only [Rect.NonEmpty]
    omega
  · simp only [Rect.right, Rect.bottom] at most_x most_y
    simp only [Rect.Within, Rect.right, Rect.bottom, Rect.clamp_to_i32]
    omega

/-- What is clamped into a source fits it. -/
theorem fits_of_clamp_within {rect source clamped : Rect} (on_desktop : OnDesktop source)
    (clamps : rect.clamp_within source = some clamped) (nonempty : rect.NonEmpty) :
    Fits clamped source := by
  obtain ⟨found, made, fits⟩ := clamp_within_fits on_desktop nonempty
  rw [clamps] at made
  cases made
  exact fits

/-! ## Making regions -/

/-- SRC: machine.rs:1403-1416 -/
theorem default_region_fits {source : Rect} (on_desktop : OnDesktop source) :
    ∃ region, default_region_for_source source = some region ∧ Fits region source := by
  have nonempty := on_desktop.nonempty
  have right := on_desktop.right
  have bottom := on_desktop.bottom
  have left_bound := on_desktop.left
  have top_bound := on_desktop.top
  simp only [FARTHEST, Rect.right, Rect.bottom] at right bottom left_bound top_bound
  simp only [Rect.NonEmpty] at nonempty
  have half_width : max (source.width / 2) 1 ≤ source.width := by omega
  have half_height : max (source.height / 2) 1 ≤ source.height := by omega
  unfold default_region_for_source
  simp only [half_width, half_height, if_true, Option.bind_eq_bind, Option.bind_some]
  refine ⟨_, rfl, ?_⟩
  apply fits_of_casts on_desktop
  · simp only [saturating_add_i32]
    omega
  · simp only [saturating_add_i32]
    omega
  · omega
  · omega
  · simp only [saturating_add_i32, Rect.right]
    omega
  · simp only [saturating_add_i32, Rect.bottom]
    omega

/-- SRC: machine.rs:1386-1401 -/
theorem initial_region_fits {source : Rect} {last_region : Option Rect}
    (on_desktop : OnDesktop source) (last : ∀ region, last_region = some region → Fits region source) :
    ∃ region, initial_region last_region source = some region ∧ Fits region source := by
  unfold initial_region
  cases last_region with
  | none => exact default_region_fits on_desktop
  | some region => exact clamp_within_fits on_desktop (last region rfl).nonempty

/-- SRC: machine.rs:1435-1448 -/
theorem rect_from_points_fits {source : Rect} (on_desktop : OnDesktop source)
    (first second : Point) :
    ∃ selection, rect_from_points source first second = some selection ∧
      ∀ rect, selection = some rect → Fits rect source := by
  have across : source.x ≤ source.right := by
    simp only [Rect.right]
    omega
  have down : source.y ≤ source.bottom := by
    simp only [Rect.bottom]
    omega
  obtain ⟨left, left_eq, least_left, -⟩ := clamp_of_le (v := min first.x second.x) across
  obtain ⟨top, top_eq, least_top, -⟩ := clamp_of_le (v := min first.y second.y) down
  obtain ⟨right, right_eq, -, most_right⟩ := clamp_of_le (v := max first.x second.x) across
  obtain ⟨bottom, bottom_eq, -, most_bottom⟩ := clamp_of_le (v := max first.y second.y) down
  unfold rect_from_points
  simp only [left_eq, top_eq, right_eq, bottom_eq, Option.bind_eq_bind, Option.bind_some]
  split
  · rename_i ordered
    refine ⟨_, rfl, ?_⟩
    intro rect same
    cases same
    apply fits_of_casts on_desktop least_left least_top <;> omega
  · refine ⟨none, rfl, ?_⟩
    intro rect same
    cases same

/-- The edges of one axis after a resize are in order, and inside the display's.
SRC: machine.rs:1512-1541 -/
theorem resize_axis_ordered (leads trails : Bool) (pointer : Int) {first last low high : Int}
    (least : low ≤ first) (ordered : first < last) (most : last ≤ high)
    (one_end : leads = true → trails = false) :
    ∃ first' last', resize_axis leads trails pointer first last low high = some (first', last') ∧
      low ≤ first' ∧ first' < last' ∧ last' ≤ high := by
  unfold resize_axis
  cases leads with
  | true =>
    rw [one_end rfl]
    obtain ⟨first', moved, least', most'⟩ := clamp_of_le (v := pointer)
      (Int.le_max_right (last - MIN_REGION_SIZE) low)
    simp only [if_true, moved, Bool.false_eq_true, if_false, Option.bind_eq_bind,
      Option.bind_some]
    refine ⟨first', last, rfl, least', ?_, most⟩
    simp only [MIN_REGION_SIZE] at most'
    omega
  | false =>
    cases trails with
    | true =>
      obtain ⟨last', moved, least', most'⟩ := clamp_of_le (v := pointer)
        (Int.min_le_right (first + MIN_REGION_SIZE) high)
      simp only [if_true, moved, Bool.false_eq_true, if_false, Option.bind_eq_bind,
        Option.bind_some]
      refine ⟨first, last', rfl, least, ?_, most'⟩
      simp only [MIN_REGION_SIZE] at least'
      omega
    | false =>
      simp only [Bool.false_eq_true, if_false, Option.bind_eq_bind, Option.bind_some]
      exact ⟨first, last, rfl, least, ordered, most⟩

/-- SRC: machine.rs:1496-1548 -/
theorem resize_region_fits {original source : Rect} (on_desktop : OnDesktop source)
    (fits : Fits original source) (handle : ResizeHandle) (point : Point) :
    ∃ rect, resize_region original handle point source = some rect ∧ Fits rect source := by
  have nonempty := fits.nonempty
  have within := fits.within
  simp only [Rect.NonEmpty] at nonempty
  simp only [Rect.Within] at within
  have across : original.x < original.right := by
    simp only [Rect.right]
    omega
  have down : original.y < original.bottom := by
    simp only [Rect.bottom]
    omega
  unfold resize_region
  obtain ⟨left, right, horizontal, least_left, wide, most_right⟩ := resize_axis_ordered
    (decide (handle = .NorthWest ∨ handle = .West ∨ handle = .SouthWest))
    (decide (handle = .NorthEast ∨ handle = .East ∨ handle = .SouthEast))
    point.x within.1 across within.2.1 (by cases handle <;> decide)
  obtain ⟨top, bottom, vertical, least_top, high, most_bottom⟩ := resize_axis_ordered
    (decide (handle = .NorthWest ∨ handle = .North ∨ handle = .NorthEast))
    (decide (handle = .SouthWest ∨ handle = .South ∨ handle = .SouthEast))
    point.y within.2.2.1 down within.2.2.2 (by cases handle <;> decide)
  simp only [horizontal, vertical, Option.bind_eq_bind, Option.bind_some]
  refine ⟨_, rfl, ?_⟩
  apply fits_of_casts on_desktop least_left least_top <;> omega

/-- SRC: machine.rs:1550-1568 -/
theorem move_region_fits {original source : Rect} (on_desktop : OnDesktop source)
    (fits : Fits original source) (pointer_origin point : Point) :
    ∃ rect, move_region original pointer_origin point source = some rect ∧ Fits rect source := by
  have nonempty := fits.nonempty
  have within := fits.within
  simp only [Rect.NonEmpty] at nonempty
  simp only [Rect.Within, Rect.right, Rect.bottom] at within
  have across : source.x ≤ source.x + (source.width - original.width : Nat) := by omega
  have down : source.y ≤ source.y + (source.height - original.height : Nat) := by omega
  obtain ⟨x, x_eq, least_x, most_x⟩ := clamp_of_le
    (v := original.x + (point.x - pointer_origin.x)) across
  obtain ⟨y, y_eq, least_y, most_y⟩ := clamp_of_le
    (v := original.y + (point.y - pointer_origin.y)) down
  unfold move_region
  simp only [x_eq, y_eq, Option.bind_eq_bind, Option.bind_some]
  refine ⟨_, rfl, ?_⟩
  apply fits_of_casts on_desktop least_x least_y
  · omega
  · omega
  · simp only [Rect.right]
    omega
  · simp only [Rect.bottom]
    omega

/-- SRC: machine.rs:1230-1241 -/
theorem resize_region_by_nonempty {region : Rect} (nonempty : region.NonEmpty) (source : Rect)
    (dx dy : Int) :
    ∃ rect, resize_region_by region dx dy source = some rect ∧ rect.NonEmpty := by
  obtain ⟨right, right_eq, -, -⟩ := clamp_of_le (v := region.right + dx)
    (Int.min_le_right (region.x + MIN_REGION_SIZE) source.right)
  obtain ⟨bottom, bottom_eq, -, -⟩ := clamp_of_le (v := region.bottom + dy)
    (Int.min_le_right (region.y + MIN_REGION_SIZE) source.bottom)
  unfold resize_region_by
  simp only [right_eq, bottom_eq, Option.bind_eq_bind, Option.bind_some]
  refine ⟨_, rfl, ?_⟩
  cases made : Rect.from_edges region.x region.y right bottom with
  | none => exact nonempty
  | some rect => exact (Rect.from_edges_eq_some made).2.2.2.2

/-! ## Snapping -/

variable (model : OverlayModel)

/-- Whatever edges the corner is snapped onto.
SRC: machine.rs:1614-1664 -/
theorem rect_from_points_snapped_fits (on_desktop : OnDesktop model.source)
    (anchor pointer : Point) (modifiers : Modifiers) :
    ∃ selection snaps,
      model.rect_from_points_snapped anchor pointer modifiers = some (selection, snaps) ∧
        ∀ rect, selection = some rect → Fits rect model.source := by
  unfold OverlayModel.rect_from_points_snapped
  cases model.active_targets modifiers with
  | none =>
    obtain ⟨selection, made, fits⟩ := rect_from_points_fits on_desktop anchor pointer
    simp only [made, Option.bind_eq_bind, Option.bind_some]
    exact ⟨_, _, rfl, fits⟩
  | some targets =>
    simp only [Option.bind_eq_bind]
    generalize as_point _ _ = corner
    obtain ⟨selection, made, fits⟩ := rect_from_points_fits on_desktop anchor corner
    simp only [made, Option.bind_some]
    cases selection with
    | none => exact ⟨none, _, rfl, fits⟩
    | some rect => exact ⟨some rect, _, rfl, fits⟩

/-- Whatever edges the handle is snapped onto.
SRC: machine.rs:1672-1704 -/
theorem resize_region_snapped_fits (on_desktop : OnDesktop model.source) {resize : ResizeDrag}
    (fits : Fits resize.original model.source) (pointer : Point) (modifiers : Modifiers) :
    ∃ rect snaps, model.resize_region_snapped resize pointer modifiers = some (rect, snaps) ∧
      Fits rect model.source := by
  unfold OverlayModel.resize_region_snapped
  cases model.active_targets modifiers with
  | none =>
    obtain ⟨rect, made, inside⟩ := resize_region_fits on_desktop fits resize.handle pointer
    simp only [made, Option.bind_eq_bind, Option.bind_some]
    exact ⟨_, _, rfl, inside⟩
  | some targets =>
    simp only [Option.bind_eq_bind]
    generalize as_point _ _ = corner
    obtain ⟨rect, made, inside⟩ := resize_region_fits on_desktop fits resize.handle corner
    simp only [made, Option.bind_some]
    exact ⟨_, _, rfl, inside⟩

/-- Whatever edges the region is snapped onto.
SRC: machine.rs:1707-1736 -/
theorem move_region_snapped_fits (on_desktop : OnDesktop model.source) {moving : MoveDrag}
    (fits : Fits moving.original model.source) (pointer : Point) (modifiers : Modifiers) :
    ∃ rect snaps, model.move_region_snapped moving pointer modifiers = some (rect, snaps) ∧
      Fits rect model.source := by
  unfold OverlayModel.move_region_snapped
  obtain ⟨moved, moves, inside⟩ :=
    move_region_fits on_desktop fits moving.pointer_origin pointer
  simp only [moves, Option.bind_eq_bind, Option.bind_some]
  cases model.active_targets modifiers with
  | none => exact ⟨_, _, rfl, inside⟩
  | some targets =>
    rcases translation : snap_translation (.of moved) targets model.snap_threshold with
      ⟨across, down⟩
    have nonempty : (moved.translated ((across.map Prod.fst).getD 0)
        ((down.map Prod.fst).getD 0)).NonEmpty := inside.nonempty
    obtain ⟨snapped, clamps, fits⟩ := clamp_within_fits on_desktop nonempty
    simp only [translation, clamps, Option.bind_some]
    exact ⟨_, _, rfl, fits⟩

/-- The nearest edge so far, if any, is within the threshold of a coordinate. -/
def WithinReach (v threshold : Int) (best : Option (Int × SnapHit)) : Prop :=
  ∀ nearest, best = some nearest →
    v - threshold ≤ nearest.2.position ∧ nearest.2.position ≤ v + threshold

/-- An edge that a coordinate snaps onto is within the threshold of it. -/
theorem snap_coordinate_near {v threshold : Int} {targets : SnapTargets} {axis : SnapAxis}
    {hit : SnapHit} (snapped : snap_coordinate v targets axis threshold = some hit) :
    v - threshold ≤ hit.position ∧ hit.position ≤ v + threshold := by
  have near : WithinReach v threshold (targets.foldl (fun best target =>
      (target_edges target.rect axis).foldl (keep_closest v threshold) best) none) := by
    apply List.foldlRecOn (motive := WithinReach v threshold)
    · intro nearest nothing
      cases nothing
    · intro best held target _
      apply List.foldlRecOn (motive := WithinReach v threshold)
      · exact held
      · intro best held edge _ nearest kept
        unfold keep_closest at kept
        simp only at kept
        split at kept
        · exact held nearest kept
        · rename_i close
          split at kept
          · cases kept
            simp only [abs_i64] at close
            simp only
            omega
          · exact held nearest kept
  obtain ⟨nearest, found, rfl⟩ := Option.map_eq_some_iff.mp snapped
  exact near nearest found

/-- Both coordinates of the point are within a distance of the desktop's origin. -/
structure Reach (distance : Int) (point : Point) : Prop where
  left : -distance ≤ point.x
  right : point.x ≤ distance
  above : -distance ≤ point.y
  below : point.y ≤ distance

/-- What is within reach is within a farther one. -/
theorem Reach.mono {near far : Int} {point : Point} (reach : Reach near point)
    (closer : near ≤ far) : Reach far point where
  left := by
    have left := reach.left
    omega
  right := by
    have right := reach.right
    omega
  above := by
    have above := reach.above
    omega
  below := by
    have below := reach.below
    omega

/-- A snapped coordinate is no further than the threshold beyond where it was. -/
theorem snapped_coordinate_reach (targets : SnapTargets) (axis : SnapAxis)
    {v distance threshold : Int} (wide : 0 ≤ threshold) (least : -distance ≤ v) (most : v ≤ distance) :
    -(distance + threshold) ≤
        ((snap_coordinate v targets axis threshold).map SnapHit.position).getD v ∧
      ((snap_coordinate v targets axis threshold).map SnapHit.position).getD v ≤
        distance + threshold := by
  cases snapped : snap_coordinate v targets axis threshold with
  | none =>
    simp only [Option.map_none, Option.getD_none]
    omega
  | some hit =>
    have near := snap_coordinate_near snapped
    simp only [Option.map_some, Option.getD_some]
    omega

/-- SRC: machine.rs:1594-1605 -/
theorem snap_anchor_reach {anchor : Point} {distance : Int} (reach : Reach distance anchor)
    (wide : 0 ≤ model.snap_threshold) (modifiers : Modifiers) :
    Reach (distance + model.snap_threshold) (model.snap_anchor anchor modifiers) := by
  have least := reach.left
  have most := reach.right
  unfold OverlayModel.snap_anchor
  cases model.active_targets modifiers with
  | none =>
    apply reach.mono
    omega
  | some targets =>
    have across := snapped_coordinate_reach targets .X wide
      reach.left reach.right
    have down := snapped_coordinate_reach targets .Y wide
      reach.above reach.below
    simp only [snap_point, as_point]
    generalize ((snap_coordinate anchor.x _ _ _).map SnapHit.position).getD anchor.x = x at across ⊢
    generalize ((snap_coordinate anchor.y _ _ _).map SnapHit.position).getD anchor.y = y at down ⊢
    constructor
    · simp only [Rect.clamp_to_i32]
      omega
    · simp only [Rect.clamp_to_i32]
      omega
    · simp only [Rect.clamp_to_i32]
      omega
    · simp only [Rect.clamp_to_i32]
      omega

/-! ## The toolbar -/

/-- A display's environment as Windows may report it: a work area somewhere on the desktop, and
a scale. -/
structure Reported (environment : DisplayEnvironment) : Prop where
  left : -FARTHEST ≤ environment.work_area.left ∧ environment.work_area.left ≤ FARTHEST
  top : -FARTHEST ≤ environment.work_area.top ∧ environment.work_area.top ≤ FARTHEST
  right : -FARTHEST ≤ environment.work_area.right ∧ environment.work_area.right ≤ FARTHEST
  bottom : -FARTHEST ≤ environment.work_area.bottom ∧ environment.work_area.bottom ≤ FARTHEST
  dpi : environment.metrics.dpi ≤ 65536

/-- A coordinate in range fits an `i32`. -/
theorem i32_of_range {v : Int} (least : -2147483648 ≤ v) (most : v ≤ 2147483647) :
    i32 v = some v :=
  if_pos ⟨least, most⟩

/-- A length of the toolbar, scaled. -/
theorem px_range {metrics : UiMetrics} (dpi : metrics.dpi ≤ 65536) (dip : Int) (least : 0 ≤ dip)
    (most : dip ≤ 558) : 0 ≤ metrics.px dip ∧ metrics.px dip ≤ 400000 := by
  have scaled_least : 0 ≤ dip * metrics.dpi := Int.mul_nonneg least (Int.natCast_nonneg _)
  have scaled_most : dip * metrics.dpi ≤ 558 * 65536 :=
    Int.mul_le_mul most (by omega) (Int.natCast_nonneg _) (by omega)
  unfold UiMetrics.px
  simp only
  generalize dip * (metrics.dpi : Int) = scaled at scaled_least scaled_most
  rw [Int.tdiv_eq_ediv_of_nonneg (by omega), if_pos]
  · omega
  · simp only [InI32]
    omega

/-- SRC: layout.rs:497-500 -/
theorem clamp_axis_defined (origin : Int) {low high extent inset : Int}
    (low_range : -FARTHEST ≤ low ∧ low ≤ FARTHEST)
    (high_range : -FARTHEST ≤ high ∧ high ≤ FARTHEST)
    (extent_range : 0 ≤ extent ∧ extent ≤ 400000) (inset_range : 0 ≤ inset ∧ inset ≤ 400000) :
    ∃ coordinate, ToolbarLayout.clamp_axis origin low high extent inset = some coordinate ∧
      -FARTHEST ≤ coordinate ∧ coordinate ≤ FARTHEST + 400000 := by
  simp only [FARTHEST] at low_range high_range ⊢
  obtain ⟨coordinate, clamped, least, most⟩ := clamp_of_le (v := origin)
    (Int.le_max_right (high - extent - inset) (low + inset))
  unfold ToolbarLayout.clamp_axis
  rw [i32_of_range (by omega) (by omega), i32_of_range (by omega) (by omega)]
  simp only [Option.bind_eq_bind, Option.bind_some]
  rw [i32_of_range (by omega) (by omega)]
  simp only [Option.bind_some, clamped]
  exact ⟨coordinate, rfl, by omega, by omega⟩

/-- A point of the toolbar, its menu or the work area, of which no sum overflows. -/
def Modest (v : Int) : Prop := -536870912 ≤ v ∧ v ≤ 536870912

/-- SRC: layout.rs:521-574 -/
theorem control_defined {metrics : UiMetrics} {left control_top control_bottom first last : Int}
    (dpi : metrics.dpi ≤ 65536) (left_range : Modest left) (first_range : 0 ≤ first ∧ first ≤ 558)
    (last_range : 0 ≤ last ∧ last ≤ 558) :
    ToolbarLayout.control metrics left control_top control_bottom first last =
      some ⟨left + metrics.px first, control_top, left + metrics.px last, control_bottom⟩ := by
  have from_left := px_range dpi first first_range.1 first_range.2
  have to_right := px_range dpi last last_range.1 last_range.2
  simp only [Modest] at left_range
  unfold ToolbarLayout.control
  rw [i32_of_range (by omega) (by omega), i32_of_range (by omega) (by omega)]
  rfl

/-- SRC: layout.rs:630-670 -/
theorem row_defined {metrics : UiMetrics} {row_left row_right menu_top first last : Int}
    (dpi : metrics.dpi ≤ 65536) (top_range : Modest menu_top)
    (first_range : 0 ≤ first ∧ first ≤ 558) (last_range : 0 ≤ last ∧ last ≤ 558) :
    ToolbarLayout.row metrics row_left row_right menu_top first last =
      some ⟨row_left, menu_top + metrics.px first, row_right, menu_top + metrics.px last⟩ := by
  have from_top := px_range dpi first first_range.1 first_range.2
  have to_bottom := px_range dpi last last_range.1 last_range.2
  simp only [Modest] at top_range
  unfold ToolbarLayout.row
  rw [i32_of_range (by omega) (by omega), i32_of_range (by omega) (by omega)]
  rfl

/-- SRC: layout.rs:1068-1074 -/
theorem clamp_coordinate_defined (v minimum maximum : Int) :
    ∃ clamped, clamp_coordinate v minimum maximum = some clamped ∧ minimum ≤ clamped ∧
      (clamped ≤ minimum ∨ clamped ≤ maximum) := by
  unfold clamp_coordinate
  split
  · exact ⟨minimum, rfl, Int.le_refl _, .inl (Int.le_refl _)⟩
  · rename_i ordered
    obtain ⟨clamped, clamps, least, most⟩ := clamp_of_le (v := v) (by omega : minimum ≤ maximum)
    exact ⟨clamped, clamps, least, .inr most⟩

/-- SRC: layout.rs:585-602 -/
theorem menu_top_defined {work_area bounds : UiRect} {gap inset menu_height : Int}
    (top : -FARTHEST ≤ work_area.top ∧ work_area.top ≤ FARTHEST)
    (bottom : -FARTHEST ≤ work_area.bottom ∧ work_area.bottom ≤ FARTHEST)
    (bounds_top : -FARTHEST ≤ bounds.top ∧ bounds.top ≤ FARTHEST + 400000)
    (bounds_bottom : -FARTHEST ≤ bounds.bottom ∧ bounds.bottom ≤ FARTHEST + 800000)
    (gap_range : 0 ≤ gap ∧ gap ≤ 400000) (inset_range : 0 ≤ inset ∧ inset ≤ 400000)
    (height_range : 0 ≤ menu_height ∧ menu_height ≤ 400000) :
    ∃ top, ToolbarLayout.menu_top work_area bounds gap inset menu_height = some top ∧
      Modest top := by
  simp only [FARTHEST] at top bottom bounds_top bounds_bottom
  simp only [Modest]
  unfold ToolbarLayout.menu_top
  rw [i32_of_range (v := bounds.top - gap) (by omega) (by omega),
    i32_of_range (v := bounds.bottom + gap) (by omega) (by omega),
    i32_of_range (v := work_area.top + inset) (by omega) (by omega)]
  simp only [Option.bind_eq_bind, Option.bind_some]
  rw [i32_of_range (by omega) (by omega)]
  simp only [Option.bind_some]
  split
  · exact ⟨_, rfl, by omega, by omega⟩
  · rw [i32_of_range (v := bounds.bottom + gap + menu_height) (by omega) (by omega),
      i32_of_range (v := work_area.bottom - inset) (by omega) (by omega)]
    simp only [Option.bind_some]
    split
    · exact ⟨_, rfl, by omega, by omega⟩
    · rw [i32_of_range (v := bounds.top - work_area.top) (by omega) (by omega),
        i32_of_range (v := work_area.bottom - bounds.bottom) (by omega) (by omega),
        i32_of_range (v := work_area.bottom - menu_height) (by omega) (by omega)]
      simp only [Option.bind_some]
      rw [i32_of_range (by omega) (by omega)]
      simp only [Option.bind_some]
      obtain ⟨clamped, clamps, least, most⟩ := clamp_coordinate_defined
        (if bounds.top - work_area.top ≥ work_area.bottom - bounds.bottom
          then bounds.top - gap - menu_height else bounds.bottom + gap)
        (work_area.top + inset) (work_area.bottom - menu_height - inset)
      rw [clamps]
      exact ⟨clamped, rfl, by omega, by omega⟩

/-- SRC: layout.rs:492-506 -/
theorem clamp_origin_defined {environment : DisplayEnvironment} (reported : Reported environment)
    (origin : Point) :
    ∃ clamped, ToolbarLayout.clamp_origin environment origin = some clamped ∧
      (-FARTHEST ≤ clamped.x ∧ clamped.x ≤ FARTHEST + 400000) ∧
      (-FARTHEST ≤ clamped.y ∧ clamped.y ≤ FARTHEST + 400000) := by
  have inset := px_range reported.dpi 8 (by omega) (by omega)
  have width := px_range reported.dpi 558 (by omega) (by omega)
  have height := px_range reported.dpi 56 (by omega) (by omega)
  obtain ⟨x, across, x_range⟩ := clamp_axis_defined origin.x reported.left reported.right
    width inset
  obtain ⟨y, down, y_range⟩ := clamp_axis_defined origin.y reported.top reported.bottom
    height inset
  unfold ToolbarLayout.clamp_origin UiMetrics.toolbar_width UiMetrics.toolbar_height
  simp only [across, down, Option.bind_eq_bind, Option.bind_some]
  exact ⟨_, rfl, x_range, y_range⟩

/-- A computation goes on where its first step is defined. -/
theorem bind_defined {T U : Type} {x : Option T} {f : T → Option U} {P : T → Prop}
    (first : ∃ y, x = some y ∧ P y) (next : ∀ y, P y → ∃ z, f y = some z) :
    ∃ z, (x >>= f) = some z := by
  obtain ⟨y, rfl, held⟩ := first
  exact next y held

/-- A place on the toolbar, from which a length leads to a modest one. -/
def OnToolbar (v : Int) : Prop := -FARTHEST ≤ v ∧ v ≤ FARTHEST + 400000

/-- A coordinate of the toolbar is modest. -/
theorem OnToolbar.modest {v : Int} (on_toolbar : OnToolbar v) : Modest v := by
  simp only [OnToolbar, FARTHEST] at on_toolbar
  simp only [Modest]
  omega

/-- So is one a length further on. -/
theorem OnToolbar.add_length {v length : Int} (on_toolbar : OnToolbar v)
    (range : 0 ≤ length ∧ length ≤ 400000) : Modest (v + length) := by
  simp only [OnToolbar, FARTHEST] at on_toolbar
  simp only [Modest]
  omega

/-- So is one a length before. -/
theorem OnToolbar.sub_length {v length : Int} (on_toolbar : OnToolbar v)
    (range : 0 ≤ length ∧ length ≤ 400000) : Modest (v - length) := by
  simp only [OnToolbar, FARTHEST] at on_toolbar
  simp only [Modest]
  omega

/-- A coordinate of the work area is one of the toolbar. -/
theorem on_toolbar_of_work_area {v : Int} (range : -FARTHEST ≤ v ∧ v ≤ FARTHEST) :
    OnToolbar v := by
  simp only [FARTHEST] at range
  simp only [OnToolbar, FARTHEST]
  omega

/-- The toolbar's bottom is not far below the work area. -/
theorem toolbar_bottom_range {top height : Int}
    (top_range : -FARTHEST ≤ top ∧ top ≤ FARTHEST + 400000)
    (height_range : 0 ≤ height ∧ height ≤ 400000) :
    -FARTHEST ≤ top + height ∧ top + height ≤ FARTHEST + 800000 := by
  omega

/-- A place that is clamped into the work area. -/
theorem on_toolbar_of_clamp {v low high width inset : Int}
    (low_range : -FARTHEST ≤ low ∧ low ≤ FARTHEST)
    (high_range : -FARTHEST ≤ high ∧ high ≤ FARTHEST) (width_range : 0 ≤ width ∧ width ≤ 400000)
    (inset_range : 0 ≤ inset ∧ inset ≤ 400000)
    (clamped : low + inset ≤ v ∧ v ≤ max (high - width - inset) (low + inset)) : OnToolbar v := by
  simp only [FARTHEST] at low_range high_range
  simp only [OnToolbar, FARTHEST]
  omega

/-- Adding a length to a modest coordinate does not overflow. -/
theorem i32_add_length {a length : Int} (modest : Modest a) (range : 0 ≤ length ∧ length ≤ 400000) :
    ∃ y, i32 (a + length) = some y ∧ y = a + length := by
  simp only [Modest] at modest
  exact ⟨_, i32_of_range (by omega) (by omega), rfl⟩

/-- Nor does taking one away. -/
theorem i32_sub_length {a length : Int} (modest : Modest a) (range : 0 ≤ length ∧ length ≤ 400000) :
    ∃ y, i32 (a - length) = some y ∧ y = a - length := by
  simp only [Modest] at modest
  exact ⟨_, i32_of_range (by omega) (by omega), rfl⟩

/-- Twice the middle of a control, and where a menu of some width would start below it. -/
theorem i32_sides {first last : Int} (first_modest : Modest first) (last_modest : Modest last) :
    ∃ sides, i32 (first + last) = some sides ∧
      ∀ width, 0 ≤ width ∧ width ≤ 400000 → ∃ slack, i32 (sides - width) = some slack ∧ True := by
  simp only [Modest] at first_modest last_modest
  refine ⟨_, i32_of_range (by omega) (by omega), ?_⟩
  intro width range
  exact ⟨_, i32_of_range (by omega) (by omega), trivial⟩

/-- SRC: layout.rs:508-672 -/
theorem layout_defined {environment : DisplayEnvironment} (reported : Reported environment)
    (origin : Point) : ∃ layout, ToolbarLayout.new environment origin = some layout := by
  have dpi := reported.dpi
  have length (dip : Int) (least : 0 ≤ dip) (most : dip ≤ 558) := px_range dpi dip least most
  have from_left := on_toolbar_of_work_area reported.left
  have to_right := on_toolbar_of_work_area reported.right
  unfold ToolbarLayout.new
  apply bind_defined (clamp_origin_defined reported origin)
  rintro ⟨left, top⟩ ⟨left_range, top_range⟩
  have left_place : OnToolbar left := left_range
  have top_place : OnToolbar top := top_range
  have left_modest := left_place.modest
  have top_modest := top_place.modest
  have width := length 558 (by decide) (by decide)
  have height := length 56 (by decide) (by decide)
  have inset := length 8 (by decide) (by decide)
  have menu_width := length 248 (by decide) (by decide)
  have menu_height := length 332 (by decide) (by decide)
  apply bind_defined (i32_add_length left_modest width)
  rintro _ rfl
  apply bind_defined (i32_add_length top_modest height)
  rintro _ rfl
  apply bind_defined (i32_add_length top_modest (length 6 (by decide) (by decide)))
  intro control_top _
  apply bind_defined (i32_add_length top_modest (length 50 (by decide) (by decide)))
  intro control_bottom _
  have control (first last : Int) (first_range : 0 ≤ first ∧ first ≤ 558)
      (last_range : 0 ≤ last ∧ last ≤ 558) :
      ∃ bounds, ToolbarLayout.control environment.metrics left control_top control_bottom first
        last = some bounds ∧ bounds.left = left + environment.metrics.px first ∧
          bounds.right = left + environment.metrics.px last :=
    ⟨_, control_defined dpi left_modest first_range last_range, rfl, rfl⟩
  apply bind_defined (control 6 30 (by decide) (by decide))
  intro handle _
  apply bind_defined (control 34 78 (by decide) (by decide))
  intro full_display _
  apply bind_defined (control 78 122 (by decide) (by decide))
  intro window _
  apply bind_defined (control 122 166 (by decide) (by decide))
  intro region _
  apply bind_defined (control 184 284 (by decide) (by decide))
  rintro options ⟨options_left, options_right⟩
  apply bind_defined (control 292 336 (by decide) (by decide))
  intro pin _
  apply bind_defined (control 336 380 (by decide) (by decide))
  intro edit _
  apply bind_defined (control 380 424 (by decide) (by decide))
  intro record _
  apply bind_defined (control 432 552 (by decide) (by decide))
  intro capture _
  have options_left_modest : Modest options.left := by
    rw [options_left]
    exact left_place.add_length (length 184 (by decide) (by decide))
  have options_right_modest : Modest options.right := by
    rw [options_right]
    exact left_place.add_length (length 284 (by decide) (by decide))
  apply bind_defined (i32_sides options_left_modest options_right_modest)
  intro sides slack_defined
  apply bind_defined (slack_defined _ menu_width)
  intro slack _
  apply bind_defined (i32_add_length from_left.modest inset)
  rintro _ rfl
  apply bind_defined (i32_sub_length to_right.modest menu_width)
  rintro _ rfl
  apply bind_defined (i32_sub_length (to_right.sub_length menu_width) inset)
  rintro _ rfl
  apply bind_defined (clamp_of_le (Int.le_max_right _ _))
  intro menu_left clamped
  have menu_left_place : OnToolbar menu_left :=
    on_toolbar_of_clamp reported.left reported.right menu_width inset clamped
  have menu_left_modest := menu_left_place.modest
  apply bind_defined (menu_top_defined reported.top reported.bottom top_range
    (toolbar_bottom_range top_range height) inset inset menu_height)
  intro menu_top menu_top_modest
  apply bind_defined (i32_add_length menu_left_modest menu_width)
  rintro _ rfl
  apply bind_defined (i32_add_length menu_top_modest menu_height)
  intro menu_bottom _
  apply bind_defined (i32_add_length menu_left_modest (length 6 (by decide) (by decide)))
  intro row_left _
  apply bind_defined (i32_sub_length (menu_left_place.add_length menu_width) (length 6 (by decide) (by decide)))
  intro row_right _
  have row (first last : Int) (first_range : 0 ≤ first ∧ first ≤ 558)
      (last_range : 0 ≤ last ∧ last ≤ 558) :
      ∃ bounds, ToolbarLayout.row environment.metrics row_left row_right menu_top first last =
        some bounds ∧ True :=
    ⟨_, row_defined dpi menu_top_modest first_range last_range, trivial⟩
  apply bind_defined (row 6 46 (by decide) (by decide))
  intro dim_background _
  apply bind_defined (row 46 86 (by decide) (by decide))
  intro snap_to_windows _
  apply bind_defined (row 86 126 (by decide) (by decide))
  intro region_zoom _
  apply bind_defined (row 126 166 (by decide) (by decide))
  intro preview_view _
  apply bind_defined (row 166 206 (by decide) (by decide))
  intro clipboard_destination _
  apply bind_defined (row 206 246 (by decide) (by decide))
  intro file_output_destination _
  apply bind_defined (row 246 286 (by decide) (by decide))
  intro record_format _
  apply bind_defined (row 286 326 (by decide) (by decide))
  intro cancel _
  exact ⟨_, rfl⟩

end Captastic.Analysis
