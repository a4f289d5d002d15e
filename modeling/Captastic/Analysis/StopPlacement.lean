import Captastic.Analysis.LoupePlacement
import Captastic.Model.RecordingFrame

/-!
# Where the Stop button stands

`frame_geometry` keeps its bar between the sides of the work area by a clamp, and chooses among
three heights: below the area, above it, and inside its bottom edge (`bar_height_of`).  Each height
is checked against one edge of the work area only, so the bar is inside it exactly when the other
edge holds as well (`BarFits`): an area above the screen, below it, or hanging off its bottom takes
the bar with it (`stop_within_reach_iff`, `stop_off_the_screen`).
-/

set_option autoImplicit false

namespace Captastic.Analysis

open Captastic.Library Captastic.Model

/-! ## Lengths of the indicator -/

/-- A length that is not cut off at the end of `i32`. -/
theorem px_eq_of_small {metrics : UiMetrics} {dip : Int} (least : 0 ≤ dip) (most : dip ≤ 256)
    (small : metrics.px 256 ≤ 2 * FARTHEST) :
    metrics.px dip = (dip * metrics.dpi + 48) / 96 := by
  have scaled_least : 0 ≤ dip * metrics.dpi := Int.mul_nonneg least (Int.natCast_nonneg _)
  have scaled_most : dip * metrics.dpi ≤ 256 * metrics.dpi :=
    Int.mul_le_mul_of_nonneg_right most (Int.natCast_nonneg _)
  have whole : (256 * (metrics.dpi : Int) + 48) / 96 ≤ 2 * FARTHEST := by
    unfold UiMetrics.px at small
    simp only at small
    rw [Int.tdiv_eq_ediv_of_nonneg (by omega)] at small
    split at small
    · exact small
    · unfold FARTHEST at small
      omega
  have in_range : InI32 ((dip * metrics.dpi + 48) / 96) := by
    unfold FARTHEST at whole
    unfold InI32
    omega
  unfold UiMetrics.px
  simp only
  rw [Int.tdiv_eq_ediv_of_nonneg (by omega), if_pos in_range]

/-- How the lengths of an indicator compare, on a display that the bar fits. -/
structure IndicatorLengths (metrics : UiMetrics) : Prop where
  border : 0 ≤ metrics.px BORDER_DIP ∧ metrics.px BORDER_DIP ≤ metrics.px BAR_SIZE_DIP.1
  gap : 0 ≤ metrics.px BAR_GAP_DIP ∧ metrics.px BAR_GAP_DIP ≤ metrics.px BAR_SIZE_DIP.1
  width : 0 ≤ metrics.px BAR_SIZE_DIP.1 ∧ metrics.px BAR_SIZE_DIP.1 ≤ 2 * FARTHEST
  height : 0 ≤ metrics.px BAR_SIZE_DIP.2 ∧ metrics.px BAR_SIZE_DIP.2 ≤ metrics.px BAR_SIZE_DIP.1
  padding : 0 ≤ metrics.px 4
  button_width : 0 ≤ metrics.px BUTTON_SIZE_DIP.1 ∧
    metrics.px 4 + metrics.px BUTTON_SIZE_DIP.1 ≤ metrics.px BAR_SIZE_DIP.1
  button_height : 0 ≤ metrics.px BUTTON_SIZE_DIP.2 ∧
    metrics.px BUTTON_SIZE_DIP.2 ≤ metrics.px BAR_SIZE_DIP.2

/-- On a display whose scale is not absurd the lengths do not overflow. -/
theorem indicator_lengths {metrics : UiMetrics} (small : metrics.px 256 ≤ 2 * FARTHEST) :
    IndicatorLengths metrics := by
  have eq : ∀ dip : Int, 0 ≤ dip → dip ≤ 256 → metrics.px dip = (dip * metrics.dpi + 48) / 96 :=
    fun dip least most => px_eq_of_small least most small
  have px3 := eq 3 (by omega) (by omega)
  have px4 := eq 4 (by omega) (by omega)
  have px8 := eq 8 (by omega) (by omega)
  have px28 := eq 28 (by omega) (by omega)
  have px36 := eq 36 (by omega) (by omega)
  have px72 := eq 72 (by omega) (by omega)
  have px256 := eq 256 (by omega) (by omega)
  unfold FARTHEST at small
  constructor
  · simp only [BORDER_DIP, BAR_SIZE_DIP]
    omega
  · simp only [BAR_GAP_DIP, BAR_SIZE_DIP]
    omega
  · simp only [BAR_SIZE_DIP, FARTHEST]
    omega
  · simp only [BAR_SIZE_DIP]
    omega
  · omega
  · simp only [BUTTON_SIZE_DIP, BAR_SIZE_DIP]
    rcases Nat.eq_zero_or_pos metrics.dpi with none | some
    · rw [none] at px4 px72 px256
      omega
    · omega
  · simp only [BUTTON_SIZE_DIP, BAR_SIZE_DIP]
    omega

/-! ## The layout, without its checks -/

section Laid

variable (area : Rect) (work : UiRect) (metrics : UiMetrics)

/-- The width of the border. -/
def frame_border : Int := max (metrics.px BORDER_DIP) 1

/-- The top edge of the bar below the area, and above it. -/
def bar_below : Int := area.bottom + frame_border metrics + metrics.px BAR_GAP_DIP

def bar_above : Int :=
  area.y - frame_border metrics - metrics.px BAR_GAP_DIP - metrics.px BAR_SIZE_DIP.2

/-- The top edge of the bar.
SRC: recording_frame.rs:87-95 -/
def bar_height_of : Int :=
  if bar_below area metrics + metrics.px BAR_SIZE_DIP.2 ≤ work.bottom then bar_below area metrics
  else if work.top ≤ bar_above area metrics then bar_above area metrics
  else max (area.bottom - metrics.px BAR_GAP_DIP - metrics.px BAR_SIZE_DIP.2) work.top

/-- The bar on the desktop, from its left edge. -/
def desktop_bar (left : Int) : UiRect :=
  ⟨left, bar_height_of area work metrics, left + metrics.px BAR_SIZE_DIP.1,
    bar_height_of area work metrics + metrics.px BAR_SIZE_DIP.2⟩

/-- The Stop button, in a bar. -/
def stop_in (bar : UiRect) : UiRect where
  left := bar.right - metrics.px 4 - metrics.px BUTTON_SIZE_DIP.1
  top := bar.top + (bar.bottom - bar.top - metrics.px BUTTON_SIZE_DIP.2) / 2
  right := bar.right - metrics.px 4
  bottom := bar.top + (bar.bottom - bar.top - metrics.px BUTTON_SIZE_DIP.2) / 2 +
    metrics.px BUTTON_SIZE_DIP.2

/-- The recorded area, and the border's outer edge, on the desktop. -/
def desktop_area : UiRect := ⟨area.x, area.y, area.right, area.bottom⟩

def desktop_ring : UiRect :=
  ⟨area.x - frame_border metrics, area.y - frame_border metrics,
    area.right + frame_border metrics, area.bottom + frame_border metrics⟩

/-- The smallest rectangle that holds two. -/
def ui_union (a b : UiRect) : UiRect :=
  ⟨min a.left b.left, min a.top b.top, max a.right b.right, max a.bottom b.bottom⟩

/-- A rectangle moved by a distance. -/
def moved_by (x y : Int) (rect : UiRect) : UiRect :=
  ⟨rect.left + x, rect.top + y, rect.right + x, rect.bottom + y⟩

end Laid

/-- An area of the desktop, and a work area of it that the bar fits. -/
structure Indicated (area : Rect) (work : UiRect) (metrics : UiMetrics) : Prop where
  area_placed : OnDesktop area
  left : -FARTHEST ≤ work.left
  top : -FARTHEST ≤ work.top
  right : work.right ≤ FARTHEST
  bottom : work.bottom ≤ FARTHEST
  width : work.left + metrics.px BAR_SIZE_DIP.1 ≤ work.right
  height : work.top + metrics.px BAR_SIZE_DIP.2 ≤ work.bottom

section Spec

variable {area : Rect} {work : UiRect} {metrics : UiMetrics}

/-- So it is where an indicator is laid out. -/
theorem Indicated.lengths (indicated : Indicated area work metrics) : IndicatorLengths metrics := by
  apply indicator_lengths
  obtain ⟨-, left, -, right, -, width, -⟩ := indicated
  simp only [BAR_SIZE_DIP] at width
  omega

/-- SRC: recording_frame.rs:87-95 -/
theorem bar_top_eq (indicated : Indicated area work metrics) :
    bar_top (desktop_ring area metrics) area.bottom (metrics.px BAR_GAP_DIP)
      (metrics.px BAR_SIZE_DIP.2) work = some (bar_height_of area work metrics) := by
  obtain ⟨⟨border, border_le⟩, ⟨gap, gap_le⟩, ⟨width, width_le⟩, ⟨height, height_le⟩, -, -, -⟩ :=
    indicated.lengths
  obtain ⟨⟨-, area_left, area_top, area_right, area_bottom⟩, -⟩ := indicated
  have sides : area.y ≤ area.bottom := by
    unfold Rect.bottom
    omega
  unfold FARTHEST at *
  unfold bar_top bar_height_of bar_below bar_above desktop_ring frame_border
  dsimp only
  rw [i32_of_range (by omega) (by omega)]
  simp only [Option.bind_eq_bind, Option.bind_some]
  rw [i32_of_range (by omega) (by omega)]
  simp only [Option.bind_some]
  rw [i32_of_range (by omega) (by omega)]
  simp only [Option.bind_some]
  rw [i32_of_range (by omega) (by omega)]
  simp only [Option.bind_some]
  split
  · rfl
  · split
    · rfl
    · rw [i32_of_range (by omega) (by omega)]
      simp only [Option.bind_some]
      rw [i32_of_range (by omega) (by omega)]
      rfl

/-- What the layout is, once the bar's left edge is clamped into the work area. -/
structure FrameLaid (area : Rect) (work : UiRect) (metrics : UiMetrics) (left : Int)
    (outer : UiRect) (geometry : FrameGeometry) : Prop where
  from_left : work.left ≤ left
  to_right : left + metrics.px BAR_SIZE_DIP.1 ≤ work.right
  outer_eq : outer = ui_union (desktop_ring area metrics) (desktop_bar area work metrics left)
  window : (geometry.window.x = outer.left ∧ geometry.window.y = outer.top) ∧
    geometry.window.right = outer.right ∧ geometry.window.bottom = outer.bottom
  recorded : geometry.area = moved_by (-outer.left) (-outer.top) (desktop_area area)
  ring : geometry.ring = moved_by (-outer.left) (-outer.top) (desktop_ring area metrics)
  bar : geometry.bar = moved_by (-outer.left) (-outer.top) (desktop_bar area work metrics left)
  stop : geometry.stop = stop_in metrics geometry.bar

/-- The edges of a rectangle that is not far from the desktop. -/
structure NearDesktop (rect : UiRect) : Prop where
  left : -1073741823 ≤ rect.left ∧ rect.left ≤ 1073741823
  top : -1073741823 ≤ rect.top ∧ rect.top ≤ 1073741823
  right : -1073741823 ≤ rect.right ∧ rect.right ≤ 1073741823
  bottom : -1073741823 ≤ rect.bottom ∧ rect.bottom ≤ 1073741823

/-- A coordinate that is near fits an `i32`. -/
theorem i32_of_near {v : Int} (near : -1073741823 ≤ v ∧ v ≤ 1073741823) : i32 v = some v :=
  i32_of_range (by omega) (by omega)

/-- A cast leaves it. -/
theorem as_i32_of_near {v : Int} (near : -1073741823 ≤ v ∧ v ≤ 1073741823) : as_i32 v = v :=
  as_i32_of_range (by omega) (by omega)

/-- Near rectangles are moved without overflow. -/
theorem NearDesktop.local_eq {outer rect : UiRect} (near_outer : NearDesktop outer)
    (near : NearDesktop rect) :
    local_rect outer rect = some (moved_by (-outer.left) (-outer.top) rect) := by
  obtain ⟨outer_left, outer_top, -, -⟩ := near_outer
  obtain ⟨left, top, right, bottom⟩ := near
  unfold local_rect
  rw [i32_of_range (by omega) (by omega), i32_of_range (by omega) (by omega),
    i32_of_range (by omega) (by omega), i32_of_range (by omega) (by omega)]
  rfl

/-- Their least cover is near too. -/
theorem NearDesktop.union {a b : UiRect} (near_a : NearDesktop a) (near_b : NearDesktop b) :
    NearDesktop (ui_union a b) := by
  obtain ⟨a_left, a_top, a_right, a_bottom⟩ := near_a
  obtain ⟨b_left, b_top, b_right, b_bottom⟩ := near_b
  unfold ui_union
  constructor
  · dsimp only
    omega
  · dsimp only
    omega
  · dsimp only
    omega
  · dsimp only
    omega

/-- The ring around the area is near. -/
theorem near_ring (indicated : Indicated area work metrics) :
    NearDesktop (desktop_ring area metrics) ∧ NearDesktop (desktop_area area) := by
  obtain ⟨border, border_le⟩ := indicated.lengths.border
  have width_le := indicated.lengths.width.2
  obtain ⟨⟨-, left, top, right, bottom⟩, -⟩ := indicated
  have columns : area.x ≤ area.right := by
    unfold Rect.right
    omega
  have rows : area.y ≤ area.bottom := by
    unfold Rect.bottom
    omega
  unfold FARTHEST at *
  unfold desktop_ring desktop_area frame_border
  constructor
  · constructor
    · dsimp only
      omega
    · dsimp only
      omega
    · dsimp only
      omega
    · dsimp only
      omega
  · constructor
    · dsimp only
      omega
    · dsimp only
      omega
    · dsimp only
      omega
    · dsimp only
      omega

/-- So is the bar. -/
theorem near_bar (indicated : Indicated area work metrics) {left : Int}
    (from_left : work.left ≤ left) (to_right : left + metrics.px BAR_SIZE_DIP.1 ≤ work.right) :
    NearDesktop (desktop_bar area work metrics left) := by
  obtain ⟨-, ⟨ring_top, _⟩, -, ⟨_, ring_bottom⟩⟩ := (near_ring indicated).1
  obtain ⟨-, ⟨gap, gap_le⟩, ⟨width, width_le⟩, ⟨height, height_le⟩, -, -, -⟩ := indicated.lengths
  obtain ⟨⟨-, -, area_top, -, area_bottom⟩, left_range, top_range, right_range, bottom_range, -,
    work_height⟩ := indicated
  have rows : area.y ≤ area.bottom := by
    unfold Rect.bottom
    omega
  have border_pos : 1 ≤ frame_border metrics := le_max_right _ _
  unfold FARTHEST at *
  have top : -1073741823 ≤ bar_height_of area work metrics ∧
      bar_height_of area work metrics + metrics.px BAR_SIZE_DIP.2 ≤ 1073741823 := by
    unfold bar_height_of
    unfold desktop_ring at ring_top ring_bottom
    dsimp only at ring_top ring_bottom
    split
    · unfold bar_below at *
      omega
    · split
      · unfold bar_above at *
        omega
      · omega
  unfold desktop_bar
  constructor
  · dsimp only
    omega
  · dsimp only
    omega
  · dsimp only
    omega
  · dsimp only
    omega

/-- The bar's left edge is clamped into the work area.
SRC: recording_frame.rs:85-86 -/
theorem bar_left_eq (indicated : Indicated area work metrics) :
    ∃ left, bar_left area.x area.right (metrics.px BAR_SIZE_DIP.1) work = some left ∧
      work.left ≤ left ∧ left + metrics.px BAR_SIZE_DIP.1 ≤ work.right := by
  obtain ⟨width, width_le⟩ := indicated.lengths.width
  obtain ⟨⟨-, left, -, right, -⟩, left_range, -, right_range, -, fits, -⟩ := indicated
  have columns : area.x ≤ area.right := by
    unfold Rect.right
    omega
  unfold FARTHEST at *
  obtain ⟨clamped, clamps, least, most⟩ := @clamp_of_le
    ((area.x + area.right - metrics.px BAR_SIZE_DIP.1).tdiv 2) work.left
    (max (work.right - metrics.px BAR_SIZE_DIP.1) work.left) (by omega)
  refine ⟨clamped, ?_, least, by omega⟩
  unfold bar_left
  simp only [Option.bind_eq_bind]
  rw [i32_of_range (by omega) (by omega), Option.bind_some, i32_of_range (by omega) (by omega),
    Option.bind_some, i32_of_range (by omega) (by omega), Option.bind_some]
  exact clamps

/-- The Stop button is inside the bar it is in, wherever that is. -/
theorem stop_in_bar (lengths : IndicatorLengths metrics) {bar : UiRect}
    (wide : bar.right = bar.left + metrics.px BAR_SIZE_DIP.1)
    (high : bar.bottom = bar.top + metrics.px BAR_SIZE_DIP.2) :
    UiInside (stop_in metrics bar) bar := by
  obtain ⟨-, -, ⟨width, -⟩, ⟨height, -⟩, padding, ⟨button_width, fits⟩, button_height, lower⟩ :=
    lengths
  unfold UiInside stop_in
  dsimp only
  omega

/-- The window around a border and a bar near the desktop.
SRC: recording_frame.rs:101-140 -/
theorem frame_around_eq (lengths : IndicatorLengths metrics) {shown ring bar : UiRect}
    (near_shown : NearDesktop shown) (near_ring : NearDesktop ring) (near_bar : NearDesktop bar)
    (ordered : ring.left ≤ ring.right ∧ ring.top ≤ ring.bottom)
    (wide : bar.right = bar.left + metrics.px BAR_SIZE_DIP.1)
    (high : bar.bottom = bar.top + metrics.px BAR_SIZE_DIP.2) :
    ∃ geometry, frame_around metrics shown ring bar = some geometry ∧
      ((geometry.window.x = (ui_union ring bar).left ∧
        geometry.window.y = (ui_union ring bar).top) ∧
      geometry.window.right = (ui_union ring bar).right ∧
      geometry.window.bottom = (ui_union ring bar).bottom) ∧
      geometry.area = moved_by (-(ui_union ring bar).left) (-(ui_union ring bar).top) shown ∧
      geometry.ring = moved_by (-(ui_union ring bar).left) (-(ui_union ring bar).top) ring ∧
      geometry.bar = moved_by (-(ui_union ring bar).left) (-(ui_union ring bar).top) bar ∧
      geometry.stop = stop_in metrics geometry.bar := by
  have near_outer := near_ring.union near_bar
  have shown_local := near_outer.local_eq near_shown
  have ring_local := near_outer.local_eq near_ring
  have bar_local := near_outer.local_eq near_bar
  obtain ⟨-, -, ⟨width, width_le⟩, ⟨height, height_le⟩, padding, ⟨button_width, fits⟩,
    button_height, lower⟩ := lengths
  obtain ⟨left, top, right, bottom⟩ := near_bar
  obtain ⟨columns, rows⟩ := ordered
  have outer_left : (ui_union ring bar).left ≤ bar.left ∧
      (ui_union ring bar).left ≤ (ui_union ring bar).right := by
    unfold ui_union
    dsimp only
    omega
  have outer_top : (ui_union ring bar).top ≤ bar.top ∧
      (ui_union ring bar).top ≤ (ui_union ring bar).bottom := by
    unfold ui_union
    dsimp only
    omega
  unfold frame_around
  rw [show (⟨min ring.left bar.left, min ring.top bar.top, max ring.right bar.right,
    max ring.bottom bar.bottom⟩ : UiRect) = ui_union ring bar from rfl]
  generalize ui_union ring bar = outer at *
  obtain ⟨⟨_, _⟩, ⟨_, _⟩, ⟨_, _⟩, ⟨_, _⟩⟩ := near_outer
  unfold FARTHEST at width_le
  simp only [bar_local, Option.bind_eq_bind, Option.bind_some]
  unfold moved_by
  dsimp only
  -- every sum of the layout stays in range
  rw [i32_of_range (by omega) (by omega), Option.bind_some, i32_of_range (by omega) (by omega),
    Option.bind_some, i32_of_range (by omega) (by omega), Option.bind_some,
    i32_of_range (by omega) (by omega), Option.bind_some, Int.tdiv_eq_ediv_of_nonneg (by omega),
    i32_of_range (by omega) (by omega), Option.bind_some, i32_of_range (by omega) (by omega),
    Option.bind_some, i32_of_range (by omega) (by omega), Option.bind_some, shown_local,
    Option.bind_some, ring_local, Option.bind_some, i32_of_range (by omega) (by omega),
    Option.bind_some, i32_of_range (by omega) (by omega), Option.bind_some]
  have window_width : (as_u32 (outer.right - outer.left) : Int) = outer.right - outer.left :=
    as_u32_of_range (by omega) (by omega)
  have window_height : (as_u32 (outer.bottom - outer.top) : Int) = outer.bottom - outer.top :=
    as_u32_of_range (by omega) (by omega)
  refine ⟨_, rfl, ⟨⟨?_, ?_⟩, ?_, ?_⟩, rfl, rfl, rfl, ?_⟩
  · exact as_i32_of_range (by omega) (by omega)
  · exact as_i32_of_range (by omega) (by omega)
  · show as_i32 outer.left + (as_u32 (outer.right - outer.left) : Int) = outer.right
    rw [as_i32_of_range (by omega) (by omega), window_width]
    omega
  · show as_i32 outer.top + (as_u32 (outer.bottom - outer.top) : Int) = outer.bottom
    rw [as_i32_of_range (by omega) (by omega), window_height]
    omega
  · unfold stop_in
    dsimp only
    rw [UiRect.mk.injEq]
    refine ⟨rfl, rfl, ?_, rfl⟩
    omega

/-- The whole layout, around an area of the desktop.
SRC: recording_frame.rs:71-141 -/
theorem frame_geometry_spec (indicated : Indicated area work metrics) :
    ∃ geometry left outer, frame_geometry area work metrics = some geometry ∧
      FrameLaid area work metrics left outer geometry := by
  obtain ⟨near, near_area⟩ := near_ring indicated
  obtain ⟨left, clamps, from_left, to_right⟩ := bar_left_eq indicated
  have near_bar := near_bar indicated from_left to_right
  have columns : area.x ≤ area.right := by
    unfold Rect.right
    omega
  have rows : area.y ≤ area.bottom := by
    unfold Rect.bottom
    omega
  have border_pos : 1 ≤ frame_border metrics := le_max_right _ _
  obtain ⟨geometry, ran, window, recorded, ring, bar, stop⟩ :=
    frame_around_eq indicated.lengths near_area near near_bar
      (by
        unfold desktop_ring
        dsimp only
        omega)
      rfl rfl
  have heights := bar_top_eq indicated
  obtain ⟨ring_left, ring_top, ring_right, ring_bottom⟩ := near
  obtain ⟨bar_left, bar_top, bar_right, bar_bottom⟩ := near_bar
  obtain ⟨-, -, area_right, area_bottom⟩ := near_area
  refine ⟨geometry, left, _, ?_, from_left, to_right, rfl, window, recorded, ring, bar, stop⟩
  unfold frame_geometry
  unfold desktop_ring at ring_left ring_top ring_right ring_bottom
  unfold desktop_bar at bar_right bar_bottom
  unfold desktop_area at area_right area_bottom
  dsimp only at ring_left ring_top ring_right ring_bottom
  dsimp only at bar_right bar_bottom area_right area_bottom
  unfold desktop_ring at heights
  rw [show max (metrics.px BORDER_DIP) 1 = frame_border metrics from rfl]
  simp only [as_i32_of_near area_right, as_i32_of_near area_bottom, i32_of_near ring_left,
    i32_of_near ring_top, i32_of_near ring_right, i32_of_near ring_bottom, clamps, heights,
    i32_of_near bar_right, i32_of_near bar_bottom, Option.bind_eq_bind, Option.bind_some]
  exact ran

/-! ## Within reach -/

/-- A height that the bar can stand at, inside the work area. -/
def HeightFits (work : UiRect) (metrics : UiMetrics) (top : Int) : Prop :=
  work.top ≤ top ∧ top + metrics.px BAR_SIZE_DIP.2 ≤ work.bottom

/-- A rectangle of the window, on the desktop. -/
def desktop_of (geometry : FrameGeometry) (rect : UiRect) : UiRect :=
  moved_by geometry.window.x geometry.window.y rect

/-- The bar and its button are inside the work area, the bar is beside the recorded area where
there is room for it, and everything is inside the window. -/
def StopReachable (area : Rect) (work : UiRect) (metrics : UiMetrics) : Prop :=
  ∃ geometry, frame_geometry area work metrics = some geometry ∧
    UiInside (desktop_of geometry geometry.bar) work ∧
    UiInside (desktop_of geometry geometry.stop) work ∧
    (HeightFits work metrics (bar_below area metrics) ∨
        HeightFits work metrics (bar_above area metrics) →
      geometry.bar.intersects geometry.area = false) ∧
    ∀ rect ∈ [geometry.area, geometry.ring, geometry.bar, geometry.stop],
      UiInside rect ⟨0, 0, geometry.window.width, geometry.window.height⟩

/-- The height that the layout takes is inside the other edge of the work area, too: the one below
the area under its top edge, the others over its bottom edge. -/
def BarFits (area : Rect) (work : UiRect) (metrics : UiMetrics) : Prop :=
  if bar_below area metrics + metrics.px BAR_SIZE_DIP.2 ≤ work.bottom then
    work.top ≤ bar_below area metrics
  else if work.top ≤ bar_above area metrics then
    bar_above area metrics + metrics.px BAR_SIZE_DIP.2 ≤ work.bottom
  else area.bottom - metrics.px BAR_GAP_DIP ≤ work.bottom

/-- The bar fits exactly where its height has room. -/
theorem bar_fits_iff (indicated : Indicated area work metrics) :
    BarFits area work metrics ↔ HeightFits work metrics (bar_height_of area work metrics) := by
  have height := indicated.height
  unfold BarFits HeightFits bar_height_of
  split
  · omega
  · split
    · omega
    · omega

/-- A rectangle inside one that is inside another is inside that too. -/
theorem UiInside.trans {inner middle outer : UiRect} (inside : UiInside inner middle)
    (held : UiInside middle outer) : UiInside inner outer := by
  unfold UiInside at *
  omega

/-- Moving both keeps one inside the other. -/
theorem UiInside.moved {inner outer : UiRect} (inside : UiInside inner outer) (x y : Int) :
    UiInside (moved_by x y inner) (moved_by x y outer) := by
  unfold UiInside moved_by at *
  dsimp only at *
  omega

namespace FrameLaid

variable {left : Int} {outer : UiRect} {geometry : FrameGeometry}

/-- The window's own coordinates start at its corner. -/
theorem corner (laid : FrameLaid area work metrics left outer geometry) :
    moved_by (-outer.left) (-outer.top) outer =
      ⟨0, 0, geometry.window.width, geometry.window.height⟩ := by
  obtain ⟨⟨x, y⟩, right, bottom⟩ := laid.window
  unfold Rect.right at right
  unfold Rect.bottom at bottom
  unfold moved_by
  rw [UiRect.mk.injEq]
  omega

/-- A rectangle moved into the window and back is where it was. -/
theorem desktop_moved (laid : FrameLaid area work metrics left outer geometry) (rect : UiRect) :
    desktop_of geometry (moved_by (-outer.left) (-outer.top) rect) = rect := by
  obtain ⟨⟨x, y⟩, -, -⟩ := laid.window
  unfold desktop_of moved_by
  rw [x, y]
  dsimp only
  rw [Int.neg_add_cancel_right, Int.neg_add_cancel_right, Int.neg_add_cancel_right,
    Int.neg_add_cancel_right]

/-- The bar of the window stands on the desktop where it was placed. -/
theorem bar_desktop (laid : FrameLaid area work metrics left outer geometry) :
    desktop_of geometry geometry.bar = desktop_bar area work metrics left := by
  rw [laid.bar]
  exact laid.desktop_moved _

/-- The button is inside the bar. -/
theorem stop_inside (laid : FrameLaid area work metrics left outer geometry)
    (lengths : IndicatorLengths metrics) : UiInside geometry.stop geometry.bar := by
  rw [laid.stop]
  apply stop_in_bar lengths
  · rw [laid.bar]
    unfold moved_by desktop_bar
    dsimp only
    omega
  · rw [laid.bar]
    unfold moved_by desktop_bar
    dsimp only
    omega

/-- Whatever is inside the window's extent on the desktop is inside the window. -/
theorem inside_window (laid : FrameLaid area work metrics left outer geometry) {rect : UiRect}
    (inside : UiInside rect outer) :
    UiInside (moved_by (-outer.left) (-outer.top) rect)
      ⟨0, 0, geometry.window.width, geometry.window.height⟩ := by
  rw [← laid.corner]
  exact inside.moved _ _

/-- Everything that is drawn is inside the window. -/
theorem all_inside (laid : FrameLaid area work metrics left outer geometry)
    (lengths : IndicatorLengths metrics) :
    ∀ rect ∈ [geometry.area, geometry.ring, geometry.bar, geometry.stop],
      UiInside rect ⟨0, 0, geometry.window.width, geometry.window.height⟩ := by
  have border_pos : 1 ≤ frame_border metrics := le_max_right _ _
  have ring_inside : UiInside (desktop_ring area metrics) outer := by
    rw [laid.outer_eq]
    unfold UiInside ui_union
    dsimp only
    omega
  have area_inside : UiInside (desktop_area area) (desktop_ring area metrics) := by
    unfold UiInside desktop_area desktop_ring
    dsimp only
    omega
  have bar_inside : UiInside (desktop_bar area work metrics left) outer := by
    rw [laid.outer_eq]
    unfold UiInside ui_union
    dsimp only
    omega
  have bar := laid.inside_window bar_inside
  rw [← laid.bar] at bar
  intro rect member
  simp only [List.mem_cons, List.not_mem_nil, or_false] at member
  rcases member with rfl | rfl | rfl | rfl
  · rw [laid.recorded]
    exact laid.inside_window (area_inside.trans ring_inside)
  · rw [laid.ring]
    exact laid.inside_window ring_inside
  · exact bar
  · exact (laid.stop_inside lengths).trans bar

/-- The bar is beside the area wherever there is room for it. -/
theorem beside (laid : FrameLaid area work metrics left outer geometry)
    (lengths : IndicatorLengths metrics)
    (room : HeightFits work metrics (bar_below area metrics) ∨
      HeightFits work metrics (bar_above area metrics)) :
    geometry.bar.intersects geometry.area = false := by
  have border_pos : 1 ≤ frame_border metrics := le_max_right _ _
  have gap := lengths.gap.1
  apply apart_of_edges
  rw [laid.bar, laid.recorded]
  right
  right
  unfold moved_by desktop_bar desktop_area bar_height_of
  dsimp only
  split
  · left
    unfold bar_below
    omega
  next not_below =>
    split
    · right
      unfold bar_above
      omega
    next not_above =>
      exfalso
      rcases room with below | above
      · exact not_below below.2
      · exact not_above above.1

end FrameLaid

/-- Where the bar fits, Stop is within reach. -/
theorem reachable_of_fits (indicated : Indicated area work metrics)
    (fits : BarFits area work metrics) : StopReachable area work metrics := by
  obtain ⟨geometry, left, outer, ran, laid⟩ := frame_geometry_spec indicated
  have lengths := indicated.lengths
  obtain ⟨under, above⟩ := (bar_fits_iff indicated).mp fits
  have bar_inside : UiInside (desktop_of geometry geometry.bar) work := by
    rw [laid.bar_desktop]
    exact ⟨laid.from_left, laid.to_right, under, above⟩
  refine ⟨geometry, ran, bar_inside, ?_, laid.beside lengths, laid.all_inside lengths⟩
  exact ((laid.stop_inside lengths).moved _ _).trans bar_inside

/-- **Stop** is within reach exactly when the height that the layout takes holds against both
edges of the work area.
SRC: recording_frame.rs:70-141 -/
theorem stop_within_reach_iff (indicated : Indicated area work metrics) :
    StopReachable area work metrics ↔ BarFits area work metrics := by
  obtain ⟨geometry, left, outer, ran, laid⟩ := frame_geometry_spec indicated
  constructor
  · rintro ⟨same, same_ran, inside, -⟩
    rw [ran] at same_ran
    cases same_ran
    rw [laid.bar_desktop] at inside
    exact (bar_fits_iff indicated).mpr ⟨inside.2.2.1, inside.2.2.2⟩
  · exact reachable_of_fits indicated

/-- A window on a display of 1920 by 1080, whose taskbar takes 48 rows: Stop is within reach. -/
theorem stop_within_reach_iff_window :
    Indicated { x := 100, y := 100, width := 640, height := 480 } ⟨0, 0, 1920, 1032⟩
        (UiMetrics.new 96) ∧
      StopReachable { x := 100, y := 100, width := 640, height := 480 } ⟨0, 0, 1920, 1032⟩
        (UiMetrics.new 96) := by
  have indicated : Indicated { x := 100, y := 100, width := 640, height := 480 }
      ⟨0, 0, 1920, 1032⟩ (UiMetrics.new 96) := by
    constructor
    · constructor <;> decide
    all_goals decide
  exact ⟨indicated, (stop_within_reach_iff indicated).mpr (by unfold BarFits; decide)⟩

/-- A window higher than that display: the bar stands under its last row, 1079, so Stop is not on
the screen at all. -/
theorem stop_off_the_screen :
    Indicated { x := 0, y := 0, width := 1920, height := 1300 } ⟨0, 0, 1920, 1032⟩
        (UiMetrics.new 96) ∧
      ¬ StopReachable { x := 0, y := 0, width := 1920, height := 1300 } ⟨0, 0, 1920, 1032⟩
        (UiMetrics.new 96) ∧
      ∃ geometry, frame_geometry { x := 0, y := 0, width := 1920, height := 1300 }
          ⟨0, 0, 1920, 1032⟩ (UiMetrics.new 96) = some geometry ∧
        1080 ≤ (desktop_of geometry geometry.bar).top ∧
        1080 ≤ (desktop_of geometry geometry.stop).top := by
  have indicated : Indicated { x := 0, y := 0, width := 1920, height := 1300 }
      ⟨0, 0, 1920, 1032⟩ (UiMetrics.new 96) := by
    constructor
    · constructor <;> decide
    all_goals decide
  obtain ⟨geometry, left, outer, ran, laid⟩ := frame_geometry_spec indicated
  have lowest : 1080 ≤ bar_height_of { x := 0, y := 0, width := 1920, height := 1300 }
      ⟨0, 0, 1920, 1032⟩ (UiMetrics.new 96) := by decide
  have bar_top : (desktop_of geometry geometry.bar).top = bar_height_of
      { x := 0, y := 0, width := 1920, height := 1300 } ⟨0, 0, 1920, 1032⟩ (UiMetrics.new 96) :=
    congrArg UiRect.top laid.bar_desktop
  have stop_top : (desktop_of geometry geometry.bar).top ≤
      (desktop_of geometry geometry.stop).top :=
    ((laid.stop_inside indicated.lengths).moved _ _).2.2.1
  refine ⟨indicated, ?_, geometry, ran, by omega, by omega⟩
  rintro ⟨same, same_ran, inside, -⟩
  obtain rfl := Option.some.inj (ran.symm.trans same_ran)
  rw [laid.bar_desktop] at inside
  have above : bar_height_of { x := 0, y := 0, width := 1920, height := 1300 }
      ⟨0, 0, 1920, 1032⟩ (UiMetrics.new 96) + (UiMetrics.new 96).px BAR_SIZE_DIP.2 ≤ 1032 :=
    inside.2.2.2
  revert above
  decide

end Spec

end Captastic.Analysis
