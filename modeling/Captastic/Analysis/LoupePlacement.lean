import Captastic.Model.Loupe
import Captastic.Analysis.OverlayRectangles

/-!
# Where the magnifier stands

`layout_loupe` aims at the first of four places around the square it magnifies that fits the
safe area (`loupe_aim`) and clamps what it aimed at into that area, one axis at a time.

The clamp keeps the magnifier inside the area whenever it fits there.  It also never moves a
place that fits over the square: on the axis that separates them it moves the magnifier only
away.  What a saturated edge hides is whether the place did fit, and an inset of at least one
pixel, or a monitor off the ends of `i32`, keeps a saturated edge outside the safe area.
-/

set_option autoImplicit false

namespace Captastic.Analysis

open Captastic.Model

/-! ## One axis -/

/-- A length that fits between two edges fits there after the clamp. -/
theorem clamp_inside {v low high length clamped : Int} (least : -2147483648 ≤ low)
    (most : high ≤ 2147483647) (length_nonneg : 0 ≤ length) (fits : low + length ≤ high)
    (clamps : clamp_coordinate v low (saturating_sub_i32 high length) = some clamped) :
    low ≤ clamped ∧ clamped + length ≤ high := by
  obtain ⟨again, clamps', from_low, to_high⟩ :=
    clamp_coordinate_defined v low (saturating_sub_i32 high length)
  have same : again = clamped := Option.some.inj (clamps'.symm.trans clamps)
  subst same
  unfold saturating_sub_i32 at to_high
  omega

/-- The clamp moves nothing that ends at or before the far edge back. -/
theorem clamp_after {v low high length clamped : Int} (fits : v + length ≤ high)
    (clamps : clamp_coordinate v low (saturating_sub_i32 high length) = some clamped)
    (range : -2147483648 ≤ v) (most : high ≤ 2147483647) (length_nonneg : 0 ≤ length) :
    v ≤ clamped := by
  unfold clamp_coordinate saturating_sub_i32 at clamps
  split at clamps
  · have same := Option.some.inj clamps
    omega
  · unfold clamp at clamps
    rw [if_pos (by omega)] at clamps
    have same := Option.some.inj clamps
    omega

/-- The clamp moves nothing that starts at or after the near edge on. -/
theorem clamp_before {v low high clamped : Int} (fits : low ≤ v)
    (clamps : clamp_coordinate v low high = some clamped) : clamped ≤ v := by
  unfold clamp_coordinate at clamps
  split at clamps
  · have same := Option.some.inj clamps
    omega
  · unfold clamp at clamps
    rw [if_pos (by omega)] at clamps
    have same := Option.some.inj clamps
    omega

section Side

variable {first last gap length low high clamped : Int}

/-- A place past the last edge of the square that seems to end inside the area is clamped past
the square, unless the area reaches the end of `i32`. -/
theorem clamped_past (least : -2147483648 ≤ last) (most : last ≤ 2147483647)
    (gap_nonneg : 0 ≤ gap) (length_nonneg : 0 ≤ length) (off_end : high < 2147483647)
    (fits : saturating_add_i32 (saturating_add_i32 last gap) length ≤ high)
    (clamps : clamp_coordinate (saturating_add_i32 last gap) low
      (saturating_sub_i32 high length) = some clamped) : last ≤ clamped := by
  have moved : last ≤ saturating_add_i32 last gap ∧ -2147483648 ≤ saturating_add_i32 last gap := by
    unfold saturating_add_i32
    omega
  generalize saturating_add_i32 last gap = place at *
  have ends : place + length ≤ high := by
    unfold saturating_add_i32 at fits
    omega
  have kept := clamp_after ends clamps moved.2 (by omega) length_nonneg
  omega

/-- A place short of the first edge of the square that seems to start inside the area is
clamped short of the square, unless the area reaches the end of `i32`. -/
theorem clamped_short (first_range : -2147483648 ≤ first) (gap_nonneg : 0 ≤ gap)
    (length_nonneg : 0 ≤ length) (off_end : -2147483648 < low)
    (fits : low ≤ saturating_sub_i32 (saturating_sub_i32 first gap) length)
    (clamps : clamp_coordinate (saturating_sub_i32 (saturating_sub_i32 first gap) length) low
      (saturating_sub_i32 high length) = some clamped) :
    saturating_add_i32 clamped length ≤ first := by
  have kept := clamp_before fits clamps
  have moved : saturating_sub_i32 first gap ≤ first ∧
      saturating_sub_i32 first gap ≤ 2147483647 := by
    unfold saturating_sub_i32
    omega
  generalize saturating_sub_i32 first gap = place at *
  have starts : saturating_sub_i32 place length = place - length := by
    unfold saturating_sub_i32 at fits ⊢
    omega
  rw [starts] at kept
  unfold saturating_add_i32
  omega

/-- A place that ends inside the area seems to. -/
theorem seems_past (last_range : -2147483648 ≤ last) (gap_nonneg : 0 ≤ gap)
    (length_nonneg : 0 ≤ length) (high_range : high ≤ 2147483647)
    (fits : last + gap + length ≤ high) :
    saturating_add_i32 (saturating_add_i32 last gap) length ≤ high := by
  unfold saturating_add_i32
  omega

/-- A place that begins inside the area seems to. -/
theorem seems_short (first_range : first ≤ 2147483647) (gap_nonneg : 0 ≤ gap)
    (length_nonneg : 0 ≤ length) (low_range : -2147483648 ≤ low)
    (fits : low ≤ first - gap - length) :
    low ≤ saturating_sub_i32 (saturating_sub_i32 first gap) length := by
  unfold saturating_sub_i32
  omega

end Side

/-! ## What is aimed at -/

/-- The place the layout aims at before it clamps.
SRC: layout.rs:295-326 -/
def loupe_aim (safe source : UiRect) (gap width height : Int) : Point :=
  let right_of := saturating_add_i32 source.right gap
  let left_of := saturating_sub_i32 (saturating_sub_i32 source.left gap) width
  let below := saturating_add_i32 source.bottom gap
  let above := saturating_sub_i32 (saturating_sub_i32 source.top gap) height
  if saturating_add_i32 right_of width ≤ safe.right then ⟨right_of, below⟩
  else if left_of ≥ safe.left then ⟨left_of, below⟩
  else if saturating_add_i32 below height ≤ safe.bottom then ⟨source.left, below⟩
  else if above ≥ safe.top then ⟨source.left, above⟩
  else ⟨right_of, below⟩

/-- A layout: the sizes its tokens give, the place it aims at, and the clamped place. -/
structure LoupePlaced (monitor : UiRect) (pointer : Point) (tokens : LoupeLayoutTokens)
    (width height : Int) (layout : LoupeLayout) : Prop where
  source : layout.source = loupe_source pointer
  left : clamp_coordinate
      (loupe_aim (loupe_safe_area monitor tokens) (loupe_source pointer) tokens.gap width height).x
      (loupe_safe_area monitor tokens).left
      (saturating_sub_i32 (loupe_safe_area monitor tokens).right width) = some layout.bounds.left
  top : clamp_coordinate
      (loupe_aim (loupe_safe_area monitor tokens) (loupe_source pointer) tokens.gap width height).y
      (loupe_safe_area monitor tokens).top
      (saturating_sub_i32 (loupe_safe_area monitor tokens).bottom height) = some layout.bounds.top
  right : layout.bounds.right = saturating_add_i32 layout.bounds.left width
  bottom : layout.bounds.bottom = saturating_add_i32 layout.bounds.top height

/-- The layout with the magnifier's corner at a place.
SRC: layout.rs:328-354 -/
def loupe_laid (pointer : Point) (tokens : LoupeLayoutTokens) (span width height : Int)
    (left top : Int) : LoupeLayout where
  bounds := ⟨left, top, saturating_add_i32 left width, saturating_add_i32 top height⟩
  view := ⟨saturating_add_i32 left tokens.padding, saturating_add_i32 top tokens.padding,
    saturating_add_i32 (saturating_add_i32 left tokens.padding) span,
    saturating_add_i32 (saturating_add_i32 top tokens.padding) span⟩
  label := ⟨left, saturating_sub_i32 (saturating_add_i32 top height) tokens.label_height,
    saturating_add_i32 left width, saturating_add_i32 top height⟩
  source := loupe_source pointer
  tokens := tokens

/-- With sizes that are `i32`s there is a layout.
SRC: layout.rs:269-354 -/
theorem layout_loupe_spec (monitor : UiRect) (pointer : Point) {tokens : LoupeLayoutTokens}
    {span width height : Int} (span_eq : tokens.view_span = some span)
    (width_eq : tokens.outer_width = some width) (height_eq : tokens.outer_height = some height) :
    ∃ layout, layout_loupe monitor pointer tokens = some layout ∧
      LoupePlaced monitor pointer tokens width height layout := by
  obtain ⟨left, left_eq, -⟩ := clamp_coordinate_defined
    (loupe_aim (loupe_safe_area monitor tokens) (loupe_source pointer) tokens.gap width height).x
    (loupe_safe_area monitor tokens).left
    (saturating_sub_i32 (loupe_safe_area monitor tokens).right width)
  obtain ⟨top, top_eq, -⟩ := clamp_coordinate_defined
    (loupe_aim (loupe_safe_area monitor tokens) (loupe_source pointer) tokens.gap width height).y
    (loupe_safe_area monitor tokens).top
    (saturating_sub_i32 (loupe_safe_area monitor tokens).bottom height)
  refine ⟨loupe_laid pointer tokens span width height left top, ?_,
    ⟨rfl, left_eq, top_eq, rfl, rfl⟩⟩
  unfold layout_loupe
  rw [width_eq, height_eq, span_eq]
  unfold loupe_aim at left_eq top_eq
  simp only [Option.bind_eq_bind, Option.bind_some] at left_eq top_eq ⊢
  split_ifs at left_eq top_eq ⊢
  all_goals
    rw [left_eq, top_eq]
    rfl

/-! ## The tokens of a DPI -/

/-- A length that is not negative stays so in pixels. -/
theorem px_nonneg (metrics : UiMetrics) {dip : Int} (least : 0 ≤ dip) : 0 ≤ metrics.px dip := by
  have scaled : 0 ≤ dip * metrics.dpi := Int.mul_nonneg least (Int.natCast_nonneg _)
  unfold UiMetrics.px
  simp only
  rw [Int.tdiv_eq_ediv_of_nonneg (by omega)]
  split
  · omega
  · omega

/-- From 6 DPI on, eight units are at least a pixel. -/
theorem px_inset_pos {metrics : UiMetrics} (dpi : 6 ≤ metrics.dpi) : 1 ≤ metrics.px 8 := by
  unfold UiMetrics.px
  simp only
  rw [Int.tdiv_eq_ediv_of_nonneg (by omega)]
  split
  · omega
  · omega

/-- The magnifier's width and height, before they are found to be `i32`s. -/
def loupe_width (tokens : LoupeLayoutTokens) : Int :=
  LOUPE_SOURCE_SPAN * tokens.zoom + tokens.padding * 2

def loupe_height (tokens : LoupeLayoutTokens) : Int := loupe_width tokens + tokens.label_height

/-- SRC: layout.rs:235-245 -/
theorem loupe_sizes {metrics : UiMetrics} (sized : InI32 (loupe_height metrics.loupe_tokens)) :
    (∃ span, metrics.loupe_tokens.view_span = some span) ∧
      metrics.loupe_tokens.outer_width = some (loupe_width metrics.loupe_tokens) ∧
      metrics.loupe_tokens.outer_height = some (loupe_height metrics.loupe_tokens) ∧
      0 ≤ loupe_width metrics.loupe_tokens ∧ 0 ≤ loupe_height metrics.loupe_tokens := by
  have zoom : 2 ≤ metrics.loupe_tokens.zoom := Int.le_max_right _ _
  have padding : 0 ≤ metrics.loupe_tokens.padding := px_nonneg metrics (by omega)
  have label : 0 ≤ metrics.loupe_tokens.label_height := px_nonneg metrics (by omega)
  generalize metrics.loupe_tokens = tokens at *
  unfold loupe_height loupe_width LOUPE_SOURCE_SPAN InI32 at sized
  have span_eq : tokens.view_span = some (31 * tokens.zoom) :=
    i32_of_range (v := 31 * tokens.zoom) (by omega) (by omega)
  have padding_eq : i32 (tokens.padding * 2) = some (tokens.padding * 2) :=
    i32_of_range (by omega) (by omega)
  have width_eq : tokens.outer_width = some (31 * tokens.zoom + tokens.padding * 2) := by
    unfold LoupeLayoutTokens.outer_width
    rw [span_eq, padding_eq]
    exact i32_of_range (by omega) (by omega)
  refine ⟨⟨_, span_eq⟩, width_eq, ?_, ?_, ?_⟩
  · unfold LoupeLayoutTokens.outer_height
    rw [width_eq]
    exact i32_of_range (by omega) (by omega)
  · unfold loupe_width LOUPE_SOURCE_SPAN
    omega
  · unfold loupe_height loupe_width LOUPE_SOURCE_SPAN
    omega

/-! ## The places -/

/-- The half-open rectangle lies inside another. -/
def UiInside (inner outer : UiRect) : Prop :=
  outer.left ≤ inner.left ∧ inner.right ≤ outer.right ∧ outer.top ≤ inner.top ∧
    inner.bottom ≤ outer.bottom

/-- The magnifier fits the safe area. -/
def LoupeFits (safe : UiRect) (width height : Int) : Prop :=
  safe.left + width ≤ safe.right ∧ safe.top + height ≤ safe.bottom

/-- One of the places a gap away from the square ends inside the safe area: on its right, on
its left, below it or above it. -/
def SomePlaceFits (safe source : UiRect) (gap width height : Int) : Prop :=
  source.right + gap + width ≤ safe.right ∨ safe.left ≤ source.left - gap - width ∨
    source.bottom + gap + height ≤ safe.bottom ∨ safe.top ≤ source.top - gap - height

/-- The edges are off the ends of `i32`. -/
def OffTheEnds (rect : UiRect) : Prop :=
  -2147483648 < rect.left ∧ rect.right < 2147483647 ∧ -2147483648 < rect.top ∧
    rect.bottom < 2147483647

section Placed

variable {monitor : UiRect} {pointer : Point} {tokens : LoupeLayoutTokens} {width height : Int}
  {layout : LoupeLayout}

/-- Edges the subtraction and the addition of an inset saturate are `i32`s. -/
theorem safe_area_range (monitor : UiRect) (tokens : LoupeLayoutTokens) :
    (-2147483648 ≤ (loupe_safe_area monitor tokens).left ∧
      (loupe_safe_area monitor tokens).right ≤ 2147483647) ∧
    -2147483648 ≤ (loupe_safe_area monitor tokens).top ∧
      (loupe_safe_area monitor tokens).bottom ≤ 2147483647 := by
  unfold loupe_safe_area saturating_add_i32 saturating_sub_i32
  simp only
  omega

/-- A loupe that fits the safe area is placed inside it. -/
theorem LoupePlaced.inside (placed : LoupePlaced monitor pointer tokens width height layout)
    (width_nonneg : 0 ≤ width) (height_nonneg : 0 ≤ height)
    (fits : LoupeFits (loupe_safe_area monitor tokens) width height) :
    UiInside layout.bounds (loupe_safe_area monitor tokens) := by
  obtain ⟨⟨least_left, most_right⟩, least_top, most_bottom⟩ := safe_area_range monitor tokens
  have across := clamp_inside least_left most_right width_nonneg fits.1 placed.left
  have down := clamp_inside least_top most_bottom height_nonneg fits.2 placed.top
  unfold UiInside
  rw [placed.right, placed.bottom]
  unfold saturating_add_i32
  omega

/-- Apart on the first axis or the second. -/
theorem apart_of_edges {rect other : UiRect}
    (edges : other.right ≤ rect.left ∨ rect.right ≤ other.left ∨ other.bottom ≤ rect.top ∨
      rect.bottom ≤ other.top) : rect.intersects other = false := by
  unfold UiRect.intersects
  apply decide_eq_false
  omega

/-- The edges of the square are `i32`s.
SRC: layout.rs:274-285 -/
theorem loupe_source_range (pointer : Point) :
    InI32 (loupe_source pointer).left ∧ InI32 (loupe_source pointer).right ∧
      InI32 (loupe_source pointer).top ∧ InI32 (loupe_source pointer).bottom := by
  unfold loupe_source saturating_add_i32 saturating_sub_i32 InI32
  simp only
  omega

/-- Where some side has room, the loupe stays off its source. -/
theorem LoupePlaced.apart (placed : LoupePlaced monitor pointer tokens width height layout)
    (width_nonneg : 0 ≤ width) (height_nonneg : 0 ≤ height) (gap_nonneg : 0 ≤ tokens.gap)
    (off_ends : OffTheEnds (loupe_safe_area monitor tokens))
    (place : SomePlaceFits (loupe_safe_area monitor tokens) (loupe_source pointer) tokens.gap
      width height) :
    layout.bounds.intersects layout.source = false := by
  have left_eq := placed.left
  have top_eq := placed.top
  obtain ⟨source_left, source_right, source_top, source_bottom⟩ := loupe_source_range pointer
  obtain ⟨off_left, off_right, off_top, off_bottom⟩ := off_ends
  apply apart_of_edges
  rw [placed.source, placed.right, placed.bottom]
  generalize loupe_safe_area monitor tokens = safe at *
  generalize loupe_source pointer = source at *
  unfold loupe_aim at left_eq top_eq
  simp only at left_eq top_eq
  split_ifs at left_eq top_eq with on_right on_left under on_top
  · exact .inl (clamped_past source_right.1 source_right.2 gap_nonneg width_nonneg off_right
      on_right left_eq)
  · exact .inr (.inl (clamped_short source_left.1 gap_nonneg width_nonneg off_left on_left
      left_eq))
  · exact .inr (.inr (.inl (clamped_past source_bottom.1 source_bottom.2 gap_nonneg height_nonneg
      off_bottom under top_eq)))
  · exact .inr (.inr (.inr (clamped_short source_top.1 gap_nonneg height_nonneg off_top on_top
      top_eq)))
  · -- None of the four ends inside the safe area.
    exfalso
    rcases place with place | place | place | place
    · exact on_right (seems_past source_right.1 gap_nonneg width_nonneg (by omega) place)
    · exact on_left (seems_short source_left.2 gap_nonneg width_nonneg (by omega) place)
    · exact under (seems_past source_bottom.1 gap_nonneg height_nonneg (by omega) place)
    · exact on_top (seems_short source_top.2 gap_nonneg height_nonneg (by omega) place)

end Placed

/-! ## Every pointer, on every monitor -/

/-- The inset of a DPI keeps the safe area off the ends of `i32`; so does a monitor that
stays off them. -/
theorem safe_area_off_ends {monitor : UiRect} {metrics : UiMetrics}
    (left : InI32 monitor.left) (top : InI32 monitor.top) (right : InI32 monitor.right)
    (bottom : InI32 monitor.bottom) (room : 6 ≤ metrics.dpi ∨ OffTheEnds monitor) :
    OffTheEnds (loupe_safe_area monitor metrics.loupe_tokens) := by
  have nonneg : 0 ≤ metrics.px 8 := px_nonneg metrics (by omega)
  unfold OffTheEnds at room ⊢
  unfold loupe_safe_area saturating_add_i32 saturating_sub_i32
  unfold InI32 at left top right bottom
  show -2147483648 < max _ (min (monitor.left + metrics.px 8) _) ∧
    max _ (min (monitor.right - metrics.px 8) _) < 2147483647 ∧
    -2147483648 < max _ (min (monitor.top + metrics.px 8) _) ∧
    max _ (min (monitor.bottom - metrics.px 8) _) < 2147483647
  rcases room with dpi | off_ends
  · have inset := px_inset_pos dpi
    omega
  · omega

/-- The magnifier stands inside the safe area whenever it fits there.  It stands off the square it
magnifies whenever one of the four places beside the square fits, where the inset is a pixel or the
monitor stays off the ends of `i32`.
SRC: layout.rs:262-354 -/
theorem loupe_placed (monitor : UiRect) (pointer : Point) (dpi : Nat)
    (left : InI32 monitor.left) (top : InI32 monitor.top) (right : InI32 monitor.right)
    (bottom : InI32 monitor.bottom)
    (sized : InI32 (loupe_height (UiMetrics.new dpi).loupe_tokens)) :
    ∃ layout, layout_loupe monitor pointer (UiMetrics.new dpi).loupe_tokens = some layout ∧
      layout.source = loupe_source pointer ∧
      (LoupeFits (loupe_safe_area monitor (UiMetrics.new dpi).loupe_tokens)
          (loupe_width (UiMetrics.new dpi).loupe_tokens)
          (loupe_height (UiMetrics.new dpi).loupe_tokens) →
        UiInside layout.bounds (loupe_safe_area monitor (UiMetrics.new dpi).loupe_tokens)) ∧
      (dpi = 0 ∨ 6 ≤ dpi ∨ OffTheEnds monitor →
        SomePlaceFits (loupe_safe_area monitor (UiMetrics.new dpi).loupe_tokens)
          (loupe_source pointer) (UiMetrics.new dpi).loupe_tokens.gap
          (loupe_width (UiMetrics.new dpi).loupe_tokens)
          (loupe_height (UiMetrics.new dpi).loupe_tokens) →
        layout.bounds.intersects layout.source = false) := by
  obtain ⟨⟨span, span_eq⟩, width_eq, height_eq, width_nonneg, height_nonneg⟩ := loupe_sizes sized
  have gap_nonneg : 0 ≤ (UiMetrics.new dpi).loupe_tokens.gap := px_nonneg _ (by omega)
  obtain ⟨layout, laid, placed⟩ :=
    layout_loupe_spec monitor pointer span_eq width_eq height_eq
  refine ⟨layout, laid, placed.source, placed.inside width_nonneg height_nonneg, fun room => ?_⟩
  have inset : 6 ≤ (UiMetrics.new dpi).dpi ∨ OffTheEnds monitor := by
    unfold UiMetrics.new
    rcases room with zero | large | off_ends
    · refine .inl ?_
      rw [if_pos zero]
      show 6 ≤ 96
      omega
    · refine .inl ?_
      rw [if_neg (by omega)]
      exact large
    · exact .inr off_ends
  exact placed.apart width_nonneg height_nonneg gap_nonneg
    (safe_area_off_ends left top right bottom inset)

/-- With the pointer near the corner of the screen the loupe goes to the other side. -/
theorem loupe_placed_in_corner :
    ∃ layout, layout_loupe ⟨0, 0, 1920, 1080⟩ ⟨1900, 1070⟩ (UiMetrics.new 96).loupe_tokens =
        some layout ∧
      UiInside layout.bounds
        (loupe_safe_area ⟨0, 0, 1920, 1080⟩ (UiMetrics.new 96).loupe_tokens) ∧
      layout.bounds.intersects layout.source = false := by
  obtain ⟨layout, laid, -, inside, apart⟩ := loupe_placed ⟨0, 0, 1920, 1080⟩ ⟨1900, 1070⟩ 96
    (by decide) (by decide) (by decide) (by decide) (by decide)
  refine ⟨layout, laid, inside ?_, apart (.inr (.inl (by decide))) (.inr (.inl ?_))⟩
  · unfold LoupeFits
    decide
  · decide

/-- At 5 DPI the inset is no pixel.  In the corner of a monitor that reaches the end of `i32`
the place on the right saturates, seems to fit, and is clamped back over the square. -/
theorem loupe_over_its_square :
    ¬ ∀ (monitor : UiRect) (pointer : Point) (dpi : Nat) (layout : LoupeLayout),
      layout_loupe monitor pointer (UiMetrics.new dpi).loupe_tokens = some layout →
      SomePlaceFits (loupe_safe_area monitor layout.tokens) layout.source layout.tokens.gap
        (loupe_width layout.tokens) (loupe_height layout.tokens) →
      layout.bounds.intersects layout.source = false := by
  intro apart
  have laid := apart ⟨0, 0, 2147483647, 2147483647⟩ ⟨2147483647, 2147483647⟩ 5
    (loupe_laid ⟨2147483647, 2147483647⟩ (UiMetrics.new 5).loupe_tokens 62 62 63 2147483585
      2147483584) (by decide) (.inr (.inl (by decide)))
  exact absurd laid (by decide)

end Captastic.Analysis
