import Captastic.Library.Extrema
import Captastic.Model.Loupe

/-!
# The size badge's layout

`layout_dimension_label` of `captastic-windows/src/overlay/layout.rs`: where the label with a
selection's size stands, among five places beside and in the selection, or at a place clamped into
the monitor where none of them fits.

Plain `i32` and `i64` arithmetic that overflows is `none`; the rest saturates.
-/

set_option autoImplicit false

namespace Captastic.Model

open Captastic.Library

/-- SRC: layout.rs:65-69 -/
structure UiSize where
  width : Int
  height : Int
deriving DecidableEq, Repr

/-- SRC: layout.rs:71-78 -/
inductive DimensionLabelPlacement where
  | Inside
  | Top
  | Bottom
  | Left
  | Right
deriving DecidableEq, Repr

/-- SRC: layout.rs:80-84 -/
structure DimensionLabelLayout where
  bounds : UiRect
  placement : DimensionLabelPlacement
deriving DecidableEq, Repr

/-- SRC: layout.rs:87-99 -/
structure RegionLayoutTokens where
  label_font_height : Int
  label_padding_x : Int
  label_padding_y : Int
  label_corner_radius : Int
  handle_hit_radius : Int
  handle_outer_radius : Int
  handle_inner_radius : Int
  monitor_inset : Int
  selection_gap : Int
  handle_clearance : Int
  inside_hysteresis : Int
deriving DecidableEq, Repr

/-- SRC: layout.rs:102-116 -/
def RegionLayoutTokens.new (metrics : UiMetrics) : RegionLayoutTokens where
  label_font_height := metrics.px 15
  label_padding_x := metrics.px 10
  label_padding_y := metrics.px 5
  label_corner_radius := metrics.px 8
  handle_hit_radius := metrics.px 9
  handle_outer_radius := metrics.px 6
  handle_inner_radius := metrics.px 3
  monitor_inset := metrics.px 8
  selection_gap := metrics.px 8
  handle_clearance := metrics.px 12
  inside_hysteresis := metrics.px 8

/-- SRC: layout.rs:425-427 -/
def UiMetrics.region_tokens (metrics : UiMetrics) : RegionLayoutTokens :=
  RegionLayoutTokens.new metrics

/-- `i32::saturating_mul` -/
def saturating_mul_i32 (a b : Int) : Int := max (-2147483648) (min (a * b) 2147483647)

/-- A value of `i64`, or an overflow. -/
def i64 (v : Int) : Option Int :=
  if -9223372036854775808 ≤ v ∧ v ≤ 9223372036854775807 then some v else none

namespace UiRect

variable (rect other : UiRect)

/-- SRC: layout.rs:43-45 -/
def width : Option Int := (i32 (rect.right - rect.left)).map fun width => max width 1

/-- SRC: layout.rs:47-49 -/
def height : Option Int := (i32 (rect.bottom - rect.top)).map fun height => max height 1

/-- SRC: layout.rs:58-62 -/
def intersection_area : Option Int := do
  let width ← i32 (min rect.right other.right - max rect.left other.left)
  let height ← i32 (min rect.bottom other.bottom - max rect.top other.top)
  i64 (max width 0 * max height 0)

end UiRect

/-- SRC: layout.rs:1076-1084 -/
def placement_tiebreak : DimensionLabelPlacement → Int
  | .Top => 4
  | .Bottom => 3
  | .Right => 2
  | .Left => 1
  | .Inside => 0

/-- SRC: layout.rs:728-733 -/
structure DimensionCandidate where
  layout : DimensionLabelLayout
  obstacle_overlap : Bool
  pointer_overlap : Bool
  clearance : Int
deriving DecidableEq, Repr

/-- The part of the monitor the label may stand on.
SRC: layout.rs:744-755 -/
def label_safe_area (monitor : UiRect) (tokens : RegionLayoutTokens) : Option UiRect := do
  let least ← i32 (tokens.monitor_inset + 1)
  some
    { left := saturating_add_i32 monitor.left tokens.monitor_inset
      top := saturating_add_i32 monitor.top tokens.monitor_inset
      right := max (saturating_sub_i32 monitor.right tokens.monitor_inset)
        (saturating_add_i32 monitor.left least)
      bottom := max (saturating_sub_i32 monitor.bottom tokens.monitor_inset)
        (saturating_add_i32 monitor.top least) }

/-- SRC: layout.rs:756-759 -/
def label_size (requested_size : UiSize) (safe : UiRect) : Option UiSize := do
  let width ← safe.width
  let height ← safe.height
  some ⟨min (max requested_size.width 1) width, min (max requested_size.height 1) height⟩

/-- SRC: layout.rs:760-764 -/
def reentry_margin (previous : Option DimensionLabelPlacement) (tokens : RegionLayoutTokens) :
    Int :=
  if previous = some .Inside ∨ previous = none then 0 else tokens.inside_hysteresis

/-- A side of the selection holds the label with its clearance and the margin. -/
def side_fits (side length margin : Int) (tokens : RegionLayoutTokens) : Bool :=
  decide (side ≥ saturating_add_i32
    (saturating_add_i32 length (saturating_mul_i32 tokens.handle_clearance 2)) margin)

/-- SRC: layout.rs:765-774 -/
def inside_fits (selection : UiRect) (size : UiSize) (margin : Int) (tokens : RegionLayoutTokens) :
    Option Bool := do
  let width ← selection.width
  if side_fits width size.width margin tokens then
    let height ← selection.height
    some (side_fits height size.height margin tokens)
  else some false

/-- The middle of a side of the selection, clamped into the safe area.
SRC: layout.rs:776-791 -/
def centered (first side length low high : Int) : Option Int := do
  let spare ← i32 (side - length)
  clamp_coordinate (saturating_add_i32 first (spare.tdiv 2)) low (saturating_sub_i32 high length)

/-- The rectangle of the label's size at a corner. -/
def label_at (left top : Int) (size : UiSize) : UiRect :=
  ⟨left, top, saturating_add_i32 left size.width, saturating_add_i32 top size.height⟩

section Candidates

variable (safe selection : UiRect) (reserved : List UiRect) (pointer_exclusion : Option UiRect)

/-- SRC: layout.rs:914-940 -/
def push_dimension_candidate (candidates : List DimensionCandidate) (layout : DimensionLabelLayout)
    (clearance : Int) : List DimensionCandidate :=
  if layout.bounds.left < safe.left ∨ layout.bounds.top < safe.top ∨
      layout.bounds.right > safe.right ∨ layout.bounds.bottom > safe.bottom ∨
      (layout.placement ≠ .Inside ∧ layout.bounds.intersects selection = true) then
    candidates
  else
    candidates ++
      [{ layout := layout
         obstacle_overlap := reserved.any fun obstacle => layout.bounds.intersects obstacle
         pointer_overlap := pointer_exclusion.any fun pointer => layout.bounds.intersects pointer
         clearance := max clearance 0 }]

/-- The places beside and in the selection that fit, with the label's left edge where it is centred
across and its top edge where it is centred down.
SRC: layout.rs:793-896 -/
def dimension_candidates (size : UiSize) (inside : Bool) (horizontal_left vertical_top : Int)
    (tokens : RegionLayoutTokens) : List DimensionCandidate :=
  let push := push_dimension_candidate safe selection reserved pointer_exclusion
  let candidates :=
    if inside then
      push [] ⟨label_at horizontal_left (saturating_add_i32 selection.top tokens.handle_clearance)
        size, .Inside⟩ (2147483647 / 2)
    else []
  let top := saturating_sub_i32 (saturating_sub_i32 selection.top tokens.selection_gap) size.height
  let candidates := push candidates ⟨label_at horizontal_left top size, .Top⟩
    (saturating_sub_i32 top safe.top)
  let bottom := saturating_add_i32 selection.bottom tokens.selection_gap
  let candidates := push candidates ⟨label_at horizontal_left bottom size, .Bottom⟩
    (saturating_sub_i32 safe.bottom (saturating_add_i32 bottom size.height))
  let left := saturating_sub_i32 (saturating_sub_i32 selection.left tokens.selection_gap) size.width
  let candidates := push candidates ⟨label_at left vertical_top size, .Left⟩
    (saturating_sub_i32 left safe.left)
  let right := saturating_add_i32 selection.right tokens.selection_gap
  push candidates ⟨label_at right vertical_top size, .Right⟩
    (saturating_sub_i32 safe.right (saturating_add_i32 right size.width))

end Candidates

/-- `(bool, bool)` in order. -/
def compare_collisions (a b : DimensionCandidate) : Ordering :=
  (compare a.obstacle_overlap b.obstacle_overlap).then
    (compare a.pointer_overlap b.pointer_overlap)

/-- The clearance, and the placement where that is tied.
SRC: layout.rs:967-973 -/
def compare_clearances (a b : DimensionCandidate) : Ordering :=
  (compare a.clearance b.clearance).then
    (compare (placement_tiebreak a.layout.placement) (placement_tiebreak b.layout.placement))

/-- SRC: layout.rs:942-975 -/
def select_dimension_candidate (candidates : List DimensionCandidate)
    (previous : Option DimensionLabelPlacement) : Option DimensionCandidate := do
  let best ← min_by compare_collisions candidates
  let viable := candidates.filter fun candidate =>
    (candidate.obstacle_overlap, candidate.pointer_overlap) =
      (best.obstacle_overlap, best.pointer_overlap)
  let inside := viable.find? fun candidate => candidate.layout.placement = .Inside
  let unmoved := previous.bind fun previous =>
    viable.find? fun candidate => candidate.layout.placement = previous
  inside <|> unmoved <|> max_by compare_clearances viable

/-! ## The fallback -/

/-- A clamped place, and what counts against it. -/
structure ClampedLabel where
  layout : DimensionLabelLayout
  selection_area : Int
  obstacle_area : Int
  pointer_area : Int
  changed : Bool
  order : Int
deriving DecidableEq, Repr

/-- SRC: layout.rs:1050-1062 -/
def compare_clamped (a b : ClampedLabel) : Ordering :=
  (compare a.selection_area b.selection_area).then <|
    (compare a.obstacle_area b.obstacle_area).then <|
      (compare a.pointer_area b.pointer_area).then <|
        (compare a.changed b.changed).then (compare a.order b.order)

/-- The pixels of the obstacles under a label, added up. -/
def obstacle_area (bounds : UiRect) (reserved : List UiRect) : Option Int :=
  reserved.foldlM (fun total obstacle => do i64 (total + (← bounds.intersection_area obstacle))) 0

/-- The pixels of the pointer's surroundings under a label. -/
def pointer_area (bounds : UiRect) (pointer_exclusion : Option UiRect) : Option Int :=
  pointer_exclusion.elim (some 0) bounds.intersection_area

/-- SRC: layout.rs:1029-1049 -/
def clamped_label (safe selection : UiRect) (size : UiSize) (reserved : List UiRect)
    (pointer_exclusion : Option UiRect) (previous : Option DimensionLabelPlacement)
    (placement : DimensionLabelPlacement) (left top : Int) : Option ClampedLabel := do
  let left ← clamp_coordinate left safe.left (saturating_sub_i32 safe.right size.width)
  let top ← clamp_coordinate top safe.top (saturating_sub_i32 safe.bottom size.height)
  let bounds := label_at left top size
  let selection_area ← bounds.intersection_area selection
  let obstacle_area ← obstacle_area bounds reserved
  let pointer_area ← pointer_area bounds pointer_exclusion
  some
    { layout := ⟨bounds, placement⟩
      selection_area := selection_area
      obstacle_area := obstacle_area
      pointer_area := pointer_area
      changed := previous ≠ some placement
      order := -placement_tiebreak placement }

/-- SRC: layout.rs:977-1066 -/
def fallback_dimension_label (safe selection : UiRect) (size : UiSize) (reserved : List UiRect)
    (pointer_exclusion : Option UiRect) (previous : Option DimensionLabelPlacement) (gap : Int) :
    Option DimensionLabelLayout := do
  let width ← selection.width
  let centered_left ← centered selection.left width size.width safe.left safe.right
  let height ← selection.height
  let centered_top ← centered selection.top height size.height safe.top safe.bottom
  let clamped := clamped_label safe selection size reserved pointer_exclusion previous
  let top ← clamped .Top centered_left
    (saturating_sub_i32 (saturating_sub_i32 selection.top gap) size.height)
  let bottom ← clamped .Bottom centered_left (saturating_add_i32 selection.bottom gap)
  let left ← clamped .Left
    (saturating_sub_i32 (saturating_sub_i32 selection.left gap) size.width) centered_top
  let right ← clamped .Right (saturating_add_i32 selection.right gap) centered_top
  match min_by compare_clamped [top, bottom, left, right] with
  | some best => some best.layout
  | none => some ⟨safe, .Top⟩

/-- The safe area, the label's size, and the places that fit.
SRC: layout.rs:744-896 -/
def fitting_candidates (monitor selection : UiRect) (requested_size : UiSize)
    (reserved : List UiRect) (pointer_exclusion : Option UiRect)
    (previous : Option DimensionLabelPlacement) (tokens : RegionLayoutTokens) :
    Option (UiRect × UiSize × List DimensionCandidate) := do
  let safe ← label_safe_area monitor tokens
  let size ← label_size requested_size safe
  let inside ← inside_fits selection size (reentry_margin previous tokens) tokens
  let width ← selection.width
  let horizontal_left ← centered selection.left width size.width safe.left safe.right
  let height ← selection.height
  let vertical_top ← centered selection.top height size.height safe.top safe.bottom
  some (safe, size, dimension_candidates safe selection reserved pointer_exclusion size inside
    horizontal_left vertical_top tokens)

/-- SRC: layout.rs:735-911 -/
def layout_dimension_label (monitor selection : UiRect) (requested_size : UiSize)
    (reserved : List UiRect) (pointer_exclusion : Option UiRect)
    (previous : Option DimensionLabelPlacement) (tokens : RegionLayoutTokens) :
    Option DimensionLabelLayout := do
  let (safe, size, candidates) ← fitting_candidates monitor selection requested_size reserved
    pointer_exclusion previous tokens
  match select_dimension_candidate candidates previous with
  | some candidate => some candidate.layout
  | none =>
    fallback_dimension_label safe selection size reserved pointer_exclusion previous
      tokens.selection_gap

end Captastic.Model
