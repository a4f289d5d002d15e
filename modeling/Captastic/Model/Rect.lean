import Mathlib.Tactic.Common

/-!
# Pixel rectangles

`Rect` of `captastic-core/src/display.rs`: an `i32` origin and `u32` sides.  The
fields are integers that carry the range of their machine type, so every `Rect` is
one the program can hold; edges are `i64` sums of such values and never leave the
range of an `i64`, so they are plain integers here.

`Rect.try_new` is the four `try_from(..).ok()?` conversions with which
`from_edges` and `intersection` end.
-/

set_option autoImplicit false

namespace Captastic.Model

/-- The values of an `i32`. -/
def InI32 (v : Int) : Prop := -2147483648 ≤ v ∧ v ≤ 2147483647

/-- The values of a `u32`. -/
def InU32 (v : Nat) : Prop := v ≤ 4294967295

instance (v : Int) : Decidable (InI32 v) := inferInstanceAs (Decidable (_ ∧ _))

instance (v : Nat) : Decidable (InU32 v) := inferInstanceAs (Decidable (_ ≤ _))

/-- Zero is an `i32`. -/
theorem in_i32_zero : InI32 0 := by decide

/-- `Rect`: a rectangle of pixels, right and bottom exclusive.
SRC: display.rs:28-34 -/
structure Rect where
  x : Int
  y : Int
  width : Nat
  height : Nat
  x_i32 : InI32 x := by decide
  y_i32 : InI32 y := by decide
  width_u32 : InU32 width := by decide
  height_u32 : InU32 height := by decide
deriving DecidableEq

namespace Rect

/-- The pixel at the origin. -/
def origin_pixel : Rect where
  x := 0
  y := 0
  x_i32 := in_i32_zero
  y_i32 := in_i32_zero
  width := 1
  height := 1

variable (r s : Rect)

/-- SRC: display.rs:37-39 -/
def right : Int := r.x + r.width

/-- SRC: display.rs:41-43 -/
def bottom : Int := r.y + r.height

/-- The pixel `(px, py)` is inside the rectangle.
SRC: display.rs:94-98 -/
def contains (px py : Int) : Prop :=
  r.x ≤ px ∧ px < r.right ∧ r.y ≤ py ∧ py < r.bottom

instance (px py : Int) : Decidable (r.contains px py) := inferInstanceAs (Decidable (_ ∧ _))

/-- The conversions `i32::try_from(left).ok()?` and `u32::try_from(width).ok()?`. -/
def try_new (left top width height : Int) : Option Rect :=
  if h : InI32 left ∧ InI32 top ∧ (0 ≤ width ∧ InU32 width.toNat) ∧
      (0 ≤ height ∧ InU32 height.toNat) then
    some { x := left, y := top, width := width.toNat, height := height.toNat,
           x_i32 := h.1, y_i32 := h.2.1, width_u32 := h.2.2.1.2, height_u32 := h.2.2.2.2 }
  else none

/-- The rectangle with the half-open edges `[left, right) × [top, bottom)`.
SRC: display.rs:52-62 -/
def from_edges (left top right bottom : Int) : Option Rect :=
  if right ≤ left ∨ bottom ≤ top then none
  else try_new left top (right - left) (bottom - top)

/-- SRC: display.rs:100-114 -/
def intersection : Option Rect :=
  let left := max r.x s.x
  let top := max r.y s.y
  let right := min r.right s.right
  let bottom := min r.bottom s.bottom
  if left ≥ right ∨ top ≥ bottom then none
  else try_new left top (right - left) (bottom - top)

/-- The rectangle has a pixel. -/
def NonEmpty : Prop := 0 < r.width ∧ 0 < r.height

instance : Decidable r.NonEmpty := inferInstanceAs (Decidable (_ ∧ _))

/-- Every pixel of `r` is one of `s`. -/
def Within : Prop := s.x ≤ r.x ∧ r.right ≤ s.right ∧ s.y ≤ r.y ∧ r.bottom ≤ s.bottom

instance : Decidable (r.Within s) := inferInstanceAs (Decidable (_ ∧ _))

/-! ## What the constructors return -/

variable {r s}

/-- Rectangles with the same corner and sides are one. -/
theorem ext_fields (hx : r.x = s.x) (hy : r.y = s.y) (hw : r.width = s.width)
    (hh : r.height = s.height) : r = s := by
  cases r
  cases s
  simp_all

/-- The ranges of the fields, as inequalities. -/
theorem ranges (r : Rect) :
    (-2147483648 ≤ r.x ∧ r.x ≤ 2147483647) ∧ (-2147483648 ≤ r.y ∧ r.y ≤ 2147483647) ∧
      r.width ≤ 4294967295 ∧ r.height ≤ 4294967295 :=
  ⟨r.x_i32, r.y_i32, r.width_u32, r.height_u32⟩

/-- A corner and sides in range make a rectangle. -/
theorem try_new_of_range {left top width height : Int}
    (hlt : (-2147483648 ≤ left ∧ left ≤ 2147483647) ∧ -2147483648 ≤ top ∧ top ≤ 2147483647)
    (hwh : (0 ≤ width ∧ width ≤ 4294967295) ∧ 0 ≤ height ∧ height ≤ 4294967295) :
    try_new left top width height = some
      { x := left, y := top, width := width.toNat, height := height.toNat, x_i32 := hlt.1,
        y_i32 := hlt.2, width_u32 := by simp only [InU32]; omega,
        height_u32 := by simp only [InU32]; omega } := by
  unfold try_new
  rw [dif_pos]
  exact ⟨hlt.1, hlt.2, ⟨hwh.1.1, by simp only [InU32]; omega⟩, hwh.2.1,
    by simp only [InU32]; omega⟩

/-- A rectangle that is made has the corner and sides asked for. -/
theorem try_new_eq_some {left top width height : Int} {t : Rect}
    (h : try_new left top width height = some t) :
    t.x = left ∧ t.y = top ∧ (t.width : Int) = width ∧ (t.height : Int) = height := by
  unfold try_new at h
  split at h
  · rename_i hc
    obtain rfl := Option.some.inj h
    exact ⟨rfl, rfl, Int.toNat_of_nonneg hc.2.2.1.1, Int.toNat_of_nonneg hc.2.2.2.1⟩
  · cases h

/-- A rectangle of edges is non-empty and has exactly the edges it was given. -/
theorem from_edges_eq_some {left top right bottom : Int} {t : Rect}
    (h : from_edges left top right bottom = some t) :
    t.x = left ∧ t.y = top ∧ t.right = right ∧ t.bottom = bottom ∧ t.NonEmpty := by
  unfold from_edges at h
  split at h
  · cases h
  · obtain ⟨hx, hy, hw, hh⟩ := try_new_eq_some h
    simp only [Rect.right, Rect.bottom, NonEmpty]
    omega

/-- Edges in order and in range make a rectangle. -/
theorem from_edges_isSome {left top right bottom : Int} (hw : left < right) (hh : top < bottom)
    (hlt : (-2147483648 ≤ left ∧ left ≤ 2147483647) ∧ -2147483648 ≤ top ∧ top ≤ 2147483647)
    (hwh : right - left ≤ 4294967295 ∧ bottom - top ≤ 4294967295) :
    ∃ t, from_edges left top right bottom = some t := by
  unfold from_edges
  rw [if_neg (by omega), try_new_of_range hlt (by omega)]
  exact ⟨_, rfl⟩

/-- An intersection is non-empty and has the inner edges of the two. -/
theorem intersection_eq_some {t : Rect} (h : r.intersection s = some t) :
    t.x = max r.x s.x ∧ t.y = max r.y s.y ∧ t.right = min r.right s.right ∧
      t.bottom = min r.bottom s.bottom ∧ t.NonEmpty := by
  unfold intersection at h
  simp only at h
  split at h
  · cases h
  · obtain ⟨hx, hy, hw, hh⟩ := try_new_eq_some h
    simp only [Rect.right, Rect.bottom, NonEmpty] at *
    omega

/-- The pixels of an intersection are the common ones. -/
theorem contains_intersection {t : Rect} (h : r.intersection s = some t) (px py : Int) :
    t.contains px py ↔ r.contains px py ∧ s.contains px py := by
  obtain ⟨hx, hy, hr, hb, -⟩ := intersection_eq_some h
  simp only [contains, hx, hy, hr, hb]
  omega

/-- Two rectangles without an intersection share no pixel. -/
theorem not_contains_of_intersection_eq_none (h : r.intersection s = none) (px py : Int)
    (hr : r.contains px py) : ¬ s.contains px py := by
  intro hs
  have hrr := r.ranges
  have hsr := s.ranges
  unfold intersection at h
  simp only at h
  split at h
  · simp only [contains] at hr hs
    omega
  · simp only [contains, Rect.right, Rect.bottom] at *
    rw [try_new_of_range (by omega) (by omega)] at h
    cases h

/-- An intersection lies within its second argument. -/
theorem within_of_intersection {t : Rect} (h : r.intersection s = some t) : t.Within s := by
  obtain ⟨hx, hy, hr, hb, -⟩ := intersection_eq_some h
  simp only [Within]
  omega

/-- A point of a rectangle is one of whatever the rectangle is within. -/
theorem Within.contains {px py : Int} (h : r.Within s) (hp : r.contains px py) :
    s.contains px py := by
  simp only [Within, Rect.contains] at *
  omega

end Rect

end Captastic.Model
