import Captastic.Model.Animation

/-!
# The box of pixels that changed

`changed_box` scans two frames row by row.  It finds nothing exactly when every pixel
keeps its colour, and the box it finds lies inside the picture and covers every pixel
that does not (`changed_box_spec`).
-/

set_option autoImplicit false

namespace Captastic.Analysis

open Captastic.Library Captastic.Model

/-- The colour bytes of the pixel `(x, y)`, without alpha. -/
def rgb_at (width : Nat) (b : List Byte) (x y : Nat) : List Byte :=
  slice_at b (cell_at (width * 4) 4 x y) 3

/-- The pixel `(x, y)` lies in the box. -/
def Box.Covers (box : Box) (x y : Nat) : Prop :=
  (box.left ≤ x ∧ x < box.right) ∧ box.top ≤ y ∧ y < box.bottom

/-- The box is one of a `width` by `height` picture. -/
structure Box.Fits (box : Box) (width height : Nat) : Prop where
  left_lt : box.left < box.right
  right_le : box.right ≤ width
  top_lt : box.top < box.bottom
  bottom_le : box.bottom ≤ height

/-! ## One row -/

/-- The columns of a row that differ lie between the first and the last found.
SRC: animation.rs:226-233 -/
theorem changed_columns_spec (before after : List Byte) (width : Nat) :
    ((changed_columns before after width).1 = none →
      ∀ x, x < width → slice_at before (x * 4) 3 = slice_at after (x * 4) 3) ∧
    ∀ first, (changed_columns before after width).1 = some first →
      (first ≤ (changed_columns before after width).2 ∧
        (changed_columns before after width).2 < width ∧
        slice_at before ((changed_columns before after width).2 * 4) 3 ≠
          slice_at after ((changed_columns before after width).2 * 4) 3) ∧
      ∀ x, x < width → slice_at before (x * 4) 3 ≠ slice_at after (x * 4) 3 →
        first ≤ x ∧ x ≤ (changed_columns before after width).2 := by
  induction width with
  | zero => simp [changed_columns]
  | succ width ih =>
      have hstep : changed_columns before after (width + 1) =
          if slice_at before (width * 4) 3 ≠ slice_at after (width * 4) 3 then
            (some ((changed_columns before after width).1.getD width), width)
          else changed_columns before after width := by
        simp only [changed_columns, List.range_succ, List.foldl_append, List.foldl_cons,
          List.foldl_nil]
      rw [hstep]
      obtain ⟨hnone, hsome⟩ := ih
      by_cases hdiff : slice_at before (width * 4) 3 ≠ slice_at after (width * 4) 3
      · rw [if_pos hdiff]
        refine ⟨by simp, ?_⟩
        rintro first ⟨⟩
        cases hfound : (changed_columns before after width).1 with
        | none =>
            refine ⟨⟨le_refl _, Nat.lt_succ_self _, hdiff⟩, fun x hx hne => ?_⟩
            rcases Nat.lt_succ_iff_lt_or_eq.mp hx with hlt | rfl
            · exact absurd (hnone hfound x hlt) hne
            · exact ⟨le_refl _, le_refl _⟩
        | some first =>
            obtain ⟨⟨hle, hlt, -⟩, hall⟩ := hsome first hfound
            refine ⟨⟨by simp only [Option.getD_some]; omega, Nat.lt_succ_self _, hdiff⟩,
              fun x hx hne => ?_⟩
            rcases Nat.lt_succ_iff_lt_or_eq.mp hx with hx' | rfl
            · exact ⟨(hall x hx' hne).1, by omega⟩
            · exact ⟨by simp only [Option.getD_some]; omega, le_refl _⟩
      · rw [if_neg hdiff]
        rw [not_not] at hdiff
        refine ⟨fun h x hx => ?_, fun first hfirst => ?_⟩
        · rcases Nat.lt_succ_iff_lt_or_eq.mp hx with hlt | rfl
          · exact hnone h x hlt
          · exact hdiff
        · obtain ⟨⟨hle, hlt, hat⟩, hall⟩ := hsome first hfirst
          refine ⟨⟨hle, by omega, hat⟩, fun x hx hne => ?_⟩
          rcases Nat.lt_succ_iff_lt_or_eq.mp hx with hlt | rfl
          · exact hall x hlt hne
          · exact absurd hdiff hne

/-! ## All rows -/

section Frames

variable (previous current : List Byte) (width : Nat)

/-- A pixel read through its row.
SRC: animation.rs:218-222 -/
theorem slice_at_row (b : List Byte) {x : Nat} (y : Nat) (hx : x < width) :
    slice_at (slice_at b (y * (width * 4)) (width * 4)) (x * 4) 3 = rgb_at width b x y := by
  rw [slice_at_slice_at b (by omega), rgb_at, cell_at]

/-- What the scan makes of one more row.
SRC: animation.rs:217-250 -/
theorem changed_box_succ (height : Nat) :
    changed_box previous current width (height + 1) =
      let found := changed_box previous current width height
      let before := slice_at previous (height * (width * 4)) (width * 4)
      let after := slice_at current (height * (width * 4)) (width * 4)
      if before = after then found
      else
        match changed_columns before after width with
        | (none, _) => found
        | (some first, last) => some (extend_box found first (last + 1) height) := by
  rw [changed_box, List.range_succ, List.foldl_append, List.foldl_cons, List.foldl_nil]
  rfl

variable {width} in
/-- A box extended by a row below it is one of the picture with that row, and covers what it
covered and the row's changes.
SRC: animation.rs:236-249 -/
theorem extend_box_spec {found : Option Box} {first last height : Nat}
    (hfound : ∀ box, found = some box → Box.Fits box width height) (hle : first ≤ last)
    (hlt : last < width) :
    Box.Fits (extend_box found first (last + 1) height) width (height + 1) ∧
      (∀ box, found = some box → ∀ x y, Box.Covers box x y →
        Box.Covers (extend_box found first (last + 1) height) x y) ∧
      ∀ x, first ≤ x → x ≤ last →
        Box.Covers (extend_box found first (last + 1) height) x height := by
  cases found with
  | none =>
      refine ⟨⟨?_, ?_, ?_, ?_⟩, by simp, fun x hfirst hlast => ?_⟩ <;>
        simp only [extend_box, Box.Covers] <;> omega
  | some found =>
      obtain ⟨h₁, h₂, h₃, h₄⟩ := hfound found rfl
      refine ⟨⟨?_, ?_, ?_, ?_⟩, ?_, fun x hfirst hlast => ?_⟩
      · simp only [extend_box]; omega
      · simp only [extend_box]; omega
      · simp only [extend_box]; omega
      · simp only [extend_box]; omega
      · rintro box ⟨⟩ x y hxy
        simp only [extend_box, Box.Covers] at hxy ⊢
        omega
      · simp only [extend_box, Box.Covers]
        omega

/-- **The changed box** is inside the picture and covers every pixel whose colour changed;
there is one exactly when some colour changed.
SRC: animation.rs:212-252 -/
theorem changed_box_spec (height : Nat) :
    (changed_box previous current width height = none →
      ∀ x y, x < width → y < height → rgb_at width previous x y = rgb_at width current x y) ∧
    ∀ box, changed_box previous current width height = some box →
      Box.Fits box width height ∧
        (∃ x y, x < width ∧ y < height ∧ rgb_at width previous x y ≠ rgb_at width current x y) ∧
        ∀ x y, x < width → y < height →
          rgb_at width previous x y ≠ rgb_at width current x y → Box.Covers box x y := by
  induction height with
  | zero => simp [changed_box]
  | succ height ih =>
      obtain ⟨hnone, hsome⟩ := ih
      have hlift : ∀ {box : Box}, Box.Fits box width height → Box.Fits box width (height + 1) :=
        fun h => ⟨h.left_lt, h.right_le, h.top_lt, Nat.le_succ_of_le h.bottom_le⟩
      -- A row without a change leaves the box as it was.
      have hkeep : (∀ x, x < width →
            rgb_at width previous x height = rgb_at width current x height) →
          (changed_box previous current width height = none →
            ∀ x y, x < width → y < height + 1 →
              rgb_at width previous x y = rgb_at width current x y) ∧
          ∀ box, changed_box previous current width height = some box →
            Box.Fits box width (height + 1) ∧
              (∃ x y, x < width ∧ y < height + 1 ∧
                rgb_at width previous x y ≠ rgb_at width current x y) ∧
              ∀ x y, x < width → y < height + 1 →
                rgb_at width previous x y ≠ rgb_at width current x y → Box.Covers box x y := by
        intro hrow
        refine ⟨fun h x y hx hy => ?_, fun box hbox => ⟨hlift (hsome box hbox).1, ?_, ?_⟩⟩
        · rcases Nat.lt_succ_iff_lt_or_eq.mp hy with hlt | rfl
          · exact hnone h x y hx hlt
          · exact hrow x hx
        · obtain ⟨x, y, hx, hy, hne⟩ := (hsome box hbox).2.1
          exact ⟨x, y, hx, Nat.lt_succ_of_lt hy, hne⟩
        · intro x y hx hy hne
          rcases Nat.lt_succ_iff_lt_or_eq.mp hy with hlt | rfl
          · exact (hsome box hbox).2.2 x y hx hlt hne
          · exact absurd (hrow x hx) hne
      rw [changed_box_succ]
      simp only
      split
      · rename_i hsame
        refine hkeep fun x hx => ?_
        rw [← slice_at_row width previous height hx, hsame, slice_at_row width current height hx]
      · have hcols := changed_columns_spec (slice_at previous (height * (width * 4)) (width * 4))
          (slice_at current (height * (width * 4)) (width * 4)) width
        split
        · rename_i last hfound
          rw [hfound] at hcols
          refine hkeep fun x hx => ?_
          rw [← slice_at_row width previous height hx, ← slice_at_row width current height hx]
          exact hcols.1 rfl x hx
        · rename_i first last hfound
          rw [hfound] at hcols
          obtain ⟨⟨hle, hlt, hat⟩, hall⟩ := hcols.2 first rfl
          refine ⟨by simp, ?_⟩
          rintro box ⟨⟩
          obtain ⟨hfits, hold, hnew⟩ := extend_box_spec (fun box hbox => (hsome box hbox).1) hle hlt
          refine ⟨hfits, ⟨last, height, hlt, Nat.lt_succ_self _, ?_⟩, fun x y hx hy hne => ?_⟩
          · rwa [← slice_at_row width previous height hlt, ← slice_at_row width current height hlt]
          rcases Nat.lt_succ_iff_lt_or_eq.mp hy with hlt' | rfl
          · cases hbox : changed_box previous current width height with
            | none => exact absurd (hnone hbox x y hx hlt') hne
            | some found =>
                rw [hbox] at hold
                exact hold found rfl x y ((hsome found hbox).2.2 x y hx hlt' hne)
          · rw [← slice_at_row width previous y hx, ← slice_at_row width current y hx] at hne
            obtain ⟨hfirst, hlast⟩ := hall x hx hne
            exact hnew x hfirst hlast

end Frames

end Captastic.Analysis
