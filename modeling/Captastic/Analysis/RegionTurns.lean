import Captastic.Analysis.OverlayRegion
import Captastic.Analysis.SnapLaws
import Captastic.Analysis.UprightTexture
import Captastic.Model.RememberedRegion
import Mathlib.Algebra.Order.Field.Basic
import Mathlib.Tactic.FieldSimp
import Mathlib.Tactic.Linarith

/-!
# A remembered region follows its panel

A region is remembered by the display it was made on, and restored on the display as it is turned
now.  In a picture of the panel, turning takes a box of pixels to a box (`turned_box`) that shows
the same texels (`panel_pixels_turned`), and `restore_region_for_display_change`, which carries the
region's middle, comes to that box (`restored_region_eq`).  It does so wherever the pixels have
`i32` coordinates; beyond these the corner saturates (`far_corner_saturates`).
-/

set_option autoImplicit false

namespace Captastic.Analysis

open Captastic.Library Captastic.Model

/-! ## Turning a picture -/

/-- A box of pixels in a picture. -/
structure PixelBox where
  left : Nat
  top : Nat
  width : Nat
  height : Nat
deriving DecidableEq

/-- The positions in a box. -/
def PixelBox.positions (box : PixelBox) : Set (Nat × Nat) :=
  {p | (box.left ≤ p.1 ∧ p.1 < box.left + box.width) ∧
    box.top ≤ p.2 ∧ p.2 < box.top + box.height}

/-- A box with a pixel, in a picture of these sides. -/
structure PixelBox.In (box : PixelBox) (sides : Nat × Nat) : Prop where
  nonempty : 0 < box.width ∧ 0 < box.height
  columns : box.left + box.width ≤ sides.1
  rows : box.top + box.height ≤ sides.2

/-- By how much a picture turns from one rotation to another. -/
def turn_between (previous current : Nat) : Nat := (current + 360 - previous) % 360

/-- Where a pixel goes when its picture, of these sides, is turned. -/
def turned_pixel (turn : Nat) (sides pixel : Nat × Nat) : Nat × Nat :=
  if turn = 90 then (sides.2 - 1 - pixel.2, pixel.1)
  else if turn = 180 then (sides.1 - 1 - pixel.1, sides.2 - 1 - pixel.2)
  else if turn = 270 then (pixel.2, sides.1 - 1 - pixel.1)
  else pixel

/-- Where a box goes. -/
def turned_box (turn : Nat) (sides : Nat × Nat) (box : PixelBox) : PixelBox :=
  if turn = 90 then ⟨sides.2 - box.top - box.height, box.left, box.height, box.width⟩
  else if turn = 180 then
    ⟨sides.1 - box.left - box.width, sides.2 - box.top - box.height, box.width, box.height⟩
  else if turn = 270 then ⟨box.top, sides.1 - box.left - box.width, box.height, box.width⟩
  else box

section Turns

variable {panel : Nat × Nat} {previous current : Nat} {box : PixelBox}

/-- The turn from one rotation to another is a rotation. -/
theorem turn_between_is_rotation (was : IsRotation previous) (is : IsRotation current) :
    IsRotation (turn_between previous current) := by
  rcases was with rfl | rfl | rfl | rfl <;> rcases is with rfl | rfl | rfl | rfl <;>
    simp [turn_between, IsRotation]

/-- The sides of a panel's picture, as it is turned. -/
def sides_of (panel : Nat × Nat) (rotation : Nat) : Nat × Nat :=
  dimensions_after_rotation panel.1 panel.2 rotation

/-- Turning a display between two rotations gives the sides it has under the second. -/
theorem sides_of_turn (was : IsRotation previous) (is : IsRotation current) :
    sides_of (sides_of panel previous) (turn_between previous current) =
      sides_of panel current := by
  rcases was with rfl | rfl | rfl | rfl <;> rcases is with rfl | rfl | rfl | rfl <;> rfl

/-- A box of the display is one of the turned display, when it is turned along. -/
theorem turned_box_in (was : IsRotation previous) (is : IsRotation current)
    (inside : box.In (sides_of panel previous)) :
    (turned_box (turn_between previous current) (sides_of panel previous) box).In
      (sides_of panel current) := by
  obtain ⟨⟨wide, high⟩, columns, rows⟩ := inside
  rcases was with rfl | rfl | rfl | rfl <;> rcases is with rfl | rfl | rfl | rfl <;>
    simp [sides_of, dimensions_after_rotation] at columns rows <;>
    refine ⟨?_, ?_, ?_⟩ <;>
    simp [turn_between, turned_box, sides_of, dimensions_after_rotation] <;> omega

/-- **Away and back** is nowhere. -/
theorem turned_box_back (was : IsRotation previous) (is : IsRotation current)
    (inside : box.In (sides_of panel previous)) :
    turned_box (turn_between current previous) (sides_of panel current)
      (turned_box (turn_between previous current) (sides_of panel previous) box) = box := by
  obtain ⟨-, columns, rows⟩ := inside
  obtain ⟨left, top, width, height⟩ := box
  rcases was with rfl | rfl | rfl | rfl <;> rcases is with rfl | rfl | rfl | rfl <;>
    simp [sides_of, dimensions_after_rotation] at columns rows <;>
    simp [turn_between, turned_box, sides_of, dimensions_after_rotation] <;> omega

/-- A pixel of the box is one of the turned box. -/
theorem turned_pixel_mem {turn : Nat} {sides pixel : Nat × Nat} (turns : IsRotation turn)
    (inside : box.In sides) (member : pixel ∈ box.positions) :
    turned_pixel turn sides pixel ∈ (turned_box turn sides box).positions := by
  obtain ⟨-, columns, rows⟩ := inside
  obtain ⟨across, down⟩ := member
  rcases turns with rfl | rfl | rfl | rfl <;>
    simp [turned_pixel, turned_box, PixelBox.positions] <;> omega

/-- A pixel shows the same texel wherever it goes. -/
theorem upright_turned {pixel : Nat × Nat} (was : IsRotation previous) (is : IsRotation current)
    (inside : pixel ∈ Positions (sides_of panel previous)) :
    upright current panel.1 panel.2
        (turned_pixel (turn_between previous current) (sides_of panel previous) pixel) =
      upright previous panel.1 panel.2 pixel := by
  obtain ⟨across, down⟩ := inside
  rcases was with rfl | rfl | rfl | rfl <;> rcases is with rfl | rfl | rfl | rfl <;>
    simp [sides_of, dimensions_after_rotation] at across down <;>
    simp [turn_between, turned_pixel, upright, sides_of, dimensions_after_rotation,
      Prod.ext_iff] <;>
    omega

/-- The texels of a panel that a box shows. -/
def panel_pixels (panel : Nat × Nat) (rotation : Nat) (box : PixelBox) : Set (Nat × Nat) :=
  Set.image (upright rotation panel.1 panel.2) box.positions

/-- A pixel of a box of the display is one of the display. -/
theorem PixelBox.In.position {sides pixel : Nat × Nat} (inside : box.In sides)
    (member : pixel ∈ box.positions) : pixel ∈ Positions sides := by
  obtain ⟨-, columns, rows⟩ := inside
  obtain ⟨across, down⟩ := member
  exact ⟨by omega, by omega⟩

/-- The box covers the same pixels of the panel after the turn. -/
theorem panel_pixels_subset (was : IsRotation previous) (is : IsRotation current)
    (inside : box.In (sides_of panel previous)) :
    panel_pixels panel previous box ⊆ panel_pixels panel current
      (turned_box (turn_between previous current) (sides_of panel previous) box) := by
  rintro texel ⟨pixel, member, rfl⟩
  refine ⟨turned_pixel (turn_between previous current) (sides_of panel previous) pixel, ?_, ?_⟩
  · exact turned_pixel_mem (turn_between_is_rotation was is) inside member
  · exact upright_turned was is (inside.position member)

/-- **A turned box shows the same texels.** -/
theorem panel_pixels_turned (was : IsRotation previous) (is : IsRotation current)
    (inside : box.In (sides_of panel previous)) :
    panel_pixels panel current
        (turned_box (turn_between previous current) (sides_of panel previous) box) =
      panel_pixels panel previous box := by
  apply Set.Subset.antisymm
  · have back := panel_pixels_subset is was (turned_box_in was is inside)
    rw [turned_box_back was is inside] at back
    exact back
  · exact panel_pixels_subset was is inside

end Turns

/-! ## The middle of a region -/

/-- SRC: overlay.rs:1175-1178 -/
theorem round_half_away_intCast (v : Int) : round_half_away v = v := by
  unfold round_half_away
  split
  · rw [Int.floor_eq_iff]
    constructor <;> linarith
  · rw [neg_eq_iff_eq_neg, Int.floor_eq_iff]
    push_cast
    constructor <;> linarith

/-- A side begins where it did, when its middle is the share it was. -/
theorem local_start_eq {start : Int} {side length : Nat} {share : ℚ}
    (middle : share = (start + length / 2) / side) (side_pos : 0 < side) (start_nonneg : 0 ≤ start)
    (fits : start + length ≤ side) (start_most : start ≤ 2147483647) :
    local_start share side length = start := by
  have side_cast : (0 : ℚ) < side := Nat.cast_pos.mpr side_pos
  have start_cast : (0 : ℚ) ≤ start := by exact_mod_cast start_nonneg
  have length_cast : (0 : ℚ) ≤ length := Nat.cast_nonneg length
  have fits_cast : (start : ℚ) + length ≤ side := by exact_mod_cast fits
  have least : 0 ≤ share := by
    rw [middle]
    positivity
  have most : share ≤ 1 := by
    rw [middle, div_le_one side_cast]
    linarith
  have whole : share * side - length / 2 = (start : ℚ) := by
    rw [middle, div_mul_cancel₀ _ side_cast.ne']
    ring
  unfold local_start f64_as_i32
  rw [min_eq_left most, max_eq_right least, whole, round_half_away_intCast]
  omega

/-- From the other end, a middle is the rest of the side. -/
theorem share_from_end {start side length : Nat} (side_pos : 0 < side)
    (fits : start + length ≤ side) :
    1 - ((start : ℚ) + length / 2) / side =
      (((side - start - length : Nat) : ℚ) + length / 2) / side := by
  have side_cast : (side : ℚ) ≠ 0 := Nat.cast_ne_zero.mpr side_pos.ne'
  rw [Nat.sub_sub, Nat.cast_sub fits]
  field_simp
  push_cast
  ring

/-- The middle of a box, in shares of the sides of its picture. -/
def box_center (sides : Nat × Nat) (box : PixelBox) : ℚ × ℚ :=
  ((box.left + box.width / 2) / sides.1, (box.top + box.height / 2) / sides.2)

/-- **The middle turns with the box.**
SRC: overlay.rs:1167-1172 -/
theorem turned_center_eq {turn : Nat} {sides : Nat × Nat} {box : PixelBox} (turns : IsRotation turn)
    (inside : box.In sides) :
    turned_center (box_center sides box) turn =
      box_center (sides_of sides turn) (turned_box turn sides box) := by
  obtain ⟨⟨wide, high⟩, columns, rows⟩ := inside
  have across := share_from_end (by omega) columns
  have down := share_from_end (by omega) rows
  rcases turns with rfl | rfl | rfl | rfl
  · rfl
  · exact Prod.ext down rfl
  · exact Prod.ext across down
  · exact Prod.ext rfl across

/-! ## Restoring a region -/

/-- The box of a region on its display. -/
def box_of (region : CaptureRegion) : PixelBox :=
  ⟨region.x.val.toNat, region.y.val.toNat, region.width.val, region.height.val⟩

/-- The box of a rectangle on a display. -/
def box_on (display rect : Rect) : PixelBox :=
  ⟨(rect.x - display.x).toNat, (rect.y - display.y).toNat, rect.width, rect.height⟩

/-- A region remembered of a panel: it lies in the display, as that was turned. -/
structure RememberedOn (panel : Nat × Nat) (region : CaptureRegion)
    (previous_source : CaptureRegionSource) : Prop where
  rotation : IsRotation previous_source.rotation_degrees.toNat
  sides : (previous_source.width.val, previous_source.height.val) =
    sides_of panel previous_source.rotation_degrees.toNat
  corner : 0 ≤ region.x.val ∧ 0 ≤ region.y.val
  inside : (box_of region).In (sides_of panel previous_source.rotation_degrees.toNat)

/-- A panel's display, as it is turned: its pixels have `i32` coordinates. -/
structure ShowsPanel (panel : Nat × Nat) (rotation_degrees : UInt16) (display : Rect) : Prop where
  rotation : IsRotation rotation_degrees.toNat
  sides : (display.width, display.height) = sides_of panel rotation_degrees.toNat
  on_desktop : display.right ≤ 2147483648 ∧ display.bottom ≤ 2147483648

/-- The sides of a panel, the last column and row of which are `i32`s. -/
def PanelOk (panel : Nat × Nat) : Prop := panel.1 ≤ 2147483648 ∧ panel.2 ≤ 2147483648

section Restoring

variable {panel : Nat × Nat} {region : CaptureRegion} {previous_source : CaptureRegionSource}
  {rotation_degrees : UInt16} {display : Rect}

/-- SRC: overlay.rs:1164-1166 -/
theorem rotation_delta_eq {previous current : UInt16} (was : IsRotation previous.toNat) :
    rotation_delta previous current = some (turn_between previous.toNat current.toNat) := by
  unfold rotation_delta turn_between
  rw [if_pos]
  rcases was with was | was | was | was <;> omega

/-- SRC: overlay.rs:1167-1172 -/
theorem turned_size_eq {turn : Nat} (turns : IsRotation turn) (sides : Nat × Nat) :
    turned_size region turn =
      ((turned_box turn sides (box_of region)).width,
        (turned_box turn sides (box_of region)).height) := by
  rcases turns with rfl | rfl | rfl | rfl <;> rfl

/-- SRC: overlay.rs:1160-1163 -/
theorem region_center_eq (remembered : RememberedOn panel region previous_source) :
    region_center region previous_source =
      box_center (sides_of panel previous_source.rotation_degrees.toNat) (box_of region) := by
  obtain ⟨-, sides, ⟨left, top⟩, ⟨wide, high⟩, columns, rows⟩ := remembered
  rw [← sides] at columns rows ⊢
  have x : ((region.x.val.toNat : Nat) : ℚ) = region.x.val := by
    exact_mod_cast Int.toNat_of_nonneg left
  have y : ((region.y.val.toNat : Nat) : ℚ) = region.y.val := by
    exact_mod_cast Int.toNat_of_nonneg top
  unfold region_center box_center box_of at *
  dsimp only at *
  rw [max_eq_left (by omega), max_eq_left (by omega), x, y]

/-- **The middle comes to the corner of the turned box.**
SRC: overlay.rs:1160-1178 -/
theorem local_corner_eq
    (remembered : RememberedOn panel region previous_source) {turn : Nat} {box : PixelBox}
    (turns : IsRotation turn)
    (sides : (display.width, display.height) =
      sides_of (sides_of panel previous_source.rotation_degrees.toNat) turn)
    (box_eq : turned_box turn (sides_of panel previous_source.rotation_degrees.toNat)
      (box_of region) = box)
    (inside : box.In (display.width, display.height))
    (most : display.width ≤ 2147483648 ∧ display.height ≤ 2147483648) :
    local_corner region previous_source display turn = ((box.left : Int), (box.top : Int)) := by
  obtain ⟨⟨wide, high⟩, columns, rows⟩ := inside
  dsimp only at columns rows
  have center := turned_center_eq turns remembered.inside
  rw [← region_center_eq remembered, box_eq, ← sides] at center
  have size : turned_size region turn = _ :=
    turned_size_eq turns (sides_of panel previous_source.rotation_degrees.toNat)
  rw [box_eq] at size
  unfold local_corner
  rw [center, size]
  dsimp only
  rw [min_eq_left (by omega), min_eq_left (by omega)]
  apply Prod.ext
  · exact local_start_eq rfl (by omega) (by omega) (by omega) (by omega)
  · exact local_start_eq rfl (by omega) (by omega) (by omega) (by omega)

/-- The sides of a display that a panel shows are far from overflowing. -/
theorem sides_most (small : PanelOk panel) (shown : ShowsPanel panel rotation_degrees display) :
    display.width ≤ 2147483648 ∧ display.height ≤ 2147483648 := by
  have sides := shown.sides
  unfold sides_of dimensions_after_rotation at sides
  obtain ⟨across, down⟩ := small
  split at sides <;> rw [Prod.mk.injEq] at sides <;> omega

/-- **A region is restored to the box it has been turned to.**
SRC: overlay.rs:1121-1130, 1154-1188 -/
theorem restored_region_eq (small : PanelOk panel)
    (remembered : RememberedOn panel region previous_source)
    (shown : ShowsPanel panel rotation_degrees display) :
    ∃ restored, restored_region ⟨some region, some previous_source, true⟩ display
        rotation_degrees = some (some restored) ∧ Fits restored display ∧
      box_on display restored =
        turned_box (turn_between previous_source.rotation_degrees.toNat rotation_degrees.toNat)
          (sides_of panel previous_source.rotation_degrees.toNat) (box_of region) := by
  have was := remembered.rotation
  have is := shown.rotation
  have turns := turn_between_is_rotation was is
  have inside := turned_box_in was is remembered.inside
  have sides := (shown.sides.trans (sides_of_turn was is).symm)
  have size : turned_size region _ = _ :=
    turned_size_eq turns (sides_of panel previous_source.rotation_degrees.toNat)
  have delta : rotation_delta previous_source.rotation_degrees rotation_degrees = _ :=
    rotation_delta_eq was
  generalize turn_between previous_source.rotation_degrees.toNat rotation_degrees.toNat = turn at *
  generalize box_eq : turned_box turn (sides_of panel previous_source.rotation_degrees.toNat)
    (box_of region) = box at *
  rw [← shown.sides] at inside
  have corner := local_corner_eq remembered turns sides box_eq inside (sides_most small shown)
  obtain ⟨⟨wide, high⟩, columns, rows⟩ := inside
  dsimp only at columns rows
  have on_desktop := shown.on_desktop
  have x_i32 := display.x_i32
  have y_i32 := display.y_i32
  unfold InI32 at x_i32 y_i32
  unfold Rect.right Rect.bottom at on_desktop
  let restored : Rect :=
    { x := saturating_add_i32 display.x box.left
      y := saturating_add_i32 display.y box.top
      width := min box.width display.width
      height := min box.height display.height
      x_i32 := in_i32_saturating_add_i32 _ _
      y_i32 := in_i32_saturating_add_i32 _ _
      width_u32 := Nat.le_trans (Nat.min_le_right _ _) display.width_u32
      height_u32 := Nat.le_trans (Nat.min_le_right _ _) display.height_u32 }
  have x : restored.x = display.x + box.left := by
    show saturating_add_i32 display.x box.left = _
    unfold saturating_add_i32
    omega
  have y : restored.y = display.y + box.top := by
    show saturating_add_i32 display.y box.top = _
    unfold saturating_add_i32
    omega
  have width : restored.width = box.width := Nat.min_eq_left (by omega)
  have height : restored.height = box.height := Nat.min_eq_left (by omega)
  have within : restored.Within display := by
    unfold Rect.Within Rect.right Rect.bottom
    rw [x, y, width, height]
    omega
  refine ⟨restored, ?_, ⟨?_, within⟩, ?_⟩
  · unfold restored_region remembered_last_region remembered_corner
    dsimp only
    rw [delta]
    dsimp only
    rw [corner]
    unfold restore_region_for_display_change
    rw [delta]
    simp only [Option.bind_eq_bind, Option.bind_some]
    rw [size]
    exact congrArg (Option.map some) (clamp_within_of_within within)
  · unfold Rect.NonEmpty
    omega
  · unfold box_on
    rw [x, y, width, height]
    simp

/-! ## Away and back -/

/-- What is remembered of a rectangle in a display is the rectangle's box.
SRC: overlay.rs:1198-1212 -/
theorem remembered_persisted {restored : Rect} (small : PanelOk panel)
    (shown : ShowsPanel panel rotation_degrees display) (fits : Fits restored display) :
    RememberedOn panel (persisted_region restored display)
        (persisted_source display rotation_degrees) ∧
      box_of (persisted_region restored display) = box_on display restored := by
  obtain ⟨nonempty, within⟩ := fits
  have most := sides_most small shown
  unfold Rect.NonEmpty at nonempty
  unfold Rect.Within Rect.right Rect.bottom at within
  have x : saturating_sub_i32 restored.x display.x = restored.x - display.x := by
    unfold saturating_sub_i32
    omega
  have y : saturating_sub_i32 restored.y display.y = restored.y - display.y := by
    unfold saturating_sub_i32
    omega
  have box_eq : box_of (persisted_region restored display) = box_on display restored := by
    unfold box_of box_on persisted_region
    dsimp only
    rw [x, y]
  refine ⟨⟨shown.rotation, shown.sides, ?_, ?_⟩, box_eq⟩
  · unfold persisted_region
    dsimp only
    rw [x, y]
    omega
  · rw [box_eq]
    show (box_on display restored).In (sides_of panel rotation_degrees.toNat)
    rw [← shown.sides]
    unfold box_on
    constructor <;> dsimp only <;> omega

/-- A region restored on a display of its panel. -/
structure RegionFollows (panel : Nat × Nat) (region : CaptureRegion)
    (previous_source : CaptureRegionSource) (rotation_degrees : UInt16) (display restored : Rect) :
    Prop where
  fits : Fits restored display
  pixels : panel_pixels panel rotation_degrees.toNat (box_on display restored) =
    panel_pixels panel previous_source.rotation_degrees.toNat (box_of region)
  unchanged : rotation_degrees = previous_source.rotation_degrees →
    box_on display restored = box_of region
  back : ∀ {before : Rect}, ShowsPanel panel previous_source.rotation_degrees before →
    ∃ again, restored_region ⟨some (persisted_region restored display),
        some (persisted_source display rotation_degrees), true⟩ before
        previous_source.rotation_degrees = some (some again) ∧ Fits again before ∧
      box_on before again = box_of region

/-- **A remembered region follows its panel.** -/
theorem region_follows (small : PanelOk panel)
    (remembered : RememberedOn panel region previous_source)
    (shown : ShowsPanel panel rotation_degrees display) :
    ∃ restored, restored_region ⟨some region, some previous_source, true⟩ display
        rotation_degrees = some (some restored) ∧
      RegionFollows panel region previous_source rotation_degrees display restored := by
  obtain ⟨restored, restores, fits, box_eq⟩ := restored_region_eq small remembered shown
  refine ⟨restored, restores, fits, ?_, ?_, ?_⟩
  · rw [box_eq]
    exact panel_pixels_turned remembered.rotation shown.rotation remembered.inside
  · rintro rfl
    rw [box_eq]
    unfold turn_between
    rw [Nat.add_sub_cancel_left]
    rfl
  · intro before shown_before
    obtain ⟨persisted, persisted_eq⟩ := remembered_persisted small shown fits
    obtain ⟨again, restores_again, fits_again, again_eq⟩ :=
      restored_region_eq small persisted shown_before
    refine ⟨again, restores_again, fits_again, ?_⟩
    rw [again_eq, persisted_eq, box_eq]
    exact turned_box_back remembered.rotation shown.rotation remembered.inside

end Restoring

/-! ## Whatever is remembered -/

/-- SRC: display.rs:69-80 -/
theorem clamp_within_fits_always {rect source : Rect} (nonempty : rect.NonEmpty)
    (source_nonempty : source.NonEmpty) :
    ∃ clamped, rect.clamp_within source = some clamped ∧ Fits clamped source := by
  have x_i32 := source.x_i32
  have y_i32 := source.y_i32
  have rect_x_i32 := rect.x_i32
  have rect_y_i32 := rect.y_i32
  unfold InI32 at x_i32 y_i32 rect_x_i32 rect_y_i32
  unfold Rect.NonEmpty at nonempty source_nonempty
  have across : clamp rect.x source.x
      (max (source.right - (min rect.width source.width : Nat)) source.x) =
        some (max source.x (min rect.x
          (max (source.right - (min rect.width source.width : Nat)) source.x))) :=
    if_pos (Int.le_max_right _ _)
  have down : clamp rect.y source.y
      (max (source.bottom - (min rect.height source.height : Nat)) source.y) =
        some (max source.y (min rect.y
          (max (source.bottom - (min rect.height source.height : Nat)) source.y))) :=
    if_pos (Int.le_max_right _ _)
  unfold Rect.clamp_within
  simp only [across, down, Option.bind_eq_bind, Option.bind_some]
  refine ⟨_, rfl, ?_, ?_⟩
  · unfold Rect.NonEmpty
    dsimp only
    omega
  · unfold Rect.Within Rect.right Rect.bottom Rect.clamp_to_i32
    dsimp only
    omega

/-- Clamping a region that is not empty into one that is not gives a region that fits. -/
theorem map_clamp_within {rect source : Rect} (nonempty : rect.NonEmpty)
    (source_nonempty : source.NonEmpty) :
    ∃ clamped, (rect.clamp_within source).map some = some (some clamped) ∧
      Fits clamped source := by
  obtain ⟨clamped, clamps, fits⟩ := clamp_within_fits_always nonempty source_nonempty
  exact ⟨clamped, by rw [clamps, Option.map_some], fits⟩

/-- **Every remembered region is restored** to a part of the display.
SRC: overlay.rs:1114-1188 -/
theorem restored_region_fits {region : CaptureRegion} {previous_source : CaptureRegionSource}
    {display : Rect} (wide : region.width.val ≠ 0) (high : region.height.val ≠ 0)
    (was : is_quarter_turn previous_source.rotation_degrees = true)
    (nonempty : display.NonEmpty) (local_to_display : Bool) (rotation_degrees : UInt16) :
    ∃ restored, restored_region ⟨some region, some previous_source, local_to_display⟩ display
        rotation_degrees = some (some restored) ∧ Fits restored display := by
  have source_nonempty := nonempty
  unfold Rect.NonEmpty at source_nonempty
  cases local_to_display with
  | true =>
    have rotation : IsRotation previous_source.rotation_degrees.toNat := by
      simp only [is_quarter_turn, Bool.or_eq_true, beq_iff_eq] at was
      rcases was with ((was | was) | was) | was
      all_goals
        rw [was]
        simp [IsRotation]
    have delta : rotation_delta previous_source.rotation_degrees rotation_degrees = _ :=
      rotation_delta_eq rotation
    unfold restored_region remembered_last_region restore_region_for_display_change
    dsimp only
    rw [delta]
    simp only [Option.bind_eq_bind, Option.bind_some]
    apply map_clamp_within _ nonempty
    unfold Rect.NonEmpty turned_size
    dsimp only
    split <;> dsimp only <;> omega
  | false =>
    unfold restored_region remembered_last_region
    dsimp only
    apply map_clamp_within _ nonempty
    have width := as_u32_of_range (Int.natCast_nonneg region.width.val)
      (Int.ofNat_le.mpr region.width.property)
    have height := as_u32_of_range (Int.natCast_nonneg region.height.val)
      (Int.ofNat_le.mpr region.height.property)
    unfold Rect.NonEmpty Rect.of_casts
    dsimp only
    omega

/-- SRC: overlay.rs:1114-1188 -/
theorem remembered_region_follows_panel :
    (∀ {panel : Nat × Nat} {region : CaptureRegion} {previous_source : CaptureRegionSource}
        {rotation_degrees : UInt16} {display : Rect}, PanelOk panel →
      RememberedOn panel region previous_source → ShowsPanel panel rotation_degrees display →
      ∃ restored, restored_region ⟨some region, some previous_source, true⟩ display
          rotation_degrees = some (some restored) ∧
        RegionFollows panel region previous_source rotation_degrees display restored) ∧
    ∀ {region : CaptureRegion} {previous_source : CaptureRegionSource} {display : Rect},
      region.width.val ≠ 0 → region.height.val ≠ 0 →
      is_quarter_turn previous_source.rotation_degrees = true → display.NonEmpty →
      ∀ local_to_display rotation_degrees,
        ∃ restored, restored_region ⟨some region, some previous_source, local_to_display⟩ display
            rotation_degrees = some (some restored) ∧ Fits restored display :=
  ⟨region_follows, restored_region_fits⟩

/-! ## Displays out of reach -/

/-- One pixel is a `u32`. -/
theorem one_pixel_u32 : InU32 1 := by decide

/-- So are two. -/
theorem two_pixels_u32 : InU32 2 := by decide

/-- So is the greatest width. -/
theorem most_pixels_u32 : InU32 4294967295 := by decide

/-- The first column there is is an `i32`. -/
theorem first_column_i32 : InI32 (-2147483648) := by decide

/-- So is the second. -/
theorem second_column_i32 : InI32 1 := by decide

/-- So is the last. -/
theorem last_column_i32 : InI32 2147483647 := by decide

/-- A column is an `i32`. -/
theorem column_range (column : I32) : InI32 column.val := column.property

/-- A width is a `u32`. -/
theorem columns_range (columns : U32) : InU32 columns.val := columns.property

/-- One pixel of the top row. -/
def pixel_at (column : I32) : CaptureRegion :=
  ⟨column, ⟨0, in_i32_zero⟩, ⟨1, one_pixel_u32⟩, ⟨1, one_pixel_u32⟩⟩

/-- A display of one row. -/
def row_of (left : I32) (width : U32) : Rect where
  x := left.val
  y := 0
  width := width.val
  height := 1
  x_i32 := column_range left
  y_i32 := in_i32_zero
  width_u32 := columns_range width
  height_u32 := one_pixel_u32

/-- What a region of one row's display is remembered with. -/
def row_source (width : U32) : CaptureRegionSource := ⟨width, ⟨1, one_pixel_u32⟩, 0⟩

/-- The second of two pixels, on the display turned upside down and back. -/
theorem remembered_region_follows_two_pixels :
    (∃ restored, restored_region
        ⟨some (pixel_at ⟨1, second_column_i32⟩), some (row_source ⟨2, two_pixels_u32⟩), true⟩
        (row_of ⟨0, in_i32_zero⟩ ⟨2, two_pixels_u32⟩) 180 = some (some restored) ∧
      RegionFollows (2, 1) (pixel_at ⟨1, second_column_i32⟩) (row_source ⟨2, two_pixels_u32⟩) 180
        (row_of ⟨0, in_i32_zero⟩ ⟨2, two_pixels_u32⟩) restored) ∧
    ∃ restored, restored_region
        ⟨some (pixel_at ⟨1, second_column_i32⟩), some (row_source ⟨2, two_pixels_u32⟩), false⟩
        (row_of ⟨0, in_i32_zero⟩ ⟨2, two_pixels_u32⟩) 180 = some (some restored) ∧
      Fits restored (row_of ⟨0, in_i32_zero⟩ ⟨2, two_pixels_u32⟩) := by
  constructor
  · apply remembered_region_follows_panel.1
    · exact ⟨by decide, by decide⟩
    · exact ⟨Or.inl rfl, rfl, by decide, by decide, by decide, by decide⟩
    · exact ⟨Or.inr (Or.inr (Or.inl rfl)), rfl, by decide⟩
  · apply remembered_region_follows_panel.2
    all_goals decide

/-- The corner of a region is an `i32`: turned around, the first pixel of a row as long as an
`u32` is restored in the middle, and one pixel past the last `i32` is restored before it. -/
theorem far_corner_saturates :
    (∃ restored, restored_region
        ⟨some (pixel_at ⟨0, in_i32_zero⟩), some (row_source ⟨4294967295, most_pixels_u32⟩), true⟩
        (row_of ⟨-2147483648, first_column_i32⟩ ⟨4294967295, most_pixels_u32⟩) 180 =
          some (some restored) ∧
      panel_pixels (4294967295, 1) 180
          (box_on (row_of ⟨-2147483648, first_column_i32⟩ ⟨4294967295, most_pixels_u32⟩)
            restored) ≠
        panel_pixels (4294967295, 1) 0 (box_of (pixel_at ⟨0, in_i32_zero⟩))) ∧
    ∃ restored, restored_region
        ⟨some (pixel_at ⟨1, second_column_i32⟩), some (row_source ⟨2, two_pixels_u32⟩), true⟩
        (row_of ⟨2147483647, last_column_i32⟩ ⟨2, two_pixels_u32⟩) 0 = some (some restored) ∧
      box_on (row_of ⟨2147483647, last_column_i32⟩ ⟨2, two_pixels_u32⟩) restored ≠
        box_of (pixel_at ⟨1, second_column_i32⟩) := by
  refine ⟨⟨row_of ⟨-1, by decide⟩ ⟨1, one_pixel_u32⟩, by decide +kernel, ?_⟩,
    row_of ⟨2147483647, last_column_i32⟩ ⟨1, one_pixel_u32⟩, by decide +kernel, by decide⟩
  intro same
  have first : (0, 0) ∈ panel_pixels (4294967295, 1) 0 (box_of (pixel_at ⟨0, in_i32_zero⟩)) :=
    ⟨(0, 0), ⟨by decide, by decide⟩, rfl⟩
  rw [← same] at first
  obtain ⟨pixel, ⟨across, -⟩, shows⟩ := first
  have most : pixel.1 < 2147483648 := across.2
  have texel : 4294967295 - 1 - pixel.1 = 0 := congrArg Prod.fst shows
  omega

end Captastic.Analysis
