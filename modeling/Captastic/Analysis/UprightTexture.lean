import Captastic.Model.Dxgi
import Mathlib.Data.Set.Function

/-!
# A desktop texture turned upright

The pixels of an upright picture are taken one to one to the texels they show (`upright`,
`upright_bijOn`).  Turning a texture upright fills every pixel with the bytes of its texel
(`normalize_bgra_into_spec`), and a selection has a box of texels whose sides turn into the
selection's (`raw_box_spec`, `upright_box`).
-/

set_option autoImplicit false

namespace Captastic.Analysis

open Captastic.Library Captastic.Model

/-! ## The rotation -/

/-- A rotation a display can have. -/
def IsRotation (rotation : Nat) : Prop :=
  rotation = 0 ∨ rotation = 90 ∨ rotation = 180 ∨ rotation = 270

/-- The texel that a pixel of the upright picture shows, in a texture of these sides. -/
def upright (rotation width height : Nat) (pixel : Nat × Nat) : Nat × Nat :=
  if rotation = 90 then (pixel.2, height - 1 - pixel.1)
  else if rotation = 180 then (width - 1 - pixel.1, height - 1 - pixel.2)
  else if rotation = 270 then (width - 1 - pixel.2, pixel.1)
  else pixel

/-- The positions of a picture of these sides. -/
def Positions (sides : Nat × Nat) : Set (Nat × Nat) := {p | p.1 < sides.1 ∧ p.2 < sides.2}

/-- **One to one**: every texel is shown by exactly one pixel of the upright picture.
SRC: dxgi.rs:2158-2178 -/
theorem upright_bijOn {rotation width height : Nat} (is_rotation : IsRotation rotation) :
    Set.BijOn (upright rotation width height)
      (Positions (dimensions_after_rotation width height rotation)) (Positions (width, height)) := by
  refine ⟨?_, ?_, ?_⟩
  · rintro ⟨x, y⟩ ⟨hx, hy⟩
    rcases is_rotation with rfl | rfl | rfl | rfl <;>
      simp [upright, dimensions_after_rotation, Positions] at * <;> omega
  · rintro ⟨x, y⟩ ⟨hx, hy⟩ ⟨x', y'⟩ ⟨hx', hy'⟩ same
    rcases is_rotation with rfl | rfl | rfl | rfl <;>
      simp [upright, dimensions_after_rotation] at * <;> omega
  · rintro ⟨x, y⟩ ⟨hx, hy⟩
    simp only at hx hy
    rcases is_rotation with rfl | rfl | rfl | rfl
    · exact ⟨(x, y), ⟨hx, hy⟩, rfl⟩
    · refine ⟨(height - 1 - y, x), ?_, ?_⟩
      · simp [dimensions_after_rotation, Positions]
        omega
      · simp [upright]
        omega
    · refine ⟨(width - 1 - x, height - 1 - y), ?_, ?_⟩
      · simp [dimensions_after_rotation, Positions]
        omega
      · simp [upright]
        omega
    · refine ⟨(y, width - 1 - x), ?_, ?_⟩
      · simp [dimensions_after_rotation, Positions]
        omega
      · simp [upright]
        omega

/-- SRC: dxgi.rs:2162-2170 -/
theorem raw_pixel_of_eq {rotation width height x y : Nat} (is_rotation : IsRotation rotation)
    (turned : rotation ≠ 0)
    (inside : (x, y) ∈ Positions (dimensions_after_rotation width height rotation)) :
    raw_pixel_of rotation width height x y = some (upright rotation width height (x, y)) := by
  obtain ⟨hx, hy⟩ := inside
  rcases is_rotation with rfl | rfl | rfl | rfl
  · exact absurd rfl turned
  · simp [dimensions_after_rotation] at hx hy
    have h₁ : 1 ≤ height := by omega
    have h₂ : x ≤ height - 1 := by omega
    simp [raw_pixel_of, upright, sub_usize, h₁, h₂]
  · simp [dimensions_after_rotation] at hx hy
    have h₁ : 1 ≤ height := by omega
    have h₂ : 1 ≤ width := by omega
    have h₃ : x ≤ width - 1 := by omega
    have h₄ : y ≤ height - 1 := by omega
    simp [raw_pixel_of, upright, sub_usize, h₁, h₂, h₃, h₄]
  · simp [dimensions_after_rotation] at hx hy
    have h₁ : 1 ≤ width := by omega
    have h₂ : y ≤ width - 1 := by omega
    simp [raw_pixel_of, upright, sub_usize, h₁, h₂]

/-! ## Turning a texture upright -/

/-- The sides of a texture that the program reads: an `u32` counts its bytes. -/
structure SidesOk (width height : Nat) : Prop where
  width_pos : 0 < width
  height_pos : 0 < height
  bytes : width * 4 * height ≤ 4294967295

/-- Accepted sides are positive and leave room for four bytes a pixel. -/
theorem SidesOk.le {width height : Nat} (sides : SidesOk width height) :
    (0 < width ∧ width ≤ 1073741823) ∧ 0 < height ∧ height ≤ 1073741823 := by
  obtain ⟨width_pos, height_pos, bytes⟩ := sides
  have h₁ : width * 4 * 1 ≤ width * 4 * height := Nat.mul_le_mul_left _ height_pos
  have h₂ : 4 * height ≤ width * 4 * height := Nat.mul_le_mul_right _ (by omega)
  omega

/-- Accepted sides stay so when they are exchanged. -/
theorem SidesOk.swap {width height : Nat} (sides : SidesOk width height) : SidesOk height width :=
  ⟨sides.height_pos, sides.width_pos, by
    have := sides.bytes
    rw [Nat.mul_right_comm] at this
    rw [Nat.mul_right_comm, Nat.mul_comm height]
    exact this⟩

/-- A box of a texture that is read. -/
theorem SidesOk.box {width height w h : Nat} (sides : SidesOk width height) (w_pos : 0 < w)
    (h_pos : 0 < h) (w_le : w ≤ width) (h_le : h ≤ height) : SidesOk w h :=
  ⟨w_pos, h_pos, Nat.le_trans (Nat.mul_le_mul (Nat.mul_le_mul_right 4 w_le) h_le) sides.bytes⟩

/-- SRC: dxgi.rs:2050-2089 -/
theorem normalized_layout_eq {rotation width height : Nat} (is_rotation : IsRotation rotation)
    (sides : SidesOk width height) :
    normalized_layout width height rotation =
      .ok ⟨(dimensions_after_rotation width height rotation).1,
        (dimensions_after_rotation width height rotation).2,
        (dimensions_after_rotation width height rotation).1 * 4⟩ := by
  have sides := sides.le
  unfold normalized_layout
  have not_empty : ¬ (width = 0 ∨ height = 0) := by omega
  have supported : is_supported_rotation rotation = true := by
    rcases is_rotation with rfl | rfl | rfl | rfl <;> rfl
  have small : (dimensions_after_rotation width height rotation).1 * 4 ≤ 4294967295 := by
    unfold dimensions_after_rotation
    split
    · simp only
      omega
    · simp only
      omega
  rw [fail_if_of_not not_empty, ok_bind, supported]
  simp only [Bool.not_true, fail_if_false, ok_bind, checked_mul_u32, if_pos small, or_fail_some]

/-- A rotation keeps the sides accepted. -/
theorem dimensions_ok (rotation : Nat) {width height : Nat} (sides : SidesOk width height) :
    SidesOk (dimensions_after_rotation width height rotation).1
      (dimensions_after_rotation width height rotation).2 := by
  unfold dimensions_after_rotation
  split
  · exact sides.swap
  · exact sides

/-- SRC: dxgi.rs:2018-2033 -/
theorem frame_byte_len_eq {width height : Nat} (sides : SidesOk width height) :
    frame_byte_len width height = .ok (width * 4 * height) := by
  have bounds := sides.le
  have stride : width * 4 ≤ 4294967295 := by omega
  unfold frame_byte_len
  simp only [checked_mul_u32, if_pos stride, Option.bind_some, if_pos sides.bytes, or_fail_some]

/-- Bytes that hold rows of texels, `stride` apart. -/
structure HoldsRows (source : List Byte) (width height stride : Nat) : Prop where
  row : width * 4 ≤ stride
  length : source.length = stride * height

/-- A texel's bytes are in range. -/
theorem HoldsRows.in_range {source : List Byte} {width height stride x y : Nat}
    (holds : HoldsRows source width height stride) (hx : x < width) (hy : y < height) :
    cell_at stride 4 x y + 4 ≤ source.length := by
  rw [holds.length, Nat.mul_comm]
  exact cell_at_le (succ_mul_le_of_lt x width 4 hx holds.row) hy

/-- **The rows of an upright display**, copied one by one.
SRC: dxgi.rs:2149-2157 -/
theorem copy_rows_spec {source destination : List Byte} {width height stride : Nat}
    (holds : HoldsRows source width height stride)
    (length : destination.length = height * (width * 4)) :
    ∃ out, (List.range' 0 height).foldlM
        (copy_raw_row source stride (width * 4) (width * 4)) destination = some out ∧
      out.length = height * (width * 4) ∧
      ∀ x y, x < width → y < height →
        cell_of width 4 out x y = slice_at source (cell_at stride 4 x y) 4 := by
  have row_in_range : ∀ y, y < height → y * stride + width * 4 ≤ source.length := by
    intro y hy
    have next : (y + 1) * stride ≤ height * stride := Nat.mul_le_mul_right _ hy
    rw [holds.length, Nat.mul_comm stride]
    rw [Nat.succ_mul] at next
    have := holds.row
    omega
  obtain ⟨out, ran, out_length, rows⟩ := paint_cells 1 height (width * 4) 0 1 0 height
    (by omega) (by omega)
    (fun b _ y => copy_raw_row source stride (width * 4) (width * 4) b y)
    (fun _ y _ => slice_at source (y * stride) (width * 4))
    (fun b x y hx hy b_length => by
      have x_eq : x = 0 := by omega
      subst x_eq
      have y_lt : y < height := by omega
      obtain ⟨b', written, b'_length, own, others⟩ := write_cell (x := 0) (y := y)
        (v := slice_at source (y * stride) (width * 4)) b_length (by omega) y_lt
        (length_slice_at _ _ _ (row_in_range y y_lt))
      refine ⟨b', ?_, b'_length, own, others⟩
      unfold copy_raw_row
      rw [slice?_eq _ _ _ (row_in_range y y_lt), Option.bind_some]
      simpa [cell_at] using written)
    destination (by rw [length, Nat.one_mul])
  refine ⟨out, ?_, by rw [out_length, Nat.one_mul], ?_⟩
  · simpa using ran
  · intro x y hx hy
    have row := rows 0 y (by omega) hy
    rw [if_pos ⟨⟨Nat.le_refl 0, by omega⟩, Nat.zero_le y, by omega⟩] at row
    have inside : x * 4 + 4 ≤ width * 4 := by omega
    have cell := congrArg (fun b => slice_at b (x * 4) 4) row
    simp only [cell_of, cell_at, slice_at_slice_at _ inside, Nat.one_mul, Nat.zero_mul,
      Nat.add_zero] at cell ⊢
    exact cell

/-- **The pixels of a rotated display**, copied one by one.
SRC: dxgi.rs:2158-2178 -/
theorem copy_pixels_spec {source destination : List Byte} {rotation width height stride : Nat}
    (is_rotation : IsRotation rotation) (turned : rotation ≠ 0)
    (holds : HoldsRows source width height stride) {width' height' : Nat}
    (turned_sides : dimensions_after_rotation width height rotation = (width', height'))
    (length : destination.length = height' * (width' * 4)) :
    ∃ out, (List.range' 0 height').foldlM (fun destination y =>
        (List.range' 0 width').foldlM (fun destination x =>
          copy_raw_pixel source width height stride (width' * 4) rotation destination x y)
          destination) destination = some out ∧
      out.length = height' * (width' * 4) ∧
      ∀ x y, x < width' → y < height' →
        cell_of width' 4 out x y = slice_at source
          (cell_at stride 4 (upright rotation width height (x, y)).1
            (upright rotation width height (x, y)).2) 4 := by
  have texel : ∀ x y, x < width' → y < height' →
      upright rotation width height (x, y) ∈ Positions (width, height) := by
    intro x y hx hy
    refine (upright_bijOn is_rotation).mapsTo ?_
    rw [turned_sides]
    exact ⟨hx, hy⟩
  obtain ⟨out, ran, out_length, cells⟩ := paint_cells width' height' 4 0 width' 0 height'
    (by omega) (by omega)
    (fun b x y => copy_raw_pixel source width height stride (width' * 4) rotation b x y)
    (fun x y _ => slice_at source (cell_at stride 4 (upright rotation width height (x, y)).1
      (upright rotation width height (x, y)).2) 4)
    (fun b x y hx hy b_length => by
      have x_lt : x < width' := by omega
      have y_lt : y < height' := by omega
      have named := texel x y x_lt y_lt
      have range := holds.in_range named.1 named.2
      obtain ⟨b', written, b'_length, own, others⟩ := write_cell b_length x_lt y_lt
        (length_slice_at _ _ _ range)
      refine ⟨b', ?_, b'_length, own, others⟩
      unfold copy_raw_pixel
      rw [raw_pixel_of_eq is_rotation turned (by rw [turned_sides]; exact ⟨x_lt, y_lt⟩),
        Option.bind_some, slice?_eq _ _ _ range, Option.bind_some]
      exact written)
    destination length
  refine ⟨out, ran, out_length, ?_⟩
  intro x y hx hy
  rw [cells x y hx hy, if_pos ⟨⟨Nat.zero_le x, by omega⟩, Nat.zero_le y, by omega⟩]

/-- **A texture turned upright**: every pixel has the bytes of the texel it shows.
SRC: dxgi.rs:2091-2180 -/
theorem normalize_bgra_into_spec {source destination : List Byte}
    {rotation width height stride : Nat} (is_rotation : IsRotation rotation)
    (sides : SidesOk width height) (stride_le : stride ≤ 4294967295)
    (holds : HoldsRows source width height stride) {width' height' : Nat}
    (turned_sides : dimensions_after_rotation width height rotation = (width', height'))
    (length : destination.length = width' * 4 * height') :
    ∃ out, normalize_bgra_into source width height stride rotation destination =
        .ok (⟨width', height', width' * 4⟩, out) ∧
      out.length = height' * (width' * 4) ∧
      ∀ x y, x < width' → y < height' →
        cell_of width' 4 out x y = slice_at source
          (cell_at stride 4 (upright rotation width height (x, y)).1
            (upright rotation width height (x, y)).2) 4 := by
  have length' : destination.length = height' * (width' * 4) := by rw [length, Nat.mul_comm]
  have sides' := dimensions_ok rotation sides
  rw [turned_sides] at sides'
  have layout := normalized_layout_eq is_rotation sides
  rw [turned_sides] at layout
  have row_bytes : width * 4 ≤ 18446744073709551615 := by
    have bounds := sides.le
    omega
  have required : stride * height ≤ 18446744073709551615 :=
    Nat.le_trans (Nat.mul_le_mul stride_le sides.le.2.2) (by decide)
  have row_holds : ¬ stride < width * 4 := Nat.not_lt.mpr holds.row
  have long_enough : ¬ source.length < stride * height := by
    rw [holds.length]
    exact Nat.lt_irrefl _
  have right_length : ¬ destination.length ≠ width' * 4 * height' := fun h => h length
  have loops : ∃ out, (if rotation = 0 then
        (List.range' 0 height).foldlM (copy_raw_row source stride (width * 4) (width' * 4))
          destination
      else
        (List.range' 0 height').foldlM (fun destination y =>
          (List.range' 0 width').foldlM (fun destination x =>
            copy_raw_pixel source width height stride (width' * 4) rotation destination x y)
            destination) destination) = some out ∧
      out.length = height' * (width' * 4) ∧
      ∀ x y, x < width' → y < height' →
        cell_of width' 4 out x y = slice_at source
          (cell_at stride 4 (upright rotation width height (x, y)).1
            (upright rotation width height (x, y)).2) 4 := by
    by_cases turned : rotation = 0
    · subst turned
      obtain ⟨rfl, rfl⟩ := Prod.mk.inj turned_sides
      rw [if_pos rfl]
      exact copy_rows_spec holds length'
    · rw [if_neg turned]
      exact copy_pixels_spec is_rotation turned holds turned_sides length'
  obtain ⟨out, ran, out_length, cells⟩ := loops
  refine ⟨out, ?_, out_length, cells⟩
  unfold normalize_bgra_into
  simp only [layout, ok_bind, checked_mul_usize, if_pos row_bytes, if_pos required, or_fail_some,
    fail_if_of_not row_holds, fail_if_of_not long_enough, frame_byte_len_eq sides',
    fail_if_of_not right_length, ran, access_some]

/-! ## The box of a selection -/

/-- A selection that has pixels, all of them on the display. -/
def Inside (source selection : Rect) : Prop := selection.NonEmpty ∧ selection.Within source

/-- Where a selection starts on its display. -/
def local_x (source selection : Rect) : Nat := (selection.x - source.x).toNat

def local_y (source selection : Rect) : Nat := (selection.y - source.y).toNat

/-- The corner and the sides of the box of texels that a selection shows. -/
def raw_box (rotation width height x y w h : Nat) : (Nat × Nat) × Nat × Nat :=
  if rotation = 90 then ((y, height - (x + w)), h, w)
  else if rotation = 180 then ((width - (x + w), height - (y + h)), w, h)
  else if rotation = 270 then ((width - (y + h), x), h, w)
  else ((x, y), w, h)

/-- A selection's box lies on the texture, and is turned into the selection's sides. -/
theorem raw_box_spec {rotation width height x y w h : Nat} (is_rotation : IsRotation rotation)
    (right : x + w ≤ (dimensions_after_rotation width height rotation).1)
    (bottom : y + h ≤ (dimensions_after_rotation width height rotation).2) :
    (raw_box rotation width height x y w h).1.1 + (raw_box rotation width height x y w h).2.1 ≤
        width ∧
      (raw_box rotation width height x y w h).1.2 + (raw_box rotation width height x y w h).2.2 ≤
        height ∧
      dimensions_after_rotation (raw_box rotation width height x y w h).2.1
        (raw_box rotation width height x y w h).2.2 rotation = (w, h) := by
  rcases is_rotation with rfl | rfl | rfl | rfl <;>
    simp [raw_box, dimensions_after_rotation] at * <;> omega

/-- **Moving the box moves the map**: a pixel of the selection shows the same texel, named
from the whole texture or from its box. -/
theorem upright_box {rotation width height x y w h px py : Nat} (is_rotation : IsRotation rotation)
    (right : x + w ≤ (dimensions_after_rotation width height rotation).1)
    (bottom : y + h ≤ (dimensions_after_rotation width height rotation).2) (hx : px < w)
    (hy : py < h) :
    upright rotation width height (x + px, y + py) =
      ((raw_box rotation width height x y w h).1.1 +
          (upright rotation (raw_box rotation width height x y w h).2.1
            (raw_box rotation width height x y w h).2.2 (px, py)).1,
        (raw_box rotation width height x y w h).1.2 +
          (upright rotation (raw_box rotation width height x y w h).2.1
            (raw_box rotation width height x y w h).2.2 (px, py)).2) := by
  rcases is_rotation with rfl | rfl | rfl | rfl <;>
    simp [upright, raw_box, dimensions_after_rotation] at * <;> omega

/-- A selection inside the source lies within its width and height. -/
theorem local_of_inside {source selection : Rect} (inside : Inside source selection) :
    selection.x - source.x = local_x source selection ∧
      selection.y - source.y = local_y source selection ∧
      local_x source selection + selection.width ≤ source.width ∧
      local_y source selection + selection.height ≤ source.height := by
  unfold Inside Rect.NonEmpty Rect.Within Rect.right Rect.bottom at inside
  unfold local_x local_y
  omega

/-- SRC: dxgi.rs:1639-1675 -/
theorem local_selection_of_inside {source selection : Rect} (inside : Inside source selection)
    (small : source.width ≤ 1073741823 ∧ source.height ≤ 1073741823) :
    ∃ selected, local_selection source selection = .ok selected ∧
      selected.x = local_x source selection ∧ selected.y = local_y source selection ∧
      selected.width = selection.width ∧ selected.height = selection.height := by
  obtain ⟨x_eq, y_eq, right, bottom⟩ := local_of_inside inside
  have not_empty : ¬ (selection.width = 0 ∨ selection.height = 0) := by
    unfold Inside Rect.NonEmpty at inside
    omega
  have not_outside : ¬ (selection.x < source.x ∨ selection.y < source.y ∨
      selection.right > source.right ∨ selection.bottom > source.bottom) := by
    unfold Inside Rect.Within at inside
    omega
  have no_overflow : InI32 (selection.x - source.x) ∧ InI32 (selection.y - source.y) := by
    unfold InI32
    omega
  unfold local_selection
  rw [fail_if_of_not not_empty, ok_bind, fail_if_of_not not_outside, ok_bind, dif_pos no_overflow,
    access_some]
  exact ⟨_, rfl, x_eq, y_eq, rfl, rfl⟩

/-- A selection that is not inside the source is refused. -/
theorem local_selection_of_not_inside {source selection : Rect}
    (outside : ¬ Inside source selection) :
    ∃ error, local_selection source selection = fail error := by
  unfold local_selection
  by_cases empty : selection.width = 0 ∨ selection.height = 0
  · exact ⟨_, fail_if_of empty⟩
  · rw [fail_if_of_not empty, ok_bind, fail_if_of]
    · exact ⟨_, rfl⟩
    · unfold Inside Rect.NonEmpty Rect.Within at outside
      omega

/-- A rectangle of accepted numbers is made of them. -/
theorem raw_rect_eq {x y width height : Nat} (hx : x ≤ 2147483647) (hy : y ≤ 2147483647)
    (sides : InU32 width ∧ InU32 height) :
    ∃ rect, raw_rect x y width height sides = .ok rect ∧ rect.x = x ∧ rect.y = y ∧
      rect.width = width ∧ rect.height = height := by
  have x_i32 : InI32 x := by
    unfold InI32
    omega
  have y_i32 : InI32 y := by
    unfold InI32
    omega
  unfold raw_rect
  rw [dif_pos x_i32, dif_pos y_i32]
  exact ⟨_, rfl, rfl, rfl, rfl, rfl⟩

/-- SRC: dxgi.rs:1677-1764 -/
theorem raw_selection_for_rotation_eq {selected : Rect} {rotation width height x y : Nat}
    (is_rotation : IsRotation rotation) (sides : SidesOk width height)
    (x_eq : selected.x = x) (y_eq : selected.y = y) (non_empty : selected.NonEmpty)
    (right : x + selected.width ≤ (dimensions_after_rotation width height rotation).1)
    (bottom : y + selected.height ≤ (dimensions_after_rotation width height rotation).2) :
    ∃ raw, raw_selection_for_rotation selected width height rotation = .ok raw ∧
      raw.x = (raw_box rotation width height x y selected.width selected.height).1.1 ∧
      raw.y = (raw_box rotation width height x y selected.width selected.height).1.2 ∧
      raw.width = (raw_box rotation width height x y selected.width selected.height).2.1 ∧
      raw.height = (raw_box rotation width height x y selected.width selected.height).2.2 := by
  have sides' := (dimensions_ok rotation sides).le
  unfold Rect.NonEmpty at non_empty
  have x_u32 : (0 : Int) ≤ x ∧ (x : Int) ≤ 4294967295 := by omega
  have y_u32 : (0 : Int) ≤ y ∧ (y : Int) ≤ 4294967295 := by omega
  have right_u32 : x + selected.width ≤ 4294967295 := by omega
  have bottom_u32 : y + selected.height ≤ 4294967295 := by omega
  have not_outside : ¬ (selected.width = 0 ∨ selected.height = 0 ∨
      x + selected.width > (dimensions_after_rotation width height rotation).1 ∨
      y + selected.height > (dimensions_after_rotation width height rotation).2) := by omega
  unfold raw_selection_for_rotation
  simp only [normalized_layout_eq is_rotation sides, ok_bind, x_eq, y_eq, try_u32, if_pos x_u32,
    if_pos y_u32, Int.toNat_natCast, or_fail_some, checked_add_u32, if_pos right_u32,
    if_pos bottom_u32, fail_if_of_not not_outside]
  have bounds := sides.le
  rcases is_rotation with rfl | rfl | rfl | rfl
  · simp [dimensions_after_rotation] at right bottom
    exact raw_rect_eq (by omega) (by omega) ⟨selected.width_u32, selected.height_u32⟩
  · simp [dimensions_after_rotation] at right bottom
    have sub : x + selected.width ≤ height := by omega
    simp only [sub_usize, if_pos sub, access_some, ok_bind]
    exact raw_rect_eq (by omega) (by omega) ⟨selected.height_u32, selected.width_u32⟩
  · simp [dimensions_after_rotation] at right bottom
    have sub_x : x + selected.width ≤ width := by omega
    have sub_y : y + selected.height ≤ height := by omega
    simp only [sub_usize, if_pos sub_x, if_pos sub_y, access_some, ok_bind]
    exact raw_rect_eq (by omega) (by omega) ⟨selected.width_u32, selected.height_u32⟩
  · simp [dimensions_after_rotation] at right bottom
    have sub : y + selected.height ≤ width := by omega
    simp only [sub_usize, if_pos sub, access_some, ok_bind]
    exact raw_rect_eq (by omega) (by omega) ⟨selected.height_u32, selected.width_u32⟩

end Captastic.Analysis
