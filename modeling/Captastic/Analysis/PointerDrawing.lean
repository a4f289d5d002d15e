import Captastic.Analysis.FrameCrop
import Captastic.Library.Loops
import Captastic.Model.Cursor
import Mathlib.Data.List.Basic

/-!
# Drawing a pointer into a frame

A pointer's shape is drawn pixel by pixel, each clipped to the frame on its own.  No sum or
product of it leaves its type (`checked_composite_pointer_eq`), except the row of the second
mask of a monochrome shape of more than `2 ^ 31` rows, half of what a shape can report.  Only
colour bytes of pixels the shape covers change, each as the rule of the shape's kind has it
(`pointer_rule`), so drawing and then cropping comes to the same as cropping and then drawing
from the shifted origin (`pointer_drawn_locally`).
-/

set_option autoImplicit false

namespace Captastic.Analysis

open Captastic.Library Captastic.Model

/-! ## No overflow -/

/-- The sides and the pitch of a shape, and the origin it is drawn at, are values of their types;
the rows of two stacked masks can be counted. -/
structure PointerTyped (pointer : PointerSample) : Prop where
  x_i32 : InI32 pointer.x
  y_i32 : InI32 pointer.y
  width_u32 : pointer.shape.width ≤ 4294967295
  height_u32 : pointer.shape.height ≤ 4294967295
  pitch_u32 : pointer.shape.pitch ≤ 4294967295
  masks : pointer.shape.kind = .Monochrome → pointer.shape.height ≤ 2147483648

/-- The frame's stride and height are values of `u32`, and a row holds its pixels. -/
structure FrameTyped (frame_width frame_height stride : Nat) : Prop where
  stride_u32 : stride ≤ 4294967295
  height_u32 : frame_height ≤ 4294967295
  wide : frame_width * 4 ≤ stride

/-- A number that fits a `u32` is one. -/
theorem u32?_of_le {v : Nat} (small : v ≤ 4294967295) : u32? v = some v := if_pos small

/-- A number that fits a `usize` is one. -/
theorem usize?_of_le {v : Nat} (small : v ≤ 18446744073709551615) : usize? v = some v :=
  if_pos small

/-- Where a row or a column of the shape falls on the frame.
SRC: cursor.rs:153-159 -/
theorem offset_row_eq_some {origin : Int} {offset limit position : Nat} :
    offset_row origin offset limit = some position ↔
      origin + offset = position ∧ position < limit := by
  unfold offset_row
  dsimp only
  split
  · constructor
    · intro found
      cases found
    · rintro ⟨same, inside⟩
      omega
  · rw [Option.some.injEq]
    omega

/-- Four bytes of a buffer, where they are there. -/
theorem slice?_four (b : List Byte) (pos : Nat) :
    (slice? b pos 4 = none ∧ b.length < pos + 4) ∨
      ∃ b0 b1 b2 b3, slice? b pos 4 = some [b0, b1, b2, b3] ∧
        slice_at b pos 4 = [b0, b1, b2, b3] ∧ pos + 4 ≤ b.length := by
  by_cases inside : pos + 4 ≤ b.length
  · obtain ⟨b0, b1, b2, b3, four⟩ := List.length_eq_four.mp (length_slice_at b pos 4 inside)
    exact .inr ⟨b0, b1, b2, b3, (slice?_eq b pos 4 inside).trans (congrArg some four), four, inside⟩
  · exact .inl ⟨if_neg inside, by omega⟩

/-- The bytes of a frame's pixel are at indices that fit a `usize`. -/
theorem cell_le_usize {frame_width frame_height stride x y : Nat}
    (frame : FrameTyped frame_width frame_height stride) (hx : x < frame_width)
    (hy : y < frame_height) : cell_at stride 4 x y + 4 ≤ 18446744073709551615 := by
  have within := cell_at_le (succ_mul_le_of_lt x frame_width 4 hx frame.wide) hy
  have bound := Nat.mul_le_mul frame.height_u32 frame.stride_u32
  omega

/-- The last pixel that can be asked of a shape: its row is a `u32`, and its column is at most the
frame's last one past the lowest origin. -/
theorem source_le_usize {row column pitch : Nat} (row_le : row ≤ 4294967294)
    (column_le : column ≤ 3221225470) (pitch_le : pitch ≤ 4294967295) :
    row * pitch + column * 4 + 4 ≤ 18446744073709551615 := by
  have bound := Nat.mul_le_mul row_le pitch_le
  omega

/-- SRC: cursor.rs:161-233 -/
theorem checked_blend_eq {pointer : PointerSample} (typed : PointerTyped pointer)
    {row column : Nat} (row_lt : row < pointer.shape.height) (column_le : column ≤ 3221225470)
    (target : Quad) : pointer.shape.checked_blend row column target =
      some (pointer.shape.blend row column target) := by
  have height := typed.height_u32
  have source : row * pointer.shape.pitch + column * 4 + 4 ≤ 18446744073709551615 :=
    source_le_usize (by omega) column_le typed.pitch_u32
  have fetched : pointer.shape.checked_source_pixel row column =
      some (pointer.shape.source_pixel row column) := by
    unfold PointerShape.checked_source_pixel
    rw [usize?_of_le (by omega), Option.bind_eq_bind, Option.bind_some, usize?_of_le source]
    rfl
  unfold PointerShape.checked_blend
  cases kind : pointer.shape.kind with
  | Color =>
    dsimp only
    rw [fetched]
    rfl
  | MaskedColor =>
    dsimp only
    rw [fetched]
    rfl
  | Monochrome =>
    have masks := typed.masks kind
    have bit {row : Nat} (row_le : row ≤ 4294967295) :
        pointer.shape.checked_mask_bit row column = some (pointer.shape.mask_bit row column) := by
      have bound := Nat.mul_le_mul row_le typed.pitch_u32
      unfold PointerShape.checked_mask_bit
      rw [usize?_of_le (by omega)]
      rfl
    have below : row + pointer.shape.height ≤ 4294967295 := by omega
    dsimp only
    rw [bit (by omega), Option.bind_eq_bind, Option.bind_some, u32?_of_le below,
      Option.bind_eq_bind, Option.bind_some, bit below]
    rfl

/-- SRC: cursor.rs:121-137 -/
theorem checked_composite_pixel_eq {frame_width frame_height stride : Nat}
    (frame : FrameTyped frame_width frame_height stride) {pointer : PointerSample}
    (typed : PointerTyped pointer) (destination : List Byte) {row column : Nat}
    (row_lt : row < pointer.shape.height) :
    checked_composite_pixel frame_width frame_height stride pointer destination row column =
      some (composite_pixel frame_width frame_height stride pointer destination row column) := by
  unfold checked_composite_pixel composite_pixel
  cases found_y : offset_row pointer.y row frame_height with
  | none => rfl
  | some y =>
    cases found_x : offset_row pointer.x column frame_width with
    | none => rfl
    | some x =>
      obtain ⟨x_eq, hx⟩ := offset_row_eq_some.mp found_x
      obtain ⟨-, hy⟩ := offset_row_eq_some.mp found_y
      have within := cell_le_usize frame hx hy
      have column_le : column ≤ 3221225470 := by
        have origin := typed.x_i32
        have wide := frame.wide
        have stride_u32 := frame.stride_u32
        unfold InI32 at origin
        omega
      dsimp only
      rw [usize?_of_le (by omega), Option.bind_eq_bind, Option.bind_some, usize?_of_le within,
        Option.bind_eq_bind, Option.bind_some]
      rcases slice?_four destination (cell_at stride 4 x y) with
        ⟨missing, -⟩ | ⟨b0, b1, b2, b3, held, -, -⟩
      · rw [missing]
      · rw [held]
        dsimp only
        rw [checked_blend_eq typed row_lt column_le]
        rfl

/-- **Nothing overflows**: the checked drawing is the drawing.
SRC: cursor.rs:107-233 -/
theorem checked_composite_pointer_eq {frame_width frame_height stride : Nat}
    (frame : FrameTyped frame_width frame_height stride) {pointer : PointerSample}
    (typed : PointerTyped pointer) (destination : List Byte) :
    checked_composite_pointer destination frame_width frame_height stride pointer =
      some (composite_pointer destination frame_width frame_height stride pointer) := by
  unfold checked_composite_pointer composite_pointer
  split
  · rfl
  · have row_eq : ∀ (destination : List Byte) (row : Nat), row ∈ List.range pointer.shape.height →
        (List.range pointer.shape.width).foldlM (fun destination column =>
          checked_composite_pixel frame_width frame_height stride pointer destination row column)
          destination = some ((List.range pointer.shape.width).foldl (fun destination column =>
            composite_pixel frame_width frame_height stride pointer destination row column)
            destination) := by
      intro destination row member
      have same : ∀ destination column,
          checked_composite_pixel frame_width frame_height stride pointer destination row column =
            some (composite_pixel frame_width frame_height stride pointer destination row column) :=
        fun destination column =>
          checked_composite_pixel_eq frame typed destination (List.mem_range.mp member)
      simp only [same]
      exact foldlM_some _ _ _
    rw [foldlM_congr_of_inv (fun _ => True) _ _ _ (fun s row member _ => row_eq s row member)
      (fun _ _ _ _ _ _ => trivial) destination trivial, foldlM_some]
    rfl

/-! ## The pixels drawn -/

/-- A pixel of the frame that the shape covers. -/
def Covers (pointer : PointerSample) (x y : Nat) : Prop :=
  (pointer.x ≤ x ∧ x < pointer.x + pointer.shape.width) ∧
    pointer.y ≤ y ∧ y < pointer.y + pointer.shape.height

/-- A pixel with its colour changed channel by channel, and its alpha as it was. -/
def recolored (channel : Byte → Byte → Byte) (source target : Quad) : Quad :=
  ⟨channel source.b0 target.b0, channel source.b1 target.b1, channel source.b2 target.b2,
    target.b3⟩

/-- All the bits of a byte, or none. -/
def mask_byte (bit : Bool) : Byte := if bit then 0xff else 0

/-- What a shape's pixel makes of the frame's under it: a colour is blended by its alpha, a
masked colour copied or exclusive-or'ed, and two masks applied one after the other; a pixel that
is not in the shape's buffer changes nothing. -/
def pointer_rule (shape : PointerShape) (row column : Nat) (target : Quad) : Quad :=
  match shape.kind with
  | .Color =>
    match shape.source_pixel row column with
    | none => target
    | some source => recolored (fun s t => UInt8.ofNat
        ((s.toNat * source.b3.toNat + t.toNat * (255 - source.b3.toNat)) / 255)) source target
  | .MaskedColor =>
    match shape.source_pixel row column with
    | none => target
    | some source => recolored (fun s t => if source.b3 = 0 then s else t ^^^ s) source target
  | .Monochrome =>
    match shape.mask_bit row column, shape.mask_bit (row + shape.height) column with
    | some and_bit, some xor_bit =>
      recolored (fun _ t => (t &&& mask_byte and_bit) ^^^ mask_byte xor_bit) target target
    | _, _ => target

/-- Blending by no alpha, or by all of it. -/
theorem blended_byte (alpha : Nat) (s t : Byte) :
    (alpha = 0 → UInt8.ofNat ((s.toNat * alpha + t.toNat * (255 - alpha)) / 255) = t) ∧
      (alpha = 255 → UInt8.ofNat ((s.toNat * alpha + t.toNat * (255 - alpha)) / 255) = s) := by
  constructor
  · rintro rfl
    rw [Nat.mul_zero, Nat.zero_add, Nat.sub_zero, Nat.mul_div_cancel _ (by decide)]
    exact UInt8.ofNat_toNat
  · rintro rfl
    rw [Nat.sub_self, Nat.mul_zero, Nat.add_zero, Nat.mul_div_cancel _ (by decide)]
    exact UInt8.ofNat_toNat

/-- A mask of ones keeps a byte. -/
theorem and_all_bits (t : Byte) : t &&& 0xff = t := by
  apply UInt8.toBitVec_inj.mp
  exact BitVec.and_allOnes

/-- A mask of ones inverts it. -/
theorem xor_all_bits (t : Byte) : t ^^^ 0xff = ~~~t := by
  apply UInt8.toBitVec_inj.mp
  exact BitVec.xor_allOnes

/-- **The drawing follows the rule of its kind.**
SRC: cursor.rs:132-136, 166-233 -/
theorem blend_eq_rule (shape : PointerShape) (row column : Nat) (target : Quad) :
    shape.blend row column target = pointer_rule shape row column target := by
  unfold PointerShape.blend pointer_rule
  cases shape.kind with
  | Color =>
    unfold PointerShape.blend_color
    cases shape.source_pixel row column with
    | none => rfl
    | some source =>
      dsimp only
      split
      · rename_i clear
        unfold recolored
        dsimp only
        rw [(blended_byte _ _ _).1 clear, (blended_byte _ _ _).1 clear,
          (blended_byte _ _ _).1 clear]
      · split
        · rename_i full
          unfold recolored
          dsimp only
          rw [(blended_byte _ _ _).2 full, (blended_byte _ _ _).2 full, (blended_byte _ _ _).2 full]
        · rfl
  | MaskedColor =>
    unfold PointerShape.blend_masked_color
    cases shape.source_pixel row column with
    | none => rfl
    | some source =>
      dsimp only
      unfold recolored
      split <;> rfl
  | Monochrome =>
    unfold PointerShape.blend_monochrome
    cases shape.mask_bit row column with
    | none => rfl
    | some and_bit =>
      cases shape.mask_bit (row + shape.height) column with
      | none => cases and_bit <;> rfl
      | some xor_bit =>
        unfold recolored mask_byte
        cases and_bit <;> cases xor_bit
        · simp
        · simp
        · simp [and_all_bits]
        · simp [and_all_bits, xor_all_bits]

/-- Blending the pointer keeps a pixel's alpha. -/
theorem blend_alpha (shape : PointerShape) (row column : Nat) (target : Quad) :
    (shape.blend row column target).b3 = target.b3 := by
  rw [blend_eq_rule]
  unfold pointer_rule
  split
  · split <;> rfl
  · split <;> rfl
  · split <;> rfl

/-- What one turn of the loop does: nothing, where the pixel is off the frame or its bytes are
not there, or one pixel's write. -/
inductive PixelDrawn (frame_width frame_height stride : Nat) (pointer : PointerSample)
    (destination : List Byte) (row column : Nat) : List Byte → Prop
  | hidden (off : ∀ x y, offset_row pointer.y row frame_height = some y →
      offset_row pointer.x column frame_width = some x →
      destination.length < cell_at stride 4 x y + 4) :
      PixelDrawn frame_width frame_height stride pointer destination row column destination
  | drawn {x y : Nat} {target : Quad} {destination' : List Byte}
      (found_y : offset_row pointer.y row frame_height = some y)
      (found_x : offset_row pointer.x column frame_width = some x)
      (held : slice_at destination (cell_at stride 4 x y) 4 = target.toList)
      (written : write? destination (cell_at stride 4 x y)
        (pointer.shape.blend row column target).toList = some destination') :
      PixelDrawn frame_width frame_height stride pointer destination row column destination'

/-- One pixel of the pointer changes one of the frame, or none. -/
theorem composite_pixel_drawn (frame_width frame_height stride : Nat) (pointer : PointerSample)
    (destination : List Byte) (row column : Nat) :
    PixelDrawn frame_width frame_height stride pointer destination row column
      (composite_pixel frame_width frame_height stride pointer destination row column) := by
  unfold composite_pixel
  cases found_y : offset_row pointer.y row frame_height with
  | none =>
    refine .hidden fun x y on_frame => ?_
    rw [found_y] at on_frame
    cases on_frame
  | some y =>
    cases found_x : offset_row pointer.x column frame_width with
    | none =>
      refine .hidden fun x y _ on_frame => ?_
      rw [found_x] at on_frame
      cases on_frame
    | some x =>
      dsimp only
      rcases slice?_four destination (cell_at stride 4 x y) with
        ⟨missing, short⟩ | ⟨b0, b1, b2, b3, slice, held, inside⟩
      · rw [missing]
        refine .hidden fun x' y' on_y on_x => ?_
        rw [found_y] at on_y
        rw [found_x] at on_x
        cases on_y
        cases on_x
        exact short
      · rw [slice]
        dsimp only
        obtain ⟨destination', written⟩ := write?_isSome destination
          (pointer.shape.blend row column ⟨b0, b1, b2, b3⟩).toList (cell_at stride 4 x y) inside
        rw [written]
        have held : slice_at destination (cell_at stride 4 x y) 4 = (Quad.mk b0 b1 b2 b3).toList :=
          held
        exact .drawn found_y found_x held written

/-- The colour bytes of the pixels that the shape covers. -/
def Touched (frame_width frame_height stride : Nat) (pointer : PointerSample) (i : Nat) : Prop :=
  ∃ x y, x < frame_width ∧ y < frame_height ∧ Covers pointer x y ∧
    cell_at stride 4 x y ≤ i ∧ i < cell_at stride 4 x y + 3

/-- The four bytes of the frame that a pixel of the shape falls on, if it falls on the frame. -/
def under (frame_width frame_height stride : Nat) (pointer : PointerSample)
    (destination : List Byte) (row column : Nat) : List Byte :=
  match offset_row pointer.y row frame_height, offset_row pointer.x column frame_width with
  | some y, some x => slice_at destination (cell_at stride 4 x y) 4
  | _, _ => []

/-- The bytes of a pixel, by the rule of the shape's pixel over it. -/
def ruled (shape : PointerShape) (row column : Nat) (bytes : List Byte) : List Byte :=
  match bytes with
  | [b0, b1, b2, b3] => (pointer_rule shape row column ⟨b0, b1, b2, b3⟩).toList
  | other => other

/-- What a pixel is to be is what blending makes of it. -/
theorem ruled_toList (shape : PointerShape) (row column : Nat) (target : Quad) :
    ruled shape row column target.toList = (shape.blend row column target).toList := by
  rw [blend_eq_rule]
  rfl

section Drawing

variable {frame_width frame_height stride : Nat} {pointer : PointerSample}
  {destination destination' : List Byte} {row column : Nat}

/-- One turn touches colour bytes that the shape covers, and no others. -/
theorem PixelDrawn.untouched
    (drawn : PixelDrawn frame_width frame_height stride pointer destination row column destination')
    (row_lt : row < pointer.shape.height) (column_lt : column < pointer.shape.width) {i : Nat}
    (apart : ¬ Touched frame_width frame_height stride pointer i) :
    destination'[i]? = destination[i]? := by
  cases drawn with
  | hidden off => rfl
  | @drawn x y target _ found_y found_x held written =>
    obtain ⟨x_eq, x_lt⟩ := offset_row_eq_some.mp found_x
    obtain ⟨y_eq, y_lt⟩ := offset_row_eq_some.mp found_y
    have covered : Covers pointer x y := by
      unfold Covers
      omega
    rw [getElem?_write? written, Quad.length_toList]
    split
    · rename_i inside
      -- the alpha byte, written back as it was
      have alpha : i = cell_at stride 4 x y + 3 := by
        by_contra colour
        exact apart ⟨x, y, x_lt, y_lt, covered, inside.1, by omega⟩
      have same := congrArg (fun bytes : List Byte => bytes[3]?) held
      rw [getElem?_slice_at, if_pos (by decide), ← alpha] at same
      rw [same, alpha, Nat.add_sub_cancel_left]
      show some (pointer.shape.blend row column target).b3 = some target.b3
      rw [blend_alpha]
    · rfl

/-- It follows the rule on its own pixel. -/
theorem PixelDrawn.under_self (wide : frame_width * 4 ≤ stride)
    (holds : stride * frame_height ≤ destination.length)
    (drawn : PixelDrawn frame_width frame_height stride pointer destination row column
      destination') :
    under frame_width frame_height stride pointer destination' row column =
      ruled pointer.shape row column
        (under frame_width frame_height stride pointer destination row column) := by
  unfold under
  cases drawn with
  | hidden off =>
    cases found_y : offset_row pointer.y row frame_height with
    | none => rfl
    | some y =>
      cases found_x : offset_row pointer.x column frame_width with
      | none => rfl
      | some x =>
        have x_lt := (offset_row_eq_some.mp found_x).2
        have within := cell_at_le (succ_mul_le_of_lt x frame_width 4 x_lt wide)
          (offset_row_eq_some.mp found_y).2
        have short := off x y found_y found_x
        rw [Nat.mul_comm] at holds
        omega
  | drawn found_y found_x held written =>
    rw [found_y, found_x]
    dsimp only
    rw [held, ruled_toList]
    exact slice_at_write?_self written

/-- It leaves the other pixels. -/
theorem PixelDrawn.under_other (wide : frame_width * 4 ≤ stride)
    (drawn : PixelDrawn frame_width frame_height stride pointer destination row column
      destination') {row' column' : Nat} (apart : (column', row') ≠ (column, row)) :
    under frame_width frame_height stride pointer destination' row' column' =
      under frame_width frame_height stride pointer destination row' column' := by
  unfold under
  cases drawn with
  | hidden off => rfl
  | @drawn x y target _ found_y found_x held written =>
    cases found_y' : offset_row pointer.y row' frame_height with
    | none => rfl
    | some y' =>
      cases found_x' : offset_row pointer.x column' frame_width with
      | none => rfl
      | some x' =>
        dsimp only
        obtain ⟨x_eq, x_lt⟩ := offset_row_eq_some.mp found_x
        obtain ⟨y_eq, y_lt⟩ := offset_row_eq_some.mp found_y
        obtain ⟨x_eq', x_lt'⟩ := offset_row_eq_some.mp found_x'
        obtain ⟨y_eq', y_lt'⟩ := offset_row_eq_some.mp found_y'
        apply slice_at_write?_disjoint written
        rw [Quad.length_toList]
        apply cell_at_disjoint (succ_mul_le_of_lt x frame_width 4 x_lt wide)
          (succ_mul_le_of_lt x' frame_width 4 x_lt' wide)
        intro same
        apply apart
        have x_same := (Prod.mk.inj same).1
        have y_same := (Prod.mk.inj same).2
        rw [Prod.mk.injEq]
        omega

/-- Drawing a pixel keeps the length of the buffer. -/
theorem PixelDrawn.length
    (drawn : PixelDrawn frame_width frame_height stride pointer destination row column
      destination') : destination'.length = destination.length := by
  cases drawn with
  | hidden off => rfl
  | drawn found_y found_x held written => exact length_write? written

end Drawing

/-- **Every pixel of the shape once**: each pixel under it follows the rule, and every byte that
is no colour byte of theirs stays.
SRC: cursor.rs:121-137 -/
theorem composite_loop_spec (frame_width frame_height stride : Nat) (pointer : PointerSample)
    (destination : List Byte) (wide : frame_width * 4 ≤ stride)
    (holds : stride * frame_height ≤ destination.length) :
    let after := (composite_pointer destination frame_width frame_height stride pointer).2
    (∀ i, ¬ Touched frame_width frame_height stride pointer i → after[i]? = destination[i]?) ∧
      ∀ row column, row < pointer.shape.height → column < pointer.shape.width →
        under frame_width frame_height stride pointer after row column =
          ruled pointer.shape row column
            (under frame_width frame_height stride pointer destination row column) := by
  intro after
  by_cases bare : pointer.shape.width = 0 ∨ pointer.shape.height = 0
  · have same : after = destination := by
      unfold after composite_pointer
      rw [if_pos bare]
    rw [same]
    exact ⟨fun i _ => rfl, fun row column row_lt column_lt => by omega⟩
  · have loop : after = (cells (List.range pointer.shape.height)
        (List.range pointer.shape.width)).foldl (fun destination p =>
          composite_pixel frame_width frame_height stride pointer destination p.2 p.1)
        destination := by
      unfold after composite_pointer
      rw [if_neg bare]
      exact foldl_nested (fun destination (p : Nat × Nat) =>
        composite_pixel frame_width frame_height stride pointer destination p.2 p.1) _ _ _
    obtain ⟨kept, drawn⟩ := foldl_pointwise
      (fun d : List Byte => d.length = destination.length ∧
        ∀ i, ¬ Touched frame_width frame_height stride pointer i → d[i]? = destination[i]?)
      (fun d (p : Nat × Nat) => under frame_width frame_height stride pointer d p.2 p.1)
      (fun destination p =>
        composite_pixel frame_width frame_height stride pointer destination p.2 p.1)
      (fun p => ruled pointer.shape p.2 p.1) (nodup_cells List.nodup_range List.nodup_range)
      (by
        rintro d ⟨column, row⟩ member ⟨length, kept⟩
        obtain ⟨column_lt, row_lt⟩ := mem_cells.mp member
        have turn := composite_pixel_drawn frame_width frame_height stride pointer d row column
        refine ⟨⟨turn.length.trans length, fun i apart => ?_⟩, ?_, ?_⟩
        · rw [turn.untouched (List.mem_range.mp row_lt) (List.mem_range.mp column_lt) apart]
          exact kept i apart
        · exact turn.under_self wide (by rwa [length])
        · rintro ⟨column', row'⟩ other
          exact turn.under_other wide other)
      destination ⟨rfl, fun i _ => rfl⟩
    rw [← loop] at kept drawn
    refine ⟨kept.2, fun row column row_lt column_lt => ?_⟩
    have once := drawn (column, row)
    rwa [if_pos (mem_cells.mpr ⟨List.mem_range.mpr column_lt, List.mem_range.mpr row_lt⟩)] at once

instance pointer_covers_decidable (pointer : PointerSample) (x y : Nat) :
    Decidable (Covers pointer x y) :=
  inferInstanceAs (Decidable (_ ∧ _))

/-- **Every pixel of the frame**: under the shape it follows the rule, and elsewhere it stays. -/
theorem composited_cell {frame_width frame_height stride : Nat} (pointer : PointerSample)
    {destination : List Byte} (wide : frame_width * 4 ≤ stride)
    (holds : stride * frame_height ≤ destination.length) {x y : Nat} (hx : x < frame_width)
    (hy : y < frame_height) :
    slice_at (composite_pointer destination frame_width frame_height stride pointer).2
        (cell_at stride 4 x y) 4 =
      if Covers pointer x y then
        ruled pointer.shape (y - pointer.y).toNat (x - pointer.x).toNat
          (slice_at destination (cell_at stride 4 x y) 4)
      else slice_at destination (cell_at stride 4 x y) 4 := by
  obtain ⟨kept, drawn⟩ :=
    composite_loop_spec frame_width frame_height stride pointer destination wide holds
  split
  · rename_i covered
    unfold Covers at covered
    have on_row : offset_row pointer.y (y - pointer.y).toNat frame_height = some y :=
      offset_row_eq_some.mpr ⟨by omega, hy⟩
    have on_column : offset_row pointer.x (x - pointer.x).toNat frame_width = some x :=
      offset_row_eq_some.mpr ⟨by omega, hx⟩
    have once := drawn (y - pointer.y).toNat (x - pointer.x).toNat (by omega) (by omega)
    unfold under at once
    rw [on_row, on_column] at once
    exact once
  · rename_i clear
    apply List.ext_getElem?
    intro i
    rw [getElem?_slice_at, getElem?_slice_at]
    split
    · rename_i inside
      apply kept
      rintro ⟨x', y', x_lt', y_lt', covered, from_byte, to_byte⟩
      have apart : (x, y) ≠ (x', y') := by
        intro same
        obtain ⟨rfl, rfl⟩ := Prod.mk.inj same
        exact clear covered
      have disjoint := cell_at_disjoint (succ_mul_le_of_lt x frame_width 4 hx wide)
        (succ_mul_le_of_lt x' frame_width 4 x_lt' wide) apart
      omega
    · rfl

/-! ## Crops -/

/-- A frame with the pointer drawn into it. -/
def pointed (frame : CpuFrame) (pointer : PointerSample) : CpuFrame :=
  { frame with
    pixels := (composite_pointer frame.pixels frame.width frame.height frame.stride_bytes
      pointer).2
    layout := by
      rw [length_composite_pointer]
      exact frame.layout }

/-- The pointer, from the origin of a selection. -/
def shifted (pointer : PointerSample) (source selection : Rect) : PointerSample :=
  { pointer with
    x := pointer.x - local_x source selection
    y := pointer.y - local_y source selection }

/-- A pixel of a frame with the pointer drawn into it. -/
theorem frame_pixel_pointed {frame : CpuFrame} (four : frame.format.bytes_per_pixel = 4)
    (pointer : PointerSample) {x y : Nat} (hx : x < frame.width) (hy : y < frame.height) :
    frame_pixel (pointed frame pointer) x y =
      if Covers pointer x y then
        ruled pointer.shape (y - pointer.y).toNat (x - pointer.x).toNat (frame_pixel frame x y)
      else frame_pixel frame x y := by
  obtain ⟨-, -, wide, -, holds⟩ := frame.layout_facts
  rw [four] at wide
  have cell := composited_cell pointer wide holds hx hy
  unfold frame_pixel pointed
  dsimp only
  rw [four]
  exact cell

/-- **Crops**: drawing and then cropping is cropping and then drawing from the shifted origin.
SRC: cursor.rs:103-106, frame.rs:291-354 -/
theorem crop_pointed {frame out : CpuFrame} (four : frame.format.bytes_per_pixel = 4)
    {selection : Rect} (made : frame.crop selection = .ok out) (pointer : PointerSample) :
    (pointed frame pointer).crop selection =
      .ok (pointed out (shifted pointer frame.metadata.source_rect selection)) := by
  obtain ⟨source, inside, cropped⟩ := cropped_of_ok made
  obtain ⟨out', made', cropped'⟩ := crop_of_inside (f := pointed frame pointer) source inside
  rw [made']
  congr 1
  obtain ⟨-, -, right, bottom⟩ := local_of_inside inside
  rw [source.1] at right
  rw [source.2] at bottom
  have four_out : out.format.bytes_per_pixel = 4 := by rw [cropped.format, four]
  refine CpuFrame.ext_fields ?_ ?_ ?_ ?_ ?_ ?_ ?_ ?_ ?_
  · have length :
        (pointed out (shifted pointer frame.metadata.source_rect selection)).pixels.length =
          selection.height * (selection.width * frame.format.bytes_per_pixel) :=
      (length_composite_pointer _ _ _ _ _).trans cropped.length
    refine eq_of_cells cropped'.length length fun x y hx hy => ?_
    have format : (pointed out (shifted pointer frame.metadata.source_rect selection)).format =
        frame.format := cropped.format
    have stride :
        (pointed out (shifted pointer frame.metadata.source_rect selection)).stride_bytes =
          selection.width * frame.format.bytes_per_pixel := cropped.stride_bytes
    have here : cell_of selection.width frame.format.bytes_per_pixel
        (pointed out (shifted pointer frame.metadata.source_rect selection)).pixels x y =
        frame_pixel (pointed out (shifted pointer frame.metadata.source_rect selection)) x y := by
      unfold cell_of frame_pixel
      rw [stride, format]
    refine (cropped'.cell x y).trans (Eq.trans ?_ here.symm)
    rw [cropped'.pixels x y hx hy,
      frame_pixel_pointed four_out _ (by rwa [cropped.width]) (by rwa [cropped.height]),
      cropped.pixels x y hx hy]
    show frame_pixel (pointed frame pointer) (local_x frame.metadata.source_rect selection + x)
      (local_y frame.metadata.source_rect selection + y) = _
    rw [frame_pixel_pointed four pointer (by omega) (by omega)]
    have same_cover : Covers pointer (local_x frame.metadata.source_rect selection + x)
        (local_y frame.metadata.source_rect selection + y) ↔
        Covers (shifted pointer frame.metadata.source_rect selection) x y := by
      unfold Covers shifted
      dsimp only
      omega
    rw [if_congr same_cover rfl rfl]
    have same_row : ((local_y frame.metadata.source_rect selection + y : Nat) - pointer.y).toNat =
        (y - (shifted pointer frame.metadata.source_rect selection).y).toNat := by
      unfold shifted
      dsimp only
      omega
    have same_column :
        ((local_x frame.metadata.source_rect selection + x : Nat) - pointer.x).toNat =
          (x - (shifted pointer frame.metadata.source_rect selection).x).toNat := by
      unfold shifted
      dsimp only
      omega
    rw [same_row, same_column]
    rfl
  · exact cropped'.width.trans cropped.width.symm
  · exact cropped'.height.trans cropped.height.symm
  · exact cropped'.stride_bytes.trans cropped.stride_bytes.symm
  · exact cropped'.format.trans cropped.format.symm
  · exact cropped'.origin.trans cropped.origin.symm
  · exact cropped'.color_space.trans cropped.color_space.symm
  · exact cropped'.alpha.trans cropped.alpha.symm
  · exact cropped'.metadata.trans cropped.metadata.symm

/-- **Drawing a pointer is local and clipped.**  Into every frame, nothing overflows; only
colour bytes of pixels that the shape covers change, each by the rule of the shape's kind; and
it commutes with cropping.
SRC: cursor.rs:103-233, frame.rs:291-354 -/
theorem pointer_drawn_locally {pointer : PointerSample} (typed : PointerTyped pointer) :
    (∀ (destination : List Byte) (frame_width frame_height stride : Nat),
      FrameTyped frame_width frame_height stride → stride * frame_height ≤ destination.length →
      let drawn := composite_pointer destination frame_width frame_height stride pointer
      checked_composite_pointer destination frame_width frame_height stride pointer = some drawn ∧
        (∀ i, ¬ Touched frame_width frame_height stride pointer i →
          drawn.2[i]? = destination[i]?) ∧
        ∀ x y, x < frame_width → y < frame_height →
          slice_at drawn.2 (cell_at stride 4 x y) 4 =
            if Covers pointer x y then
              ruled pointer.shape (y - pointer.y).toNat (x - pointer.x).toNat
                (slice_at destination (cell_at stride 4 x y) 4)
            else slice_at destination (cell_at stride 4 x y) 4) ∧
    ∀ (frame out : CpuFrame) (selection : Rect), frame.format.bytes_per_pixel = 4 →
      frame.crop selection = .ok out →
        (pointed frame pointer).crop selection =
          .ok (pointed out (shifted pointer frame.metadata.source_rect selection)) := by
  constructor
  · intro destination frame_width frame_height stride frame holds
    refine ⟨checked_composite_pointer_eq frame typed destination, ?_, ?_⟩
    · exact (composite_loop_spec frame_width frame_height stride pointer destination frame.wide
        holds).1
    · intro x y hx hy
      exact composited_cell pointer frame.wide holds hx hy
  · intro frame out selection four made
    exact crop_pointed four made pointer

/-! ## A masked pixel, and masks too tall -/

/-- One inverting pixel of a masked shape, at the second pixel of the first row. -/
def inverting_pixel : PointerSample := ⟨1, 0, ⟨.MaskedColor, 1, 1, 4, [1, 2, 3, 255]⟩⟩

/-- The example's pointer is a pointer. -/
theorem inverting_pixel_typed : PointerTyped inverting_pixel :=
  ⟨by decide, by decide, by decide, by decide, by decide, fun kind => by cases kind⟩

/-- It is drawn without overflow, and inverts the colour bytes under it. -/
theorem inverting_pixel_drawn :
    checked_composite_pointer [9, 9, 9, 255, 8, 8, 8, 255] 2 1 8 inverting_pixel =
      some (.Composited 1 0 1 1, [9, 9, 9, 255, 9, 10, 11, 255]) :=
  ((pointer_drawn_locally inverting_pixel_typed).1 [9, 9, 9, 255, 8, 8, 8, 255] 2 1 8
    ⟨by decide, by decide, by decide⟩ (by decide)).1

/-- Two masks of more than `2 ^ 31` rows, one pixel wide and with no bytes, from the topmost
origin. -/
def tall_masks : PointerSample := ⟨0, -2147483648, ⟨.Monochrome, 1, 2147483649, 1, []⟩⟩

/-- Drawing them into one pixel overflows the row of the second mask. -/
theorem tall_masks_overflow :
    checked_composite_pointer [0, 0, 0, 255] 1 1 4 tall_masks = none := by
  unfold checked_composite_pointer
  rw [if_neg (by decide)]
  have rows : (List.range tall_masks.shape.height).foldlM (fun destination row =>
      (List.range tall_masks.shape.width).foldlM (fun destination column =>
        checked_composite_pixel 1 1 4 tall_masks destination row column) destination)
      [0, 0, 0, 255] = none := by
    apply foldlM_fails (List.mem_range.mpr (by decide : 2147483648 < 2147483649))
    · rfl
    · intro row member apart
      have row_lt : row < 2147483649 := List.mem_range.mp member
      have off : offset_row tall_masks.y row 1 = none := by
        unfold offset_row tall_masks
        dsimp only
        rw [if_pos (by omega)]
      have still : checked_composite_pixel 1 1 4 tall_masks [0, 0, 0, 255] row 0 =
          some [0, 0, 0, 255] := by
        unfold checked_composite_pixel
        rw [off]
      show (checked_composite_pixel 1 1 4 tall_masks [0, 0, 0, 255] row 0).bind _ = _
      rw [still]
      rfl
  rw [rows]
  rfl

end Captastic.Analysis
