import Captastic.Library.Buffer
import Captastic.Model.Frame

/-!
# Pointer shapes

`captastic-windows/src/cursor.rs`: the last shape and position the compositor reported, and
drawing a shape into a captured picture.
-/

set_option autoImplicit false

namespace Captastic.Model

open Captastic.Library

/-- SRC: cursor.rs:21-34 -/
inductive PointerShapeKind where
  | Color
  | Monochrome
  | MaskedColor
deriving DecidableEq, Repr

/-- SRC: cursor.rs:36-46 -/
structure PointerShape where
  kind : PointerShapeKind
  width : Nat
  height : Nat
  pitch : Nat
  pixels : List Byte
deriving DecidableEq, Repr

/-- SRC: cursor.rs:67-73 -/
structure PointerPosition where
  x : Int
  y : Int
  visible : Bool
deriving DecidableEq, Repr

/-- SRC: cursor.rs:48-65 -/
structure PointerCache where
  shape : Option PointerShape
  position : Option PointerPosition
deriving DecidableEq, Repr

/-- SRC: cursor.rs:94-101 -/
structure PointerSample where
  x : Int
  y : Int
  shape : PointerShape
deriving DecidableEq, Repr

/-- SRC: cursor.rs:149-159 -/
def offset_row (origin : Int) (offset limit : Nat) : Option Nat :=
  let position := origin + offset
  if position < 0 ∨ position ≥ limit then none else some position.toNat

namespace PointerShape

variable (shape : PointerShape)

/-- SRC: cursor.rs:161-164 -/
def source_pixel (row column : Nat) : Option Quad :=
  match slice? shape.pixels (row * shape.pitch + column * 4) 4 with
  | some [b0, b1, b2, b3] => some ⟨b0, b1, b2, b3⟩
  | _ => none

/-- SRC: cursor.rs:166-189 -/
def blend_color (row column : Nat) (target : Quad) : Quad :=
  match shape.source_pixel row column with
  | none => target
  | some pixel =>
    let alpha := pixel.b3.toNat
    if alpha = 0 then target
    else if alpha = 255 then { pixel with b3 := target.b3 }
    else
      let blend (source existing : Byte) : Byte :=
        UInt8.ofNat ((source.toNat * alpha + existing.toNat * (255 - alpha)) / 255)
      ⟨blend pixel.b0 target.b0, blend pixel.b1 target.b1, blend pixel.b2 target.b2, target.b3⟩

/-- SRC: cursor.rs:191-203 -/
def blend_masked_color (row column : Nat) (target : Quad) : Quad :=
  match shape.source_pixel row column with
  | none => target
  | some pixel =>
    if pixel.b3 = 0 then { pixel with b3 := target.b3 }
    else ⟨target.b0 ^^^ pixel.b0, target.b1 ^^^ pixel.b1, target.b2 ^^^ pixel.b2, target.b3⟩

/-- SRC: cursor.rs:205-211 -/
def mask_bit (row column : Nat) : Option Bool :=
  shape.pixels[row * shape.pitch + column / 8]?.map fun byte =>
    byte.toNat / 2 ^ (7 - column % 8) % 2 == 1

/-- SRC: cursor.rs:213-233 -/
def blend_monochrome (row column : Nat) (target : Quad) : Quad :=
  match shape.mask_bit row column, shape.mask_bit (row + shape.height) column with
  | some false, some false => ⟨0x00, 0x00, 0x00, target.b3⟩
  | some false, some true => ⟨0xff, 0xff, 0xff, target.b3⟩
  | some true, some true => ⟨~~~target.b0, ~~~target.b1, ~~~target.b2, target.b3⟩
  | _, _ => target

/-- SRC: cursor.rs:132-136 -/
def blend (row column : Nat) (target : Quad) : Quad :=
  match shape.kind with
  | .Color => shape.blend_color row column target
  | .Monochrome => shape.blend_monochrome row column target
  | .MaskedColor => shape.blend_masked_color row column target

end PointerShape

/-- One pixel of a shape, drawn where it falls on the picture.
SRC: cursor.rs:121-137 -/
def composite_pixel (frame_width frame_height stride : Nat) (pointer : PointerSample)
    (destination : List Byte) (row column : Nat) : List Byte :=
  match offset_row pointer.y row frame_height, offset_row pointer.x column frame_width with
  | some destination_y, some destination_x =>
    let start := cell_at stride 4 destination_x destination_y
    match slice? destination start 4 with
    | some [b0, b1, b2, b3] =>
      (write? destination start (pointer.shape.blend row column ⟨b0, b1, b2, b3⟩).toList).getD
        destination
    | _ => destination
  | _, _ => destination

/-- SRC: cursor.rs:107-147 -/
def composite_pointer (destination : List Byte) (frame_width frame_height stride : Nat)
    (pointer : PointerSample) : CursorCapture × List Byte :=
  if pointer.shape.width = 0 ∨ pointer.shape.height = 0 then
    (.Absent .ShapeNotYetKnown, destination)
  else
    (.Composited pointer.x pointer.y pointer.shape.width pointer.shape.height,
      (List.range pointer.shape.height).foldl (fun destination row =>
        (List.range pointer.shape.width).foldl (fun destination column =>
          composite_pixel frame_width frame_height stride pointer destination row column)
          destination) destination)

/-- Drawing a pointer keeps the picture's size. -/
theorem length_composite_pixel (frame_width frame_height stride : Nat) (pointer : PointerSample)
    (destination : List Byte) (row column : Nat) :
    (composite_pixel frame_width frame_height stride pointer destination row column).length =
      destination.length := by
  unfold composite_pixel
  split
  · simp only
    split
    · rename_i b0 b1 b2 b3 _
      cases written : write? destination _
          (pointer.shape.blend row column ⟨b0, b1, b2, b3⟩).toList with
      | none => rfl
      | some destination' => exact length_write? written
    · rfl
  · rfl

/-- Drawing the pointer keeps the length of the buffer. -/
theorem length_composite_pointer (destination : List Byte) (frame_width frame_height stride : Nat)
    (pointer : PointerSample) :
    (composite_pointer destination frame_width frame_height stride pointer).2.length =
      destination.length := by
  unfold composite_pointer
  split
  · rfl
  · refine List.foldlRecOn _ _ (motive := fun d : List Byte => d.length = destination.length) rfl ?_
    intro d length_eq row _
    refine List.foldlRecOn _ _
      (motive := fun d : List Byte => d.length = destination.length) length_eq ?_
    intro d length_eq column _
    rw [length_composite_pixel, length_eq]

/-! ## Its arithmetic -/

/-- A value of `u32` arithmetic, if it is one. -/
def u32? (v : Nat) : Option Nat := if v ≤ 4294967295 then some v else none

/-- A value of 64-bit `usize` arithmetic, if it is one. -/
def usize? (v : Nat) : Option Nat := if v ≤ 18446744073709551615 then some v else none

namespace PointerShape

variable (shape : PointerShape)

/-- `source_pixel`, with the ends of its slice checked. -/
def checked_source_pixel (row column : Nat) : Option (Option Quad) := do
  let start ← usize? (row * shape.pitch + column * 4)
  let _ ← usize? (start + 4)
  some (shape.source_pixel row column)

/-- `mask_bit`, with its index checked. -/
def checked_mask_bit (row column : Nat) : Option (Option Bool) := do
  let _ ← usize? (row * shape.pitch + column / 8)
  some (shape.mask_bit row column)

/-- `blend`, with every sum and product of it checked.
SRC: cursor.rs:161-233 -/
def checked_blend (row column : Nat) (target : Quad) : Option Quad :=
  match shape.kind with
  | .Color | .MaskedColor => do
    let _ ← shape.checked_source_pixel row column
    some (shape.blend row column target)
  | .Monochrome => do
    let _ ← shape.checked_mask_bit row column
    let below ← u32? (row + shape.height)
    let _ ← shape.checked_mask_bit below column
    some (shape.blend row column target)

end PointerShape

/-- `composite_pixel`, with every sum and product of it checked.
SRC: cursor.rs:121-137 -/
def checked_composite_pixel (frame_width frame_height stride : Nat) (pointer : PointerSample)
    (destination : List Byte) (row column : Nat) : Option (List Byte) :=
  match offset_row pointer.y row frame_height, offset_row pointer.x column frame_width with
  | some destination_y, some destination_x => do
    let start ← usize? (cell_at stride 4 destination_x destination_y)
    let _ ← usize? (start + 4)
    match slice? destination start 4 with
    | some [b0, b1, b2, b3] => do
      let blended ← pointer.shape.checked_blend row column ⟨b0, b1, b2, b3⟩
      some ((write? destination start blended.toList).getD destination)
    | _ => some destination
  | _, _ => some destination

/-- `composite_pointer`, with every sum and product of it checked; `none` is an overflow.
SRC: cursor.rs:107-146 -/
def checked_composite_pointer (destination : List Byte) (frame_width frame_height stride : Nat)
    (pointer : PointerSample) : Option (CursorCapture × List Byte) :=
  if pointer.shape.width = 0 ∨ pointer.shape.height = 0 then
    some (.Absent .ShapeNotYetKnown, destination)
  else do
    let destination ← (List.range pointer.shape.height).foldlM (fun destination row =>
      (List.range pointer.shape.width).foldlM (fun destination column =>
        checked_composite_pixel frame_width frame_height stride pointer destination row column)
        destination) destination
    some (.Composited pointer.x pointer.y pointer.shape.width pointer.shape.height, destination)

end Captastic.Model
