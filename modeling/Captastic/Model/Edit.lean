import Captastic.Library.Buffer
import Captastic.Model.Frame

/-!
# What an editor does to a capture

`captastic-core/src/edit.rs`: an `Edit` holds a capture and the operations made on
it, one crop and any number of marks, each undoable; `render` makes the published
image by copying the crop and painting the marks in order.

A slice access or an index that is out of range stops the program.  Functions that
make such accesses return an `Option` here, whose `none` is that panic.

The `f32` geometry of drawn marks, how much of a pixel a mark covers and how ink is
blended over a pixel, is the parameter `Drawing`, named after the functions of
edit.rs it stands for: everything it returns may depend on the mark, the position,
the pixel's current bytes and the alpha kind in any way.
-/

set_option autoImplicit false

namespace Captastic.Model

open Captastic.Library

/-- `value as usize` for an integer that may be negative. -/
def as_usize (v : Int) : Nat := (v % 18446744073709551616).toNat

/-- `value as i32`. -/
def as_i32 (v : Int) : Int := Int.bmod v 4294967296

/-- A cast to `i32` is in its range. -/
theorem as_i32_range (v : Int) : InI32 (as_i32 v) := by
  unfold InI32 as_i32
  have hleast := Int.le_bmod (x := v) (m := 4294967296) (by decide)
  have hmost := Int.bmod_lt (x := v) (m := 4294967296) (by decide)
  omega

/-- A cast leaves what is an `i32` already. -/
theorem as_i32_of_range {v : Int} (h₀ : -2147483648 ≤ v) (h₁ : v ≤ 2147483647) :
    as_i32 v = v := by
  rw [as_i32, Int.bmod_eq_of_le] <;> omega

/-- The values of an `i32`, as a type. -/
abbrev I32 := { v : Int // InI32 v }

/-- The values of a `u32`, as a type. -/
abbrev U32 := { v : Nat // InU32 v }

/-! ## Marks -/

/-- SRC: edit.rs:29-35 -/
structure Color where
  red : Byte
  green : Byte
  blue : Byte
deriving DecidableEq

/-- Rasterized text; the length of `coverage` is what `GlyphMask::new` checks.
SRC: edit.rs:48-53 -/
structure GlyphMask where
  width : U32
  height : U32
  coverage : List Byte
  covers : coverage.length = width.1 * height.1
deriving DecidableEq

namespace GlyphMask

/-- SRC: edit.rs:57-64 -/
def new (width height : U32) (coverage : List Byte) : Option GlyphMask :=
  if h : coverage.length = width.1 * height.1 then some ⟨width, height, coverage, h⟩ else none

/-- SRC: edit.rs:79-81 -/
def is_blank (mask : GlyphMask) : Bool := mask.coverage.all (· == 0)

end GlyphMask

/-- SRC: edit.rs:84-92 -/
inductive StrokeStyle where
  | Ink
  | Highlighter
deriving DecidableEq

/-- Something drawn on a capture, over the `f32` type `F`.
SRC: edit.rs:94-132 -/
inductive Mark (F : Type) where
  | Redaction (rect : Rect)
  | Rectangle (rect : Rect) (color : Color) (width : U32) (radius : F)
  | Stroke (points : List (F × F)) (color : Color) (width : F) (style : StrokeStyle)
  | Arrow (tail tip : F × F) (color : Color) (width : F)
  | Text (left top : I32) (text : String) (size : U32) (color : Color) (mask : GlyphMask)
deriving BEq, DecidableEq

/-- The `f32` arithmetic behind drawn marks, under the names of the functions of
edit.rs it stands for.  `stroke_edges` and `arrow_edges` are the four edges
`Mark::bounds` hands to `Rect::from_edges`, the latter `none` when `ArrowShape::new`
refuses; `arrow_coverage` is `ArrowShape::new` with `ArrowShape::coverage` at the
centre of a pixel. -/
structure Drawing (F : Type) where
  /-- `value > 0.0` -/
  positive : F → Bool
  /-- `value as f32` -/
  of_u32 : Nat → F
  /-- `f32::from(value) / 255.0` -/
  of_coverage : Byte → F
  /-- `cover * HIGHLIGHTER_STRENGTH` -/
  highlighter : F → F
  stroke_edges : List (F × F) → F → Int × Int × Int × Int
  arrow_edges : F × F → F × F → F → Option (Int × Int × Int × Int)
  box_outline_coverage : Rect → F → F → Int → Int → F
  stroke_coverage : List (F × F) → F → Rect → List F
  stroke_coverage_length : ∀ points width area,
    (stroke_coverage points width area).length = area.width * area.height
  arrow_coverage : F × F → F × F → F → Option (Int → Int → F)
  blend_over : Quad → Quad → F → FrameAlpha → Quad
  tint : Quad → Quad → F → Quad

section Edit

variable {F : Type} (D : Drawing F)

/-- Every pixel the mark can change, unclipped.
SRC: edit.rs:136-188 -/
def Mark.bounds : Mark F → Option Rect
  | .Redaction rect | .Rectangle rect _ _ _ =>
    if rect.width > 0 ∧ rect.height > 0 then some rect else none
  | .Text left top _ _ _ mask =>
    if mask.width.1 > 0 ∧ mask.height.1 > 0 then
      some { x := left.1, y := top.1, width := mask.width.1, height := mask.height.1,
             x_i32 := left.2, y_i32 := top.2, width_u32 := mask.width.2,
             height_u32 := mask.height.2 }
    else none
  | .Arrow tail tip _ width =>
    (D.arrow_edges tail tip width).bind fun e => Rect.from_edges e.1 e.2.1 e.2.2.1 e.2.2.2
  | .Stroke points _ width _ =>
    if points.isEmpty || !D.positive width then none
    else
      let e := D.stroke_edges points width
      Rect.from_edges e.1 e.2.1 e.2.2.1 e.2.2.2

/-- One undoable operation.
SRC: edit.rs:191-205 -/
inductive Step (F : Type) where
  | Crop (before after : Rect)
  | Mark (mark : Mark F)
  | Replace (index : Nat) (before : Mark F) (after : Option (Mark F))
deriving DecidableEq

/-- The whole of a frame, from its top-left pixel.
SRC: edit.rs:795-802 -/
def full_bounds (frame : CpuFrame) : Rect where
  x := 0
  y := 0
  x_i32 := in_i32_zero
  y_i32 := in_i32_zero
  width := frame.width
  height := frame.height
  width_u32 := by
    have := frame.sides_le
    simp only [InU32]
    omega
  height_u32 := by
    have := frame.sides_le
    simp only [InU32]
    omega

/-- A capture being edited.
SRC: edit.rs:207-215 -/
structure Edit (F : Type) where
  source : CpuFrame
  crop : Rect
  marks : List (Mark F)
  undo_steps : List (Step F)
  redo_steps : List (Step F)

namespace Edit

/-- SRC: edit.rs:222-231 -/
def new (source : CpuFrame) : Edit F where
  source := source
  crop := full_bounds source
  marks := []
  undo_steps := []
  redo_steps := []

variable (e : Edit F)

/-- SRC: edit.rs:238-240 -/
def bounds : Rect := full_bounds e.source

/-- A drawn mark changes something where it is drawn: it has a width, or letters.
SRC: edit.rs:324-331 -/
def drawable : Mark F → Bool
  | .Rectangle _ _ width _ => width.1 > 0
  | .Stroke _ _ width _ => D.positive width
  | .Arrow _ _ _ _ => true
  | .Text _ _ _ _ _ mask => !mask.is_blank
  | .Redaction _ => true

/-- The mark as it would be kept, or nothing if it is not one to keep.
SRC: edit.rs:311-339 -/
def accept (mark : Mark F) : Option (Mark F) :=
  match mark with
  | .Redaction rect => (rect.intersection e.bounds).map .Redaction
  | drawn =>
    let eight_bit := match e.source.format.encoding with
      | .EightBitRgba _ => true
      | .HalfFloatRgba => false
    let visible := ((drawn.bounds D).bind fun reach => reach.intersection e.bounds).isSome
    if !eight_bit || !visible || !drawable D drawn then none else some drawn

/-- SRC: edit.rs:411-422 -/
def apply : Step F → Option (Edit F)
  | .Crop _ after => some { e with crop := after }
  | .Mark mark => some { e with marks := e.marks ++ [mark] }
  | .Replace index _ (some mark) =>
    if index < e.marks.length then some { e with marks := e.marks.set index mark } else none
  | .Replace index _ none =>
    if index < e.marks.length then some { e with marks := e.marks.eraseIdx index } else none

/-- SRC: edit.rs:404-409 -/
def record (step : Step F) : Option (Edit F) :=
  (e.apply step).map fun e' =>
    { e' with undo_steps := e'.undo_steps ++ [step], redo_steps := [] }

/-- SRC: edit.rs:255-267 -/
def set_crop (rect : Rect) : Option (Edit F × Bool) :=
  match rect.intersection e.bounds with
  | none => some (e, false)
  | some after =>
    if after = e.crop then some (e, false)
    else (e.record (.Crop e.crop after)).map (·, true)

/-- SRC: edit.rs:279-285 -/
def add (mark : Mark F) : Option (Edit F × Bool) :=
  match e.accept D mark with
  | none => some (e, false)
  | some mark => (e.record (.Mark mark)).map (·, true)

/-- SRC: edit.rs:271-273 -/
def redact (rect : Rect) : Option (Edit F × Bool) := e.add D (.Redaction rect)

/-- SRC: edit.rs:291-308 -/
def replace [BEq F] (index : Nat) (mark : Option (Mark F)) : Option (Edit F × Bool) :=
  match e.marks[index]? with
  | none => some (e, false)
  | some before =>
    match mark with
    | some mark =>
      match e.accept D mark with
      | some mark =>
        if mark != before then
          (e.record (.Replace index before (some mark))).map (·, true)
        else some (e, false)
      | none => some (e, false)
    | none => (e.record (.Replace index before none)).map (·, true)

/-- SRC: edit.rs:343-353 -/
def last_changed : Option Nat :=
  match e.undo_steps.getLast? with
  | some (.Mark _) => if e.marks.length ≥ 1 then some (e.marks.length - 1) else none
  | some (.Replace index _ (some _)) => some index
  | _ => none

/-- `Vec::insert`: an index past the end panics. -/
def insert_mark (marks : List (Mark F)) (index : Nat) (mark : Mark F) :
    Option (List (Mark F)) :=
  if index ≤ marks.length then some (marks.insertIdx index mark) else none

/-- What `undo` does with the step it popped.
SRC: edit.rs:373-389 -/
def revert : Step F → Option (Edit F)
  | .Crop before _ => some { e with crop := before }
  | .Mark _ => some { e with marks := e.marks.dropLast }
  | .Replace index before (some _) =>
    if index < e.marks.length then some { e with marks := e.marks.set index before } else none
  | .Replace index before none =>
    (insert_mark e.marks index before).map fun marks => { e with marks }

/-- SRC: edit.rs:369-392 -/
def undo : Option (Edit F × Bool) :=
  match e.undo_steps.getLast? with
  | none => some (e, false)
  | some step =>
    (revert { e with undo_steps := e.undo_steps.dropLast } step).map fun e' =>
      ({ e' with redo_steps := e'.redo_steps ++ [step] }, true)

/-- SRC: edit.rs:395-402 -/
def redo : Option (Edit F × Bool) :=
  match e.redo_steps.getLast? with
  | none => some (e, false)
  | some step =>
    (apply { e with redo_steps := e.redo_steps.dropLast } step).map fun e' =>
      ({ e' with undo_steps := e'.undo_steps ++ [step] }, true)

end Edit

/-! ## Painting -/

/-- SRC: edit.rs:22 -/
def REDACTION_EIGHT_BIT : List Byte := [0, 0, 0, 255]

/-- SRC: edit.rs:24 -/
def REDACTION_HALF_FLOAT : List Byte := [0, 0, 0, 0, 0, 0, 0x00, 0x3C]

/-- SRC: edit.rs:681-687 -/
def ordered (color : Color) (blue_first : Bool) : Quad :=
  if blue_first then ⟨color.blue, color.green, color.red, 255⟩
  else ⟨color.red, color.green, color.blue, 255⟩

/-- `for y in reach.y..reach.bottom() { for x in reach.x..reach.right() { .. } }` -/
def visit (reach : Rect) (step : List Byte → Int × Int → Option (List Byte))
    (pixels : List Byte) : Option (List Byte) :=
  (int_range reach.y (as_i32 reach.bottom)).foldlM
    (fun pixels y => (int_range reach.x (as_i32 reach.right)).foldlM
      (fun pixels x => step pixels (x, y)) pixels) pixels

/-- `blend(&mut pixels[at..at + 4])` -/
def blend_at (pixels : List Byte) (pos : Nat) (blend : Quad → Quad) : Option (List Byte) :=
  match slice? pixels pos 4 with
  | some [b0, b1, b2, b3] => write? pixels pos (blend ⟨b0, b1, b2, b3⟩).toList
  | _ => none

/-- SRC: edit.rs:689-703 -/
def fill (pixels : List Byte) (rect : Rect) (offset : Int → Int → Nat)
    (bytes_per_pixel : Nat) (value : List Byte) : Option (List Byte) :=
  (int_range rect.y (as_i32 rect.bottom)).foldlM (fun pixels y => do
    let start := offset rect.x y
    let _ ← slice? pixels start (rect.width * bytes_per_pixel)
    (List.range rect.width).foldlM (fun pixels pixel =>
      if value.length = bytes_per_pixel then
        write? pixels (start + pixel * bytes_per_pixel) value
      else none) pixels) pixels

/-- Paints `mark` into `pixels`, which hold the part of a capture covered by `area`,
`stride` bytes per row, in `format`.
SRC: edit.rs:481-590 -/
def paint_mark (mark : Mark F) (pixels : List Byte) (stride : Nat) (area : Rect)
    (format : PixelFormat) (alpha : FrameAlpha) : Option (List Byte) :=
  match (mark.bounds D).bind fun bounds => bounds.intersection area with
  | none => some pixels
  | some reach =>
    let bytes_per_pixel := format.bytes_per_pixel
    let offset : Int → Int → Nat := fun x y =>
      as_usize (y - area.y) * stride + as_usize (x - area.x) * bytes_per_pixel
    match format.encoding with
    | .HalfFloatRgba =>
      match mark with
      | .Redaction _ => fill pixels reach offset bytes_per_pixel REDACTION_HALF_FLOAT
      | _ => some pixels
    | .EightBitRgba blue_first =>
      match mark with
      | .Redaction _ => fill pixels reach offset 4 REDACTION_EIGHT_BIT
      | .Rectangle rect color width radius =>
        let ink := ordered color blue_first
        visit reach (fun pixels p =>
          let cover := D.box_outline_coverage rect (D.of_u32 width.1) radius p.1 p.2
          if D.positive cover then
            blend_at pixels (offset p.1 p.2) fun pixel => D.blend_over pixel ink cover alpha
          else some pixels) pixels
      | .Stroke points color width style =>
        let coverage := D.stroke_coverage points width reach
        let ink := ordered color blue_first
        (List.range reach.height).foldlM (fun pixels y =>
          (List.range reach.width).foldlM (fun pixels x => do
            let cover ← coverage[y * reach.width + x]?
            if !D.positive cover then some pixels
            else
              blend_at pixels (offset (reach.x + as_i32 x) (reach.y + as_i32 y)) fun pixel =>
                match style with
                | .Ink => D.blend_over pixel ink cover alpha
                | .Highlighter => D.tint pixel ink (D.highlighter cover)) pixels) pixels
      | .Text left top _ _ color mask =>
        let ink := ordered color blue_first
        visit reach (fun pixels p => do
          let value ← mask.coverage[as_usize (p.2 - top.1) * mask.width.1 +
            as_usize (p.1 - left.1)]?
          if value > 0 then
            blend_at pixels (offset p.1 p.2) fun pixel =>
              D.blend_over pixel ink (D.of_coverage value) alpha
          else some pixels) pixels
      | .Arrow tail tip color width =>
        match D.arrow_coverage tail tip width with
        | none => some pixels
        | some coverage =>
          let ink := ordered color blue_first
          visit reach (fun pixels p =>
            let cover := coverage p.1 p.2
            if D.positive cover then
              blend_at pixels (offset p.1 p.2) fun pixel => D.blend_over pixel ink cover alpha
            else some pixels) pixels

/-! ## The published image -/

namespace Edit

variable (e : Edit F)

/-- The metadata the published image carries.
SRC: edit.rs:451-460 -/
def rendered_metadata : FrameMetadata :=
  let origin := e.source.metadata.source_rect
  { e.source.metadata with
    source_rect :=
      { x := saturating_add_i32 origin.x e.crop.x
        y := saturating_add_i32 origin.y e.crop.y
        width := e.crop.width
        height := e.crop.height
        x_i32 := in_i32_saturating_add_i32 _ _
        y_i32 := in_i32_saturating_add_i32 _ _
        width_u32 := e.crop.width_u32
        height_u32 := e.crop.height_u32 }
    copy_count := saturating_add_u32 e.source.metadata.copy_count 1
    pool_slot := none }

/-- The pixels of the crop, tightly packed, before any mark.
SRC: edit.rs:430-440 -/
def cropped_pixels : Option (List Byte) :=
  let bytes_per_pixel := e.source.format.bytes_per_pixel
  let row_bytes := e.crop.width * bytes_per_pixel
  let left := as_usize e.crop.x * bytes_per_pixel
  if row_bytes = 0 then none
  else
    (List.range e.crop.height).foldlM (fun pixels row => do
      let start := (as_usize e.crop.y + row) * e.source.stride_bytes + left
      let target ← slice? e.source.pixels start row_bytes
      write? pixels (row * row_bytes) target)
      (List.replicate (row_bytes * e.crop.height) 0)

/-- The image to publish: the crop, with every mark painted on it in order.
SRC: edit.rs:429-472 -/
def render : Option (Except FrameError CpuFrame) := do
  let row_bytes := e.crop.width * e.source.format.bytes_per_pixel
  let pixels ← e.cropped_pixels
  let pixels ← e.marks.foldlM (fun pixels mark =>
    paint_mark D mark pixels row_bytes e.crop e.source.format e.source.alpha) pixels
  some ((CpuFrame.new pixels e.crop.width e.crop.height row_bytes e.source.format
    e.source.origin e.source.color_space e.rendered_metadata).map
      fun frame => frame.with_alpha e.source.alpha)

end Edit

end Edit

end Captastic.Model
