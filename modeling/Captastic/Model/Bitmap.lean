import Captastic.Library.Bytes
import Captastic.Model.Dxgi
import Captastic.Model.FilenameTemplate
import Captastic.Model.Snap

/-!
# Bitmaps

The two bitmaps a capture is written as: the file of `captastic-core/src/bmp.rs`, with the checks
every encoder makes first (`captastic-core/src/encode.rs`), and the payload of
`captastic-windows/src/clipboard.rs`.

A header is the list of its fields, in the order they are pushed in; `usize` has 64 bits.
-/

set_option autoImplicit false

namespace Captastic.Model

open Captastic.Library

/-! ## Checks -/

/-- The errors a bitmap can end in.  SRC: encode.rs:129-173 -/
inductive EncodeError where
  | UnsupportedOrigin (format : OutputFormat) (origin : FrameOrigin)
  | UnsupportedFormat (format : OutputFormat) (pixel_format : PixelFormat)
  | UnsupportedColorSpace (format : OutputFormat) (color_space : ColorSpace)
  | EmptyDimensions
  | InvalidStride (stride minimum : Nat)
  | SizeOverflow
  | BufferTooShort (actual required : Nat)
  | DimensionsTooLarge (format : OutputFormat) (width height limit : Nat)
deriving DecidableEq

/-- SRC: encode.rs:206-213 -/
structure SourceLayout where
  source_row_bytes : Nat
  swizzle : Bool
  straight_alpha : Bool

namespace SourceLayout

/-- Whether the pixels store blue first, where they have eight bits.  SRC: encode.rs:230-238 -/
def swizzle_of (frame : CpuFrame) (format : OutputFormat) : Outcome EncodeError Bool :=
  match frame.format.encoding with
  | .EightBitRgba blue_first => .ok blue_first
  | .HalfFloatRgba => fail (.UnsupportedFormat format frame.format)

/-- SRC: encode.rs:216-271 -/
def inspect (frame : CpuFrame) (format : OutputFormat) : Outcome EncodeError SourceLayout := do
  fail_if (frame.origin ≠ .TopLeft) (.UnsupportedOrigin format frame.origin)
  fail_if (frame.width = 0 ∨ frame.height = 0) .EmptyDimensions
  let swizzle ← swizzle_of frame format
  fail_if (frame.color_space = .ScRgb) (.UnsupportedColorSpace format frame.color_space)
  let source_row_bytes ← or_fail (checked_mul_usize frame.width 4) .SizeOverflow
  let minimum ← or_fail (try_u32 source_row_bytes) .SizeOverflow
  fail_if (frame.stride_bytes < minimum) (.InvalidStride frame.stride_bytes minimum)
  let required ← or_fail (checked_mul_usize frame.stride_bytes frame.height) .SizeOverflow
  fail_if (frame.pixels.length < required) (.BufferTooShort frame.pixels.length required)
  .ok ⟨source_row_bytes, swizzle, frame.alpha = .Straight⟩

/-- SRC: encode.rs:274-277 -/
def source_row (layout : SourceLayout) (frame : CpuFrame) (row : Nat) : Option (List Byte) :=
  slice? frame.pixels (row * frame.stride_bytes) layout.source_row_bytes

/-- The red and the blue of a source pixel.  SRC: encode.rs:280-286 -/
def channels (layout : SourceLayout) : (Quad → Byte) × (Quad → Byte) :=
  if layout.swizzle then (Quad.b2, Quad.b0) else (Quad.b0, Quad.b2)

end SourceLayout

/-! ## Headers -/

def push_u16 (value : Nat) : StoredField := ⟨2, value⟩

def push_u32 (value : Nat) : StoredField := ⟨4, value⟩

def push_i32 (value : Int) : StoredField := ⟨4, bits_of_i32 value⟩

def FILE_HEADER_BYTES : Nat := 14

def INFO_HEADER_BYTES : Nat := 40

def V5_HEADER_BYTES : Nat := 124

def BI_RGB : Nat := 0

def BI_BITFIELDS : Nat := 3

def LCS_SRGB : Nat := 0x73524742

def LCS_GM_IMAGES : Nat := 4

/-- `u32::try_from(..).unwrap_or(u32::MAX)` -/
def u32_or_max (value : Nat) : Nat := (try_u32 value).getD 4294967295

/-- SRC: bmp.rs:75-84 -/
def file_fields (file_size pixel_offset : Nat) : List StoredField :=
  [⟨1, 'B'.toNat⟩, ⟨1, 'M'.toNat⟩, push_u32 file_size, push_u16 0, push_u16 0,
    push_u32 (u32_or_max pixel_offset)]

/-- SRC: bmp.rs:86-109 -/
def info_fields (header_bytes : Nat) (width height : Int) (bits_per_pixel compression
    size_image : Nat) : List StoredField :=
  [push_u32 (u32_or_max header_bytes), push_i32 width, push_i32 height, push_u16 1,
    push_u16 bits_per_pixel, push_u32 compression, push_u32 size_image, push_i32 0, push_i32 0,
    push_u32 0, push_u32 0]

/-- SRC: bmp.rs:111-136 -/
def v5_fields : List StoredField :=
  [push_u32 0x00ff0000, push_u32 0x0000ff00, push_u32 0x000000ff, push_u32 0xff000000,
    push_u32 LCS_SRGB] ++
  List.replicate 9 (push_i32 0) ++
  [push_u32 0, push_u32 0, push_u32 0, push_u32 LCS_GM_IMAGES, push_u32 0, push_u32 0, push_u32 0]

/-! ## Rows -/

/-- The whole pixels of some bytes, `chunks_exact(4)`. -/
def quads : List Byte → List Quad
  | b0 :: b1 :: b2 :: b3 :: bytes => ⟨b0, b1, b2, b3⟩ :: quads bytes
  | _ => []

/-- Every pixel over the next chunk of the row, which it is converted to, as long as both last.
SRC: bmp.rs:146-162 -/
def convert_row (size : Nat) (convert : Quad → List Byte) : List Quad → List Byte → List Byte
  | [], row => row
  | pixel :: pixels, row =>
    if size ≤ row.length then convert pixel ++ convert_row size convert pixels (row.drop size)
    else row

/-- The bytes a pixel is written as. -/
def convert_pixel (layout : SourceLayout) (pixel : Quad) : List Byte :=
  let (red, blue) := layout.channels
  if layout.straight_alpha then [blue pixel, pixel.b1, red pixel, pixel.b3]
  else [blue pixel, pixel.b1, red pixel]

/-- SRC: bmp.rs:170-178 -/
def row_bytes (width bits_per_pixel : Nat) : Outcome EncodeError Nat :=
  or_fail (((checked_mul_usize width (bits_per_pixel / 8)).bind fun bytes =>
    checked_add_usize bytes 3).map fun bytes => bytes / 4 * 4) .SizeOverflow

/-- One row, converted into the row before it and appended.  SRC: bmp.rs:143-165 -/
def push_row (layout : SourceLayout) (frame : CpuFrame) (state : List Byte × List Byte)
    (source_row : Nat) : Outcome EncodeError (List Byte × List Byte) := do
  let source ← access (layout.source_row frame source_row)
  let size := if layout.straight_alpha then 4 else 3
  let row := convert_row size (convert_pixel layout) (quads source) state.2
  .ok (state.1 ++ row, row)

/-! ## The file -/

/-- SRC: bmp.rs:43-167 -/
def encode_frame (frame : CpuFrame) : Outcome EncodeError (List Byte) := do
  let layout ← SourceLayout.inspect frame .Bmp
  let too_large := EncodeError.DimensionsTooLarge .Bmp frame.width frame.height 2147483647
  let width ← or_fail (try_i32 frame.width) too_large
  let height ← or_fail (try_i32 frame.height) too_large
  let header_bytes := if layout.straight_alpha then V5_HEADER_BYTES else INFO_HEADER_BYTES
  let bits_per_pixel := if layout.straight_alpha then 32 else 24
  let row_bytes ← row_bytes frame.width bits_per_pixel
  let image_bytes ← or_fail (checked_mul_usize row_bytes frame.height) .SizeOverflow
  let pixel_offset := FILE_HEADER_BYTES + header_bytes
  let file_bytes ← or_fail (checked_add_usize pixel_offset image_bytes) .SizeOverflow
  let size_image ← or_fail (try_u32 image_bytes) .SizeOverflow
  let file_size ← or_fail (try_u32 file_bytes) .SizeOverflow
  let compression := if layout.straight_alpha then BI_BITFIELDS else BI_RGB
  let header := file_fields file_size pixel_offset ++
    info_fields header_bytes width height bits_per_pixel compression size_image ++
    (if layout.straight_alpha then v5_fields else [])
  let (bmp, _) ← (List.range' 0 frame.height).reverse.foldlM (push_row layout frame)
    (stored header, List.replicate row_bytes 0)
  .ok bmp

/-! ## The clipboard -/

/-- The structure of the Windows headers, by value: what is not set is zero. -/
structure BITMAPV5HEADER where
  bV5Size : Nat
  bV5Width : Int
  bV5Height : Int
  bV5Planes : Nat
  bV5BitCount : Nat
  bV5Compression : Nat
  bV5SizeImage : Nat
  bV5RedMask : Nat
  bV5GreenMask : Nat
  bV5BlueMask : Nat
  bV5AlphaMask : Nat
  bV5CSType : Nat
  bV5Intent : Nat

/-- The structure as it lies in memory. -/
def BITMAPV5HEADER.fields (header : BITMAPV5HEADER) : List StoredField :=
  [push_u32 header.bV5Size, push_i32 header.bV5Width, push_i32 header.bV5Height,
    push_u16 header.bV5Planes, push_u16 header.bV5BitCount, push_u32 header.bV5Compression,
    push_u32 header.bV5SizeImage, push_i32 0, push_i32 0, push_u32 0, push_u32 0,
    push_u32 header.bV5RedMask, push_u32 header.bV5GreenMask, push_u32 header.bV5BlueMask,
    push_u32 header.bV5AlphaMask, push_u32 header.bV5CSType] ++
  List.replicate 9 (push_i32 0) ++
  [push_u32 0, push_u32 0, push_u32 0, push_u32 header.bV5Intent, push_u32 0, push_u32 0,
    push_u32 0]

/-- SRC: clipboard.rs:451-456 -/
structure DibV5Layout where
  header : BITMAPV5HEADER
  tight_stride : Nat
  payload_bytes : Nat

namespace DibV5Layout

/-- SRC: clipboard.rs:614-623 -/
def unsupported (message : String) : CaptureError :=
  ⟨.Unsupported, "windows-clipboard", "build_dibv5", message, false, none⟩

/-- SRC: clipboard.rs:625-634 -/
def invalid_frame (message : String) : CaptureError :=
  ⟨.InvalidFrame, "windows-clipboard", "build_dibv5", message, false, none⟩

/-- The encodings a payload can have.  SRC: clipboard.rs:463-479 -/
def check_encoding (frame : CpuFrame) : Outcome CaptureError Unit :=
  match frame.format.encoding with
  | .EightBitRgba true => .ok ()
  | .EightBitRgba false =>
    fail (unsupported "DIBV5 publication requires BGRA8 pixels, and this frame is RGBA8")
  | .HalfFloatRgba =>
    fail (unsupported "DIBV5 publication requires 8-bit pixels, and this frame is half-float")

/-- SRC: clipboard.rs:459-543 -/
def new (frame : CpuFrame) : Outcome CaptureError DibV5Layout := do
  check_encoding frame
  fail_if (frame.origin ≠ .TopLeft) (unsupported "DIBV5 publication requires top-left pixels")
  let width ← or_fail (try_i32 frame.width)
    (invalid_frame "clipboard width exceeds the DIBV5 limit")
  let height ← or_fail (try_i32 frame.height)
    (invalid_frame "clipboard height exceeds the DIBV5 limit")
  fail_if (width = 0 ∨ height = 0) (invalid_frame "clipboard frame dimensions must be nonzero")
  let tight_stride ← or_fail (checked_mul_usize frame.width 4)
    (invalid_frame "clipboard row size overflowed")
  fail_if (frame.stride_bytes < tight_stride)
    (invalid_frame "clipboard source stride is too small")
  let pixel_bytes ← or_fail (checked_mul_usize tight_stride frame.height)
    (invalid_frame "clipboard pixel size overflowed")
  fail_if (frame.pixels.length < min (frame.stride_bytes * frame.height) 18446744073709551615)
    (invalid_frame "clipboard source buffer is truncated")
  let payload_bytes ← or_fail (checked_add_usize V5_HEADER_BYTES pixel_bytes)
    (invalid_frame "clipboard payload size overflowed")
  let size_image ← or_fail (try_u32 pixel_bytes)
    (invalid_frame "clipboard image exceeds the DIBV5 size limit")
  let header : BITMAPV5HEADER :=
    { bV5Size := V5_HEADER_BYTES
      bV5Width := width
      bV5Height := -height
      bV5Planes := 1
      bV5BitCount := 32
      bV5Compression := BI_RGB
      bV5SizeImage := size_image
      bV5RedMask := 0x00ff0000
      bV5GreenMask := 0x0000ff00
      bV5BlueMask := 0x000000ff
      bV5AlphaMask := if frame.alpha = .Straight then 0xff000000 else 0
      bV5CSType := LCS_SRGB
      bV5Intent := LCS_GM_IMAGES }
  .ok ⟨header, tight_stride, payload_bytes⟩

/-- One row of the frame, copied behind the header.  SRC: clipboard.rs:563-568 -/
def copy_row (layout : DibV5Layout) (frame : CpuFrame) (destination : List Byte) (row : Nat) :
    Option (List Byte) :=
  (slice? frame.pixels (row * frame.stride_bytes) layout.tight_stride).bind
    (write? destination (V5_HEADER_BYTES + row * layout.tight_stride))

/-- SRC: clipboard.rs:545-570 -/
def write (layout : DibV5Layout) (frame : CpuFrame) (destination : List Byte) :
    Outcome CaptureError (List Byte) := do
  fail_if (destination.length ≠ layout.payload_bytes)
    (invalid_frame "DIBV5 destination has the wrong size")
  let destination ← access (write? destination 0 (stored layout.header.fields))
  access ((List.range' 0 frame.height).foldlM (layout.copy_row frame) destination)

end DibV5Layout

end Captastic.Model
