import Captastic.Library.Buffer
import Captastic.Library.Fallible
import Captastic.Model.Rect

/-!
# Captured frames

`captastic-core/src/frame.rs`: pixel formats, the metadata that travels with a
capture, and `CpuFrame`, a buffer whose layout has been validated.  The layout a
`CpuFrame` guarantees is a field of the structure (`layout`), so only `CpuFrame.new`
and functions that keep the buffer build one.
-/

set_option autoImplicit false

namespace Captastic.Model

open Captastic.Library

/-- A byte. -/
abbrev Byte := UInt8

/-- Four bytes of a pixel, `pixels[at..at + 4]`. -/
structure Quad where
  b0 : Byte
  b1 : Byte
  b2 : Byte
  b3 : Byte
deriving DecidableEq

def Quad.toList (q : Quad) : List Byte := [q.b0, q.b1, q.b2, q.b3]

/-- A pixel's four bytes. -/
@[simp] theorem Quad.length_toList (q : Quad) : q.toList.length = 4 := rfl

/-! ## Formats and metadata -/

/-- SRC: frame.rs:7-18 -/
inductive PixelFormat where
  | Bgra8Unorm
  | Rgba8Unorm
  | Rgba16Float
deriving DecidableEq, Repr

/-- SRC: frame.rs:48-59 -/
inductive PixelEncoding where
  | EightBitRgba (blue_first : Bool)
  | HalfFloatRgba
deriving DecidableEq, Repr

namespace PixelFormat

/-- SRC: frame.rs:21-26 -/
def bytes_per_pixel : PixelFormat → Nat
  | Bgra8Unorm | Rgba8Unorm => 4
  | Rgba16Float => 8

/-- SRC: frame.rs:35-41 -/
def encoding : PixelFormat → PixelEncoding
  | Bgra8Unorm => .EightBitRgba true
  | Rgba8Unorm => .EightBitRgba false
  | Rgba16Float => .HalfFloatRgba

/-- Every pixel takes some bytes. -/
theorem bytes_per_pixel_pos (f : PixelFormat) : 0 < f.bytes_per_pixel := by
  cases f <;> decide

/-- A pixel of bytes takes four of them. -/
theorem bytes_per_pixel_of_eight_bit {f : PixelFormat} {blue_first : Bool}
    (h : f.encoding = .EightBitRgba blue_first) : f.bytes_per_pixel = 4 := by
  cases f <;> simp_all [encoding, bytes_per_pixel]

/-- A pixel of half floats takes eight. -/
theorem bytes_per_pixel_of_half_float {f : PixelFormat} (h : f.encoding = .HalfFloatRgba) :
    f.bytes_per_pixel = 8 := by
  cases f <;> simp_all [encoding, bytes_per_pixel]

end PixelFormat

/-- SRC: frame.rs:61-65 -/
inductive FrameOrigin where
  | TopLeft
deriving DecidableEq, Repr

/-- SRC: frame.rs:67-78 -/
inductive ColorSpace where
  | Srgb
  | ScRgb
  | Unknown
deriving DecidableEq, Repr

/-- SRC: frame.rs:84-89 -/
inductive FrameAlpha where
  | Opaque
  | Straight
deriving DecidableEq, Repr

/-- SRC: frame.rs:91-98 -/
inductive TimingProvenance where
  | OsPresentationTime
  | ArrivalTime
  | Synthetic
  | Unavailable
deriving DecidableEq, Repr

/-- SRC: frame.rs:101-125 -/
inductive CursorAbsence where
  | NotVisible
  | SourceCannotCompose
  | SuppressedForSelection
  | ShapeNotYetKnown
  | PositionNotYetKnown
deriving DecidableEq, Repr

/-- SRC: frame.rs:132-146 -/
inductive CursorCapture where
  | Excluded
  | Composited (x y : Int) (width height : Nat)
  | Absent (reason : CursorAbsence)
deriving DecidableEq, Repr

/-- SRC: capture.rs:14-19 -/
inductive CaptureMode where
  | Fresh (timeout_ms : Nat)
  | Latest (max_age_ms : Option Nat)
deriving DecidableEq, Repr

/-- SRC: frame.rs:148-183 -/
structure FrameMetadata where
  capture_id : Nat
  backend : String
  display_id : String
  source_rect : Rect
  rotation_degrees : Nat
  capture_mode : CaptureMode
  presentation_offset_ns : Option Int
  timing_provenance : TimingProvenance
  native_ready_offset_ns : Nat
  cpu_ready_offset_ns : Option Nat
  frame_age_ns : Option Nat
  verified_current_offset_ns : Option Nat
  frame_generation : Option Nat
  copy_count : Nat
  pool_slot : Option Nat
  cursor : Option CursorCapture
deriving DecidableEq

/-- `u32::saturating_add`. -/
def saturating_add_u32 (a b : Nat) : Nat := min (a + b) 4294967295

/-- `i32::saturating_add`. -/
def saturating_add_i32 (a b : Int) : Int := max (-2147483648) (min (a + b) 2147483647)

/-- A saturated sum is an `i32`. -/
theorem in_i32_saturating_add_i32 (a b : Int) : InI32 (saturating_add_i32 a b) := by
  simp only [InI32, saturating_add_i32]
  omega

/-- `u32::checked_mul`. -/
def checked_mul_u32 (a b : Nat) : Option Nat :=
  if a * b ≤ 4294967295 then some (a * b) else none

/-- `usize::checked_mul`. -/
def checked_mul_usize (a b : Nat) : Option Nat :=
  if a * b ≤ 18446744073709551615 then some (a * b) else none

/-- `usize::checked_add`. -/
def checked_add_usize (a b : Nat) : Option Nat :=
  if a + b ≤ 18446744073709551615 then some (a + b) else none

/-- The subtraction of two `i32`, which stops the program when it overflows. -/
def sub_i32 (a b : Int) : Option Int := if InI32 (a - b) then some (a - b) else none

/-- `u32::try_from`. -/
def try_u32 (v : Int) : Option Nat := if 0 ≤ v ∧ v ≤ 4294967295 then some v.toNat else none

/-! ## Validated layouts -/

/-- SRC: error.rs:104-118 -/
inductive FrameError where
  | EmptyDimensions
  | InvalidStride (stride minimum : Nat)
  | SizeOverflow
  | BufferTooShort (actual required : Nat)
  | EmptyCrop
  | CropOutsideSource
deriving DecidableEq, Repr

/-- SRC: frame.rs:380-410 -/
def validate_layout (actual_bytes width height stride_bytes : Nat) (format : PixelFormat) :
    Except FrameError Nat :=
  if width = 0 ∨ height = 0 then .error .EmptyDimensions
  else match checked_mul_u32 width format.bytes_per_pixel with
    | none => .error .SizeOverflow
    | some minimum_stride =>
      if stride_bytes < minimum_stride then
        .error (.InvalidStride stride_bytes minimum_stride)
      else match checked_mul_u32 stride_bytes height with
        | none => .error .SizeOverflow
        | some required =>
          if actual_bytes < required then .error (.BufferTooShort actual_bytes required)
          else .ok required

/-- A layout is accepted exactly when it has pixels, rows that hold them, a size an
`u32` can count, and a buffer at least that long. -/
theorem validate_layout_eq_ok {actual_bytes width height stride_bytes required : Nat}
    {format : PixelFormat} :
    validate_layout actual_bytes width height stride_bytes format = .ok required ↔
      (0 < width ∧ 0 < height) ∧ width * format.bytes_per_pixel ≤ 4294967295 ∧
        width * format.bytes_per_pixel ≤ stride_bytes ∧
        stride_bytes * height ≤ 4294967295 ∧ stride_bytes * height ≤ actual_bytes ∧
        required = stride_bytes * height := by
  unfold validate_layout checked_mul_u32
  constructor
  · intro h
    split at h
    · cases h
    · split at h
      · cases h
      · rename_i minimum_stride hm
        split at hm
        · obtain rfl := Option.some.inj hm
          split at h
          · cases h
          · split at h
            · cases h
            · rename_i required' hr
              split at hr
              · obtain rfl := Option.some.inj hr
                split at h
                · cases h
                · obtain rfl := Except.ok.inj h
                  refine ⟨⟨?_, ?_⟩, ?_, ?_, ?_, ?_, rfl⟩ <;> omega
              · cases hr
        · cases hm
  · rintro ⟨⟨hw, hh⟩, h₁, h₂, h₃, h₄, rfl⟩
    rw [if_neg (by omega), if_pos h₁]
    simp only
    rw [if_neg (by omega), if_pos h₃]
    simp only
    rw [if_neg (by omega)]

/-- A frame of pixels whose layout has been validated against its buffer.
SRC: frame.rs:192-203 -/
structure CpuFrame where
  pixels : List Byte
  width : Nat
  height : Nat
  stride_bytes : Nat
  format : PixelFormat
  origin : FrameOrigin
  color_space : ColorSpace
  alpha : FrameAlpha
  metadata : FrameMetadata
  layout : validate_layout pixels.length width height stride_bytes format =
    .ok (stride_bytes * height)

namespace CpuFrame

/-- SRC: frame.rs:207-229 -/
def new (pixels : List Byte) (width height stride_bytes : Nat) (format : PixelFormat)
    (origin : FrameOrigin) (color_space : ColorSpace) (metadata : FrameMetadata) :
    Except FrameError CpuFrame :=
  match h : validate_layout pixels.length width height stride_bytes format with
  | .error error => .error error
  | .ok _ =>
    .ok { pixels, width, height, stride_bytes, format, origin, color_space,
          alpha := .Opaque, metadata,
          layout := by
            obtain ⟨h₁, h₂, h₃, h₄, h₅, -⟩ := validate_layout_eq_ok.mp h
            exact validate_layout_eq_ok.mpr ⟨h₁, h₂, h₃, h₄, h₅, rfl⟩ }

/-- A buffer whose layout is valid makes a frame. -/
theorem new_of_layout {pixels : List Byte} {width height stride_bytes : Nat}
    {format : PixelFormat}
    (h : validate_layout pixels.length width height stride_bytes format =
      .ok (stride_bytes * height)) (origin : FrameOrigin) (color_space : ColorSpace)
    (metadata : FrameMetadata) :
    new pixels width height stride_bytes format origin color_space metadata =
      .ok ⟨pixels, width, height, stride_bytes, format, origin, color_space, .Opaque, metadata,
        h⟩ := by
  unfold new
  split
  · rename_i error herror
    rw [h] at herror
    cases herror
  · rfl

/-- SRC: frame.rs:232-235 -/
def with_alpha (frame : CpuFrame) (alpha : FrameAlpha) : CpuFrame := { frame with alpha }

/-- Frames with the same fields are one. -/
theorem ext_fields {f g : CpuFrame} (h₁ : f.pixels = g.pixels) (h₂ : f.width = g.width)
    (h₃ : f.height = g.height) (h₄ : f.stride_bytes = g.stride_bytes)
    (h₅ : f.format = g.format) (h₆ : f.origin = g.origin) (h₇ : f.color_space = g.color_space)
    (h₈ : f.alpha = g.alpha) (h₉ : f.metadata = g.metadata) : f = g := by
  cases f
  cases g
  simp_all

variable (f : CpuFrame)

/-- What the validated layout says, in one place. -/
theorem layout_facts :
    (0 < f.width ∧ 0 < f.height) ∧ f.width * f.format.bytes_per_pixel ≤ 4294967295 ∧
      f.width * f.format.bytes_per_pixel ≤ f.stride_bytes ∧
      f.stride_bytes * f.height ≤ 4294967295 ∧
      f.stride_bytes * f.height ≤ f.pixels.length := by
  obtain ⟨h₁, h₂, h₃, h₄, h₅, -⟩ := validate_layout_eq_ok.mp f.layout
  exact ⟨h₁, h₂, h₃, h₄, h₅⟩

/-- No side of a valid frame is longer than an `i32` can count: a pixel takes at
least four of the bytes that an `u32` counts. -/
theorem sides_le : f.width ≤ 1073741823 ∧ f.height ≤ 1073741823 := by
  obtain ⟨⟨hw, hh⟩, h₁, h₂, h₃, -⟩ := f.layout_facts
  have hb : 4 ≤ f.format.bytes_per_pixel := by cases f.format <;> decide
  have h₄ : f.width * 4 ≤ f.width * f.format.bytes_per_pixel := Nat.mul_le_mul_left _ hb
  have h₅ : 4 * f.height ≤ f.stride_bytes * f.height := Nat.mul_le_mul_right _ (by omega)
  omega

/-! ## Crops -/

/-- One row of a crop, copied.
SRC: frame.rs:325-334 -/
def copy_row (source : List Byte) (source_stride source_x_bytes row_bytes local_y : Nat)
    (pixels : List Byte) (row : Nat) : Outcome FrameError (List Byte) := do
  let source_row := local_y + row
  let source_start ← or_fail ((checked_mul_usize source_row source_stride).bind fun value =>
    checked_add_usize value source_x_bytes) .SizeOverflow
  let bytes ← access (slice? source source_start row_bytes)
  access (write? pixels (row * row_bytes) bytes)

/-- SRC: frame.rs:291-354 -/
def crop (selection : Rect) : Outcome FrameError CpuFrame := do
  fail_if (selection.width = 0 ∨ selection.height = 0) .EmptyCrop
  let source := f.metadata.source_rect
  fail_if (source.width ≠ f.width ∨ source.height ≠ f.height) .CropOutsideSource
  fail_if (selection.x < source.x ∨ selection.y < source.y ∨ selection.right > source.right ∨
    selection.bottom > source.bottom) .CropOutsideSource
  let local_x ← or_fail (try_u32 (← access (sub_i32 selection.x source.x))) .CropOutsideSource
  let local_y ← or_fail (try_u32 (← access (sub_i32 selection.y source.y))) .CropOutsideSource
  let bytes_per_pixel := f.format.bytes_per_pixel
  let destination_stride ← or_fail (checked_mul_u32 selection.width bytes_per_pixel) .SizeOverflow
  let destination_len ← or_fail (checked_mul_u32 destination_stride selection.height) .SizeOverflow
  let source_x_bytes ← or_fail (checked_mul_u32 local_x bytes_per_pixel) .SizeOverflow
  let pixels ← (List.range' 0 selection.height).foldlM
    (copy_row f.pixels f.stride_bytes source_x_bytes destination_stride local_y)
    (List.replicate destination_len 0)
  match new pixels selection.width selection.height destination_stride f.format f.origin
      f.color_space
      { f.metadata with
        source_rect := selection
        copy_count := saturating_add_u32 f.metadata.copy_count 1
        pool_slot := none } with
  | .error error => fail error
  | .ok frame => .ok (frame.with_alpha f.alpha)

end CpuFrame

end Captastic.Model
