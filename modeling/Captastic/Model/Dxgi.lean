import Captastic.Library.Buffer
import Captastic.Library.Fallible
import Captastic.Model.Cursor

/-!
# Pixels out of a desktop texture

`captastic-windows/src/dxgi.rs` where it turns a raw desktop texture into the upright pixels
of a frame: the whole of it (`normalize_bgra_into`, `normalize`), or only the box of a
selection (`local_selection`, `raw_selection_for_rotation`, `materialize_region`).

A texture is its description and its texels.  Copying and mapping one is Direct3D's: a `Gpu`
says whether the mapping succeeds, and the row pitch and padding it has; that the rows hold
the texels is part of a `MappedTexture`.
-/

set_option autoImplicit false

namespace Captastic.Model

open Captastic.Library

/-! ## Errors -/

/-- SRC: error.rs:3-57 -/
inductive CaptureErrorKind where
  | Unsupported
  | PermissionDenied
  | SourceUnavailable
  | DesktopUnavailable
  | Timeout
  | AccessLost
  | DeviceRemoved
  | TopologyChanged
  | BufferExhausted
  | WorkersExhausted
  | PointerOutsideDisplays
  | InvalidFrame
  | NativeFailure
  | ShuttingDown
deriving DecidableEq, Repr

/-- SRC: error.rs:65-74 -/
structure CaptureError where
  kind : CaptureErrorKind
  backend : String
  operation : String
  message : String
  retryable : Bool
  native_code : Option Int
deriving DecidableEq, Repr

/-- SRC: dxgi.rs:3061-3076 -/
def capture_error (kind : CaptureErrorKind) (operation message : String) (retryable : Bool)
    (native_code : Option Int) : CaptureError :=
  ⟨kind, "dxgi", operation, message, retryable, native_code⟩

/-- The error of a frame that is not what its description says. -/
def invalid_frame (operation message : String) : CaptureError :=
  capture_error .InvalidFrame operation message false none

/-- SRC: error.rs:104-118 -/
def FrameError.message : FrameError → String
  | .EmptyDimensions => "frame dimensions must be non-zero"
  | .InvalidStride stride minimum =>
    s!"stride {stride} is smaller than the minimum row size {minimum}"
  | .SizeOverflow => "frame byte-size calculation overflowed"
  | .BufferTooShort actual required =>
    s!"pixel buffer contains {actual} bytes but requires at least {required}"
  | .EmptyCrop => "crop rectangle must have nonzero dimensions"
  | .CropOutsideSource => "crop rectangle lies outside the captured source"

/-! ## Textures -/

def DXGI_FORMAT_R16G16B16A16_FLOAT : Nat := 10
def DXGI_FORMAT_R10G10B10A2_UNORM : Nat := 24
def DXGI_FORMAT_B8G8R8A8_UNORM : Nat := 87

/-- SRC: dxgi.rs:2760-2770 -/
def format_name (format : Nat) : String :=
  if format = DXGI_FORMAT_B8G8R8A8_UNORM then "B8G8R8A8_UNORM"
  else if format = DXGI_FORMAT_R16G16B16A16_FLOAT then "R16G16B16A16_FLOAT"
  else if format = DXGI_FORMAT_R10G10B10A2_UNORM then "R10G10B10A2_UNORM"
  else "unrecognized"

/-- SRC: dxgi.rs:2746-2757 -/
def describe_unsupported_format (format : Nat) : String :=
  let explanation :=
    if format = DXGI_FORMAT_R16G16B16A16_FLOAT then
      ". This is the format the compositor uses while HDR is enabled, and Captastic asked it for          8-bit BGRA and was refused. Turning HDR off for this display, or updating the display          driver, restores capture"
    else ""
  s!"the desktop is composed in DXGI format {format} ({format_name format}), which Captastic cannot read{explanation}"

/-- A texture: what `GetDesc` says of it, and its texels. -/
structure Texture where
  width : Nat
  height : Nat
  format : Nat
  texel : Nat → Nat → Quad

/-- `CopySubresourceRegion` of a box into a texture of the box's size. -/
def Texture.boxed (texture : Texture) (left top width height : Nat) : Texture :=
  ⟨width, height, texture.format, fun x y => texture.texel (left + x) (top + y)⟩

/-- Rows of texels as `Map` returns them, `row_pitch` bytes apart. -/
structure MappedTexture (texture : Texture) where
  row_pitch : Nat
  data : List Byte
  pitch_u32 : row_pitch ≤ 4294967295
  pitch_holds_row : texture.width * 4 ≤ row_pitch
  length : data.length = row_pitch * texture.height
  texels : ∀ x y, x < texture.width → y < texture.height →
    slice_at data (cell_at row_pitch 4 x y) 4 = (texture.texel x y).toList

/-- Whether a texture can be copied to a staging texture and mapped, and how. -/
structure Gpu where
  map : (texture : Texture) → Except CaptureError (MappedTexture texture)

/-! ## Layouts and rotations -/

/-- SRC: dxgi.rs:2035-2040 -/
structure PixelLayout where
  width : Nat
  height : Nat
  stride : Nat
deriving DecidableEq, Repr

/-- SRC: dxgi.rs:2042-2048 -/
def dimensions_after_rotation (width height rotation_degrees : Nat) : Nat × Nat :=
  if rotation_degrees = 90 ∨ rotation_degrees = 270 then (height, width) else (width, height)

/-- `matches!(rotation_degrees, 0 | 90 | 180 | 270)` -/
def is_supported_rotation (rotation_degrees : Nat) : Bool :=
  rotation_degrees == 0 || rotation_degrees == 90 || rotation_degrees == 180 ||
    rotation_degrees == 270

/-- SRC: dxgi.rs:2050-2089 -/
def normalized_layout (raw_width raw_height rotation_degrees : Nat) :
    Outcome CaptureError PixelLayout := do
  fail_if (raw_width = 0 ∨ raw_height = 0)
    (invalid_frame "normalize_rotation" "raw DXGI frame dimensions must be non-zero")
  fail_if (!is_supported_rotation rotation_degrees)
    (invalid_frame "normalize_rotation" s!"unsupported display rotation {rotation_degrees}")
  let (width, height) := dimensions_after_rotation raw_width raw_height rotation_degrees
  let stride ← or_fail (checked_mul_u32 width 4)
    (invalid_frame "normalize_rotation" "normalized CPU frame stride overflowed")
  .ok ⟨width, height, stride⟩

/-- SRC: dxgi.rs:2018-2033 -/
def frame_byte_len (width height : Nat) : Outcome CaptureError Nat :=
  or_fail ((checked_mul_u32 width 4).bind fun stride => checked_mul_u32 stride height)
    (invalid_frame "buffer_pool" "CPU frame size overflowed")

/-- The subtraction of two unsigned values, which stops the program when it underflows. -/
def sub_usize (a b : Nat) : Option Nat := if b ≤ a then some (a - b) else none

/-- The raw pixel that a pixel of the upright picture shows.
SRC: dxgi.rs:2162-2170 -/
def raw_pixel_of (rotation_degrees raw_width raw_height destination_x destination_y : Nat) :
    Option (Nat × Nat) :=
  if rotation_degrees = 90 then
    ((sub_usize raw_height 1).bind (sub_usize · destination_x)).map fun source_y =>
      (destination_y, source_y)
  else if rotation_degrees = 180 then
    ((sub_usize raw_width 1).bind (sub_usize · destination_x)).bind fun source_x =>
      ((sub_usize raw_height 1).bind (sub_usize · destination_y)).map fun source_y =>
        (source_x, source_y)
  else if rotation_degrees = 270 then
    ((sub_usize raw_width 1).bind (sub_usize · destination_y)).map fun source_x =>
      (source_x, destination_x)
  else none

/-- One row of an upright display, copied.
SRC: dxgi.rs:2150-2155 -/
def copy_raw_row (source : List Byte) (source_stride source_row_bytes output_stride : Nat)
    (destination : List Byte) (row : Nat) : Option (List Byte) :=
  (slice? source (row * source_stride) source_row_bytes).bind
    (write? destination (row * output_stride))

/-- One pixel of a rotated display, copied.
SRC: dxgi.rs:2161-2175 -/
def copy_raw_pixel (source : List Byte) (raw_width raw_height source_stride output_stride
    rotation_degrees : Nat) (destination : List Byte) (destination_x destination_y : Nat) :
    Option (List Byte) :=
  (raw_pixel_of rotation_degrees raw_width raw_height destination_x destination_y).bind fun pixel =>
    (slice? source (cell_at source_stride 4 pixel.1 pixel.2) 4).bind
      (write? destination (cell_at output_stride 4 destination_x destination_y))

/-- SRC: dxgi.rs:2091-2180 -/
def normalize_bgra_into (source : List Byte) (source_width source_height source_stride
    rotation_degrees : Nat) (destination : List Byte) :
    Outcome CaptureError (PixelLayout × List Byte) := do
  let layout ← normalized_layout source_width source_height rotation_degrees
  let source_row_bytes ← or_fail (checked_mul_usize source_width 4)
    (invalid_frame "normalize_rotation" "raw DXGI row size overflowed")
  fail_if (source_stride < source_row_bytes)
    (invalid_frame "normalize_rotation" "raw DXGI stride is smaller than one pixel row")
  let required_source ← or_fail (checked_mul_usize source_stride source_height)
    (invalid_frame "normalize_rotation" "mapped DXGI source size overflowed")
  fail_if (source.length < required_source)
    (invalid_frame "normalize_rotation" "mapped DXGI source is shorter than its declared layout")
  let required_destination ← frame_byte_len layout.width layout.height
  fail_if (destination.length ≠ required_destination)
    (invalid_frame "normalize_rotation" "normalized destination does not match its declared layout")
  let destination ← access
    (if rotation_degrees = 0 then
      (List.range' 0 source_height).foldlM
        (copy_raw_row source source_stride source_row_bytes layout.stride) destination
    else
      (List.range' 0 layout.height).foldlM (fun destination y =>
        (List.range' 0 layout.width).foldlM (fun destination x =>
          copy_raw_pixel source source_width source_height source_stride layout.stride
            rotation_degrees destination x y) destination) destination)
  .ok (layout, destination)

/-! ## The box of a selection -/

/-- SRC: dxgi.rs:1639-1675 -/
def local_selection (source selection : Rect) : Outcome CaptureError Rect := do
  fail_if (selection.width = 0 ∨ selection.height = 0)
    (invalid_frame "gpu_region_readback" "selected region must be non-empty")
  fail_if (selection.x < source.x ∨ selection.y < source.y ∨ selection.right > source.right ∨
      selection.bottom > source.bottom)
    (invalid_frame "gpu_region_readback" "selected region lies outside the native frame")
  access <|
    if h : InI32 (selection.x - source.x) ∧ InI32 (selection.y - source.y) then
      some { selection with
        x := selection.x - source.x, y := selection.y - source.y, x_i32 := h.1, y_i32 := h.2 }
    else none

/-- `i32::try_from(raw_x)`, `i32::try_from(raw_y)` and the box they are the corner of.
SRC: dxgi.rs:1741-1762 -/
def raw_rect (raw_x raw_y : Nat) (width height : Nat) (sides : InU32 width ∧ InU32 height) :
    Outcome CaptureError Rect :=
  if hx : InI32 raw_x then
    if hy : InI32 raw_y then
      .ok { x := raw_x, y := raw_y, width := width, height := height, x_i32 := hx, y_i32 := hy,
            width_u32 := sides.1, height_u32 := sides.2 }
    else fail (invalid_frame "gpu_region_readback" "raw region y coordinate exceeds Win32 limits")
  else fail (invalid_frame "gpu_region_readback" "raw region x coordinate exceeds Win32 limits")

/-- `u32::checked_add`. -/
def checked_add_u32 (a b : Nat) : Option Nat := if a + b ≤ 4294967295 then some (a + b) else none

/-- SRC: dxgi.rs:1677-1764 -/
def raw_selection_for_rotation (normalized : Rect) (raw_width raw_height rotation_degrees : Nat) :
    Outcome CaptureError Rect := do
  let layout ← normalized_layout raw_width raw_height rotation_degrees
  let x ← or_fail (try_u32 normalized.x)
    (invalid_frame "gpu_region_readback" "normalized region has a negative x coordinate")
  let y ← or_fail (try_u32 normalized.y)
    (invalid_frame "gpu_region_readback" "normalized region has a negative y coordinate")
  let right ← or_fail (checked_add_u32 x normalized.width)
    (invalid_frame "gpu_region_readback" "normalized region right edge overflowed")
  let bottom ← or_fail (checked_add_u32 y normalized.height)
    (invalid_frame "gpu_region_readback" "normalized region bottom edge overflowed")
  fail_if (normalized.width = 0 ∨ normalized.height = 0 ∨ right > layout.width ∨
      bottom > layout.height)
    (invalid_frame "gpu_region_readback"
      "normalized region lies outside the rotated DXGI texture")
  let upright : InU32 normalized.width ∧ InU32 normalized.height :=
    ⟨normalized.width_u32, normalized.height_u32⟩
  if rotation_degrees = 0 then raw_rect x y normalized.width normalized.height upright
  else if rotation_degrees = 90 then
    raw_rect y (← access (sub_usize raw_height right)) normalized.height normalized.width
      upright.symm
  else if rotation_degrees = 180 then
    raw_rect (← access (sub_usize raw_width right)) (← access (sub_usize raw_height bottom))
      normalized.width normalized.height upright
  else if rotation_degrees = 270 then
    raw_rect (← access (sub_usize raw_width bottom)) x normalized.height normalized.width
      upright.symm
  else access none

/-- SRC: dxgi.rs:1431-1438 -/
structure DxgiGpuFrame where
  texture : Texture
  metadata : FrameMetadata

/-- The errors of Direct3D pass through. -/
def native {α : Type} (call : Except CaptureError α) : Outcome CaptureError α :=
  match call with
  | .ok value => .ok value
  | .error error => fail error

/-- `CpuFrame::new(..)`, its error as this operation's. -/
def new_frame (operation : String) (pixels : List Byte) (layout : PixelLayout)
    (metadata : FrameMetadata) : Outcome CaptureError CpuFrame :=
  match CpuFrame.new pixels layout.width layout.height layout.stride .Bgra8Unorm .TopLeft .Srgb
      metadata with
  | .ok frame => .ok frame
  | .error error => fail (invalid_frame operation error.message)

/-- The pixels of a selection, read back and turned upright.  The times and sizes reported
beside the frame are left out.
SRC: dxgi.rs:1473-1637 -/
def DxgiGpuFrame.materialize_region (gpu : Gpu) (frame : DxgiGpuFrame) (selection : Rect) :
    Outcome CaptureError CpuFrame := do
  let raw := frame.texture
  let rotation_degrees := frame.metadata.rotation_degrees
  let selected ← local_selection frame.metadata.source_rect selection
  fail_if (raw.format ≠ DXGI_FORMAT_B8G8R8A8_UNORM)
    (capture_error .Unsupported "gpu_region_readback" (describe_unsupported_format raw.format)
      false none)
  let raw_local ← raw_selection_for_rotation selected raw.width raw.height rotation_degrees
  let local_x ← or_fail (try_u32 raw_local.x)
    (invalid_frame "gpu_region_readback" "raw selected region has a negative x coordinate")
  let local_y ← or_fail (try_u32 raw_local.y)
    (invalid_frame "gpu_region_readback" "raw selected region has a negative y coordinate")
  let mapped ← native (gpu.map (raw.boxed local_x local_y raw_local.width raw_local.height))
  let raw_tight_stride ← or_fail (checked_mul_u32 raw_local.width 4)
    (invalid_frame "gpu_region_readback" "raw selected frame stride overflowed")
  fail_if (mapped.row_pitch < raw_tight_stride)
    (invalid_frame "gpu_region_readback"
      "mapped row pitch is smaller than the raw selected frame stride")
  let layout ← normalized_layout raw_local.width raw_local.height rotation_degrees
  fail_if (layout.width ≠ selection.width ∨ layout.height ≠ selection.height)
    (invalid_frame "gpu_region_readback"
      "rotated GPU region dimensions do not match the normalized selection")
  let bytes_read ← frame_byte_len layout.width layout.height
  let _ ← frame_byte_len raw.width raw.height
  let _ ← or_fail (checked_mul_usize mapped.row_pitch raw_local.height)
    (invalid_frame "gpu_region_readback" "mapped raw region size overflowed")
  let (_, pixels) ← normalize_bgra_into mapped.data raw_local.width raw_local.height
    mapped.row_pitch rotation_degrees (List.replicate bytes_read 0)
  new_frame "gpu_region_readback" pixels layout
    { frame.metadata with
      source_rect := selection
      copy_count := saturating_add_u32 frame.metadata.copy_count 2
      pool_slot := none }

/-! ## The pool of CPU buffers -/

/-- A buffer of the pool, and how many own it (`Arc::strong_count`). -/
structure PoolSlot where
  owners : Nat
  bytes : List Byte

/-- SRC: dxgi.rs:1848-1851 -/
structure CpuBufferPool where
  slots : List (Option PoolSlot)
  cursor : Nat

namespace CpuBufferPool

variable (pool : CpuBufferPool)

/-- SRC: dxgi.rs:1882-1892 -/
def index_from_cursor (predicate : Option PoolSlot → Bool) : Option Nat :=
  if pool.slots.isEmpty then none
  else
    ((List.range pool.slots.length).map fun offset =>
      (pool.cursor + offset) % pool.slots.length).find? fun index =>
        (pool.slots[index]?).any predicate

/-- SRC: dxgi.rs:1894-1896 -/
def advance_cursor (index : Nat) : CpuBufferPool :=
  { pool with cursor := (index + 1) % pool.slots.length }

/-- `self.slots[index] = Some(Arc::from(vec![0_u8; required_len]))` -/
def allocate (index required_len : Nat) : CpuBufferPool :=
  { pool with slots := pool.slots.set index (some ⟨1, List.replicate required_len 0⟩) }

/-- SRC: dxgi.rs:1859-1880 -/
def available_index (required_len : Nat) : Option (Nat × CpuBufferPool) :=
  match pool.index_from_cursor fun slot =>
      slot.any fun slot => slot.owners == 1 && slot.bytes.length == required_len with
  | some index => some (index, pool.advance_cursor index)
  | none =>
    match pool.index_from_cursor Option.isNone with
    | some index => some (index, (pool.allocate index required_len).advance_cursor index)
    | none =>
      (pool.index_from_cursor fun slot => slot.any fun slot => slot.owners == 1).map fun index =>
        (index, (pool.allocate index required_len).advance_cursor index)

/-- The slot found is one of the pool, and meets the predicate. -/
theorem index_from_cursor_spec {predicate : Option PoolSlot → Bool} {index : Nat}
    (found : pool.index_from_cursor predicate = some index) :
    ∃ slot, pool.slots[index]? = some slot ∧ predicate slot = true := by
  unfold index_from_cursor at found
  split at found
  · cases found
  · have test := List.find?_some found
    exact (Option.any_eq_true _ _).mp test

/-- The slot allocated holds a zeroed buffer of the length asked for, owned once. -/
theorem slot_of_allocate {index required_len : Nat} {slot : Option PoolSlot}
    (held : pool.slots[index]? = some slot) :
    ((pool.allocate index required_len).advance_cursor index).slots[index]? =
      some (some ⟨1, List.replicate required_len 0⟩) := by
  obtain ⟨index_lt, -⟩ := List.getElem?_eq_some_iff.mp held
  unfold allocate advance_cursor
  simp [index_lt]

/-- **A free slot** has one owner, and the length asked for. -/
theorem available_index_spec {required_len index : Nat} {pool' : CpuBufferPool}
    (found : pool.available_index required_len = some (index, pool')) :
    ∃ bytes, pool'.slots[index]? = some (some ⟨1, bytes⟩) ∧ bytes.length = required_len := by
  unfold available_index at found
  split at found
  · rename_i free first
    obtain ⟨rfl, rfl⟩ := Prod.mk.inj (Option.some.inj found)
    obtain ⟨slot, held, matches_len⟩ := pool.index_from_cursor_spec first
    obtain ⟨⟨owners, bytes⟩, rfl, test⟩ := (Option.any_eq_true _ _).mp matches_len
    simp only [Bool.and_eq_true, beq_iff_eq] at test
    obtain ⟨rfl, length⟩ := test
    exact ⟨bytes, held, length⟩
  · split at found
    · rename_i free second
      obtain ⟨rfl, rfl⟩ := Prod.mk.inj (Option.some.inj found)
      obtain ⟨slot, held, -⟩ := pool.index_from_cursor_spec second
      exact ⟨_, pool.slot_of_allocate held, List.length_replicate⟩
    · obtain ⟨free, third, made⟩ := Option.map_eq_some_iff.mp found
      obtain ⟨rfl, rfl⟩ := Prod.mk.inj made
      obtain ⟨slot, held, -⟩ := pool.index_from_cursor_spec third
      exact ⟨_, pool.slot_of_allocate held, List.length_replicate⟩

end CpuBufferPool

/-- `Arc::get_mut(slots[index])`, which stops the program unless the pool alone owns the slot. -/
def CpuBufferPool.get_mut (pool : CpuBufferPool) (index : Nat) : Option (List Byte) :=
  match pool.slots[index]? with
  | some (some slot) => if slot.owners = 1 then some slot.bytes else none
  | _ => none

/-- The pixels of a whole texture, read back, turned upright and with the pointer drawn in.
`cpu_ready_ns` is the time read off the clock; the pool's state after the call is left out.
SRC: dxgi.rs:1199-1364 -/
def readback (gpu : Gpu) (pool : CpuBufferPool) (cpu_ready_ns : Nat) (source : Texture)
    (metadata : FrameMetadata) (pointer : Option PointerSample) :
    Outcome CaptureError (CpuFrame × FrameMetadata) := do
  fail_if (source.format ≠ DXGI_FORMAT_B8G8R8A8_UNORM)
    (capture_error .Unsupported "readback" (describe_unsupported_format source.format) false none)
  let mapped ← native (gpu.map source)
  let raw_tight_stride ← or_fail (checked_mul_u32 source.width 4)
    (invalid_frame "readback" "raw CPU frame stride overflowed")
  fail_if (mapped.row_pitch < raw_tight_stride)
    (invalid_frame "readback"
      s!"mapped row pitch {mapped.row_pitch} is smaller than required {raw_tight_stride}")
  let layout ← normalized_layout source.width source.height metadata.rotation_degrees
  fail_if (layout.width ≠ metadata.source_rect.width ∨ layout.height ≠ metadata.source_rect.height)
    (capture_error .TopologyChanged "readback"
      s!"normalized DXGI dimensions {layout.width}x{layout.height} do not match display bounds {metadata.source_rect.width}x{metadata.source_rect.height}"
      true none)
  let len ← frame_byte_len layout.width layout.height
  let (slot_index, pool) ← or_fail (pool.available_index len)
    (capture_error .BufferExhausted "readback" "all preallocated CPU frame slots are still in use"
      true none)
  let _ ← or_fail (checked_mul_usize mapped.row_pitch source.height)
    (invalid_frame "readback" "mapped DXGI source size overflowed")
  let pixels ← access (pool.get_mut slot_index)
  let (_, pixels) ← normalize_bgra_into mapped.data source.width source.height mapped.row_pitch
    metadata.rotation_degrees pixels
  let (cursor, pixels) :=
    match pointer with
    | some pointer =>
      let (cursor, pixels) :=
        composite_pointer pixels layout.width layout.height layout.stride pointer
      (some cursor, pixels)
    | none => (metadata.cursor, pixels)
  let metadata :=
    { metadata with
      cursor := cursor
      cpu_ready_offset_ns := some cpu_ready_ns
      copy_count := saturating_add_u32 metadata.copy_count 2
      pool_slot := some (slot_index % 65536) }
  let frame ← new_frame "readback" pixels layout metadata
  .ok (frame, metadata)

end Captastic.Model
