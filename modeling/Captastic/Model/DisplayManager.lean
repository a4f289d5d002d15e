import Captastic.Model.Duplication
import Mathlib.Data.String.Basic

/-!
# The virtual desktop

`captastic-windows/src/display_manager.rs` where it composes one picture of all displays out
of a frame of each: the pool of its buffers, the rows copied from each frame
(`copy_frame_into`), and the order and the metadata of the whole
(`compose_virtual_desktop`).
-/

set_option autoImplicit false

namespace Captastic.Model

open Captastic.Library

/-- SRC: display_manager.rs:20 -/
def MAX_COMPOSITE_FRAME_BYTES : Nat := 512 * 1024 * 1024

/-- SRC: display_manager.rs:21 -/
def OPAQUE_BLACK : Quad := ⟨0, 0, 0, 255⟩

/-- SRC: display_manager.rs:756-770 -/
def manager_error (kind : CaptureErrorKind) (operation message : String) (retryable : Bool) :
    CaptureError :=
  ⟨kind, "dxgi-manager", operation, message, retryable, none⟩

/-- What the layout of a set of displays must meet before any composition is tried.
SRC: display_manager.rs:699-754 -/
def validate_virtual_topology (adapters : List Int) (unavailable : List String) (bounds : Rect) :
    Except CaptureError Unit := do
  if adapters.any fun adapter => some adapter != adapters.head? then
    .error (manager_error .Unsupported "validate_virtual_topology"
      "virtual-desktop capture currently requires every display to use the same DXGI adapter" false)
  let names := String.intercalate ", " unavailable
  if !unavailable.isEmpty then
    .error (manager_error .Unsupported "validate_virtual_topology"
      s!"virtual-desktop capture requires a retained session for every display; unavailable: {names}"
      false)
  let frame_bytes := (checked_mul_usize bounds.width 4).bind (checked_mul_usize · bounds.height)
  if frame_bytes.all (· > MAX_COMPOSITE_FRAME_BYTES) then
    .error (manager_error .Unsupported "validate_virtual_topology"
      s!"virtual-desktop bounds {bounds.width}x{bounds.height} exceed the bounded {MAX_COMPOSITE_FRAME_BYTES / (1024 * 1024)} MiB composite-frame limit"
      false)

/-! ## The pool of composite buffers -/

/-- SRC: display_manager.rs:318-321 -/
structure CompositeBufferPool where
  slots : List (Option PoolSlot)
  cursor : Nat

namespace CompositeBufferPool

variable (pool : CompositeBufferPool)

/-- The first slot from the cursor on that is empty, or that the pool alone owns.
SRC: display_manager.rs:332-339 -/
def first_free : Option Nat :=
  ((List.range pool.slots.length).map fun offset =>
    (pool.cursor + offset) % pool.slots.length).find? fun index =>
      (pool.slots[index]?).any fun slot => slot.all fun slot => slot.owners == 1

/-- The slots, with a new buffer at an index whose slot has none of this length.
SRC: display_manager.rs:340-345 -/
def sized (index required_len : Nat) : List (Option PoolSlot) :=
  if (pool.slots[index]?).any fun slot => slot.all fun slot =>
      slot.bytes.length != required_len then
    pool.slots.set index (some ⟨1, List.replicate required_len 0⟩)
  else pool.slots

/-- SRC: display_manager.rs:331-350 -/
def available_index (required_len : Nat) : Option (Nat × CompositeBufferPool) :=
  pool.first_free.map fun index =>
    (index, ⟨pool.sized index required_len, (index + 1) % pool.slots.length⟩)

/-- `Arc::get_mut(slots[index])`, which stops the program unless the pool alone owns the slot. -/
def get_mut (index : Nat) : Option (List Byte) :=
  match pool.slots[index]? with
  | some (some slot) => if slot.owners = 1 then some slot.bytes else none
  | _ => none

/-- **A free slot** has one owner, and the length asked for. -/
theorem available_index_spec {required_len index : Nat} {pool' : CompositeBufferPool}
    (found : pool.available_index required_len = some (index, pool')) :
    ∃ bytes, pool'.slots[index]? = some (some ⟨1, bytes⟩) ∧ bytes.length = required_len := by
  obtain ⟨free, first, made⟩ := Option.map_eq_some_iff.mp found
  obtain ⟨rfl, rfl⟩ := Prod.mk.inj made
  unfold first_free at first
  have free_slot := List.find?_some first
  obtain ⟨slot, held, test⟩ := (Option.any_eq_true _ _).mp free_slot
  obtain ⟨index_lt, -⟩ := List.getElem?_eq_some_iff.mp held
  unfold sized
  by_cases replaced : slot.all (fun slot => slot.bytes.length != required_len) = true
  · rw [if_pos (by rw [held]; exact replaced)]
    exact ⟨List.replicate required_len 0, by simp [index_lt], List.length_replicate⟩
  · rw [if_neg (by rw [held]; exact replaced)]
    cases slot with
    | none => exact absurd rfl replaced
    | some slot =>
      obtain ⟨owners, bytes⟩ := slot
      obtain rfl : owners = 1 := by simpa using test
      exact ⟨bytes, held, by simpa using replaced⟩

/-- The slot found available can be written, and has the length asked for. -/
theorem get_mut_of_available {required_len index : Nat} {pool' : CompositeBufferPool}
    (found : pool.available_index required_len = some (index, pool')) :
    ∃ bytes, pool'.get_mut index = some bytes ∧ bytes.length = required_len := by
  obtain ⟨bytes, held, length⟩ := pool.available_index_spec found
  exact ⟨bytes, by simp [get_mut, held], length⟩

end CompositeBufferPool

/-! ## Copying a frame -/

/-- `for pixel in destination.chunks_exact_mut(4) { pixel.copy_from_slice(&OPAQUE_BLACK) }` -/
def fill_black : List Byte → List Byte
  | _ :: _ :: _ :: _ :: rest => OPAQUE_BLACK.toList ++ fill_black rest
  | rest => rest

/-- One row of a frame, copied.
SRC: display_manager.rs:533-556 -/
def copy_frame_row (source : List Byte) (source_stride row_bytes local_x local_y
    destination_stride : Nat) (destination : List Byte) (row : Nat) :
    Outcome CaptureError (List Byte) := do
  let source_start ← access (checked_mul_usize row source_stride)
  let destination_row ← access (checked_mul_usize (local_y + row) destination_stride)
  let destination_start ← access (checked_add_usize destination_row (local_x * 4))
  let destination_end ← or_fail (checked_add_usize destination_start row_bytes)
    (manager_error .TopologyChanged "compose_virtual_desktop"
      "display bounds overflow the virtual-desktop frame" true)
  fail_if (destination_end > destination.length)
    (manager_error .TopologyChanged "compose_virtual_desktop"
      "display bounds extend outside the virtual-desktop frame" true)
  let bytes ← access (slice? source source_start row_bytes)
  access (write? destination destination_start bytes)

/-- `usize::try_from` of an `i64`. -/
def try_usize (v : Int) : Option Nat := if 0 ≤ v then some v.toNat else none

/-- SRC: display_manager.rs:470-558 -/
def copy_frame_into (bounds : Rect) (destination_stride : Nat) (destination : List Byte)
    (frame : CpuFrame) : Outcome CaptureError (List Byte) := do
  fail_if (frame.format.encoding ≠ .EightBitRgba true)
    (manager_error .InvalidFrame "compose_virtual_desktop"
      "virtual-desktop composition requires 8-bit BGRA pixels" false)
  fail_if (frame.origin ≠ .TopLeft ∨ frame.width ≠ frame.metadata.source_rect.width ∨
      frame.height ≠ frame.metadata.source_rect.height)
    (manager_error .InvalidFrame "compose_virtual_desktop"
      s!"display {frame.metadata.display_id} did not return normalized top-left BGRA pixels" false)
  let outside := manager_error .TopologyChanged "compose_virtual_desktop"
    "display origin lies outside virtual-desktop bounds" true
  let local_x ← or_fail (try_usize (frame.metadata.source_rect.x - bounds.x)) outside
  let local_y ← or_fail (try_usize (frame.metadata.source_rect.y - bounds.y)) outside
  fail_if (((checked_add_usize local_x frame.width).filter (· ≤ bounds.width)).isNone ∨
      ((checked_add_usize local_y frame.height).filter (· ≤ bounds.height)).isNone)
    (manager_error .TopologyChanged "compose_virtual_desktop"
      "display bounds extend outside the virtual-desktop rows" true)
  (List.range frame.height).foldlM
    (copy_frame_row frame.pixels frame.stride_bytes (frame.width * 4) local_x local_y
      destination_stride) destination

/-! ## The whole picture -/

/-- The display ids compared as `right.cmp(left)`.
SRC: display_manager.rs:397-399 -/
def ordered_frames (frames : List CpuFrame) : List CpuFrame :=
  frames.mergeSort fun left right => right.metadata.display_id ≤ left.metadata.display_id

/-- The least offset so far, or none as soon as one output has no offset.
SRC: display_manager.rs:420-421 -/
def least_verified (oldest : Option Nat) (verified : Option Nat) : Option (Option Nat) :=
  verified.map fun offset => some ((oldest.map fun previous => min previous offset).getD offset)

/-- SRC: display_manager.rs:413-422 -/
def verified_of (frames : List CpuFrame) : Option Nat :=
  ((frames.map fun frame => frame.metadata.verified_current_offset_ns).foldlM least_verified
    none).join

/-- SRC: display_manager.rs:404-448 -/
def composite_metadata (frames : List CpuFrame) (bounds : Rect) (request : CaptureRequest)
    (slot : Nat) : FrameMetadata where
  capture_id := request.id
  backend := "dxgi"
  display_id := "virtual_desktop"
  source_rect := bounds
  rotation_degrees := 0
  capture_mode := request.mode
  presentation_offset_ns := (frames.filterMap (·.metadata.presentation_offset_ns)).min?
  verified_current_offset_ns := verified_of frames
  timing_provenance :=
    if frames.all fun frame => frame.metadata.timing_provenance == .OsPresentationTime then
      .OsPresentationTime
    else .Unavailable
  native_ready_offset_ns := 0
  cpu_ready_offset_ns := none
  frame_age_ns := (frames.filterMap (·.metadata.frame_age_ns)).max?
  frame_generation := none
  copy_count := frames.foldl (fun count frame => saturating_add_u32 count frame.metadata.copy_count) 1
  pool_slot := some (slot % 65536)
  cursor := none

/-- `CpuFrame::new(..)`, its error as this operation's. -/
def composite_frame (pixels : List Byte) (bounds : Rect) (stride : Nat)
    (metadata : FrameMetadata) : Outcome CaptureError CpuFrame :=
  match CpuFrame.new pixels bounds.width bounds.height stride .Bgra8Unorm .TopLeft .Srgb metadata with
  | .ok frame => .ok frame
  | .error error =>
    fail (manager_error .InvalidFrame "compose_virtual_desktop" error.message false)

/-- A picture of the whole desktop.  The pool's state after the call is left out.
SRC: display_manager.rs:353-468 -/
def compose_virtual_desktop (frames : List CpuFrame) (bounds : Rect) (request : CaptureRequest)
    (pool : CompositeBufferPool) : Outcome CaptureError CpuFrame := do
  let stride ← or_fail (checked_mul_u32 bounds.width 4)
    (manager_error .InvalidFrame "compose_virtual_desktop" "virtual-desktop stride overflowed"
      false)
  let len ← or_fail (checked_mul_usize stride bounds.height)
    (manager_error .InvalidFrame "compose_virtual_desktop"
      "virtual-desktop buffer size overflowed" false)
  let (slot, pool) ← or_fail (pool.available_index len)
    (manager_error .BufferExhausted "compose_virtual_desktop"
      "all bounded virtual-desktop frame slots are still in use" true)
  let destination ← access (pool.get_mut slot)
  let pixels ← (ordered_frames frames).foldlM (copy_frame_into bounds stride) (fill_black destination)
  composite_frame pixels bounds stride (composite_metadata frames bounds request slot)

end Captastic.Model
