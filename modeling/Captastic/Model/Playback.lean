import Captastic.Library.Buffer
import Captastic.Model.Frame

/-!
# Reading a recording back

`captastic-core/src/playback.rs`: the timeline of a recording, what a review can
change about it, and the reader that composites a GIF's frames as they are asked for.

A `Duration` is a number of nanoseconds.  The gif crate is not part of the
repository: a stored frame carries the fields the reader looks at, and decoding its
pixels is the parameter `GifDecoder`, a function of the stored frame that may fail.
Pixel offsets are products of two sides of at most 65535 and stay in a `u32`, so they
are natural numbers here.
-/

set_option autoImplicit false

namespace Captastic.Model

open Captastic.Library

/-- `std::time::Duration`, in nanoseconds. -/
abbrev Duration := Nat

/-- `Duration::from_millis`. -/
def from_millis (ms : Nat) : Duration := ms * 1000000

/-- SRC: playback.rs:22-24 -/
structure PlaybackError where
  message : String
deriving DecidableEq, Repr

/-! ## Timelines -/

/-- `starts.windows(2).any(|pair| pair[0] >= pair[1])` -/
def out_of_order : List Duration → Bool
  | a :: b :: rest => decide (a ≥ b) || out_of_order (b :: rest)
  | _ => false

/-- When each frame of a recording starts, and when the recording ends; the last three
fields are what `Timeline::new` checks.
SRC: playback.rs:26-34 -/
structure Timeline where
  starts : List Duration
  duration : Duration
  first_at_zero : starts.head? = some 0
  in_order : out_of_order starts = false
  ends_after_last : ∀ last, starts.getLast? = some last → last < duration

namespace Timeline

/-- SRC: playback.rs:38-55 -/
def new (starts : List Duration) (duration : Duration) : Except PlaybackError Timeline :=
  if h₁ : starts.head? = some 0 then
    if h₂ : out_of_order starts = false then
      if h₃ : ∀ last, starts.getLast? = some last → last < duration then
        .ok ⟨starts, duration, h₁, h₂, h₃⟩
      else .error ⟨"a recording must end after its last frame starts"⟩
    else .error ⟨"a recording's frames must start in order"⟩
  else .error ⟨"a recording's first frame must start at zero"⟩

variable (t : Timeline)

/-- SRC: playback.rs:73-76 -/
def «end» (index : Nat) : Duration := (t.starts[index + 1]?).getD t.duration

/-- The frame on screen at `pos`: `partition_point` counts the starts up to it.
SRC: playback.rs:78-81 -/
def index_at (pos : Duration) : Nat :=
  max (t.starts.takeWhile fun start => decide (start ≤ pos)).length 1 - 1

/-- `self.starts[index]`, which panics past the last frame.
SRC: playback.rs:69-71 -/
def start (index : Nat) : Option Duration := t.starts[index]?

/-- SRC: playback.rs:83-92 -/
def previous_change (pos : Duration) : Option Duration := do
  let index := t.index_at pos
  let start ← t.start index
  if start < pos then some start else t.start (index - 1)

/-- SRC: playback.rs:94-102 -/
def next_change (pos : Duration) : Duration :=
  max ((t.starts[t.index_at pos + 1]?).getD t.duration) (min pos t.duration)

end Timeline

/-! ## What a review can change -/

/-- SRC: playback.rs:115-122 -/
structure PixelRect where
  x : Nat
  y : Nat
  width : Nat
  height : Nat
deriving DecidableEq, Repr

/-- SRC: playback.rs:124-133 -/
structure RecordingEdit where
  start : Duration
  «end» : Duration
  crop : Option PixelRect
deriving DecidableEq, Repr

/-- SRC: playback.rs:135-140 -/
structure KeptFrame where
  index : Nat
  shown_from : Duration
deriving DecidableEq, Repr

namespace RecordingEdit

/-- SRC: playback.rs:144-150 -/
def none (duration : Duration) : RecordingEdit := ⟨0, duration, Option.none⟩

variable (edit : RecordingEdit)

/-- SRC: playback.rs:152-163 -/
def changes_nothing (timeline : Timeline) (size : Nat × Nat) : Bool :=
  let whole_crop := match edit.crop with
    | Option.none => true
    | some crop => crop == ⟨0, 0, size.1, size.2⟩
  edit.start == 0 && decide (edit.end ≥ timeline.duration) && whole_crop

/-- SRC: playback.rs:165-168 -/
def length : Duration := edit.end - edit.start

/-- The indices `first..timeline.len()` are those of `starts`, so `start` never panics
here.
SRC: playback.rs:172-184 -/
def kept_frames (timeline : Timeline) : List KeptFrame :=
  if edit.end ≤ edit.start ∨ timeline.starts.isEmpty then []
  else
    ((timeline.starts.zipIdx.drop (timeline.index_at edit.start)).takeWhile
      fun frame => decide (frame.1 < edit.end)).map
      fun frame => ⟨frame.2, max frame.1 edit.start - edit.start⟩

/-- SRC: playback.rs:186-189 -/
def output_size (size : Nat × Nat) : Nat × Nat :=
  match edit.crop with
  | Option.none => size
  | some crop => (crop.width, crop.height)

/-- The rows of the crop, joined; `none` is a row that reaches past the frame.
SRC: playback.rs:191-204 -/
def crop_pixels (pixels : List Byte) (width : Nat) : Option (List Byte) :=
  match edit.crop with
  | Option.none => some pixels
  | some crop =>
    let row_bytes := width * 4
    let crop_bytes := crop.width * 4
    (List.range' crop.y crop.height).foldlM (fun out y => do
      let row ← slice? pixels (y * row_bytes + crop.x * 4) crop_bytes
      some (out ++ row)) []

end RecordingEdit

/-! ## The GIF reader -/

/-- `gif::DisposalMethod` -/
inductive DisposalMethod where
  | Any
  | Keep
  | Background
  | Previous
deriving DecidableEq, Repr

/-- The fields of a `gif::Frame` the reader looks at; `data` is its compressed pixels,
with what decoding them depends on.
SRC: playback.rs:207-210 -/
structure GifFrame (C : Type) where
  left : UInt16
  top : UInt16
  width : UInt16
  height : UInt16
  delay : UInt16
  dispose : DisposalMethod
  data : C
deriving DecidableEq

/-- Decoding a stored frame to RGBA, a function of the frame that may fail; when it
succeeds it fills the buffer of `buffer_size` bytes it is given. -/
structure GifDecoder (C : Type) where
  decode : GifFrame C → Except String (List Byte)
  length_decode : ∀ frame rgba, decode frame = .ok rgba →
    rgba.length = frame.height.toNat * (frame.width.toNat * 4)

/-- SRC: playback.rs:16-20 -/
def SNAPSHOT_BUDGET_BYTES : Nat := 192 * 1024 * 1024

/-- SRC: playback.rs:20 -/
def MINIMUM_SNAPSHOT_SPACING : Nat := 8

/-- `usize::div_ceil`. -/
def div_ceil (a b : Nat) : Nat := (a + b - 1) / b

/-- Zeros, with the last byte of every whole pixel 255.
SRC: playback.rs:382-388 -/
def opaque_black (bytes : Nat) : List Byte :=
  (List.range bytes).map fun i => if i % 4 = 3 then 255 else 0

/-- SRC: playback.rs:212-232 -/
structure GifReader (C : Type) where
  width : Nat
  height : Nat
  frames : List (GifFrame C)
  timeline : Timeline
  canvas : List Byte
  canvas_index : Option Nat
  snapshots : List (Option (List Byte))
  snapshot_spacing : Nat

section GifReader

variable {C : Type}

/-- When each frame starts, and the length of all of them in centiseconds; a zero delay
counts as one.
SRC: playback.rs:245-256 -/
def frame_starts : Nat → List (GifFrame C) → List Duration × Nat
  | elapsed_cs, [] => ([], elapsed_cs)
  | elapsed_cs, frame :: frames =>
    let rest := frame_starts (elapsed_cs + max frame.delay.toNat 1) frames
    (from_millis (elapsed_cs * 10) :: rest.1, rest.2)

/-- Clears `frame`'s rectangle of the canvas to black.
SRC: playback.rs:390-400 -/
def fill_rect (canvas : List Byte) (width height : Nat) (frame : GifFrame C) :
    Option (List Byte) :=
  let right := min (frame.left.toNat + frame.width.toNat) width
  let bottom := min (frame.top.toNat + frame.height.toNat) height
  (List.range' frame.top.toNat (bottom - frame.top.toNat)).foldlM (fun canvas y =>
    (List.range' frame.left.toNat (right - frame.left.toNat)).foldlM (fun canvas x =>
      write? canvas ((y * width + x) * 4) [0, 0, 0, 255]) canvas) canvas

/-- Draws the decoded pixels of `frame` over the canvas; a loop that breaks when its
coordinate reaches the canvas's side is one over the coordinates before that.
SRC: playback.rs:301-321 -/
def draw_frame (canvas scratch : List Byte) (width height : Nat) (frame : GifFrame C) :
    Option (List Byte) :=
  ((List.range frame.height.toNat).takeWhile
    fun y => decide (frame.top.toNat + y < height)).foldlM (fun canvas y =>
      ((List.range frame.width.toNat).takeWhile
        fun x => decide (frame.left.toNat + x < width)).foldlM (fun canvas x =>
          match slice? scratch ((y * frame.width.toNat + x) * 4) 4 with
          | some [r, g, b, a] =>
            if a = 0 then some canvas
            else
              write? canvas (((frame.top.toNat + y) * width + (frame.left.toNat + x)) * 4)
                [b, g, r, 255]
          | _ => none) canvas) canvas

namespace GifReader

/-- A reader of the frames the gif crate found in a GIF of this size.
SRC: playback.rs:236-285 -/
def new (width height : UInt16) (frames : List (GifFrame C)) :
    Except PlaybackError (GifReader C) :=
  let starts := frame_starts 0 frames
  if frames.isEmpty ∨ width = 0 ∨ height = 0 then .error ⟨"the GIF has no frames"⟩
  else do
    let timeline ← Timeline.new starts.1 (from_millis (starts.2 * 10))
    let frame_bytes := width.toNat * height.toNat * 4
    let snapshot_spacing :=
      max (div_ceil (frames.length * frame_bytes) SNAPSHOT_BUDGET_BYTES) MINIMUM_SNAPSHOT_SPACING
    let snapshot_count := div_ceil frames.length snapshot_spacing
    .ok { width := width.toNat, height := height.toNat, frames, timeline,
          canvas := opaque_black frame_bytes, canvas_index := none,
          snapshots := List.replicate snapshot_count none, snapshot_spacing }

variable (D : GifDecoder C) (r : GifReader C)

/-- The canvas once frame `index - 1` has been disposed of.
SRC: playback.rs:289-294 -/
def disposed (index : Nat) : Option (List Byte) :=
  if index > 0 then do
    let previous ← r.frames[index - 1]?
    if previous.dispose = .Background then fill_rect r.canvas r.width r.height previous
    else some r.canvas
  else some r.canvas

/-- Keeps a snapshot of the canvas after every `snapshot_spacing`th frame.
SRC: playback.rs:323-328 -/
def keep_snapshot (index : Nat) : Option (GifReader C) :=
  if index % r.snapshot_spacing = 0 then do
    let slot := index / r.snapshot_spacing
    match ← r.snapshots[slot]? with
    | none => some { r with snapshots := r.snapshots.set slot (some r.canvas) }
    | some _ => some r
  else some r

/-- Draws frame `index` over the canvas.
SRC: playback.rs:287-330 -/
def apply (index : Nat) : Option (GifReader C × Except PlaybackError Unit) := do
  let canvas ← r.disposed index
  let frame ← r.frames[index]?
  match D.decode frame with
  | .error error =>
    some ({ r with canvas }, .error ⟨s!"decoding GIF frame {index}: {error}"⟩)
  | .ok scratch =>
    let canvas ← draw_frame canvas scratch r.width r.height frame
    let r ← keep_snapshot { r with canvas, canvas_index := some index } index
    some (r, .ok ())

/-- `for next in ..=index { self.apply(next)?; }`
SRC: playback.rs:375-377 -/
def apply_each : GifReader C → List Nat → Option (GifReader C × Except PlaybackError Unit)
  | r, [] => some (r, .ok ())
  | r, next :: rest => do
    match ← r.apply D next with
    | (r, .ok ()) => apply_each r rest
    | (r, .error error) => some (r, .error error)

/-- Puts the snapshot taken after frame `snapshot` back on the canvas.
SRC: playback.rs:361-368 -/
def restore (snapshot : Nat) : Option (GifReader C) := do
  match ← r.snapshots[snapshot / r.snapshot_spacing]? with
  | some pixels =>
    if pixels.length = r.canvas.length then
      some { r with canvas := pixels, canvas_index := some snapshot }
    else none
  | none => some { r with canvas_index := some snapshot }

/-- The nearest snapshot at or before `index`; the largest slot is looked at first, so
it is the one that can be out of range.
SRC: playback.rs:355-358 -/
def nearest_snapshot (index : Nat) : Option (Option Nat) :=
  if index / r.snapshot_spacing < r.snapshots.length then
    some (((List.range (index / r.snapshot_spacing + 1)).reverse.find? fun slot =>
      (r.snapshots[slot]?).join.isSome).map (· * r.snapshot_spacing))
  else none

/-- The reader with the canvas replay starts from, and the frame it starts at.
SRC: playback.rs:349-374 -/
def resume_from (index : Nat) : Option (GifReader C × Nat) := do
  let resume := r.canvas_index.filter fun current => decide (current < index)
  match resume, ← r.nearest_snapshot index with
  | some current, some snapshot =>
    if snapshot ≤ current then some (r, current + 1)
    else do
      let r ← r.restore snapshot
      some (r, snapshot + 1)
  | none, some snapshot => do
    let r ← r.restore snapshot
    some (r, snapshot + 1)
  | some current, none => some (r, current + 1)
  | none, none => some ({ r with canvas := opaque_black r.canvas.length }, 0)

/-- SRC: playback.rs:342-379 -/
def frame (index : Nat) : Option (GifReader C × Except PlaybackError (List Byte)) :=
  if index ≥ r.frames.length then
    some (r, .error ⟨s!"frame {index} is past the GIF's {r.frames.length} frames"⟩)
  else if r.canvas_index = some index then some (r, .ok r.canvas)
  else do
    let (r, first) ← r.resume_from index
    match ← r.apply_each D (List.range' first (index + 1 - first)) with
    | (r, .ok ()) => some (r, .ok r.canvas)
    | (r, .error error) => some (r, .error error)

end GifReader

end GifReader

end Captastic.Model
