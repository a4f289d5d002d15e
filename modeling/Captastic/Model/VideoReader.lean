import Captastic.Model.Video

/-!
# Reading an MP4 back

`captastic-windows/src/video_reader.rs`: `Mp4Reader`, which decodes the frame it is asked for
by reading on from the one it decoded last, or by seeking.

Media Foundation's source reader is a parameter, taken as what the file holds (`Mp4File`: its
samples in the order they are read, as they come out decoded), where it stands (`SourceReader`),
and what each of its calls answers (`ReadAnswer`).  A call that fails may already have taken its
sample.  It announces a change of the decoded type once, with the first sample of the new type.
Every read takes a sample or finds the end, so the loop around a read without a sample is gone
round once.  Times stay far below where 100 ns ticks leave a `Duration` or an `i64`.
-/

set_option autoImplicit false

namespace Captastic.Model

open Captastic.Library

/-! ## The source reader -/

/-- The attributes of a decoded media type that the reader looks at: the frame's height, and the
stride of its rows. -/
structure DecodedType where
  frame_height : Option Nat
  default_stride : Option Int
deriving DecidableEq, Repr

/-- A sample, as it comes out decoded. -/
structure DecodedSample where
  time : Int
  duration : Int
  decoded_type : DecodedType
  bytes : List Byte
deriving DecidableEq

/-- What the source reader has of a file: a picture's size, the decoded type it starts with, and
the samples, each later than the one before. -/
structure Mp4File where
  width : Nat
  height : Nat
  first_type : DecodedType
  samples : List DecodedSample
  height_pos : 0 < height
  rising : (samples.map DecodedSample.time).Pairwise (· < ·)

/-- Where a source reader stands: how many samples come before the next one, and the decoded
type it has announced last. -/
structure SourceReader where
  next : Nat
  announced : DecodedType
deriving DecidableEq, Repr

/-- The call for a sample's buffer that fails. -/
inductive BufferFailure where
  | contiguous (error : String)
  | lock (error : String)

/-- What goes wrong with a read: `ReadSample` fails, and may have taken the sample; a change of
type is announced that is none; asking for the decoded type fails; or the buffer cannot be had or
locked, or holds only so many of the sample's bytes. -/
structure ReadAnswer where
  read_sample : Option (String × Bool)
  announces : Bool
  current_type : Option String
  buffer : Except BufferFailure Nat

/-- A read that works. -/
def ReadAnswer.quiet : ReadAnswer := ⟨none, false, none, .ok 4294967295⟩

namespace SourceReader

variable (file : Mp4File) (source : SourceReader)

/-- With the next sample taken. -/
def taken : SourceReader :=
  match file.samples[source.next]? with
  | some sample => ⟨source.next + 1, sample.decoded_type⟩
  | none => source

/-- Whether a read announces a change of type. -/
def changes (answer : ReadAnswer) : Bool :=
  answer.announces || decide ((source.taken file).announced ≠ source.announced)

end SourceReader

/-! ## Decoded frames -/

/-- SRC: video_reader.rs:32-39 -/
structure DecodedLayout where
  frame_height : Nat
  stride : Int
deriving DecidableEq, Repr

/-- SRC: video_reader.rs:332-354 -/
def decoded_layout (current : DecodedType) (width height : Nat) : DecodedLayout where
  frame_height := max (current.frame_height.getD height) height
  stride := current.default_stride.getD (width * 4)

/-- `for pixel in to.chunks_exact_mut(4) { pixel[3] = u8::MAX; }`
SRC: video_reader.rs:383-385 -/
def opaque_row (row : List Byte) : List Byte :=
  row.mapIdx fun i byte => if i % 4 = 3 then 255 else byte

/-- SRC: video_reader.rs:375-379 -/
def source_row (layout : DecodedLayout) (y : Nat) : Option Nat :=
  if layout.stride < 0 then
    if y < layout.frame_height then some (layout.frame_height - 1 - y) else none
  else some y

/-- `none` is a subtraction below zero or a slice out of range.
SRC: video_reader.rs:358-388 -/
def copy_rows (bytes : List Byte) (layout : DecodedLayout) (width height : Nat)
    (out : List Byte) : Option (Except PlaybackError (List Byte)) :=
  let row_bytes := width * 4
  let stride := layout.stride.natAbs
  let too_small : Except PlaybackError (List Byte) :=
    .error ⟨s!"a decoded frame of {bytes.length} bytes is too small for {width}x{height}"⟩
  if stride < row_bytes then some too_small
  else if layout.frame_height = 0 then none
  else if bytes.length < stride * (layout.frame_height - 1) + row_bytes then some too_small
  else do
    let out ← (List.range height).foldlM (fun out y => do
      let source_row ← source_row layout y
      let row ← slice? bytes (source_row * stride) row_bytes
      write? out (y * row_bytes) (opaque_row row)) out
    some (.ok out)

/-! ## The reader -/

/-- SRC: video_reader.rs:29-30 -/
def READ_ON_LIMIT : Nat := 45

/-- SRC: video_reader.rs:41-56 -/
structure Mp4Reader where
  reader : SourceReader
  layout : DecodedLayout
  width : Nat
  height : Nat
  timeline : Timeline
  origin : Int
  pixels : List Byte
  decoded : Option Nat
  at_end : Bool

/-- What the source reader does in one call of `frame`: where a seek takes it, or that the seek
fails, and how a read from each place goes; no call reads from one place twice. -/
structure FrameAnswers where
  seek : Except String Nat
  reads : Nat → ReadAnswer

namespace Mp4Reader

/-- SRC: video_reader.rs:58-60 -/
def failure (operation error : String) : PlaybackError := ⟨s!"{operation}: {error}"⟩

/-- SRC: video_reader.rs:111-192 -/
def open_source (file : Mp4File) : Except PlaybackError Mp4Reader := do
  let samples := file.samples.map fun sample => (sample.time, sample.duration)
  let timeline ← mp4_timeline samples
  .ok
    { reader := ⟨0, file.first_type⟩
      layout := decoded_layout file.first_type file.width file.height
      width := file.width
      height := file.height
      timeline
      origin := (sample_times samples).head?.getD 0
      pixels := List.replicate (file.width * file.height * 4) 0
      decoded := none
      at_end := false }

variable (file : Mp4File) (r : Mp4Reader)

/-- The time a seek asks for; `none` is a frame past the last.
SRC: video_reader.rs:195 -/
def seek_position (index : Nat) : Option Int := do
  let start ← r.timeline.start index
  some (r.origin + ticks start)

/-- SRC: video_reader.rs:194-214 -/
def seek (answer : Except String Nat) : Mp4Reader × Except PlaybackError Unit :=
  match answer with
  | .error error => (r, .error (failure "seeking in the MP4" error))
  | .ok next =>
    ({ r with reader := { r.reader with next }, decoded := none, at_end := false }, .ok ())

/-- The decoded type announced, if a change was.
SRC: video_reader.rs:237-240 -/
def refresh_layout (changed : Bool) (answer : ReadAnswer) :
    Mp4Reader × Except PlaybackError Unit :=
  if changed then
    match answer.current_type with
    | some error => (r, .error (failure "reading the decoded type" error))
    | none =>
      ({ r with layout := decoded_layout r.reader.announced r.width r.height }, .ok ())
  else (r, .ok ())

/-- The sample's picture, copied into `pixels`.
SRC: video_reader.rs:247-271 -/
def decode (sample : DecodedSample) (answer : ReadAnswer) :
    Option (Mp4Reader × Except PlaybackError (Option Nat)) :=
  match answer.buffer with
  | .error (.contiguous error) => some (r, .error (failure "reading a decoded frame" error))
  | .error (.lock error) => some (r, .error (failure "locking a decoded frame" error))
  | .ok length => do
    match ← copy_rows (sample.bytes.take length) r.layout r.width r.height r.pixels with
    | .error error => some (r, .error error)
    | .ok pixels =>
      let index := r.timeline.index_at (duration_of_ticks (sample.time - r.origin))
      some ({ r with pixels, decoded := some index }, .ok (some index))

/-- SRC: video_reader.rs:216-274 -/
def read_next (answer : ReadAnswer) :
    Option (Mp4Reader × Except PlaybackError (Option Nat)) :=
  if r.at_end then some (r, .ok none)
  else
    let sample := file.samples[r.reader.next]?
    let after := { r with reader := r.reader.taken file }
    match answer.read_sample with
    | some (error, took) =>
      some (if took then after else r, .error (failure "decoding the MP4" error))
    | none =>
      match after.refresh_layout (r.reader.changes file answer) answer with
      | (r, .error error) => some (r, .error error)
      | (r, .ok ()) =>
        match sample with
        | none => some ({ r with at_end := true }, .ok none)
        | some sample => r.decode sample answer

/-- `while self.decoded.is_none_or(|current| current < index)`, for so many reads; `none` is also
running out of them.
SRC: video_reader.rs:296-300 -/
def read_until (index : Nat) (answers : Nat → ReadAnswer) :
    Nat → Mp4Reader → Option (Mp4Reader × Except PlaybackError Unit)
  | fuel, r =>
    if r.decoded.all fun current => decide (current < index) then
      match fuel with
      | 0 => none
      | fuel + 1 => do
        match ← r.read_next file (answers r.reader.next) with
        | (r, .error error) => some (r, .error error)
        | (r, .ok none) => some (r, .ok ())
        | (r, .ok (some _)) => read_until index answers fuel r
    else some (r, .ok ())

/-- The loop and the pixels after it.  It reads no more often than once for each sample and once
more for the end.
SRC: video_reader.rs:296-301 -/
def read_frame (index : Nat) (answers : Nat → ReadAnswer) :
    Option (Mp4Reader × Except PlaybackError (List Byte)) := do
  match ← read_until file index answers (file.samples.length + 1) r with
  | (r, .error error) => some (r, .error error)
  | (r, .ok ()) => some (r, .ok r.pixels)

/-- SRC: video_reader.rs:292 -/
def reads_on (index : Nat) : Bool :=
  r.decoded.any fun current =>
    decide (current < index) && decide (index - current ≤ READ_ON_LIMIT)

/-- SRC: video_reader.rs:285-302 -/
def frame (index : Nat) (answers : FrameAnswers) :
    Option (Mp4Reader × Except PlaybackError (List Byte)) :=
  if index ≥ r.timeline.starts.length then
    some (r, .error ⟨s!"frame {index} is past the MP4's {r.timeline.starts.length} frames"⟩)
  else if r.decoded ≠ some index ∧ ¬ r.reads_on index then
    match r.seek answers.seek with
    | (r, .error error) => some (r, .error error)
    | (r, .ok ()) => r.read_frame file index answers.reads
  else r.read_frame file index answers.reads

end Mp4Reader

end Captastic.Model
