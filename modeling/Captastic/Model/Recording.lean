import Captastic.Model.Animation
import Captastic.Model.Video

/-!
# Recording, and concluding a review

`captastic-app/src/recording.rs`: the pacing loop hands frames to the encoder thread
through a queue that drops its oldest frame when it is full; the loop's end says how long
the recording lasted.  When the recording's review is answered, `conclude_review` saves
the recording as it is when the edit changes nothing of it.

The two threads meet only in the queue, so a recording is a list of steps: a frame
captured, a capture that failed, or the encoder taking the next frame.  Cropping and
scaling frames to the recording's size happens before a step and is not part of it.
-/

set_option autoImplicit false

namespace Captastic.Model

/-- SRC: captastic-config/src/lib.rs:1101-1110 -/
inductive RecordingFormat where
  | Gif
  | Mp4
deriving DecidableEq, Repr

/-- SRC: captastic-config/src/lib.rs:1123-1128 -/
def RecordingFormat.frame_rate : RecordingFormat → Nat
  | .Gif => 15
  | .Mp4 => 30

/-- SRC: recording.rs:78-83 -/
structure RecordingSettings where
  format : RecordingFormat
  max_duration : Duration
deriving DecidableEq, Repr

/-- SRC: recording.rs:94-102 -/
inductive RecordingEnd where
  | Stopped
  | TimeLimit
  | WindowClosed
deriving DecidableEq, Repr

/-- SRC: recording.rs:104-123 -/
structure RecordingReport where
  format : RecordingFormat
  width : Nat
  height : Nat
  duration : Duration
  frames_captured : Nat
  frames_written : Nat
  frames_dropped : Nat
  ended : RecordingEnd
deriving DecidableEq, Repr

/-- SRC: recording.rs:132-144 -/
inductive RecordingError where
  | Source (message : String)
  | Encode (message : String)
  | Io (message : String)
  | Unsupported (message : String)
  | OutsideDisplay (area display : Rect)
deriving DecidableEq

/-! ## The queue between the two threads -/

/-- SRC: recording.rs:41 -/
def QUEUE_BYTES : Nat := 128 * 1024 * 1024

/-- SRC: recording.rs:43 -/
def QUEUE_FRAMES : Nat × Nat := (2, 90)

/-- SRC: recording.rs:45-48 -/
def queue_capacity (bytes : Nat) : Nat :=
  min (max (QUEUE_BYTES / max bytes 1) QUEUE_FRAMES.1) QUEUE_FRAMES.2

/-- SRC: recording.rs:52-54 -/
def SOURCE_FAILURES_TOLERATED : Nat := 5

/-- What the encoder takes next.
SRC: recording.rs:549-553 -/
inductive Next where
  | Frame (pixels : List Byte) (pos : Duration)
  | Closed (pos : Duration)

/-- SRC: recording.rs:555-568 -/
structure FrameQueue where
  frames : List (List Byte × Duration)
  closed_at : Option Duration
  dropped : Nat
  failed : Bool
  capacity : Nat
deriving DecidableEq, Repr

namespace FrameQueue

/-- SRC: recording.rs:571-582 -/
def with_capacity (capacity : Nat) : FrameQueue := ⟨[], none, 0, false, capacity⟩

variable (queue : FrameQueue)

/-- SRC: recording.rs:590-602 -/
def push (pixels : List Byte) (pos : Duration) : FrameQueue :=
  if queue.failed then queue
  else
    let queue := if queue.frames.length ≥ queue.capacity then
      { queue with frames := queue.frames.tail, dropped := queue.dropped + 1 } else queue
    { queue with frames := queue.frames ++ [(pixels, pos)] }

/-- SRC: recording.rs:604-608 -/
def close (pos : Duration) : FrameQueue := { queue with closed_at := some pos }

/-- SRC: recording.rs:610-615 -/
def fail : FrameQueue := { queue with failed := true, frames := [] }

/-- `none` is a queue with nothing to take, which `pop` waits on.
SRC: recording.rs:625-640 -/
def pop : Option (FrameQueue × Next) :=
  match queue.frames with
  | (pixels, pos) :: frames => some ({ queue with frames }, .Frame pixels pos)
  | [] => queue.closed_at.map fun pos => (queue, .Closed pos)

end FrameQueue

/-! ## The encoder thread -/

/-- The error's text.
SRC: animation.rs:29-37 -/
def AnimationError.to_string : AnimationError → String
  | .TooLarge width height =>
    s!"a GIF frame is at most 65535 pixels a side, not {width}x{height}"
  | .WrongSize expected actual => s!"expected {expected} bytes of BGRA pixels, got {actual}"
  | .Encoding message => s!"writing the GIF failed: {message}"

/-- A writer of frames as the encoder thread drives it: what it is created as, what a frame
makes of it, and the file and the number of frames in it when it is finished. -/
structure FrameEncoder (S F : Type) where
  create : Except String S
  push : S → List Byte → Duration → Except String S
  finish : S → Duration → Except String (F × Nat)

section Encoders

variable {C W S F : Type}

/-- SRC: recording.rs:451-486 -/
def encode_gif (K : GifCodec C) (E : GifEncoder C W) (width height : Nat) :
    FrameEncoder (GifWriter C W) W where
  create := match GifWriter.new E width height with
    | .ok w => .ok w
    | .error error => .error error.to_string
  push w pixels pos := match w.push K E pixels pos with
    | (w, .ok ()) => .ok w
    | (_, .error error) => .error error.to_string
  finish w end_at := match w.finish E end_at with
    | .ok (file, summary) => .ok (file, summary.frames_written)
    | .error error => .error error.to_string

/-- SRC: recording.rs:490-514 -/
def encode_mp4 (M : Mp4Sink S F) (width height : Nat) : FrameEncoder (Mp4Writer S) F where
  create := Mp4Writer.create M width height RecordingFormat.Mp4.frame_rate
  push w pixels pos := w.push M pixels pos
  finish w end_at := match w.finalize M end_at with
    | .ok (file, summary) => .ok (file, summary.frames_written)
    | .error message => .error message

end Encoders

/-! ## The recording -/

/-- What happens next while a recording runs.
SRC: recording.rs:218-271, 438-449 -/
inductive RecordStep where
  | captured (pixels : List Byte) (pos : Duration)
  | missed (message : String)
  | taken

/-- The queue, the encoder thread's writer or the error it ended with, the frames captured
and the captures that failed in a row. -/
structure Recording (S : Type) where
  queue : FrameQueue
  writer : Except String S
  captured : Nat
  failures : Nat

section Recording

variable {S F : Type} (encoder : FrameEncoder S F)

namespace Recording

variable (recording : Recording S)

/-- The encoder thread takes the next frame; after an error it has ended.
SRC: recording.rs:418-449 -/
def take : Recording S :=
  match recording.writer with
  | .error _ => recording
  | .ok writer =>
    match recording.queue.pop with
    | some (queue, .Frame pixels pos) =>
      match encoder.push writer pixels pos with
      | .ok writer => { recording with queue, writer := .ok writer }
      | .error message => { recording with queue := queue.fail, writer := .error message }
    | _ => recording

/-- SRC: recording.rs:247-269 -/
def step : RecordStep → Except RecordingError (Recording S)
  | .captured pixels pos =>
    .ok { recording with queue := recording.queue.push pixels pos, failures := 0,
                         captured := recording.captured + 1 }
  | .missed message =>
    if recording.failures + 1 > SOURCE_FAILURES_TOLERATED then .error (.Source message)
    else .ok { recording with failures := recording.failures + 1 }
  | .taken => .ok (recording.take encoder)

/-- SRC: recording.rs:215-271 -/
def run : Recording S → List RecordStep → Except RecordingError (Recording S)
  | recording, [] => .ok recording
  | recording, next :: rest =>
    match recording.step encoder next with
    | .error error => .error error
    | .ok recording => run recording rest

/-- The encoder thread takes every frame left in the closed queue.
SRC: recording.rs:438-449 -/
def drain : Nat → Recording S → Recording S
  | 0, recording => recording
  | left + 1, recording => drain left (recording.take encoder)

/-- The recording before its loop: the first frame is in the queue.
SRC: recording.rs:197-217 -/
def begin (width height : Nat) (first : List Byte) : Recording S :=
  let queue := FrameQueue.with_capacity (queue_capacity (width * height * 4))
  let queue := match encoder.create with
    | .ok _ => queue
    | .error _ => queue.fail
  ⟨queue.push first 0, encoder.create, 1, 0⟩

end Recording

/-- The report and the file of a recording whose loop took `steps` and ended `elapsed`
after it started.
SRC: recording.rs:174-297 -/
def record_into (settings : RecordingSettings) (width height : Nat) (first : List Byte)
    (steps : List RecordStep) (elapsed : Duration) (ended : RecordingEnd) :
    Except RecordingError (RecordingReport × F) := do
  let recording ← (Recording.begin encoder width height first).run encoder steps
  let duration := min elapsed settings.max_duration
  let recording := { recording with queue := recording.queue.close duration }
  let recording := recording.drain encoder recording.queue.frames.length
  match recording.writer with
  | .error message => .error (.Encode message)
  | .ok writer =>
    match encoder.finish writer duration with
    | .error message => .error (.Encode message)
    | .ok (file, frames_written) =>
      .ok ({ format := settings.format, width, height, duration,
             frames_captured := recording.captured, frames_written,
             frames_dropped := recording.queue.dropped, ended }, file)

end Recording

/-! ## Either format -/

/-- A recording's file, as its format has it. -/
inductive RecordedFile (W F : Type) where
  | Gif (file : W)
  | Mp4 (file : F)

section Formats

variable {C W S F : Type} (K : GifCodec C) (E : GifEncoder C W) (M : Mp4Sink S F)

/-- SRC: recording.rs:162-172, 418-436 -/
def record_in_memory (settings : RecordingSettings) (width height : Nat) (first : List Byte)
    (steps : List RecordStep) (elapsed : Duration) (ended : RecordingEnd) :
    Except RecordingError (RecordingReport × RecordedFile W F) :=
  match settings.format with
  | .Gif => do
    let (report, file) ←
      record_into (encode_gif K E width height) settings width height first steps elapsed ended
    .ok (report, .Gif file)
  | .Mp4 => do
    let (report, file) ←
      record_into (encode_mp4 M width height) settings width height first steps elapsed ended
    .ok (report, .Mp4 file)

/-- The timeline a review's reader builds from the recorded file; a GIF has the size its
encoder was created with.
SRC: captastic-windows/src/overlay/review.rs:518-526 -/
def open_reader (width height : Nat) : RecordedFile W F → Except PlaybackError Timeline
  | .Gif file => do
    let reader ← GifReader.new (UInt16.ofNat width) (UInt16.ofNat height) (E.stored file)
    .ok reader.timeline
  | .Mp4 file => mp4_timeline (M.samples file)

end Formats

/-! ## A review's answer -/

/-- SRC: captastic-windows/src/overlay/review.rs:91-102 -/
inductive ReviewOutcome where
  | Save (edit : RecordingEdit)
  | Discard
  | Closed
  | Failed (message : String)
deriving DecidableEq, Repr

/-- The timeline a report stands for: one frame, at least a millisecond long.
SRC: recording.rs:1478-1486 -/
def timeline_of (report : RecordingReport) : Timeline where
  starts := [0]
  duration := max report.duration (from_millis 1)
  first_at_zero := rfl
  in_order := rfl
  ends_after_last := by
    intro last hlast
    obtain rfl : 0 = last := Option.some.inj hlast
    exact Nat.lt_of_lt_of_le (by decide) (Nat.le_max_right _ _)

/-- SRC: recording.rs:1488-1490 -/
def size_of (report : RecordingReport) : Nat × Nat := (report.width, report.height)

/-- What is done with a draft whose review ended. -/
inductive Conclusion where
  | save_edited (edit : RecordingEdit)
  | save_unchanged
  | discard
deriving DecidableEq, Repr

/-- The arm of `conclude_review` a draft's review outcome takes.
SRC: recording.rs:1227-1267 -/
def review_conclusion (report : RecordingReport) : ReviewOutcome → Conclusion
  | .Save edit =>
    if edit.changes_nothing (timeline_of report) (size_of report) then .save_unchanged
    else .save_edited edit
  | .Closed => .save_unchanged
  | .Failed _ => .save_unchanged
  | .Discard => .discard

end Captastic.Model
