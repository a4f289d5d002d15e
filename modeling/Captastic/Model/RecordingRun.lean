import Captastic.Model.Bitmap
import Captastic.Model.Recording

/-!
# A recording's two threads

`captastic-app/src/recording.rs`: `record_into` asks its source for frames, converts their
pixels and pushes them into the queue; the encoder's thread pops them, writes them and ends
with the file.  Either thread may stop between any two of its calls on the queue, so each call
is a step of its own, and a run is any order of the two threads' steps.

What the source answers, what the clock and the stop flag read, and what the filesystem makes
of the encoder's file are the steps' data.  The sizes the source computes in floating point,
and the scaling itself, are a parameter (`Scaling`).
-/

set_option autoImplicit false

namespace Captastic.Model

open Captastic.Library

/-! ## A frame's pixels -/

/-- The recording's size for an area, a window's size fitted to the recording's before it is
clamped, and the scaling of BGRA pixels, all in floating point.
SRC: recording.rs:322-325, 349-358; animation.rs:256-305; video.rs:48-55 -/
structure Scaling where
  output_size : RecordingFormat → Nat → Nat → Nat × Nat
  fitted_size : Nat × Nat → Nat × Nat → Nat × Nat
  shrink_bgra : List Byte → Nat → Nat → Nat → Nat → List Byte

/-- SRC: error.rs:97-112 -/
def FrameError.to_string : FrameError → String
  | .EmptyDimensions => "frame dimensions must be non-zero"
  | .InvalidStride stride minimum =>
    s!"stride {stride} is smaller than the minimum row size {minimum}"
  | .SizeOverflow => "frame byte-size calculation overflowed"
  | .BufferTooShort actual required =>
    s!"pixel buffer contains {actual} bytes but requires at least {required}"
  | .EmptyCrop => "crop rectangle must have nonzero dimensions"
  | .CropOutsideSource => "crop rectangle lies outside the captured source"

/-- A crop that fails, as the recording tells it; a crop is never stopped. -/
def crop_failure : Fault FrameError → RecordingError
  | .error error => .Encode error.to_string
  | .stopped => .Encode ""

/-- SRC: recording.rs:299-304 -/
def recorded_area (frame : CpuFrame) (area : Rect) : Except RecordingError Rect :=
  match area.intersection frame.metadata.source_rect with
  | some area => .ok area
  | none => .error (.OutsideDisplay area frame.metadata.source_rect)

section Pixels

variable (scaling : Scaling)

/-- SRC: recording.rs:361-416 -/
def frame_pixels (frame : CpuFrame) (area : Rect) (width height : Nat) :
    Except RecordingError (List Byte) :=
  match frame.format.encoding with
  | .HalfFloatRgba => .error (.Unsupported "recording an HDR display is not supported yet")
  | .EightBitRgba blue_first =>
    match recorded_area frame area with
    | .error error => .error error
    | .ok area =>
      match frame.crop area with
      | .error fault => .error (crop_failure fault)
      | .ok cropped =>
        let pixels := if blue_first then cropped.pixels
          else (quads cropped.pixels).flatMap fun pixel => [pixel.b2, pixel.b1, pixel.b0, pixel.b3]
        let from_width := cropped.width
        let from_height := cropped.height
        if (width, height) = (from_width, from_height) then .ok pixels
        else if width ≤ from_width ∧ height ≤ from_height ∧ from_width - width ≤ 1 ∧
            from_height - height ≤ 1 then
          .ok ((List.range height).flatMap fun y => slice_at pixels (y * (from_width * 4)) (width * 4))
        else .ok (scaling.shrink_bgra pixels from_width from_height width height)

/-- The whole of a frame.
SRC: recording.rs:191-196, 326-331 -/
def whole_rect (frame : CpuFrame) : Rect where
  x := 0
  y := 0
  width := frame.width
  height := frame.height
  width_u32 := frame.sides_le.1.trans (by decide)
  height_u32 := frame.sides_le.2.trans (by decide)

/-- The rows of the fitted picture are copied into the canvas, inside which they lie.
SRC: recording.rs:321-345 -/
def fitted_pixels (frame : CpuFrame) (width height : Nat) : Except RecordingError (List Byte) :=
  let fitted := scaling.fitted_size (frame.width, frame.height) (width, height)
  let fitted_width := max 1 (min fitted.1 width)
  let fitted_height := max 1 (min fitted.2 height)
  match frame_pixels scaling frame (whole_rect frame) fitted_width fitted_height with
  | .error error => .error error
  | .ok fitted =>
    let canvas := (List.replicate (width * height) [0, 0, 0, 255]).flatten
    let left := (width - fitted_width) / 2
    let top := (height - fitted_height) / 2
    let row := fitted_width * 4
    .ok ((List.range fitted_height).foldl (fun canvas y =>
      let pos := ((top + y) * width + left) * 4
      canvas.take pos ++ slice_at fitted (y * row) row ++ canvas.drop (pos + row)) canvas)

/-- SRC: recording.rs:306-319 -/
def pixels_for (frame : CpuFrame) (whole : Bool) (area : Rect) (width height : Nat) :
    Except RecordingError (List Byte) :=
  if whole ∧ (frame.width, frame.height) ≠ (area.width, area.height) then
    fitted_pixels scaling frame width height
  else frame_pixels scaling frame area width height

end Pixels

/-! ## The two threads -/

/-- What a recording is asked for: its source's frames are the area itself or hold it, and it
is encoded into a file or into memory.
SRC: recording.rs:148-182 -/
structure RecordSetup (S F : Type) where
  scaling : Scaling
  settings : RecordingSettings
  area : Rect
  whole : Bool
  to_path : Bool
  encoder : Nat → Nat → FrameEncoder S F

/-- The area recorded and the recording's size.
SRC: recording.rs:189-200 -/
structure RecordShape where
  area : Rect
  width : Nat
  height : Nat

/-- What is at the recording's path. -/
inductive PathFile (F : Type) where
  | absent
  | unfinished
  | complete (file : F)

/-- What a call of `record_into` ends with. -/
abbrev RecordResult (F : Type) := Except RecordingError (RecordingReport × Option F)

/-- Where the capturing thread is: `record_into` up to `returned`, then `record`.
SRC: recording.rs:148-297 -/
inductive ProducerStage (F : Type) where
  | starts
  | spawns (first : CpuFrame)
  | converts (frame : CpuFrame) (pos : Duration)
  | pushes (pixels : List Byte) (pos : Duration)
  | waits
  | checks
  | asks
  | closes (ended : RecordingEnd)
  | gives_up (message : String)
  | joins (duration : Duration) (ended : RecordingEnd)
  | joins_failed (message : String)
  | reports (duration : Duration) (ended : RecordingEnd) (file : F) (frames_written : Nat)
  | returned (result : RecordResult F)
  | done (result : RecordResult F)

/-- Where the encoder's thread is: `fails` is about to tell the queue so.
SRC: recording.rs:422-519 -/
inductive EncoderStage (S F : Type) where
  | absent
  | opens
  | pops (writer : S)
  | encodes (writer : S) (pixels : List Byte) (pos : Duration)
  | finishes (writer : S) (end_at : Duration)
  | fails (error : RecordingError)
  | ended (result : Except RecordingError (F × Nat))
  | panicked

/-- The encoder's thread has ended. -/
def EncoderStage.stopped {S F : Type} : EncoderStage S F → Bool
  | .ended _ | .panicked => true
  | _ => false

/-- A recording: the queue, the threads, the file at its path, the locals of the pacing loop,
the last reading of the clock since the start, and the frames pushed and delivered so far. -/
structure RecordRun (S F : Type) where
  shape : RecordShape
  queue : FrameQueue
  producer : ProducerStage F
  encoder : EncoderStage S F
  file : PathFile F
  captured : Nat
  failures : Nat
  next : Duration
  clock : Duration
  pushed : List (List Byte × Duration)
  delivered : List (List Byte × Duration)

/-- A step of the encoder's thread. -/
inductive EncoderEvent where
  | opens (error : Option String) (touched : Bool)
  | pops
  | encodes
  | finishes (error : Option String)
  | fails
  | panics
deriving DecidableEq, Repr

/-- A step of either thread, with what its calls return. -/
inductive RecordEvent where
  | first (answer : Except String CpuFrame)
  | spawns (error : Option String)
  | converts
  | pushes
  | polls (stop : Bool) (elapsed : Duration) (gone : Bool) (now : Duration)
  | checks (now : Duration)
  | answers (frame : CpuFrame) (elapsed : Duration)
  | misses (message : String) (gone : Bool)
  | closes (elapsed : Duration)
  | joins
  | measures (error : Option String)
  | leaves (removed : Bool)
  | encoder (event : EncoderEvent)

namespace RecordRun

variable {S F : Type}

/-- A recording that is about to start, with whatever is at its path. -/
def new (area : Rect) (file : PathFile F) : RecordRun S F where
  shape := ⟨area, 0, 0⟩
  queue := .with_capacity 0
  producer := .starts
  encoder := .absent
  file := file
  captured := 0
  failures := 0
  next := 0
  clock := 0
  pushed := []
  delivered := []

variable (setup : RecordSetup S F) (run : RecordRun S F)

/-- The format's encoder at the recording's size. -/
def frame_encoder : FrameEncoder S F := setup.encoder run.shape.width run.shape.height

/-- What opening the encoder's file makes of the file, and the error it fails with: a GIF's file
must exist, an MP4's may be left behind by a failure.
SRC: recording.rs:473-478, 491-495 -/
def open_file (error : Option String) (touched : Bool) :
    Option RecordingError × PathFile F :=
  match setup.to_path, setup.settings.format with
  | false, _ => (none, run.file)
  | true, .Gif =>
    match run.file, error with
    | .absent, error => (some (.Io (error.getD "the file does not exist")), .absent)
    | file, some message => (some (.Io message), file)
    | _, none => (none, .unfinished)
  | true, .Mp4 =>
    match error with
    | some message => (some (.Encode message), if touched then .unfinished else run.file)
    | none => (none, .unfinished)

/-- SRC: recording.rs:422-519, 605-640 -/
def encoder_step : EncoderEvent → Option (RecordRun S F)
  | .opens error touched =>
    match run.encoder with
    | .opens =>
      match run.open_file setup error touched with
      | (some error, file) => some { run with encoder := .fails error, file }
      | (none, file) =>
        match (run.frame_encoder setup).create with
        | .ok writer => some { run with encoder := .pops writer, file }
        | .error message => some { run with encoder := .fails (.Encode message), file }
    | _ => none
  | .pops =>
    match run.encoder with
    | .pops writer =>
      match run.queue.pop with
      | some (queue, .Frame pixels pos) => some { run with
          queue, encoder := .encodes writer pixels pos
          delivered := run.delivered ++ [(pixels, pos)] }
      | some (queue, .Closed end_at) => some { run with queue, encoder := .finishes writer end_at }
      | none => none
    | _ => none
  | .encodes =>
    match run.encoder with
    | .encodes writer pixels pos =>
      match (run.frame_encoder setup).push writer pixels pos with
      | .ok writer => some { run with encoder := .pops writer }
      | .error message => some { run with encoder := .fails (.Encode message) }
    | _ => none
  | .finishes error =>
    match run.encoder with
    | .finishes writer end_at =>
      match (run.frame_encoder setup).finish writer end_at, error with
      | .error message, _ => some { run with encoder := .fails (.Encode message) }
      | .ok _, some message => some { run with encoder := .fails (.Io message) }
      | .ok (file, frames_written), none => some { run with
          encoder := .ended (.ok (file, frames_written))
          file := if setup.to_path then .complete file else run.file }
    | _ => none
  | .fails =>
    match run.encoder with
    | .fails error => some { run with queue := run.queue.fail, encoder := .ended (.error error) }
    | _ => none
  | .panics =>
    match run.encoder with
    | .opens | .encodes .. | .finishes .. => some { run with encoder := .panicked }
    | _ => none

/-- Why the wait for the next frame's time ends: with the recording, or (`some none`) because
the time has come.
SRC: recording.rs:219-237 -/
def poll (stop : Bool) (elapsed : Duration) (gone : Bool) (now : Duration) :
    Option (Option RecordingEnd) :=
  if stop then some (some .Stopped)
  else if elapsed ≥ setup.settings.max_duration then some (some .TimeLimit)
  else if gone then some (some .WindowClosed)
  else if now ≥ run.next then some none
  else none

/-- SRC: recording.rs:185 -/
def interval : Duration := 1000000000 / setup.settings.format.frame_rate

/-- The call returns, or fails. -/
def returns (result : RecordResult F) : RecordRun S F := { run with producer := .returned result }

/-- The report of a recording whose encoder wrote its file.
SRC: recording.rs:283-296 -/
def report (duration : Duration) (ended : RecordingEnd) (frames_written : Nat) :
    RecordingReport where
  format := setup.settings.format
  width := run.shape.width
  height := run.shape.height
  duration := duration
  frames_captured := run.captured
  frames_written := frames_written
  frames_dropped := run.queue.dropped
  ended := ended

/-- The first frame gives the recording its area and its size.
SRC: recording.rs:186-203 -/
def begin_with (first : CpuFrame) (area : Rect) : RecordRun S F :=
  let size := setup.scaling.output_size setup.settings.format area.width area.height
  { run with
    shape := ⟨area, size.1, size.2⟩
    queue := .with_capacity (queue_capacity (size.1 * size.2 * 4))
    producer := .spawns first }

/-- One step, for the data its calls return; `none` where the threads cannot take it.
SRC: recording.rs:148-297 -/
def step : RecordEvent → Option (RecordRun S F)
  | .first answer =>
    match run.producer with
    | .starts =>
      match answer with
      | .error message => some (run.returns (.error (.Source message)))
      | .ok first =>
        if setup.whole then some (run.begin_with setup first (whole_rect first))
        else match recorded_area first setup.area with
          | .error error => some (run.returns (.error error))
          | .ok area => some (run.begin_with setup first area)
    | _ => none
  | .spawns error =>
    match run.producer with
    | .spawns first =>
      match error with
      | some message => some (run.returns (.error (.Encode message)))
      | none => some { run with encoder := .opens, producer := .converts first 0,
                                captured := 1, failures := 0, next := interval setup }
    | _ => none
  | .converts =>
    match run.producer with
    | .converts frame pos =>
      match pixels_for setup.scaling frame setup.whole run.shape.area run.shape.width
          run.shape.height with
      -- The queue stays as it is: neither closed nor failed.
      | .error error => some (run.returns (.error error))
      | .ok pixels => some { run with producer := .pushes pixels pos }
    | _ => none
  | .pushes =>
    match run.producer with
    | .pushes pixels pos => some { run with
        queue := run.queue.push pixels pos, producer := .waits
        pushed := run.pushed ++ [(pixels, pos)] }
    | _ => none
  | .polls stop elapsed gone now =>
    match run.producer with
    | .waits =>
      if run.clock ≤ elapsed ∧ elapsed ≤ now then
        match run.poll setup stop elapsed gone now with
        | some (some ended) => some { run with clock := now, producer := .closes ended }
        | some none => some { run with clock := now, producer := .checks }
        | none => some { run with clock := now }
      else none
    | _ => none
  | .checks now =>
    match run.producer with
    | .checks =>
      if run.clock ≤ now then
        if run.queue.failed then some { run with clock := now, producer := .closes .Stopped }
        else
          let next := run.next + interval setup
          some { run with
            clock := now, producer := .asks
            next := if next < now then now + interval setup else next }
      else none
    | _ => none
  | .answers frame elapsed =>
    match run.producer with
    | .asks =>
      if run.clock ≤ elapsed then some { run with
        clock := elapsed, failures := 0, captured := run.captured + 1
        producer := .converts frame elapsed }
      else none
    | _ => none
  | .misses message gone =>
    match run.producer with
    | .asks =>
      if gone then some { run with producer := .closes .WindowClosed }
      else if run.failures + 1 > SOURCE_FAILURES_TOLERATED then
        some { run with failures := run.failures + 1, producer := .gives_up message }
      else some { run with failures := run.failures + 1, producer := .waits }
    | _ => none
  | .closes elapsed =>
    if run.clock ≤ elapsed then
      match run.producer with
      | .closes ended =>
        let duration := min elapsed setup.settings.max_duration
        some { run with
          clock := elapsed, queue := run.queue.close duration, producer := .joins duration ended }
      | .gives_up message => some { run with
          clock := elapsed, queue := run.queue.close elapsed, producer := .joins_failed message }
      | _ => none
    else none
  | .joins =>
    match run.producer, run.encoder with
    | .joins duration ended, .ended (.ok (file, frames_written)) =>
      some { run with producer := .reports duration ended file frames_written }
    | .joins _ _, .ended (.error error) => some (run.returns (.error error))
    | .joins _ _, .panicked =>
      some (run.returns (.error (.Encode "the encoder thread panicked")))
    | .joins_failed message, .ended _ => some (run.returns (.error (.Source message)))
    | .joins_failed message, .panicked => some (run.returns (.error (.Source message)))
    | _, _ => none
  | .measures error =>
    match run.producer with
    | .reports duration ended file frames_written =>
      match setup.to_path, error with
      | true, some message => some (run.returns (.error (.Io message)))
      | true, none => some (run.returns (.ok (run.report setup duration ended frames_written, none)))
      | false, _ =>
        some (run.returns (.ok (run.report setup duration ended frames_written, some file)))
    | _ => none
  | .leaves removed =>
    match run.producer with
    | .returned (.ok made) => some { run with producer := .done (.ok made) }
    | .returned (.error error) => some { run with
        producer := .done (.error error)
        file := if setup.to_path ∧ removed then .absent else run.file }
    | _ => none
  | .encoder event => run.encoder_step setup event

end RecordRun

end Captastic.Model
