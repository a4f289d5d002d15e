import Captastic.Model.Playback

/-!
# Writing and indexing an MP4

`captastic-windows/src/video.rs` and `video_reader.rs`: `Mp4Writer` holds one frame back
until the next change says how long it is shown, as `GifWriter` does, but counts in ticks
of 100 ns; a reader takes the times and durations of the samples it finds and makes the
timeline of them.

Media Foundation is a parameter: `Mp4Sink` is its sink writer over some file, with the
times and durations a source reader finds in the file once it is finished.  What it makes
of the times it is given is not assumed here.

The size of a frame is computed in `f64`, which is Lean's `Float`.
-/

set_option autoImplicit false

namespace Captastic.Model

/-- SRC: video.rs:57-65 -/
structure VideoSummary where
  frames_received : Nat
  frames_written : Nat
  duration : Duration
deriving DecidableEq, Repr

/-! ## The size of a frame -/

/-- SRC: video.rs:33-35 -/
def MP4_MAXIMUM_SIZE : UInt32 × UInt32 := (4096, 2304)

/-- `f64::from(value)` of a `u32`. -/
def f64_from (value : Nat) : Float := (UInt32.ofNat value).toFloat

/-- `f64::min` of two numbers. -/
def f64_min (a b : Float) : Float := if a ≤ b then a else b

/-- The size a recording of `width` by `height` is encoded at: scaled down to fit the encoder,
and rounded down to even sides.
SRC: video.rs:46-55 -/
def mp4_frame_size (width height : Nat) : Nat × Nat :=
  let scale := f64_min
    (f64_min (MP4_MAXIMUM_SIZE.1.toFloat / f64_from (max width 1))
      (MP4_MAXIMUM_SIZE.2.toFloat / f64_from (max height 1))) (f64_from 1)
  let scaled (value : Nat) : Nat := (max ((f64_from value * scale).toUInt32 &&& ~~~1) 2).toNat
  (scaled width, scaled height)

example : mp4_frame_size 1001 601 = (1000, 600) := by decide +kernel

example : mp4_frame_size 3840 2400 = (3686, 2304) := by decide +kernel

/-! ## Times -/

/-- SRC: video.rs:42 -/
def TICKS_PER_SECOND : Nat := 10000000

/-- SRC: video.rs:415-417 -/
def ticks (d : Duration) : Int :=
  let count := d * TICKS_PER_SECOND / 1000000000
  if count ≤ 9223372036854775807 then count else 9223372036854775807

/-- A sample given to the sink: its picture, when it is shown and for how long. -/
structure Mp4Sample where
  bgra : List Byte
  time : Int
  duration : Int
deriving DecidableEq, Repr

/-- Media Foundation's sink writer, each call of which may fail, and the times and
durations its source reader finds in a finished file. -/
structure Mp4Sink (S F : Type) where
  create : Nat → Nat → Nat → Except String S
  write_sample : S → Mp4Sample → Except String S
  finalize : S → Except String F
  samples : F → List (Int × Int)

/-! ## The writer -/

/-- SRC: video.rs:99-103 -/
structure Pending where
  sample : List Byte
  pos : Int
deriving DecidableEq, Repr

/-- SRC: video.rs:105-122 -/
structure Mp4Writer (S : Type) where
  writer : S
  pending : Option Pending
  previous : Option (List Byte)
  width : Nat
  height : Nat
  first_at : Option Duration
  summary : VideoSummary

namespace Mp4Writer

variable {S F : Type} (M : Mp4Sink S F)

/-- A writer of frames of this size, which must be one that a recording is encoded at.
SRC: video.rs:147-231 -/
def create (width height frame_rate : Nat) : Except String (Mp4Writer S) :=
  if (width, height) ≠ mp4_frame_size width height then
    .error s!"InvalidFrame in windows-media-foundation/mp4_frame_size: {width}x{height} is not an encodable size"
  else
    match M.create width height frame_rate with
    | .error message => .error message
    | .ok writer =>
      .ok { writer, pending := none, previous := none, width, height, first_at := none,
            summary := ⟨0, 0, 0⟩ }

variable (w : Mp4Writer S)

/-- SRC: video.rs:322-341 -/
def write (pending : Pending) (shown_until : Int) : Except String (Mp4Writer S) :=
  let sample := ⟨pending.sample, pending.pos, max (shown_until - pending.pos) 1⟩
  match M.write_sample w.writer sample with
  | .error message => .error message
  | .ok writer =>
    .ok { w with writer, summary.frames_written := w.summary.frames_written + 1 }

/-- SRC: video.rs:235-258 -/
def push (bgra : List Byte) (pos : Duration) : Except String (Mp4Writer S) :=
  let expected := w.width * w.height * 4
  if bgra.length ≠ expected then
    .error s!"InvalidFrame in windows-media-foundation/mp4_frame_bytes: expected {expected} bytes of BGRA, got {bgra.length}"
  else
    let first_at := w.first_at.getD pos
    let w := { w with first_at := some first_at,
                      summary.frames_received := w.summary.frames_received + 1 }
    let pos := ticks (pos - first_at)
    if w.previous = some bgra then .ok w
    else
      let written : Except String (Mp4Writer S) := match w.pending with
        | none => .ok w
        | some pending => write M { w with pending := none } pending pos
      match written with
      | .error message => .error message
      | .ok w => .ok { w with pending := some ⟨bgra, pos⟩, previous := some bgra }

/-- SRC: video.rs:281-292 -/
def finalize (end_at : Duration) : Except String (F × VideoSummary) :=
  let first_at := w.first_at.getD end_at
  let end_duration := end_at - first_at
  let written : Except String (Mp4Writer S) := match w.pending with
    | none => .ok w
    | some pending =>
      write M { w with pending := none } pending (max (ticks end_duration) (pending.pos + 1))
  match written with
  | .error message => .error message
  | .ok w =>
    match M.finalize w.writer with
    | .error message => .error message
    | .ok file => .ok (file, { w.summary with duration := end_duration })

end Mp4Writer

/-! ## The timeline of the samples -/

/-- SRC: video_reader.rs:391-393 -/
def duration_of_ticks (count : Int) : Duration := count.toNat * 100

/-- The end of the last sample to end.
SRC: video_reader.rs:124-145 -/
def samples_end (samples : List (Int × Int)) : Int :=
  samples.foldl (fun latest sample => max latest (sample.1 + sample.2)) 0

/-- `Vec::dedup`: each run of equal values, once. -/
def dedup : List Int → List Int
  | a :: b :: rest => if a = b then dedup (b :: rest) else a :: dedup (b :: rest)
  | times => times

/-- `times.sort_unstable(); times.dedup();`
SRC: video_reader.rs:147-148 -/
def sample_times (samples : List (Int × Int)) : List Int :=
  dedup ((samples.map Prod.fst).mergeSort fun a b => decide (a ≤ b))

/-- The index an `Mp4Reader` makes of the file's samples.
SRC: video_reader.rs:115-154 -/
def mp4_timeline (samples : List (Int × Int)) : Except PlaybackError Timeline :=
  let times := sample_times samples
  match times.head? with
  | none => .error ⟨"the MP4 has no frames"⟩
  | some origin =>
    let last := times.getLast?.getD origin
    Timeline.new (times.map fun time => duration_of_ticks (time - origin))
      (duration_of_ticks (max (samples_end samples) (last + 1) - origin))

end Captastic.Model
