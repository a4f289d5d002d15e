import Captastic.Model.Playback

/-!
# Writing an animated GIF

`captastic-core/src/animation.rs`: `GifWriter` takes the frames of a recording as they
are captured, holds one back until the next change says how long it is shown, and
stores of each frame the box of pixels that changed, with the unchanged ones in it
transparent.

The gif crate is a parameter: `GifCodec` adds to the reader's decoder what
`Frame::from_rgba_speed` makes of a picture, and `GifEncoder` is the encoder over some
writer, with the frames a decoder finds in what has been written (`stored`).  `push` has
checked the length of every buffer, so the slices below are in range and are read with
`slice_at`; counts of centiseconds stay below `2^64`.
-/

set_option autoImplicit false

namespace Captastic.Model

open Captastic.Library

/-- SRC: animation.rs:29-37 -/
inductive AnimationError where
  | TooLarge (width height : Nat)
  | WrongSize (expected actual : Nat)
  | Encoding (message : String)
deriving DecidableEq, Repr

/-- SRC: animation.rs:45-54 -/
structure AnimationSummary where
  frames_received : Nat
  frames_written : Nat
  duration : Duration
deriving DecidableEq, Repr

/-- SRC: animation.rs:24 -/
def MINIMUM_DELAY_CS : Nat := 2

/-- SRC: animation.rs:27 -/
def QUANTIZER_SPEED : Int := 10

/-- The gif crate's frame codec: the decoder, and the compressed pixels that
`Frame::from_rgba_speed` makes of `width` by `height` RGBA pixels. -/
structure GifCodec (C : Type) extends GifDecoder C where
  from_rgba_speed : UInt16 → UInt16 → List Byte → Int → C

/-- The gif crate's encoder over a writer, whose writes may fail; a frame it accepts is
the next one a decoder finds. -/
structure GifEncoder (C W : Type) where
  create : UInt16 → UInt16 → Except String W
  write_frame : W → GifFrame C → Except String W
  into_inner : W → Except String W
  stored : W → List (GifFrame C)
  stored_create : ∀ width height w, create width height = .ok w → stored w = []
  stored_write_frame : ∀ w frame w', write_frame w frame = .ok w' → stored w' = stored w ++ [frame]
  stored_into_inner : ∀ w w', into_inner w = .ok w' → stored w' = stored w

/-! ## What changed between two frames -/

/-- SRC: animation.rs:193-210 -/
structure Box where
  left : Nat
  top : Nat
  right : Nat
  bottom : Nat
deriving DecidableEq, Repr

namespace Box

/-- SRC: animation.rs:203-205 -/
def width (box : Box) : Nat := box.right - box.left

/-- SRC: animation.rs:207-209 -/
def height (box : Box) : Nat := box.bottom - box.top

end Box

/-- The first and the last column at which two rows differ in colour; the last is zero
when there is no first.
SRC: animation.rs:226-233 -/
def changed_columns (before after : List Byte) (width : Nat) : Option Nat × Nat :=
  (List.range width).foldl (fun found x =>
    if slice_at before (x * 4) 3 ≠ slice_at after (x * 4) 3 then (some (found.1.getD x), x)
    else found) (none, 0)

/-- The box found so far, with row `y` in which columns `first..last` changed.
SRC: animation.rs:236-249 -/
def extend_box (found : Option Box) (first last y : Nat) : Box :=
  match found with
  | none => ⟨first, y, last, y + 1⟩
  | some found => ⟨min found.left first, found.top, max found.right last, y + 1⟩

/-- The smallest box holding every pixel whose colour differs between the two frames.
SRC: animation.rs:212-252 -/
def changed_box (previous current : List Byte) (width height : Nat) : Option Box :=
  let row_bytes := width * 4
  (List.range height).foldl (fun found y =>
    let start := y * row_bytes
    let before := slice_at previous start row_bytes
    let after := slice_at current start row_bytes
    if before = after then found
    else
      match changed_columns before after width with
      | (none, _) => found
      | (some first, last) => some (extend_box found first (last + 1) y)) none

/-! ## The writer -/

/-- SRC: animation.rs:56-73 -/
structure GifWriter (C W : Type) where
  encoder : W
  width : Nat
  height : Nat
  previous : Option (List Byte)
  pending : Option (GifFrame C)
  written_cs : Nat
  first_at : Option Duration
  summary : AnimationSummary

namespace GifWriter

variable {C W : Type} (K : GifCodec C) (E : GifEncoder C W)

/-- SRC: animation.rs:77-96 -/
def new (width height : Nat) : Except AnimationError (GifWriter C W) :=
  if width > 65535 ∨ height > 65535 then .error (.TooLarge width height)
  else if width = 0 ∨ height = 0 then .error (.TooLarge width height)
  else
    match E.create (UInt16.ofNat width) (UInt16.ofNat height) with
    | .error message => .error (.Encoding message)
    | .ok encoder =>
      .ok { encoder, width, height, previous := none, pending := none, written_cs := 0,
            first_at := none, summary := ⟨0, 0, 0⟩ }

variable (w : GifWriter C W)

/-- The RGBA bytes stored for the pixel `(x, y)`: transparent when it is unchanged.
SRC: animation.rs:166-175 -/
def stored_pixel (bgra : List Byte) (x y : Nat) : List Byte :=
  let pos := (y * w.width + x) * 4
  let unchanged := match w.previous with
    | none => false
    | some previous => slice_at previous pos 3 == slice_at bgra pos 3
  if unchanged then [0, 0, 0, 0]
  else [bgra.getD (pos + 2) 0, bgra.getD (pos + 1) 0, bgra.getD pos 0, 255]

/-- The GIF frame for the pixels of `bgra` inside `region`.  Its delay is set when it is
written.
SRC: animation.rs:158-190 -/
def frame_for (bgra : List Byte) (region : Box) : GifFrame C :=
  let rgba := (List.range' region.top region.height).flatMap fun y =>
    (List.range' region.left region.width).flatMap fun x => w.stored_pixel bgra x y
  let frame_width := UInt16.ofNat region.width
  let frame_height := UInt16.ofNat region.height
  { left := UInt16.ofNat region.left, top := UInt16.ofNat region.top, width := frame_width,
    height := frame_height, delay := 0, dispose := .Keep,
    data := K.from_rgba_speed frame_width frame_height rgba QUANTIZER_SPEED }

/-- `(until.as_millis() / 10) as u64` -/
def as_centiseconds (d : Duration) : Nat := d / 1000000 / 10

/-- Writes `pending`, shown until `until`.
SRC: animation.rs:145-156 -/
def write (pending : GifFrame C) (shown_until : Duration) :
    GifWriter C W × Except AnimationError Unit :=
  let until_cs := as_centiseconds shown_until
  let delay := max (until_cs - w.written_cs) MINIMUM_DELAY_CS
  let w := { w with written_cs := w.written_cs + delay }
  let frame := { pending with delay := if delay ≤ 65535 then UInt16.ofNat delay else 65535 }
  match E.write_frame w.encoder frame with
  | .error message => (w, .error (.Encoding message))
  | .ok encoder =>
    ({ w with encoder, summary.frames_written := w.summary.frames_written + 1 }, .ok ())

/-- Adds a frame captured `pos` after the recording started.
SRC: animation.rs:98-131 -/
def push (bgra : List Byte) (pos : Duration) : GifWriter C W × Except AnimationError Unit :=
  let expected := w.width * w.height * 4
  if bgra.length ≠ expected then (w, .error (.WrongSize expected bgra.length))
  else
    let first_at := w.first_at.getD pos
    let w := { w with first_at := some first_at,
                      summary.frames_received := w.summary.frames_received + 1 }
    let shown_at := pos - first_at
    let changed := match w.previous with
      | none => some ⟨0, 0, w.width, w.height⟩
      | some previous => changed_box previous bgra w.width w.height
    match changed with
    | none => (w, .ok ())
    | some region =>
      let frame := w.frame_for K bgra region
      let w := { w with previous := some bgra }
      match w.pending with
      | none => ({ w with pending := some frame }, .ok ())
      | some pending =>
        match write E { w with pending := none } pending shown_at with
        | (w, .ok ()) => ({ w with pending := some frame }, .ok ())
        | (w, .error error) => (w, .error error)

/-- Writes the last frame, shown until `end_at`, and closes the file.
SRC: animation.rs:133-143 -/
def finish (end_at : Duration) : Except AnimationError (W × AnimationSummary) :=
  let first_at := w.first_at.getD end_at
  let end_at := end_at - first_at
  let written : GifWriter C W × Except AnimationError Unit := match w.pending with
    | none => (w, .ok ())
    | some pending => write E { w with pending := none } pending end_at
  match written with
  | (_, .error error) => .error error
  | (w, .ok ()) =>
    match E.into_inner w.encoder with
    | .error message => .error (.Encoding message)
    | .ok file => .ok (file, { w.summary with duration := end_at })

/-- Pushes frames until one fails. -/
def push_all : GifWriter C W → List (List Byte × Duration) →
    Except AnimationError (GifWriter C W)
  | w, [] => .ok w
  | w, (bgra, pos) :: rest =>
    match push K E w bgra pos with
    | (_, .error error) => .error error
    | (w, .ok ()) => push_all w rest

/-- A whole recording: frames pushed with their times, and its end. -/
def record (width height : Nat) (pushes : List (List Byte × Duration)) (end_at : Duration) :
    Except AnimationError (W × AnimationSummary) := do
  let w ← new E width height
  let w ← push_all K E w pushes
  finish E w end_at

end GifWriter

end Captastic.Model
