import Captastic.Model.Edit
import Captastic.Model.Layout
import Captastic.Model.Recording

/-!
# The review window

`captastic-windows/src/overlay/review.rs`, with the crop of `overlay/editor.rs`: what a
review keeps of a recording, and how presses, moves, releases, keys and losing the pointer
change it.  `handle` is the window procedure, without painting, cursors and the frames
shown; `none` is a panic, which here only `clamp` with its bounds crossed can be.

Where things are drawn comes from `f64` arithmetic on the window's size and DPI.  A
`ReviewLayout` carries what the review reads of it: nothing is assumed of the numbers,
and a relayout may replace all of them.  A time on the track is milliseconds from such
arithmetic, cut off at the recording's length.
-/

set_option autoImplicit false

namespace Captastic.Model

/-! ## Trimming -/

/-- The shortest span a trim keeps.
SRC: review.rs:84 -/
def MINIMUM_SPAN : Duration := from_millis 10

/-- SRC: review.rs:107-116 -/
structure Trim where
  duration : Duration
  start : Duration
  «end» : Duration
  playhead : Duration
  interval : Duration
deriving DecidableEq, Repr

/-- How far a key moves the playhead.
SRC: review.rs:118-124 -/
inductive Trim.Step where
  | Frame
  | Second
  | Change
deriving DecidableEq, Repr

namespace Trim

/-- SRC: review.rs:127-135 -/
def new (duration : Duration) (frame_rate : Nat) : Trim :=
  ⟨duration, 0, duration, 0, from_millis 1000 / max frame_rate 1⟩

variable (trim : Trim)

/-- SRC: review.rs:137-139 -/
def set_playhead (pos : Duration) : Trim := { trim with playhead := min pos trim.duration }

/-- Where a key takes the playhead.
SRC: review.rs:142-150 -/
def stepped_playhead (forward : Bool) (step : Step) (timeline : Timeline) : Option Duration :=
  let pos := trim.playhead
  match step, forward with
  | .Frame, true => some (pos + trim.interval)
  | .Frame, false => some (pos - trim.interval)
  | .Second, true => some (pos + from_millis 1000)
  | .Second, false => some (pos - from_millis 1000)
  | .Change, true => some (timeline.next_change pos)
  | .Change, false => timeline.previous_change pos

/-- SRC: review.rs:141-152 -/
def step (forward : Bool) (step : Step) (timeline : Timeline) : Option Trim :=
  (trim.stepped_playhead forward step timeline).map trim.set_playhead

/-- SRC: review.rs:154-157 -/
def set_start (pos : Duration) : Trim :=
  { trim with start := min pos (trim.end - MINIMUM_SPAN) }

/-- SRC: review.rs:159-162 -/
def set_end (pos : Duration) : Option Trim :=
  (clamp pos (trim.start + MINIMUM_SPAN) trim.duration).map fun kept_until =>
    { trim with «end» := kept_until }

/-- SRC: review.rs:164-170 -/
def edit : RecordingEdit := ⟨trim.start, trim.end, none⟩

end Trim

/-! ## The layout -/

/-- SRC: review.rs:184-190 -/
inductive ReviewButton where
  | Play
  | ResetCrop
  | Discard
  | Save
deriving DecidableEq, Repr

/-- What `f64` arithmetic makes of the layout's scale, client pixels per recording pixel:
a length times it and rounded, a distance over it, and that rounded. -/
structure Scale where
  times : Int → Int
  divides : Int → Rat
  divides_rounded : Int → Int

/-- Where everything in the client area is; `x_at` and `millis_at` are the track's two
conversions.
SRC: review.rs:203-217 -/
structure ReviewLayout where
  buttons : List (ReviewButton × UiRect)
  image : UiRect
  scale : Scale
  track : UiRect
  x_at : Duration → Duration → Int
  millis_at : Int → Duration → Nat

namespace ReviewLayout

variable (layout : ReviewLayout)

/-- SRC: review.rs:312-318 -/
def image_point (point : Point) : Rat × Rat :=
  (layout.scale.divides (point.x - layout.image.left), layout.scale.divides (point.y - layout.image.top))

/-- SRC: review.rs:320-329 -/
def client_rect (rect : Rect) : UiRect where
  left := layout.image.left + layout.scale.times rect.x
  top := layout.image.top + layout.scale.times rect.y
  right := layout.image.left + layout.scale.times rect.right
  bottom := layout.image.top + layout.scale.times rect.bottom

/-- SRC: review.rs:331-336 -/
def button_at (point : Point) : Option ReviewButton :=
  (layout.buttons.find? fun button => button.2.contains point).map Prod.fst

/-- SRC: review.rs:351-356 -/
def time_at (x : Int) (duration : Duration) : Duration :=
  min (from_millis (layout.millis_at x duration)) duration

end ReviewLayout

/-- SRC: review.rs:359-365 -/
inductive Drag where
  | Start
  | End
  | Playhead
deriving DecidableEq, Repr

/-- The part of the timeline under the point.
SRC: review.rs:367-388 -/
def grip_at (layout : ReviewLayout) (trim : Trim) (point : Point) (tolerance : Int) :
    Option Drag :=
  let area : UiRect :=
    ⟨layout.track.left - tolerance, layout.track.top - tolerance, layout.track.right + tolerance,
      layout.track.bottom + tolerance⟩
  if ¬ area.contains point then none
  else
    let start := (point.x - layout.x_at trim.start trim.duration).natAbs
    let kept_until := (point.x - layout.x_at trim.end trim.duration).natAbs
    if (min start kept_until : Int) > tolerance then some .Playhead
    else if start ≤ kept_until then some .Start
    else some .End

/-! ## Cropping -/

/-- The pixels a drag between two fractional positions touches.
SRC: editor.rs:383-392 -/
def rect_between (a b : Rat × Rat) : Option Rect :=
  Rect.from_edges (min a.1 b.1).floor (min a.2 b.2).floor (max a.1 b.1).ceil (max a.2 b.2).ceil

/-- SRC: editor.rs:394-404 -/
inductive Grip where
  | Move
  | Resize (left top right bottom : Bool)
deriving DecidableEq, Repr

/-- Whether a press is on the low or the high edge.
SRC: editor.rs:415-421 -/
def nearer (low high value tolerance : Int) : Bool × Bool :=
  let to_low := (value - low).natAbs
  let to_high := (value - high).natAbs
  let near_low := decide ((to_low : Int) ≤ tolerance ∧ to_low ≤ to_high)
  (near_low, decide ((to_high : Int) ≤ tolerance) && !near_low)

/-- The part of the crop, drawn at `crop`, under the point.
SRC: editor.rs:406-436 -/
def crop_grip_at (crop : UiRect) (point : Point) (tolerance : Int) (cropped : Bool) :
    Option Grip :=
  let within_x := decide (point.x ≥ crop.left - tolerance ∧ point.x ≤ crop.right + tolerance)
  let within_y := decide (point.y ≥ crop.top - tolerance ∧ point.y ≤ crop.bottom + tolerance)
  if ¬ within_x ∨ ¬ within_y then none
  else
    let (left, right) := nearer crop.left crop.right point.x tolerance
    let (top, bottom) := nearer crop.top crop.bottom point.y tolerance
    if left || right || top || bottom then some (.Resize left top right bottom)
    else if cropped && crop.contains point then some .Move
    else none

/-- An edge of a resized crop: where it is, or where the drag takes it. -/
def drag_edge (dragged : Bool) (edge by_pixels low high : Int) : Option Int :=
  if dragged then clamp (edge + by_pixels) low high else some edge

/-- The crop `start` once its grip has been dragged; a resize takes the left edge before
the right one and the top before the bottom.
SRC: editor.rs:438-476 -/
def adjust_crop (start : Rect) (grip : Grip) (dx dy : Int) (bounds : Rect) : Option Rect :=
  match grip with
  | .Move => do
    let x ← clamp (start.x + dx) 0 ((bounds.width : Int) - start.width)
    let y ← clamp (start.y + dy) 0 ((bounds.height : Int) - start.height)
    some { start with x := as_i32 x, y := as_i32 y, x_i32 := as_i32_range x,
                      y_i32 := as_i32_range y }
  | .Resize left top right bottom => do
    let left ← drag_edge left start.x dx 0 (start.right - 1)
    let right ← drag_edge right start.right dx (left + 1) bounds.right
    let top ← drag_edge top start.y dy 0 (start.bottom - 1)
    let bottom ← drag_edge bottom start.bottom dy (top + 1) bounds.bottom
    some ((Rect.from_edges left top right bottom).getD start)

/-- SRC: review.rs:390-406 -/
inductive CropDrag where
  | Draw (anchor current : Point) (moved : Bool)
  | Adjust (grip : Grip) (start : Rect) (anchor current : Point)
deriving DecidableEq

/-- The drag once the pointer has moved on to the point; a drawn crop counts once it has
been moved as far as the threshold.
SRC: review.rs:899-914 -/
def CropDrag.moved_to (point : Point) (threshold : Int) : CropDrag → CropDrag
  | .Draw anchor _ moved => .Draw anchor point (moved ||
      decide (((point.x - anchor.x).natAbs : Int) ≥ threshold) ||
      decide (((point.y - anchor.y).natAbs : Int) ≥ threshold))
  | .Adjust grip start anchor _ => .Adjust grip start anchor point

/-- `crop` with its sides rounded down to even numbers, never below two.
SRC: review.rs:408-415 -/
def even (crop : Rect) : Rect :=
  { crop with
    width := max (crop.width - crop.width % 2) 2
    height := max (crop.height - crop.height % 2) 2
    width_u32 := by
      have := crop.width_u32
      simp only [InU32] at this ⊢
      omega
    height_u32 := by
      have := crop.height_u32
      simp only [InU32] at this ⊢
      omega }

/-! ## The review's state -/

/-- SRC: review.rs:75-76 -/
def GRIP_TOLERANCE_DIP : Int := 8

/-- SRC: review.rs:77-78 -/
def DRAG_THRESHOLD_DIP : Int := 3

/-- What a review holds: `playing` is where playback started from, and `outcome` the
answer it has given, after which its window is gone.
SRC: review.rs:417-444 -/
structure ReviewState where
  timeline : Timeline
  size : U32 × U32
  trim : Trim
  metrics : UiMetrics
  layout : ReviewLayout
  playing : Option Duration
  drag : Option Drag
  crop : Rect
  crop_drag : Option CropDrag
  even_crop : Bool
  pressed : Option ReviewButton
  outcome : Option ReviewOutcome

/-- The whole picture. -/
def picture_bounds (size : U32 × U32) : Rect where
  x := 0
  y := 0
  x_i32 := in_i32_zero
  y_i32 := in_i32_zero
  width := size.1.val
  height := size.2.val
  width_u32 := size.1.property
  height_u32 := size.2.property

namespace ReviewState

/-- The state a review opens with.
SRC: review.rs:607-633 -/
def «open» (timeline : Timeline) (size : U32 × U32) (format : RecordingFormat)
    (metrics : UiMetrics) (layout : ReviewLayout) : ReviewState where
  timeline := timeline
  size := size
  trim := Trim.new timeline.duration format.frame_rate
  metrics := metrics
  layout := layout
  playing := none
  drag := none
  crop := picture_bounds size
  crop_drag := none
  even_crop := format == .Mp4
  pressed := none
  outcome := none

variable (state : ReviewState)

/-- SRC: review.rs:444-451 -/
def bounds : Rect := picture_bounds state.size

/-- SRC: review.rs:453-455 -/
def cropped : Bool := decide (state.crop ≠ state.bounds)

/-- The rectangle the crop drag in progress spans, if it spans one.
SRC: review.rs:459-481 -/
def dragged_rect : Option (Option Rect) :=
  match state.crop_drag with
  | none => some none
  | some (.Draw anchor current true) =>
    some ((rect_between (state.layout.image_point anchor) (state.layout.image_point current)).bind
      fun rect => rect.intersection state.bounds)
  | some (.Draw _ _ false) => some none
  | some (.Adjust grip start anchor current) =>
    let dx := state.layout.scale.divides_rounded (current.x - anchor.x)
    let dy := state.layout.scale.divides_rounded (current.y - anchor.y)
    (adjust_crop start grip dx dy state.bounds).map some

/-- The crop a drag in progress would make if it ended here.
SRC: review.rs:457-483 -/
def pending_crop : Option (Option Rect) :=
  state.dragged_rect.map fun crop =>
    crop.map fun crop => if state.even_crop then even crop else crop

/-- SRC: review.rs:485-495 -/
def edit : RecordingEdit :=
  { state.trim.edit with
    crop := if state.cropped then
      some ⟨state.crop.x.toNat, state.crop.y.toNat, state.crop.width, state.crop.height⟩
    else none }

/-! ## What a message does -/

/-- SRC: review.rs:1030-1036 -/
def pause : ReviewState := { state with playing := none }

/-- Moves what `drag` holds to the time at `x`.
SRC: review.rs:920-938 -/
def drag_to (drag : Drag) (x : Int) : Option ReviewState :=
  let pos := state.layout.time_at x state.trim.duration
  match drag with
  | .Start =>
    let trim := state.trim.set_start pos
    some { state with trim := trim.set_playhead trim.start }
  | .End => (state.trim.set_end pos).map fun trim =>
    { state with trim := trim.set_playhead (trim.end - from_millis 1) }
  | .Playhead => some { state with trim := state.trim.set_playhead pos }

/-- SRC: review.rs:940-978 -/
def pointer_pressed (point : Point) : Option ReviewState :=
  match state.layout.button_at point with
  | some button => some { state with pressed := some button }
  | none =>
    let tolerance := state.metrics.px GRIP_TOLERANCE_DIP
    match grip_at state.layout state.trim point tolerance with
    | some drag => drag_to { state.pause with drag := some drag } drag point.x
    | none =>
      match crop_grip_at (state.layout.client_rect state.crop) point tolerance state.cropped with
      | some grip =>
        some { state with crop_drag := some (.Adjust grip state.crop point point) }
      | none =>
        if state.layout.image.contains point then
          some { state with crop_drag := some (.Draw point point false) }
        else some state

/-- SRC: review.rs:879-918 -/
def pointer_moved (point : Point) : Option ReviewState :=
  let dragged := match state.drag with
    | some drag => state.drag_to drag point.x
    | none => some state
  dragged.map fun state =>
    { state with crop_drag := state.crop_drag.map fun crop_drag =>
        crop_drag.moved_to point (state.metrics.px DRAG_THRESHOLD_DIP) }

/-- The button to act on, if the press was one and was released over it.
SRC: review.rs:980-992 -/
def pointer_released (point : Point) : Option (ReviewState × Option ReviewButton) :=
  state.pending_crop.map fun pending =>
    ({ state with pressed := none, drag := none, crop := pending.getD state.crop,
                  crop_drag := none },
      state.pressed.filter fun button => state.layout.button_at point == some button)

/-- Losing the pointer ends a drag where it is.  A drag leaves a pressed button pressed:
the `||` stops at it.
SRC: review.rs:756-764 -/
def capture_changed : ReviewState :=
  { state with
    crop_drag := none, drag := none, pressed := if state.drag.isSome then state.pressed else none }

/-- SRC: review.rs:1128-1143 -/
def finish (outcome : ReviewOutcome) : ReviewState := { state with outcome := some outcome }

/-- `confirmed` is the answer to the box that asks.
SRC: review.rs:1109-1126 -/
def request_discard (confirmed : Bool) : ReviewState :=
  if confirmed then state.pause.finish .Discard else state.pause

/-- SRC: review.rs:1015-1028 -/
def toggle_playing : ReviewState :=
  if state.playing.isSome then state.pause
  else
    let trim := if state.trim.playhead < state.trim.start ∨ state.trim.playhead ≥ state.trim.end
      then state.trim.set_playhead state.trim.start else state.trim
    { state with trim, playing := some trim.playhead }

/-- SRC: review.rs:994-1013 -/
def press_button (confirmed : Bool) : ReviewButton → ReviewState
  | .Play => state.toggle_playing
  | .ResetCrop => { state with crop := state.bounds }
  | .Discard => state.request_discard confirmed
  | .Save => state.finish (.Save state.edit)

/-- SRC: review.rs:1038-1051 -/
def play_on (elapsed : Duration) : ReviewState :=
  match state.playing with
  | none => state
  | some played_from =>
    let pos := played_from + elapsed
    if pos ≥ state.trim.end then
      { state with playing := some state.trim.start,
                   trim := state.trim.set_playhead state.trim.start }
    else { state with trim := state.trim.set_playhead pos }

/-- The keys a review acts on. -/
inductive Key where
  | Escape
  | Return
  | R
  | Space
  | Left
  | Right
  | Home
  | End
  | I
  | O
  | Other
deriving DecidableEq, Repr

/-- What the keys of the trim and the playhead make of the trim.
SRC: review.rs:1091-1103 -/
def trim_key (key : Key) (step : Trim.Step) : Option (Option Trim) :=
  match key with
  | .Left => (state.trim.step false step state.timeline).map some
  | .Right => (state.trim.step true step state.timeline).map some
  | .Home => some (some (state.trim.set_playhead 0))
  | .End => some (some (state.trim.set_playhead state.trim.duration))
  | .I => some (some (state.trim.set_start state.trim.playhead))
  | .O => (state.trim.set_end state.trim.playhead).map some
  | _ => some none

/-- SRC: review.rs:1053-1107 -/
def key_pressed (key : Key) (ctrl shift confirmed : Bool) : Option ReviewState :=
  match key with
  | .Escape =>
    if state.drag.isSome || state.crop_drag.isSome then
      some { state with drag := none, crop_drag := none : ReviewState }.capture_changed
    else some (state.request_discard confirmed)
  | .Return => some (state.press_button confirmed .Save)
  | key =>
    if state.drag.isSome || state.crop_drag.isSome then some state
    else
      match key with
      | .R => some (state.press_button confirmed .ResetCrop)
      | .Space => some state.toggle_playing
      | key =>
        let step : Trim.Step := if ctrl then .Change else if shift then .Second else .Frame
        (state.trim_key key step).map fun trim => match trim with
          | some trim => { state with trim : ReviewState }.pause
          | none => state

/-- A message to the review's window; `confirmed` is the answer to the box a discard asks
with, if it asks. -/
inductive Message where
  | pointer_moved (point : Point)
  | pointer_pressed (point : Point)
  | pointer_released (point : Point) (confirmed : Bool)
  | capture_changed
  | timer (elapsed : Duration)
  | key_pressed (key : Key) (ctrl shift confirmed : Bool)
  | close (confirmed : Bool)
  | relayout (metrics : UiMetrics) (layout : ReviewLayout)
  | destroyed

/-- The window procedure; a review that has been answered has no window.
SRC: review.rs:669-798 -/
def handle : Message → Option ReviewState
  | message =>
    if state.outcome.isSome then some state
    else
      match message with
      | .pointer_moved point => state.pointer_moved point
      | .pointer_pressed point => state.pointer_pressed point
      | .pointer_released point confirmed => (state.pointer_released point).map fun released =>
        match released.2 with
        | some button => released.1.press_button confirmed button
        | none => released.1
      | .capture_changed => some state.capture_changed
      | .timer elapsed => some (state.play_on elapsed)
      | .key_pressed key ctrl shift confirmed => state.key_pressed key ctrl shift confirmed
      | .close confirmed => some (state.request_discard confirmed)
      | .relayout metrics layout => some { state with metrics, layout }
      | .destroyed => some (state.finish .Closed)

/-- Messages in the order they arrive. -/
def run : ReviewState → List Message → Option ReviewState
  | state, [] => some state
  | state, message :: rest =>
    match state.handle message with
    | some state => run state rest
    | none => none

end ReviewState

end Captastic.Model
