import Captastic.Model.Layout
import Captastic.Model.Overlay

/-!
# The recording indicator's layout

`captastic-windows/src/overlay/recording_frame.rs`: the border around what is recorded, and the
bar beside it with the Stop button.

What Windows says of the display an area is on is an argument; following the window, painting, the
timers and the pointer are left out.  Arithmetic on `i32` that overflows is `none`.
-/

set_option autoImplicit false

namespace Captastic.Model

/-- SRC: recording_frame.rs:44 -/
def BORDER_DIP : Int := 3

/-- SRC: recording_frame.rs:45 -/
def BAR_SIZE_DIP : Int × Int := (256, 36)

/-- SRC: recording_frame.rs:46 -/
def BAR_GAP_DIP : Int := 8

/-- SRC: recording_frame.rs:47 -/
def BUTTON_SIZE_DIP : Int × Int := (72, 28)

/-- Where the border and the bar go, in the window's own coordinates, and where the window goes
on the desktop.
SRC: recording_frame.rs:56-69 -/
structure FrameGeometry where
  window : Rect
  area : UiRect
  ring : UiRect
  bar : UiRect
  stop : UiRect

/-- A rectangle of the desktop in the coordinates of a window.
SRC: recording_frame.rs:107-112 -/
def local_rect (window rect : UiRect) : Option UiRect := do
  let left ← i32 (rect.left - window.left)
  let top ← i32 (rect.top - window.top)
  let right ← i32 (rect.right - window.left)
  let bottom ← i32 (rect.bottom - window.top)
  some ⟨left, top, right, bottom⟩

/-- Where the bar's top edge goes: below the area, above it, or inside its bottom edge.
SRC: recording_frame.rs:87-95 -/
def bar_top (ring : UiRect) (area_bottom gap bar_height : Int) (work : UiRect) : Option Int := do
  let below ← i32 (ring.bottom + gap)
  let risen ← i32 (ring.top - gap)
  let above ← i32 (risen - bar_height)
  let below_end ← i32 (below + bar_height)
  if below_end ≤ work.bottom then some below
  else if above ≥ work.top then some above
  else
    let lifted ← i32 (area_bottom - gap)
    let highest ← i32 (lifted - bar_height)
    some (max highest work.top)

/-- Where the bar's left edge goes: centred on the area, inside the work area.
SRC: recording_frame.rs:85-86 -/
def bar_left (area_left area_right bar_width : Int) (work : UiRect) : Option Int := do
  let sides ← i32 (area_left + area_right)
  let slack ← i32 (sides - bar_width)
  let most ← i32 (work.right - bar_width)
  clamp (slack.tdiv 2) work.left (max most work.left)

/-- The window around a border and a bar, and everything in its coordinates.
SRC: recording_frame.rs:101-140 -/
def frame_around (metrics : UiMetrics) (area ring bar : UiRect) : Option FrameGeometry := do
  let window : UiRect :=
    ⟨min ring.left bar.left, min ring.top bar.top, max ring.right bar.right,
      max ring.bottom bar.bottom⟩
  let bar ← local_rect window bar
  let button_width := metrics.px BUTTON_SIZE_DIP.1
  let button_height := metrics.px BUTTON_SIZE_DIP.2
  let padded ← i32 (bar.right - metrics.px 4)
  let button_left ← i32 (padded - button_width)
  let height ← i32 (bar.bottom - bar.top)
  let spare ← i32 (height - button_height)
  let button_top ← i32 (bar.top + spare.tdiv 2)
  let window_width ← i32 (window.right - window.left)
  let window_height ← i32 (window.bottom - window.top)
  let area ← local_rect window area
  let ring ← local_rect window ring
  let button_right ← i32 (button_left + button_width)
  let button_bottom ← i32 (button_top + button_height)
  some
    { window := .of_casts window.left window.top window_width window_height
      area := area
      ring := ring
      bar := bar
      stop := ⟨button_left, button_top, button_right, button_bottom⟩ }

/-- SRC: recording_frame.rs:71-141 -/
def frame_geometry (area : Rect) (work : UiRect) (metrics : UiMetrics) :
    Option FrameGeometry := do
  let border := max (metrics.px BORDER_DIP) 1
  let bar_width := metrics.px BAR_SIZE_DIP.1
  let bar_height := metrics.px BAR_SIZE_DIP.2
  let gap := metrics.px BAR_GAP_DIP
  let area_right := as_i32 area.right
  let area_bottom := as_i32 area.bottom
  let ring_left ← i32 (area.x - border)
  let ring_top ← i32 (area.y - border)
  let ring_right ← i32 (area_right + border)
  let ring_bottom ← i32 (area_bottom + border)
  let ring : UiRect := ⟨ring_left, ring_top, ring_right, ring_bottom⟩
  let left ← bar_left area.x area_right bar_width work
  let top ← bar_top ring area_bottom gap bar_height work
  let bar_right ← i32 (left + bar_width)
  let bar_bottom ← i32 (top + bar_height)
  frame_around metrics ⟨area.x, area.y, area_right, area_bottom⟩ ring
    ⟨left, top, bar_right, bar_bottom⟩

end Captastic.Model
