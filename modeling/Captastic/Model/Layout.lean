import Captastic.Model.Rect
import Mathlib.Order.Lattice

/-!
# Layouts

What the windows of `captastic-windows/src/overlay` share of `overlay/layout.rs`: client
points, rectangles of `i32` edges, lengths scaled to a display's DPI, and the toolbar with
its menu.

Arithmetic on `i32` stops the program when it overflows, and `clamp` when its bounds are
crossed; both are `Option`s whose `none` is that panic.
-/

set_option autoImplicit false

namespace Captastic.Model

/-- `Ord::clamp`, which panics when its bounds are crossed. -/
def clamp {T : Type} [LinearOrder T] (v low high : T) : Option T :=
  if low ≤ high then some (max low (min v high)) else none

/-- The result of `i32` arithmetic, which panics when it overflows. -/
def i32 (v : Int) : Option Int := if InI32 v then some v else none

/-- `i32::saturating_sub` -/
def saturating_sub_i32 (a b : Int) : Int := max (-2147483648) (min (a - b) 2147483647)

/-- A client point, which a mouse message packs into two `i16`s.
SRC: review.rs:800-806 -/
structure Point where
  x : Int
  y : Int
deriving DecidableEq, Repr

/-- SRC: layout.rs:30-36 -/
structure UiRect where
  left : Int
  top : Int
  right : Int
  bottom : Int
deriving DecidableEq, Repr

/-- SRC: layout.rs:39-41 -/
def UiRect.contains (rect : UiRect) (point : Point) : Bool :=
  decide (point.x ≥ rect.left ∧ point.x < rect.right ∧ point.y ≥ rect.top ∧
    point.y < rect.bottom)

/-- SRC: layout.rs:406-409 -/
structure UiMetrics where
  dpi : Nat
deriving DecidableEq, Repr

namespace UiMetrics

/-- SRC: layout.rs:414-418 -/
def new (dpi : Nat) : UiMetrics := ⟨if dpi = 0 then 96 else dpi⟩

/-- SRC: layout.rs:420-423 -/
def px (metrics : UiMetrics) (dip : Int) : Int :=
  let scaled := (dip * metrics.dpi + 48).tdiv 96
  if InI32 scaled then scaled else 2147483647

variable (metrics : UiMetrics)

/-- SRC: layout.rs:441-443 -/
def toolbar_width : Int := metrics.px 558

/-- SRC: layout.rs:445-447 -/
def toolbar_height : Int := metrics.px 56

end UiMetrics

/-- SRC: layout.rs:450-454 -/
structure DisplayEnvironment where
  work_area : UiRect
  metrics : UiMetrics
deriving DecidableEq, Repr

/-- SRC: layout.rs:9-28 -/
inductive ToolbarControl where
  | Background
  | FullDisplay
  | Window
  | Region
  | Options
  | Pin
  | Edit
  | Record
  | Capture
  | DimBackground
  | SnapToWindows
  | RegionZoom
  | PreviewView
  | ClipboardDestination
  | FileOutputDestination
  | RecordFormat
  | Cancel
deriving DecidableEq, Repr

/-- The bounds of the toolbar, its controls, the menu and its rows.
SRC: layout.rs:456-476 -/
structure ToolbarLayout where
  bounds : UiRect
  full_display : UiRect
  window : UiRect
  region : UiRect
  options : UiRect
  pin : UiRect
  edit : UiRect
  record : UiRect
  capture : UiRect
  menu : UiRect
  dim_background : UiRect
  snap_to_windows : UiRect
  region_zoom : UiRect
  preview_view : UiRect
  clipboard_destination : UiRect
  file_output_destination : UiRect
  record_format : UiRect
  cancel : UiRect
deriving DecidableEq, Repr

/-- SRC: layout.rs:1068-1074 -/
def clamp_coordinate (value minimum maximum : Int) : Option Int :=
  if maximum ≤ minimum then some minimum else clamp value minimum maximum

namespace ToolbarLayout

/-- One axis of `clamp_origin`.
SRC: layout.rs:497-500 -/
def clamp_axis (origin low high extent inset : Int) : Option Int := do
  let least ← i32 (low + inset)
  let after ← i32 (high - extent)
  let most ← i32 (after - inset)
  clamp origin least (max most least)

/-- SRC: layout.rs:492-506 -/
def clamp_origin (environment : DisplayEnvironment) (origin : Point) : Option Point := do
  let work_area := environment.work_area
  let metrics := environment.metrics
  let inset := metrics.px 8
  let x ← clamp_axis origin.x work_area.left work_area.right metrics.toolbar_width inset
  let y ← clamp_axis origin.y work_area.top work_area.bottom metrics.toolbar_height inset
  some ⟨x, y⟩

/-- The bounds of a control between two distances from the toolbar's left edge.
SRC: layout.rs:521-574 -/
def control (metrics : UiMetrics) (left control_top control_bottom first last : Int) :
    Option UiRect := do
  let left' ← i32 (left + metrics.px first)
  let right ← i32 (left + metrics.px last)
  some ⟨left', control_top, right, control_bottom⟩

/-- The bounds of a row between two distances from the menu's top edge.
SRC: layout.rs:630-670 -/
def row (metrics : UiMetrics) (row_left row_right menu_top first last : Int) :
    Option UiRect := do
  let top ← i32 (menu_top + metrics.px first)
  let bottom ← i32 (menu_top + metrics.px last)
  some ⟨row_left, top, row_right, bottom⟩

/-- Where the menu's top edge goes: above the toolbar, below it, or wherever it fits best.
SRC: layout.rs:585-602 -/
def menu_top (work_area bounds : UiRect) (gap inset menu_height : Int) : Option Int := do
  let risen ← i32 (bounds.top - gap)
  let above ← i32 (risen - menu_height)
  let below ← i32 (bounds.bottom + gap)
  let least ← i32 (work_area.top + inset)
  if above ≥ least then some above
  else
    let below_end ← i32 (below + menu_height)
    let most ← i32 (work_area.bottom - inset)
    if below_end ≤ most then some below
    else
      let room_above ← i32 (bounds.top - work_area.top)
      let room_below ← i32 (work_area.bottom - bounds.bottom)
      let preferred := if room_above ≥ room_below then above else below
      let lifted ← i32 (work_area.bottom - menu_height)
      let highest ← i32 (lifted - inset)
      clamp_coordinate preferred least highest

/-- SRC: layout.rs:508-672 -/
def new (environment : DisplayEnvironment) (origin : Point) : Option ToolbarLayout := do
  let metrics := environment.metrics
  let work_area := environment.work_area
  let ⟨left, top⟩ ← clamp_origin environment origin
  let right ← i32 (left + metrics.toolbar_width)
  let bottom ← i32 (top + metrics.toolbar_height)
  let bounds : UiRect := ⟨left, top, right, bottom⟩
  let control_top ← i32 (top + metrics.px 6)
  let control_bottom ← i32 (top + metrics.px 50)
  -- The drag handle, which nothing else reads.
  let _ ← control metrics left control_top control_bottom 6 30
  let full_display ← control metrics left control_top control_bottom 34 78
  let window ← control metrics left control_top control_bottom 78 122
  let region ← control metrics left control_top control_bottom 122 166
  let options ← control metrics left control_top control_bottom 184 284
  let pin ← control metrics left control_top control_bottom 292 336
  let edit ← control metrics left control_top control_bottom 336 380
  let record ← control metrics left control_top control_bottom 380 424
  let capture ← control metrics left control_top control_bottom 432 552
  let menu_width := metrics.px 248
  let menu_height := metrics.px 332
  let inset := metrics.px 8
  let gap := metrics.px 8
  let sides ← i32 (options.left + options.right)
  let slack ← i32 (sides - menu_width)
  let least ← i32 (work_area.left + inset)
  let shifted ← i32 (work_area.right - menu_width)
  let most ← i32 (shifted - inset)
  let menu_left ← clamp (slack.tdiv 2) least (max most least)
  let menu_top ← menu_top work_area bounds gap inset menu_height
  let menu_right ← i32 (menu_left + menu_width)
  let menu_bottom ← i32 (menu_top + menu_height)
  let row_left ← i32 (menu_left + metrics.px 6)
  let row_right ← i32 (menu_right - metrics.px 6)
  let dim_background ← row metrics row_left row_right menu_top 6 46
  let snap_to_windows ← row metrics row_left row_right menu_top 46 86
  let region_zoom ← row metrics row_left row_right menu_top 86 126
  let preview_view ← row metrics row_left row_right menu_top 126 166
  let clipboard_destination ← row metrics row_left row_right menu_top 166 206
  let file_output_destination ← row metrics row_left row_right menu_top 206 246
  let record_format ← row metrics row_left row_right menu_top 246 286
  let cancel ← row metrics row_left row_right menu_top 286 326
  some
    { bounds, full_display, window, region, options, pin, edit, record, capture
      menu := ⟨menu_left, menu_top, menu_right, menu_bottom⟩
      dim_background, snap_to_windows, region_zoom, preview_view, clipboard_destination
      file_output_destination, record_format, cancel }

/-- SRC: layout.rs:674-726 -/
def hit_test (layout : ToolbarLayout) (point : Point) (options_open : Bool) :
    Option ToolbarControl :=
  if options_open && layout.menu.contains point then
    if layout.dim_background.contains point then some .DimBackground
    else if layout.snap_to_windows.contains point then some .SnapToWindows
    else if layout.region_zoom.contains point then some .RegionZoom
    else if layout.preview_view.contains point then some .PreviewView
    else if layout.clipboard_destination.contains point then some .ClipboardDestination
    else if layout.file_output_destination.contains point then some .FileOutputDestination
    else if layout.record_format.contains point then some .RecordFormat
    else if layout.cancel.contains point then some .Cancel
    else some .Background
  else if !layout.bounds.contains point then none
  else if layout.full_display.contains point then some .FullDisplay
  else if layout.window.contains point then some .Window
  else if layout.region.contains point then some .Region
  else if layout.options.contains point then some .Options
  else if layout.pin.contains point then some .Pin
  else if layout.edit.contains point then some .Edit
  else if layout.record.contains point then some .Record
  else if layout.capture.contains point then some .Capture
  else some .Background

end ToolbarLayout

end Captastic.Model
