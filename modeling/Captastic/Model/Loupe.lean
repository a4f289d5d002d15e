import Captastic.Model.Frame
import Captastic.Model.Layout

/-!
# The magnifier's layout

`layout_loupe` of `captastic-windows/src/overlay/layout.rs`: where the magnifier stands
beside the square of pixels it magnifies.

Sizes are plain `i32` arithmetic, which stops the program when it overflows; everything after
them saturates, so only the sizes are `Option`s here.
-/

set_option autoImplicit false

namespace Captastic.Model

/-- SRC: layout.rs:48-53 -/
def UiRect.intersects (rect other : UiRect) : Bool :=
  decide (rect.left < other.right ∧ rect.right > other.left ∧ rect.top < other.bottom ∧
    rect.bottom > other.top)

/-- SRC: layout.rs:196 -/
def LOUPE_SOURCE_SPAN : Int := 31

/-- SRC: layout.rs:198 -/
def LOUPE_SOURCE_HALF : Int := LOUPE_SOURCE_SPAN / 2

/-- SRC: layout.rs:200-219 -/
structure LoupeLayoutTokens where
  zoom : Int
  gap : Int
  padding : Int
  corner_radius : Int
  label_height : Int
  label_font_height : Int
  edge_stroke : Int
  monitor_inset : Int
deriving DecidableEq, Repr

namespace LoupeLayoutTokens

/-- SRC: layout.rs:222-233 -/
def new (metrics : UiMetrics) : LoupeLayoutTokens where
  zoom := max (metrics.px 6) 2
  gap := metrics.px 24
  padding := metrics.px 6
  corner_radius := metrics.px 10
  label_height := metrics.px 20
  label_font_height := metrics.px 13
  edge_stroke := max (metrics.px 2) 1
  monitor_inset := metrics.px 8

variable (tokens : LoupeLayoutTokens)

/-- SRC: layout.rs:235-237 -/
def view_span : Option Int := i32 (LOUPE_SOURCE_SPAN * tokens.zoom)

/-- SRC: layout.rs:239-241 -/
def outer_width : Option Int := do
  let span ← tokens.view_span
  let padding ← i32 (tokens.padding * 2)
  i32 (span + padding)

/-- SRC: layout.rs:243-245 -/
def outer_height : Option Int := do
  let width ← tokens.outer_width
  i32 (width + tokens.label_height)

end LoupeLayoutTokens

/-- SRC: layout.rs:432-434 -/
def UiMetrics.loupe_tokens (metrics : UiMetrics) : LoupeLayoutTokens :=
  LoupeLayoutTokens.new metrics

/-- SRC: layout.rs:248-261 -/
structure LoupeLayout where
  bounds : UiRect
  view : UiRect
  label : UiRect
  source : UiRect
  tokens : LoupeLayoutTokens
deriving DecidableEq, Repr

/-- The square of pixels around the pointer.
SRC: layout.rs:274-285 -/
def loupe_source (pointer : Point) : UiRect where
  left := saturating_sub_i32 pointer.x LOUPE_SOURCE_HALF
  top := saturating_sub_i32 pointer.y LOUPE_SOURCE_HALF
  right := saturating_add_i32 (saturating_add_i32 pointer.x LOUPE_SOURCE_HALF) 1
  bottom := saturating_add_i32 (saturating_add_i32 pointer.y LOUPE_SOURCE_HALF) 1

/-- The part of the monitor the magnifier may stand on.
SRC: layout.rs:288-293 -/
def loupe_safe_area (monitor : UiRect) (tokens : LoupeLayoutTokens) : UiRect where
  left := saturating_add_i32 monitor.left tokens.monitor_inset
  top := saturating_add_i32 monitor.top tokens.monitor_inset
  right := saturating_sub_i32 monitor.right tokens.monitor_inset
  bottom := saturating_sub_i32 monitor.bottom tokens.monitor_inset

/-- SRC: layout.rs:269-354 -/
def layout_loupe (monitor : UiRect) (pointer : Point) (tokens : LoupeLayoutTokens) :
    Option LoupeLayout := do
  let source := loupe_source pointer
  let width ← tokens.outer_width
  let height ← tokens.outer_height
  let safe := loupe_safe_area monitor tokens
  let right_of := saturating_add_i32 source.right tokens.gap
  let left_of := saturating_sub_i32 (saturating_sub_i32 source.left tokens.gap) width
  let below := saturating_add_i32 source.bottom tokens.gap
  let above := saturating_sub_i32 (saturating_sub_i32 source.top tokens.gap) height
  let horizontal := fun left =>
    clamp_coordinate left safe.left (saturating_sub_i32 safe.right width)
  let vertical := fun top =>
    clamp_coordinate top safe.top (saturating_sub_i32 safe.bottom height)
  let place := fun left top => do some (← horizontal left, ← vertical top)
  let (left, top) ←
    if saturating_add_i32 right_of width ≤ safe.right then place right_of below
    else if left_of ≥ safe.left then place left_of below
    else if saturating_add_i32 below height ≤ safe.bottom then place source.left below
    else if above ≥ safe.top then place source.left above
    else place right_of below
  let bounds : UiRect :=
    ⟨left, top, saturating_add_i32 left width, saturating_add_i32 top height⟩
  let view_span ← tokens.view_span
  let view_left := saturating_add_i32 bounds.left tokens.padding
  let view_top := saturating_add_i32 bounds.top tokens.padding
  let view : UiRect :=
    ⟨view_left, view_top, saturating_add_i32 view_left view_span,
      saturating_add_i32 view_top view_span⟩
  let label : UiRect :=
    ⟨bounds.left, saturating_sub_i32 bounds.bottom tokens.label_height, bounds.right,
      bounds.bottom⟩
  some { bounds, view, label, source, tokens }

end Captastic.Model
