import Captastic.Model.Edit
import Captastic.Model.Review

/-!
# The editor's window

`captastic-windows/src/overlay/editor.rs`: what the editor holds beside the edit, and what its
handlers do to it.

The marks that are committed are painted into one buffer and the preview, which is what is drawn,
is that buffer with the mark in progress over it.  Both are lists of bytes, tightly packed.  What
the layout computes with floating point is the parameter `EditorGeometry`, and `layout_text` is
any pure function; the window keeps its size, so `WM_SIZE` and `WM_DPICHANGED` are left out, with
the tracking of the pointer, the remembered colour and sizes, carets, log lines and redraw
requests.  A handler that panics is `none`, and one that ends the editor `some none`.
-/

set_option autoImplicit false

namespace Captastic.Model

open Captastic.Library

/-! ## Tools and buttons -/

/-- SRC: editor.rs:137-147 -/
inductive EditorTool where
  | Crop
  | Redact
  | Box
  | Arrow
  | Text
  | Pen
  | Marker
  | Highlighter
deriving DecidableEq, Repr

/-- SRC: editor.rs:161-164 -/
def EditorTool.draws (tool : EditorTool) : Bool := !(tool == .Crop || tool == .Redact)

/-- SRC: editor.rs:108-117 -/
def PALETTE : List Color :=
  [⟨229, 57, 53⟩, ⟨253, 216, 53⟩, ⟨67, 160, 71⟩, ⟨30, 136, 229⟩, ⟨216, 27, 186⟩,
    ⟨0, 0, 0⟩, ⟨255, 255, 255⟩]

/-- An index into `PALETTE`. -/
abbrev ColourIndex := Fin PALETTE.length

/-- SRC: editor.rs:86 -/
def TEXT_SIZES : Nat := 5

/-- SRC: editor.rs:90 -/
def ARROW_SIZES : Nat := 6

/-- SRC: editor.rs:192-205 -/
inductive EditorButton where
  | Tool (tool : EditorTool)
  | Swatch (index : ColourIndex)
  | Smaller
  | Larger
  | Undo
  | Redo
  | Cancel
  | Done
deriving DecidableEq, Repr

/-! ## The state -/

/-- A press on the canvas, and what it is doing; `F` is `f32`.
SRC: editor.rs:542-569 -/
inductive EditorDrag (F : Type) where
  | Draw (tool : EditorTool) (anchor current : Point) (moved : Bool)
  | Crop (grip : Grip) (start : Rect) (anchor current : Point)
  | Stroke (tool : EditorTool) (points : List (F × F))
  | ArrowEnd (index : Nat) (tip : Bool) (current : Point)

/-- SRC: text_mark.rs:23-33 -/
structure TextLayout where
  mask : Option GlyphMask
  mask_offset : Int × Int
  line_height : Int

/-- Text being typed; `I` is a point of the capture in `f64`.
SRC: editor.rs:571-589 -/
structure TextEntry (I : Type) where
  anchor : I
  text : String
  high_surrogate : Option Nat
  layout : TextLayout
  size : I32
  color : Color
  replacing : Option Nat

/-- What the layout and the metrics of a window compute with floating point, under the names of
what they stand for. -/
structure EditorGeometry (F I : Type) where
  button_at : Point → Option EditorButton
  /-- `layout.canvas.contains` -/
  canvas_contains : Point → Bool
  client_rect : Rect → UiRect
  image_point : Point → I
  /-- `(x as f32, y as f32)` -/
  as_f32 : I → F × F
  /-- `(x.floor() as i64, y.floor() as i64)` -/
  floor : I → Int × Int
  rect_between : I → I → Option Rect
  /-- `(f64::from(distance) / scale).round() as i64` -/
  image_distance : Int → Int
  /-- whether an end of an arrow is in reach of a point of the window -/
  near : Point → F × F → Bool
  /-- whether a stroke takes a point after its last one -/
  far_enough : F × F → F × F → Bool
  /-- `width`, of a tool and the arrow's size -/
  width : EditorTool → Fin ARROW_SIZES → F
  /-- `width.round().max(1.0) as u32` -/
  rounded : F → U32
  /-- `BOX_RADIUS_DIP * stroke_unit` -/
  box_radius : F
  text_pixels : Fin TEXT_SIZES → I32
  /-- `TextEntry::origin` with the offset of the mask -/
  mask_at : I → TextLayout → I32 × I32
  /-- the anchor of a text whose mask is at a pixel -/
  anchor_of : I32 × I32 → TextLayout → I
  grip_tolerance : Int
  drag_threshold : Int

/-- SRC: editor.rs:625-655 -/
structure EditorState (F I : Type) where
  edit : Edit F
  committed : List Byte
  preview : List Byte
  pending_dirty : Option Rect
  tool : EditorTool
  last_drawing_tool : EditorTool
  colour_index : ColourIndex
  typing : Option (TextEntry I)
  text_size : Fin TEXT_SIZES
  arrow_size : Fin ARROW_SIZES
  drag : Option (EditorDrag F)
  pressed : Option EditorButton
  hovered : Option EditorButton

section Editor

variable {F I : Type} [BEq F] (D : Drawing F) (G : EditorGeometry F I)
  (layout_text : String → I32 → Option TextLayout)

/-- The mark that text would be.
SRC: editor.rs:599-610 -/
def TextEntry.mark (entry : TextEntry I) : Option (Mark F) :=
  entry.layout.mask.map fun mask =>
    let place := G.mask_at entry.anchor entry.layout
    .Text place.1 place.2 entry.text
      ⟨(max entry.size.1 1).toNat, by
        have range := entry.size.2
        unfold InI32 at range
        unfold InU32
        omega⟩ entry.color mask

/-! ## Painting -/

/-- A pixel of a capture as the editor shows it, over the canvas colour where it carries alpha.
SRC: editor.rs:509-524 -/
def shown_pixel (alpha : FrameAlpha) (pixel : List Byte) : List Byte :=
  let channel (index : Nat) : Byte := pixel.getD index 0
  let blended (index : Nat) (background : Nat) : Byte :=
    let opacity := (channel 3).toNat
    UInt8.ofNat (((channel index).toNat * opacity + background * (255 - opacity) + 127) / 255)
  match alpha with
  | .Opaque => [channel 0, channel 1, channel 2, 255]
  | .Straight => [blended 0 27, blended 1 24, blended 2 24, 255]

/-- A row of the capture as the editor shows it. -/
def shown_row (source : CpuFrame) (row : Nat) : Option (List Byte) := do
  let source_row ← slice? source.pixels (row * source.stride_bytes) (source.width * 4)
  some ((List.range source.width).flatMap fun x =>
    shown_pixel source.alpha (slice_at source_row (x * 4) 4))

/-- The mark painted into a buffer of the whole capture. -/
def paint_into (source : CpuFrame) (mark : Mark F) (pixels : List Byte) : Option (List Byte) :=
  paint_mark D mark pixels (source.width * 4) (full_bounds source) .Bgra8Unorm .Opaque

/-- SRC: editor.rs:498-540 -/
def compose_preview (source : CpuFrame) (marks : List (Mark F)) : Option (List Byte) := do
  let rows ← (List.range source.height).mapM (shown_row source)
  marks.foldlM (fun pixels mark => paint_into D source mark pixels) rows.flatten

/-- The part of the capture that a mark reaches. -/
def mark_reach (source : CpuFrame) (mark : Mark F) : Option Rect :=
  (mark.bounds D).bind fun bounds => bounds.intersection (full_bounds source)

/-- SRC: editor.rs:1539-1548 -/
def rect_union (a b : Rect) : Rect :=
  (Rect.from_edges (min a.x b.x) (min a.y b.y) (max a.right b.right)
    (max a.bottom b.bottom)).getD a

/-- What is to be restored, with the reach of a mark that was committed.
SRC: editor.rs:1530-1536 -/
def join_dirty : Option Rect → Option Rect → Option Rect
  | some dirty, some reach => some (rect_union dirty reach)
  | dirty, reach => dirty.or reach

/-- The rows of `dirty` copied from one buffer to another.
SRC: editor.rs:1561-1567 -/
def copy_dirty (stride : Nat) (dirty : Rect) (committed pixels : List Byte) :
    Option (List Byte) :=
  (int_range dirty.y (as_i32 dirty.bottom)).foldlM (fun pixels row => do
    let start := as_usize row * stride + as_usize dirty.x * 4
    let bytes ← slice? committed start (dirty.width * 4)
    write? pixels start bytes) pixels

namespace EditorState

variable (s : EditorState F I)

/-- SRC: editor.rs:759-761 -/
def colour : Color := PALETTE.get s.colour_index

/-- SRC: editor.rs:658-684 -/
def pending_crop : Option (Option Rect) :=
  let bounds := s.edit.bounds
  match s.drag with
  | some (.Draw .Crop anchor current true) =>
    some ((G.rect_between (G.image_point anchor) (G.image_point current)).bind fun rect =>
      rect.intersection bounds)
  | some (.Crop grip start anchor current) =>
    (adjust_crop start grip (G.image_distance (current.x - anchor.x))
      (G.image_distance (current.y - anchor.y)) bounds).map some
  | _ => some none

/-- SRC: editor.rs:686-757 -/
def pending_mark : Option (Mark F) :=
  match s.drag with
  | none => s.typing.bind (TextEntry.mark G)
  | some (.Draw tool anchor current true) =>
    let start := G.image_point anchor
    let stop := G.image_point current
    if tool = .Arrow then
      some (.Arrow (G.as_f32 start) (G.as_f32 stop) s.colour (G.width tool s.arrow_size))
    else
      (G.rect_between start stop).bind fun rect =>
        match tool with
        | .Redact => some (.Redaction rect)
        | .Box => some (.Rectangle rect s.colour (G.rounded (G.width tool s.arrow_size))
            G.box_radius)
        | _ => none
  | some (.ArrowEnd index tip current) =>
    match s.edit.marks[index]? with
    | some (.Arrow tail point color width) =>
      let moved := G.as_f32 (G.image_point current)
      some (.Arrow (if tip then tail else moved) (if tip then moved else point) color width)
    | _ => none
  | some (.Stroke tool points) =>
    some (.Stroke points s.colour (G.width tool s.arrow_size)
      (if tool = .Highlighter then .Highlighter else .Ink))
  | _ => none

/-- SRC: editor.rs:771-782 -/
def stepped_arrow_size (step : Int) : Option (Fin ARROW_SIZES) :=
  let next := (s.arrow_size.1 : Int) + step
  if within : 0 ≤ next ∧ next < ARROW_SIZES then some ⟨next.toNat, by omega⟩ else none

def stepped_text_size (step : Int) : Option (Fin TEXT_SIZES) :=
  let next := (s.text_size.1 : Int) + step
  if within : 0 ≤ next ∧ next < TEXT_SIZES then some ⟨next.toNat, by omega⟩ else none

def stepped_size (step : Int) : Bool :=
  match s.tool with
  | .Arrow => (s.stepped_arrow_size step).isSome
  | .Text => (s.stepped_text_size step).isSome
  | _ => false

/-- SRC: editor.rs:789-796 -/
def has_changes : Bool :=
  decide (s.edit.crop ≠ s.edit.bounds) || !s.edit.marks.isEmpty ||
    s.typing.any fun entry => !entry.text.isEmpty

/-- SRC: editor.rs:798-806 -/
def button_enabled : EditorButton → Bool
  | .Smaller => s.stepped_size (-1)
  | .Larger => s.stepped_size 1
  | .Undo => !s.edit.undo_steps.isEmpty
  | .Redo => !s.edit.redo_steps.isEmpty
  | _ => true

/-- SRC: editor.rs:808-813 -/
def choose_tool (tool : EditorTool) : EditorState F I :=
  if tool.draws then { s with tool := tool, last_drawing_tool := tool } else { s with tool := tool }

/-- SRC: editor.rs:815-827 -/
def choose_colour (index : ColourIndex) : EditorState F I :=
  let s := if !s.tool.draws then s.choose_tool s.last_drawing_tool else s
  { s with
    colour_index := index
    typing := s.typing.map fun entry => { entry with color := PALETTE.get index } }

/-- SRC: editor.rs:829-847 -/
def arrow_end_at (point : Point) : Option (Nat × Bool) :=
  s.edit.marks.zipIdx.reverse.findSome? fun (mark, index) =>
    match mark with
    | .Arrow tail tip _ _ =>
      if G.near point tip then some (index, true)
      else if G.near point tail then some (index, false)
      else none
    | _ => none

/-- SRC: editor.rs:849-868 -/
def text_at (place : I) : Option Nat :=
  let pixel := G.floor place
  s.edit.marks.zipIdx.reverse.findSome? fun (mark, index) =>
    match mark with
    | .Text _ _ _ _ _ _ =>
      (mark.bounds D).bind fun bounds =>
        if pixel.1 ≥ bounds.x ∧ pixel.1 < bounds.right ∧ pixel.2 ≥ bounds.y ∧
            pixel.2 < bounds.bottom then some index
        else none
    | _ => none

/-! ## The preview -/

/-- The marks that are committed painted again, and shown.
SRC: editor.rs:1504-1513 -/
def refresh_preview : Option (EditorState F I) := do
  let committed ← compose_preview D s.edit.source s.edit.marks
  some { s with committed := committed, preview := committed, pending_dirty := none }

/-- SRC: editor.rs:1725-1743 -/
def leave_out_of_preview (index : Nat) : Option (EditorState F I) := do
  let committed ← compose_preview D s.edit.source (s.edit.marks.eraseIdx index)
  some { s with committed := committed, preview := committed, pending_dirty := none }

/-- SRC: editor.rs:1515-1537 -/
def commit_mark (mark : Mark F) : Option (EditorState F I) := do
  let (edit, added) ← s.edit.add D mark
  if !added then some { s with edit := edit }
  else
    let committed ← paint_into D s.edit.source mark s.committed
    some { s with
      edit := edit
      committed := committed
      pending_dirty := join_dirty s.pending_dirty (mark_reach D s.edit.source mark) }

/-- SRC: editor.rs:1550-1578 -/
def show_pending : Option (EditorState F I) := do
  let restored ← match s.pending_dirty with
    | some dirty => copy_dirty (s.edit.source.width * 4) dirty s.committed s.preview
    | none => some s.preview
  match s.pending_mark G with
  | none => some { s with preview := restored, pending_dirty := none }
  | some mark =>
    let painted ← paint_into D s.edit.source mark restored
    some { s with preview := painted, pending_dirty := mark_reach D s.edit.source mark }

/-! ## Text -/

/-- The text laid out again, and shown; what cannot be laid out keeps its layout.
SRC: editor.rs:1745-1754 -/
def retype : Option (EditorState F I) :=
  show_pending D G { s with
    typing := s.typing.map fun entry =>
      { entry with layout := (layout_text entry.text entry.size).getD entry.layout } }

/-- SRC: editor.rs:99 -/
def MAXIMUM_TEXT_BYTES : Nat := 4096

/-- SRC: editor.rs:1756-1763 -/
def type_text (value : String) : Option (EditorState F I) :=
  retype D G layout_text { s with
    typing := s.typing.map fun entry =>
      if entry.text.utf8ByteSize + value.utf8ByteSize ≤ MAXIMUM_TEXT_BYTES then
        { entry with text := entry.text ++ value }
      else entry }

/-- SRC: editor.rs:1680-1699 -/
def commit_typing : Option (EditorState F I) :=
  match s.typing with
  | none => some s
  | some entry =>
    let s := { s with typing := none }
    let mark := entry.mark G
    match entry.replacing with
    | some index => do
      let (edit, _) ← s.edit.replace D index mark
      refresh_preview D { s with edit := edit }
    | none => do
      let s ← match mark with
        | some mark => s.commit_mark D mark
        | none => some s
      s.show_pending D G

/-- SRC: editor.rs:1701-1710 -/
def discard_typing : Option (EditorState F I) :=
  match s.typing with
  | none => some s
  | some entry =>
    let s := { s with typing := none }
    if entry.replacing.isSome then s.refresh_preview D else s.show_pending D G

/-- Text opened at a place with none.
SRC: editor.rs:1663-1677 -/
def open_text (place : I) : EditorState F I :=
  let size := G.text_pixels s.text_size
  match layout_text "" size with
  | some layout =>
    { s with
      typing := some
        { anchor := place
          text := ""
          high_surrogate := none
          layout := layout
          size := size
          color := s.colour
          replacing := none } }
  | none => s

/-- SRC: editor.rs:1624-1678 -/
def start_typing (place : I) : Option (EditorState F I) := do
  let s ← s.commit_typing D G
  match (s.text_at D G place).bind fun index => s.edit.marks[index]?.map (index, ·) with
  | some (index, .Text left top text size color _) =>
    let size : I32 := ⟨as_i32 size.1, as_i32_range size.1⟩
    match layout_text text size with
    | none => some s
    | some layout =>
      let s := { s with
        typing := some
          { anchor := G.anchor_of (left, top) layout
            text := text
            high_surrogate := none
            layout := layout
            size := size
            color := color
            replacing := some index } }
      (← s.leave_out_of_preview D index).show_pending D G
  | _ => some (s.open_text G layout_text place)

/-- `char::decode_utf16` of a high and a low surrogate. -/
def utf16_pair (high low : Nat) : Option Char :=
  let code := 0x10000 + (high - 0xD800) * 1024 + (low - 0xDC00)
  if code.isValidChar then some (Char.ofNat code) else none

/-- `char::from_u32` -/
def from_u32 (unit : Nat) : Option Char :=
  if unit.isValidChar then some (Char.ofNat unit) else none

/-- The first half of a character that is waiting, changed. -/
def with_surrogate (high : Option Nat) : EditorState F I :=
  { s with typing := s.typing.map fun entry => { entry with high_surrogate := high } }

/-- A character that was put together, typed; what makes none is dropped.
SRC: editor.rs:1776-1793 -/
def character_typed (character : Option Char) : Option (EditorState F I) :=
  match character with
  | some character =>
    (s.with_surrogate none).type_text D G layout_text (String.singleton character)
  | none => some (s.with_surrogate none)

/-- SRC: editor.rs:1765-1796 -/
def char_typed (unit : Nat) : Option (EditorState F I) :=
  match s.typing with
  | none => some s
  | some entry =>
    if unit = 0x08 then
      retype D G layout_text { s with
        typing := some { entry with
          high_surrogate := none
          text := String.ofList entry.text.toList.dropLast } }
    else if 0xD800 ≤ unit ∧ unit ≤ 0xDBFF then some (s.with_surrogate (some unit))
    else if 0xDC00 ≤ unit ∧ unit ≤ 0xDFFF then
      match entry.high_surrogate with
      | none => some s
      | some high => s.character_typed D G layout_text (utf16_pair high unit)
    else if unit < 0x20 ∨ unit = 0x7F then some s
    else s.character_typed D G layout_text (from_u32 unit)

/-! ## Sizes -/

/-- A last arrow at the width in hand.
SRC: editor.rs:1598-1618 -/
def thicken_last : Option (EditorState F I) :=
  match s.edit.last_changed.bind fun index => s.edit.marks[index]?.map (index, ·) with
  | some (index, .Arrow tail tip color _) => do
    let (edit, replaced) ← s.edit.replace D index
      (some (.Arrow tail tip color (G.width .Arrow s.arrow_size)))
    if replaced then refresh_preview D { s with edit := edit } else some { s with edit := edit }
  | _ => some s

/-- SRC: editor.rs:1580-1622 -/
def resize (step : Int) : Option (EditorState F I) :=
  match s.tool with
  | .Text =>
    match s.stepped_text_size step with
    | none => some s
    | some size =>
      retype D G layout_text { s with
        text_size := size
        typing := s.typing.map fun entry => { entry with size := G.text_pixels size } }
  | .Arrow =>
    match s.stepped_arrow_size step with
    | none => some s
    | some size => thicken_last D G { s with arrow_size := size }
  | _ => some s

/-! ## The pointer -/

/-- A drag in progress is dropped, and a mark that it had taken out is put back.
SRC: editor.rs:1712-1723 -/
def abandon_drag : Option (EditorState F I × Bool) :=
  match s.drag with
  | some (.ArrowEnd _ _ _) => (refresh_preview D { s with drag := none }).map (·, true)
  | some _ => some ({ s with drag := none }, true)
  | none => some (s, false)

/-- SRC: editor.rs:1104-1113 -/
def capture_changed : Option (EditorState F I) := do
  let (s, dropped) ← s.abandon_drag D
  if dropped then s.show_pending D G
  else if s.pressed.isSome then show_pending D G { s with pressed := none }
  else some s

/-- A drag once the pointer is at a point, and whether it has changed.
SRC: editor.rs:1245-1272 -/
def drag_moved (point : Point) : EditorDrag F → EditorDrag F × Bool
  | .Draw tool anchor _ moved =>
    (.Draw tool anchor point (moved ||
      decide (((point.x - anchor.x).natAbs : Int) ≥ G.drag_threshold ∨
        ((point.y - anchor.y).natAbs : Int) ≥ G.drag_threshold)), true)
  | .Crop grip start anchor _ => (.Crop grip start anchor point, true)
  | .ArrowEnd index tip _ => (.ArrowEnd index tip point, true)
  | .Stroke tool points =>
    let next := G.as_f32 (G.image_point point)
    if points.getLast?.all fun last => G.far_enough next last then
      (.Stroke tool (points ++ [next]), true)
    else (.Stroke tool points, false)

/-- SRC: editor.rs:1230-1280 -/
def pointer_moved (point : Point) : Option (EditorState F I) :=
  let hovered := G.button_at point
  let hover_changed := decide (hovered ≠ s.hovered)
  match s.drag with
  | none => some { s with hovered := hovered }
  | some drag =>
    let moved := drag_moved G point drag
    let s := { s with hovered := hovered, drag := some moved.1 }
    if hover_changed || moved.2 then s.show_pending D G else some s

/-- What a press on the canvas does with a tool that does not type.
SRC: editor.rs:1322-1350 -/
def pressed_drag (point : Point) : EditorDrag F :=
  match s.tool with
  | .Redact | .Box | .Arrow | .Text => .Draw s.tool point point false
  | .Pen | .Marker | .Highlighter => .Stroke s.tool [G.as_f32 (G.image_point point)]
  | .Crop =>
    match crop_grip_at (G.client_rect s.edit.crop) point G.grip_tolerance
        (decide (s.edit.crop ≠ s.edit.bounds)) with
    | some grip => .Crop grip s.edit.crop point point
    | none => .Draw .Crop point point false

/-- SRC: editor.rs:1282-1354 -/
def pointer_pressed (point : Point) : Option (EditorState F I) :=
  match G.button_at point with
  | some button => do
    let s ← match button with
      | .Swatch _ => some s
      | _ => s.commit_typing D G
    some (if s.button_enabled button then { s with pressed := some button } else s)
  | none =>
    if !G.canvas_contains point then some s
    else
      match if s.tool = .Arrow then s.arrow_end_at G point else none with
      | some (index, tip) => do
        let s ← leave_out_of_preview D { s with drag := some (.ArrowEnd index tip point) } index
        s.show_pending D G
      | none =>
        if s.tool = .Text then s.start_typing D G layout_text (G.image_point point)
        else show_pending D G { s with drag := some (s.pressed_drag G point) }

/-- The end of a press, and the button to act on.  The pointer is let go once the drag and the
button are taken, so that nothing is left to abandon.
SRC: editor.rs:1356-1382 -/
def pointer_released (point : Point) : Option (EditorState F I × Option EditorButton) := do
  let crop ← s.pending_crop G
  let mark := s.pending_mark G
  let released := { s with drag := none, pressed := none }
  let pressed := s.pressed.filter fun button => decide (G.button_at point = some button)
  match s.drag with
  | some (.ArrowEnd index _ _) =>
    let edit ← match mark with
      | some mark => (s.edit.replace D index (some mark)).map Prod.fst
      | none => some s.edit
    let s ← refresh_preview D { released with edit := edit }
    some (s, pressed)
  | some _ =>
    let edit ← match crop with
      | some crop => (s.edit.set_crop crop).map Prod.fst
      | none => some s.edit
    let s ← match mark with
      | some mark => commit_mark D { released with edit := edit } mark
      | none => some { released with edit := edit }
    let s ← s.show_pending D G
    some (s, pressed)
  | none => some (released, pressed)

/-! ## Buttons and keys -/

/-- A request to cancel, which is asked about where there is something to lose.
SRC: editor.rs:1798-1819 -/
def request_cancel (discards : Bool) : Option (EditorState F I) :=
  if s.has_changes && !discards then some s else none

/-- What undoing or redoing does to the preview. -/
def stepped_back (result : Edit F × Bool) : Option (EditorState F I) :=
  let s := { s with edit := result.1 }
  if result.2 then s.refresh_preview D else some s

/-- SRC: editor.rs:1384-1412 -/
def press_button (discards : Bool) (button : EditorButton) : Option (Option (EditorState F I)) :=
  match button with
  | .Tool tool => some (some (s.choose_tool tool))
  | .Swatch index => some (some (s.choose_colour index))
  | .Undo => do
    let result ← s.edit.undo
    (s.stepped_back D result).map some
  | .Redo => do
    let result ← s.edit.redo
    (s.stepped_back D result).map some
  | .Smaller => (s.resize D G layout_text (-1)).map some
  | .Larger => (s.resize D G layout_text 1).map some
  | .Cancel => some (s.request_cancel discards)
  | .Done => (s.commit_typing D G).map fun _ => none

/-- SRC: editor.rs:1414-1435 -/
def key_button (key : Nat) (ctrl shift : Bool) : Option EditorButton :=
  if key = 0x0D then some .Done
  else if ctrl then
    if key = 0x5A then some (if shift then .Redo else .Undo)
    else if key = 0x59 then some .Redo
    else none
  else
    match key with
    | 0x43 => some (.Tool .Crop)
    | 0x52 => some (.Tool .Redact)
    | 0x42 => some (.Tool .Box)
    | 0x41 => some (.Tool .Arrow)
    | 0x54 => some (.Tool .Text)
    | 0x50 => some (.Tool .Pen)
    | 0x4D => some (.Tool .Marker)
    | 0x48 => some (.Tool .Highlighter)
    | _ =>
      let digit (first : Nat) : Option EditorButton :=
        if within : first ≤ key ∧ key - first < PALETTE.length then
          some (.Swatch ⟨key - first, within.2⟩)
        else none
      (digit 0x31).or (digit 0x61)

/-- SRC: editor.rs:1437-1448 -/
def text_size_step (key : Nat) (ctrl : Bool) : Option Int :=
  if !ctrl then none
  else if key = 0xBB ∨ key = 0x6B then some 1
  else if key = 0xBD ∨ key = 0x6D then some (-1)
  else none

/-- A key while text is open.
SRC: editor.rs:1463-1473 -/
def typing_key (key : Nat) (shift : Bool) : Option (EditorState F I) :=
  if key = 0x1B then s.discard_typing D G
  else if key = 0x0D ∧ shift then s.type_text D G layout_text "\n"
  else if key = 0x0D then s.commit_typing D G
  else some s

/-- SRC: editor.rs:1476-1489 -/
def escape_pressed (discards : Bool) : Option (Option (EditorState F I)) := do
  let (s, dropped) ← s.abandon_drag D
  if dropped then
    let s ← s.show_pending D G
    -- Letting the pointer go loses the capture.
    let s ← s.capture_changed D G
    some (some s)
  else some (s.request_cancel discards)

/-- SRC: editor.rs:1450-1497 -/
def key_pressed (key : Nat) (ctrl shift discards : Bool) : Option (Option (EditorState F I)) :=
  match text_size_step key ctrl with
  | some step =>
    if s.drag.isNone then (s.resize D G layout_text step).map some else some (some s)
  | none =>
    if s.typing.isSome then (s.typing_key D G layout_text key shift).map some
    else if key = 0x1B then s.escape_pressed D G discards
    else
      match key_button key ctrl shift with
      | some button =>
        if s.drag.isNone then s.press_button D G layout_text discards button else some (some s)
      | none => some (some s)

end EditorState

/-! ## Events -/

/-- What the window is told; `discards` is the answer to the question whether to lose the edits.
SRC: editor.rs:1062-1126 -/
inductive EditorEvent where
  | Moved (point : Point)
  | Left
  | Pressed (point : Point)
  | Released (point : Point) (discards : Bool)
  | CaptureChanged
  | Key (key : Nat) (ctrl shift discards : Bool)
  | Char (unit : Nat)
  | Close (discards : Bool)

open EditorState in
/-- SRC: editor.rs:1062-1126 -/
def handle_event (s : EditorState F I) : EditorEvent → Option (Option (EditorState F I))
  | .Moved point => (s.pointer_moved D G point).map some
  | .Left => some (some { s with hovered := none })
  | .Pressed point => (s.pointer_pressed D G layout_text point).map some
  | .Released point discards => do
    let (s, pressed) ← s.pointer_released D G point
    match pressed with
    | some button => s.press_button D G layout_text discards button
    | none => some (some s)
  | .CaptureChanged => (s.capture_changed D G).map some
  | .Key key ctrl shift discards => s.key_pressed D G layout_text key ctrl shift discards
  | .Char unit => (s.char_typed D G layout_text unit).map some
  | .Close discards => some (s.request_cancel discards)

/-- What an editor opens with; only a `Bgra8Unorm` capture is opened.
SRC: editor.rs:895-973 -/
def open_editor (frame : CpuFrame) (colour : ColourIndex) (text_size : Fin TEXT_SIZES)
    (arrow_size : Fin ARROW_SIZES) : Option (EditorState F I) :=
  if frame.format ≠ .Bgra8Unorm then none
  else do
    let committed ← compose_preview D frame []
    some {
      edit := Edit.new frame
      committed := committed
      preview := committed
      pending_dirty := none
      tool := .Crop
      last_drawing_tool := .Pen
      colour_index := colour
      typing := none
      text_size := text_size
      arrow_size := arrow_size
      drag := none
      pressed := none
      hovered := none }

end Editor

end Captastic.Model
