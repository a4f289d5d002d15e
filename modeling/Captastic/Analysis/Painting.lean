import Captastic.Model.Edit

/-!
# What painting a mark does to each pixel

`paint_mark` walks the part of a mark that lies in the painted area and rewrites the
bytes of one pixel after another.  Here its loops are turned into one equation for
each pixel of the area (`paint_mark_spec`): painting never panics, and the pixel at
`p` becomes `shade` of what it was, a function of the mark, the area, the format, the
alpha kind, the position and the pixel's own bytes.  A redaction's `shade` is a
constant inside its rectangle (`shade_redaction`).
-/

set_option autoImplicit false

namespace Captastic.Analysis

open Captastic.Library Captastic.Model

/-! ## Tightly packed areas -/

/-- An area of a capture: its edges are non-negative `i32` coordinates. -/
structure Canvas (area : Rect) : Prop where
  x_nonneg : 0 ≤ area.x
  y_nonneg : 0 ≤ area.y
  right_le : area.right ≤ 2147483647
  bottom_le : area.bottom ≤ 2147483647

/-- An area whose pixels have `i32` coordinates, at most `i32::MAX` apart. -/
structure Paintable (area : Rect) : Prop where
  right_le : area.right ≤ 2147483647
  bottom_le : area.bottom ≤ 2147483647
  width_le : area.width ≤ 2147483647
  height_le : area.height ≤ 2147483647

/-- A canvas can be painted on. -/
theorem Canvas.paintable {area : Rect} (hcanvas : Canvas area) : Paintable area := by
  obtain ⟨hx, hy, hr, hb⟩ := hcanvas
  refine ⟨hr, hb, ?_, ?_⟩
  · simp only [Rect.right] at hr
    omega
  · simp only [Rect.bottom] at hb
    omega

/-- Where the pixel at `p` starts in a tightly packed buffer of `area`. -/
def pos_of (area : Rect) (size : Nat) (p : Int × Int) : Nat :=
  cell_at (area.width * size) size (p.1 - area.x).toNat (p.2 - area.y).toNat

/-- The bytes of the pixel at `p` in a tightly packed buffer of `area`. -/
def pixel_of (area : Rect) (size : Nat) (pixels : List Byte) (p : Int × Int) : List Byte :=
  slice_at pixels (pos_of area size p) size

/-- The buffer holds the rows of `area` and nothing else. -/
def Packed (area : Rect) (size : Nat) (pixels : List Byte) : Prop :=
  pixels.length = area.height * (area.width * size)

section Positions

variable {area : Rect} {size : Nat} {p q : Int × Int}

/-- A pixel of the area ends within its row. -/
theorem column_le (hp : area.contains p.1 p.2) :
    ((p.1 - area.x).toNat + 1) * size ≤ area.width * size := by
  simp only [Rect.contains, Rect.right] at hp
  exact Nat.mul_le_mul_right _ (by omega)

/-- It ends within the buffer. -/
theorem pos_of_le (hp : area.contains p.1 p.2) :
    pos_of area size p + size ≤ area.height * (area.width * size) := by
  refine cell_at_le (column_le hp) ?_
  simp only [Rect.contains, Rect.bottom] at hp
  omega

/-- Two pixels of the area do not overlap. -/
theorem pos_of_disjoint (hp : area.contains p.1 p.2) (hq : area.contains q.1 q.2)
    (hne : q ≠ p) : pos_of area size q + size ≤ pos_of area size p ∨
      pos_of area size p + size ≤ pos_of area size q := by
  refine cell_at_disjoint (column_le hp) (column_le hq) fun h => hne ?_
  simp only [Prod.mk.injEq] at h
  simp only [Rect.contains] at hp hq
  exact Prod.ext (by omega) (by omega)

/-- A coordinate that is not negative is cast as it is. -/
theorem as_usize_of_nonneg {v : Int} (h₀ : 0 ≤ v) (h₁ : v < 18446744073709551616) :
    as_usize v = v.toNat := by
  rw [as_usize, Int.emod_eq_of_lt h₀ h₁]

/-- The byte offset `paint_mark` computes is where the pixel starts.
SRC: edit.rs:493-494 -/
theorem offset_eq (hp : area.contains p.1 p.2) :
    as_usize (p.2 - area.y) * (area.width * size) + as_usize (p.1 - area.x) * size =
      pos_of area size p := by
  have hr := area.ranges
  simp only [Rect.contains, Rect.right, Rect.bottom] at hp
  rw [as_usize_of_nonneg (by omega) (by omega), as_usize_of_nonneg (by omega) (by omega)]
  rfl

/-- A packed buffer is determined by its pixels. -/
theorem packed_ext {a b : List Byte} (ha : Packed area size a) (hb : Packed area size b)
    (h : ∀ q : Int × Int, area.contains q.1 q.2 → pixel_of area size a q = pixel_of area size b q) :
    a = b := by
  refine eq_of_cells ha hb fun x y hx hy => ?_
  have hq := h (area.x + x, area.y + y) (by
    simp only [Rect.contains, Rect.right, Rect.bottom]
    omega)
  simpa only [cell_of, pixel_of, pos_of, show (area.x + (x : Int) - area.x).toNat = x by omega,
    show (area.y + (y : Int) - area.y).toNat = y by omega] using hq

end Positions

/-! ## Steps that change one pixel -/

/-- `step` succeeds on packed buffers, sends the pixel at `p` through `g` and leaves
every other pixel of the area alone. -/
def ChangesPixel (area : Rect) (size : Nat) (p : Int × Int) (g : List Byte → List Byte)
    (step : List Byte → Option (List Byte)) : Prop :=
  ∀ pixels, Packed area size pixels → ∃ pixels', step pixels = some pixels' ∧
    Packed area size pixels' ∧ pixel_of area size pixels' p = g (pixel_of area size pixels p) ∧
    ∀ q, area.contains q.1 q.2 → q ≠ p →
      pixel_of area size pixels' q = pixel_of area size pixels q

section Steps

variable {area : Rect} {size : Nat} {p : Int × Int}

/-- A step that does the same changes the pixel in the same way. -/
theorem ChangesPixel.congr {g g' : List Byte → List Byte}
    {step step' : List Byte → Option (List Byte)} (h : ChangesPixel area size p g step)
    (hg : ∀ pixel, g' pixel = g pixel) (hstep : ∀ pixels, step' pixels = step pixels) :
    ChangesPixel area size p g' step' := by
  obtain rfl : g' = g := funext hg
  obtain rfl : step' = step := funext hstep
  exact h

/-- Doing nothing leaves it. -/
theorem changes_pixel_skip : ChangesPixel area size p id some :=
  fun pixels hpixels => ⟨pixels, rfl, hpixels, rfl, fun _ _ _ => rfl⟩

/-- Writing a pixel replaces it. -/
theorem changes_pixel_write (hp : area.contains p.1 p.2) {value : List Byte}
    (hvalue : value.length = size) :
    ChangesPixel area size p (fun _ => value) (write? · (pos_of area size p) value) := by
  subst hvalue
  intro pixels hpixels
  obtain ⟨pixels', h⟩ := write?_isSome pixels value (pos_of area _ p) (by
    rw [hpixels]
    exact pos_of_le hp)
  refine ⟨pixels', h, (length_write? h).trans hpixels, slice_at_write?_self h, ?_⟩
  exact fun q hq hne => slice_at_write?_disjoint h (pos_of_disjoint hp hq hne)

/-- The change `blend` makes to the four bytes of a pixel. -/
def blended (blend : Quad → Quad) : List Byte → List Byte
  | [b0, b1, b2, b3] => (blend ⟨b0, b1, b2, b3⟩).toList
  | pixel => pixel

/-- Blending changes it by what is blended. -/
theorem changes_pixel_blend (hp : area.contains p.1 p.2) (blend : Quad → Quad) :
    ChangesPixel area 4 p (blended blend) (blend_at · (pos_of area 4 p) blend) := by
  intro pixels hpixels
  have hle : pos_of area 4 p + 4 ≤ pixels.length := by
    rw [hpixels]
    exact pos_of_le hp
  obtain ⟨b0, b1, b2, b3, hquad⟩ : ∃ b0 b1 b2 b3, pixel_of area 4 pixels p = [b0, b1, b2, b3] := by
    have hlen : (pixel_of area 4 pixels p).length = 4 := length_slice_at _ _ _ hle
    match pixel_of area 4 pixels p, hlen with
    | [b0, b1, b2, b3], _ => exact ⟨b0, b1, b2, b3, rfl⟩
  obtain ⟨pixels', h, hrest⟩ :=
    changes_pixel_write hp (Quad.length_toList (blend ⟨b0, b1, b2, b3⟩)) pixels hpixels
  refine ⟨pixels', ?_, ?_⟩
  · rw [pixel_of] at hquad
    simp only [blend_at, slice?_eq _ _ _ hle, hquad]
    exact h
  · rw [hquad]
    exact hrest

end Steps

/-! ## Loops over a rectangle -/

section Visits

variable {area reach : Rect} {size : Nat}

/-- The edges of a part of an area survive the conversion back to `i32`. -/
theorem edges_i32 (hreach : reach.Within area) (hcanvas : Paintable area) :
    as_i32 reach.right = reach.right ∧ as_i32 reach.bottom = reach.bottom := by
  have hr := reach.ranges
  obtain ⟨hright, hbottom, -, -⟩ := hcanvas
  simp only [Rect.Within] at hreach
  constructor
  · refine as_i32_of_range ?_ (by omega)
    simp only [Rect.right]
    omega
  · refine as_i32_of_range ?_ (by omega)
    simp only [Rect.bottom]
    omega

/-- **The loop rule**: visiting the pixels of `reach` with steps that each change
their own pixel changes each pixel of `reach` once and no other. -/
theorem visit_spec (hreach : reach.Within area) (hcanvas : Paintable area)
    (g : Int × Int → List Byte → List Byte) (step : List Byte → Int × Int → Option (List Byte))
    (hstep : ∀ p : Int × Int, reach.contains p.1 p.2 →
      ChangesPixel area size p (g p) (step · p))
    (pixels : List Byte) (hpixels : Packed area size pixels) :
    ∃ pixels', visit reach step pixels = some pixels' ∧ Packed area size pixels' ∧
      ∀ q, area.contains q.1 q.2 → pixel_of area size pixels' q =
        if reach.contains q.1 q.2 then g q (pixel_of area size pixels q)
        else pixel_of area size pixels q := by
  obtain ⟨hright, hbottom⟩ := edges_i32 hreach hcanvas
  have hmem : ∀ p : Int × Int, p ∈ cells (int_range reach.y reach.bottom)
      (int_range reach.x reach.right) ↔ reach.contains p.1 p.2 := by
    intro p
    simp only [mem_cells, mem_int_range, Rect.contains]
    tauto
  obtain ⟨pixels', h, hpacked, hget⟩ := foldlM_pointwise (Packed area size)
    (fun q => area.contains q.1 q.2) (pixel_of area size) step g
    (cells (int_range reach.y reach.bottom) (int_range reach.x reach.right))
    (nodup_cells (nodup_int_range _ _) (nodup_int_range _ _))
    (fun p hp => hreach.contains ((hmem p).mp hp))
    (fun pixels p hp hpixels => hstep p ((hmem p).mp hp) pixels hpixels) pixels hpixels
  refine ⟨pixels', ?_, hpacked, ?_⟩
  · rw [visit, hright, hbottom, foldlM_nested]
    exact h
  · intro q hq
    rw [hget q hq]
    simp only [hmem]

/-- A row of a fill writes `value` pixel by pixel; the span check that comes before it
holds.
SRC: edit.rs:696-702 -/
theorem fill_eq_visit (size : Nat) (hne : reach.NonEmpty) (hreach : reach.Within area)
    (hcanvas : Paintable area) {value : List Byte} (hvalue : value.length = size)
    {pixels : List Byte} (hpixels : Packed area size pixels) (offset : Int → Int → Nat)
    (hoffset : ∀ x y, area.contains x y → offset x y = pos_of area size (x, y)) :
    fill pixels reach offset size value =
      visit reach (fun pixels p => write? pixels (pos_of area size p) value) pixels := by
  obtain ⟨hright, hbottom⟩ := edges_i32 hreach hcanvas
  rw [fill, visit, hright, Rect.right]
  refine foldlM_congr_of_inv (Packed area size) _ _ _ ?_ ?_ pixels hpixels
  · intro pixels y hy hpixels
    rw [hbottom, mem_int_range] at hy
    have hin : ∀ k : Nat, k < reach.width → area.contains (reach.x + k) y := by
      intro k hk
      refine hreach.contains ?_
      simp only [Rect.contains, Rect.right]
      omega
    have hpos : ∀ k : Nat, k < reach.width →
        offset reach.x y + k * size = pos_of area size (reach.x + k, y) := by
      intro k hk
      have h₀ := hin 0 (by omega)
      have hk := hin k hk
      simp only [Nat.cast_zero, add_zero] at h₀
      rw [hoffset _ _ h₀]
      simp only [Rect.contains] at h₀
      simp only [pos_of, cell_at]
      rw [show (reach.x + (k : Int) - area.x).toNat = (reach.x - area.x).toNat + k by omega,
        Nat.add_mul]
      omega
    have hspan : ∃ span, slice? pixels (offset reach.x y) (reach.width * size) = some span := by
      refine ⟨_, slice?_eq _ _ _ ?_⟩
      obtain ⟨width, hwidth⟩ : ∃ width, reach.width = width + 1 :=
        ⟨reach.width - 1, by have := hne.1; omega⟩
      have hlast : pos_of area size (reach.x + (width : Int), y) + size ≤
          area.height * (area.width * size) := pos_of_le (hin width (by omega))
      rw [← hpos width (by omega)] at hlast
      rw [hpixels, hwidth, Nat.succ_mul]
      omega
    obtain ⟨span, hspan⟩ := hspan
    simp only [hspan, Option.bind_eq_bind, Option.bind_some, if_pos hvalue]
    rw [← foldlM_range fun pixels x => write? pixels (pos_of area size (x, y)) value]
    refine foldlM_congr_of_inv (fun _ => True) _ _ _ ?_ (fun _ _ _ _ _ _ => trivial) pixels trivial
    intro pixels k hk _
    rw [hpos k (List.mem_range.mp hk)]
  · intro pixels y pixels' hy hpixels h
    exact foldlM_keeps (Packed area size) _ _
      (fun s x s' _ hs hs' => (length_write? hs').trans hs) hpixels h

end Visits

/-! ## The change a mark makes to a pixel -/

section Shade

variable {F : Type} (D : Drawing F)

/-- The bytes a mark leaves for the pixel at `p` of the part `reach` it is painted in.
SRC: edit.rs:495-589 -/
def inked (mark : Mark F) (reach : Rect) (format : PixelFormat) (alpha : FrameAlpha)
    (p : Int × Int) (pixel : List Byte) : List Byte :=
  match format.encoding, mark with
  | .HalfFloatRgba, .Redaction _ => REDACTION_HALF_FLOAT
  | .HalfFloatRgba, _ => pixel
  | .EightBitRgba _, .Redaction _ => REDACTION_EIGHT_BIT
  | .EightBitRgba blue_first, .Rectangle rect color width radius =>
    let cover := D.box_outline_coverage rect (D.of_u32 width.1) radius p.1 p.2
    if D.positive cover then
      blended (fun quad => D.blend_over quad (ordered color blue_first) cover alpha) pixel
    else pixel
  | .EightBitRgba blue_first, .Stroke points color width style =>
    match (D.stroke_coverage points width reach)[
      (p.2 - reach.y).toNat * reach.width + (p.1 - reach.x).toNat]? with
    | none => pixel
    | some cover =>
      if !D.positive cover then pixel
      else blended (fun quad => match style with
        | .Ink => D.blend_over quad (ordered color blue_first) cover alpha
        | .Highlighter => D.tint quad (ordered color blue_first) (D.highlighter cover)) pixel
  | .EightBitRgba blue_first, .Text left top _ _ color mask =>
    match mask.coverage[as_usize (p.2 - top.1) * mask.width.1 + as_usize (p.1 - left.1)]? with
    | none => pixel
    | some value =>
      if value > 0 then
        blended (fun quad =>
          D.blend_over quad (ordered color blue_first) (D.of_coverage value) alpha) pixel
      else pixel
  | .EightBitRgba blue_first, .Arrow tail tip color width =>
    match D.arrow_coverage tail tip width with
    | none => pixel
    | some coverage =>
      if D.positive (coverage p.1 p.2) then
        blended (fun quad =>
          D.blend_over quad (ordered color blue_first) (coverage p.1 p.2) alpha) pixel
      else pixel

attribute [local simp] inked

/-- The bytes painting `mark` leaves for the pixel at `p` of `area`. -/
def shade (mark : Mark F) (area : Rect) (format : PixelFormat) (alpha : FrameAlpha)
    (p : Int × Int) (pixel : List Byte) : List Byte :=
  match (mark.bounds D).bind fun bounds => bounds.intersection area with
  | none => pixel
  | some reach =>
    if reach.contains p.1 p.2 then inked D mark reach format alpha p pixel else pixel

/-- The bytes of a redacted pixel.
SRC: edit.rs:21-24 -/
def redacted (format : PixelFormat) : List Byte :=
  match format.encoding with
  | .EightBitRgba _ => REDACTION_EIGHT_BIT
  | .HalfFloatRgba => REDACTION_HALF_FLOAT

/-- **A redaction forgets**: inside its rectangle it leaves the same bytes whatever
was there. -/
theorem shade_redaction {rect area : Rect} {p : Int × Int} (hrect : rect.contains p.1 p.2)
    (harea : area.contains p.1 p.2) (format : PixelFormat) (alpha : FrameAlpha)
    (pixel : List Byte) :
    shade D (.Redaction rect) area format alpha p pixel = redacted format := by
  have hpos : rect.width > 0 ∧ rect.height > 0 := by
    simp only [Rect.contains, Rect.right, Rect.bottom] at hrect
    omega
  cases hreach : rect.intersection area with
  | none => exact absurd harea (Rect.not_contains_of_intersection_eq_none hreach _ _ hrect)
  | some reach =>
      have hin := (Rect.contains_intersection hreach p.1 p.2).mpr ⟨hrect, harea⟩
      simp only [shade, Mark.bounds, if_pos hpos, Option.bind_some, hreach, if_pos hin]
      cases h : format.encoding <;> simp [inked, redacted, h]

variable {D} in
/-- The cell of a text mask under a pixel of the mark exists.
SRC: edit.rs:558-560 -/
theorem text_coverage {left top : I32} {text : String} {size : U32} {color : Color}
    {mask : GlyphMask} {bounds : Rect}
    (hbounds : (Mark.Text left top text size color mask).bounds D = some bounds)
    {p : Int × Int} (hp : bounds.contains p.1 p.2) :
    ∃ value, mask.coverage[as_usize (p.2 - top.1) * mask.width.1 +
      as_usize (p.1 - left.1)]? = some value := by
  simp only [Mark.bounds] at hbounds
  split at hbounds
  · obtain rfl := Option.some.inj hbounds
    have hl := left.2
    have ht := top.2
    have hw := mask.width.2
    have hh := mask.height.2
    simp only [InI32, InU32] at hl ht hw hh
    simp only [Rect.contains, Rect.right, Rect.bottom] at hp
    rw [as_usize_of_nonneg (by omega) (by omega), as_usize_of_nonneg (by omega) (by omega)]
    have hrow := succ_mul_le_of_lt (p.2 - top.1).toNat mask.height.1 mask.width.1 (by omega)
      (le_refl _)
    rw [Nat.add_mul, Nat.one_mul] at hrow
    have hcovers := mask.covers
    rw [Nat.mul_comm] at hcovers
    exact ⟨_, List.getElem?_eq_getElem (by omega)⟩
  · cases hbounds

/-- The cell of a stroke's coverage under a pixel of the painted part exists.
SRC: edit.rs:537-539 -/
theorem stroke_coverage_at (points : List (F × F)) (width : F) {reach : Rect} {p : Int × Int}
    (hp : reach.contains p.1 p.2) :
    ∃ cover, (D.stroke_coverage points width reach)[
      (p.2 - reach.y).toNat * reach.width + (p.1 - reach.x).toNat]? = some cover := by
  simp only [Rect.contains, Rect.right, Rect.bottom] at hp
  have hrow := succ_mul_le_of_lt (p.2 - reach.y).toNat reach.height reach.width (by omega)
    (le_refl _)
  rw [Nat.add_mul, Nat.one_mul] at hrow
  have hlen := D.stroke_coverage_length points width reach
  rw [Nat.mul_comm] at hlen
  exact ⟨_, List.getElem?_eq_getElem (by omega)⟩

/-- The stroke loop counts from the corner of `reach`; it is a visit of `reach`.
SRC: edit.rs:537-551 -/
theorem stroke_loop_eq_visit {reach area : Rect} (hreach : reach.Within area)
    (hcanvas : Paintable area) (coverage : List F)
    (body : List Byte → Int × Int → F → Option (List Byte)) (pixels : List Byte) :
    (List.range reach.height).foldlM (fun pixels y =>
      (List.range reach.width).foldlM (fun pixels x => do
        let cover ← coverage[y * reach.width + x]?
        body pixels (reach.x + as_i32 x, reach.y + as_i32 y) cover) pixels) pixels =
    visit reach (fun pixels p => do
      let cover ← coverage[(p.2 - reach.y).toNat * reach.width + (p.1 - reach.x).toNat]?
      body pixels p cover) pixels := by
  obtain ⟨hright, hbottom⟩ := edges_i32 hreach hcanvas
  have hr := reach.ranges
  obtain ⟨hcr, hcb, hcw, hch⟩ := hcanvas
  simp only [Rect.Within, Rect.right, Rect.bottom] at hreach hcr hcb
  rw [visit, hright, hbottom, Rect.bottom, Rect.right, ← foldlM_range fun pixels y => _]
  refine foldlM_congr_of_inv (fun _ => True) _ _ _ ?_ (fun _ _ _ _ _ _ => trivial) pixels trivial
  intro pixels y hy _
  rw [← foldlM_range fun pixels x => _]
  refine foldlM_congr_of_inv (fun _ => True) _ _ _ ?_ (fun _ _ _ _ _ _ => trivial) pixels trivial
  intro pixels x hx _
  rw [List.mem_range] at hx hy
  rw [as_i32_of_range (by omega) (by omega), as_i32_of_range (by omega) (by omega),
    show (reach.y + (y : Int) - reach.y).toNat = y by omega,
    show (reach.x + (x : Int) - reach.x).toNat = x by omega]

section OnePixel

variable {D} {area reach : Rect} {format : PixelFormat} {blue_first : Bool} {p : Int × Int}

/-- SRC: edit.rs:498-506, 511 -/
theorem changes_pixel_redaction (size : Nat) (rect : Rect) (alpha : FrameAlpha)
    (hp : area.contains p.1 p.2) {value : List Byte} (hvalue : value.length = size)
    (hredacted : redacted format = value) :
    ChangesPixel area size p (inked D (.Redaction rect) reach format alpha p)
      (write? · (pos_of area size p) value) := by
  refine (changes_pixel_write hp hvalue).congr (fun pixel => ?_) fun pixels => rfl
  rw [← hredacted]
  cases h : format.encoding <;> simp only [inked, redacted, h]

/-- SRC: edit.rs:521-525 -/
theorem changes_pixel_rectangle (hencoding : format.encoding = .EightBitRgba blue_first)
    (rect : Rect) (color : Color) (width : U32) (radius : F) (alpha : FrameAlpha)
    (hp : area.contains p.1 p.2) :
    ChangesPixel area 4 p (inked D (.Rectangle rect color width radius) reach format alpha p)
      fun pixels =>
        if D.positive (D.box_outline_coverage rect (D.of_u32 width.1) radius p.1 p.2) then
          blend_at pixels (pos_of area 4 p) fun pixel =>
            D.blend_over pixel (ordered color blue_first)
              (D.box_outline_coverage rect (D.of_u32 width.1) radius p.1 p.2) alpha
        else some pixels := by
  by_cases hcover : D.positive (D.box_outline_coverage rect (D.of_u32 width.1) radius p.1 p.2)
  · refine (changes_pixel_blend hp _).congr (fun pixel => ?_) fun pixels => if_pos hcover
    simp only [inked, hencoding, if_pos hcover]
  · refine changes_pixel_skip.congr (fun pixel => ?_) fun pixels => if_neg hcover
    simp only [inked, hencoding, if_neg hcover, id]

/-- What the stroke loop does with one pixel once it has its coverage.
SRC: edit.rs:540-548 -/
def stroke_pixel (D : Drawing F) (ink : Quad) (style : StrokeStyle) (alpha : FrameAlpha)
    (cover : F) (pos : Nat) (pixels : List Byte) : Option (List Byte) :=
  if !D.positive cover then some pixels
  else blend_at pixels pos fun pixel => match style with
    | .Ink => D.blend_over pixel ink cover alpha
    | .Highlighter => D.tint pixel ink (D.highlighter cover)

/-- A stroke inks it where the stroke reaches. -/
theorem changes_pixel_stroke (hencoding : format.encoding = .EightBitRgba blue_first)
    (points : List (F × F)) (color : Color) (width : F) (style : StrokeStyle)
    (alpha : FrameAlpha) (hreach : reach.contains p.1 p.2) (hp : area.contains p.1 p.2) :
    ChangesPixel area 4 p (inked D (.Stroke points color width style) reach format alpha p)
      (fun pixels => do
        let cover ← (D.stroke_coverage points width reach)[
          (p.2 - reach.y).toNat * reach.width + (p.1 - reach.x).toNat]?
        stroke_pixel D (ordered color blue_first) style alpha cover (pos_of area 4 p) pixels) := by
  obtain ⟨cover, hvalue⟩ := stroke_coverage_at D points width hreach
  simp only [hvalue, Option.bind_eq_bind, Option.bind_some]
  by_cases hcover : (!D.positive cover) = true
  · refine changes_pixel_skip.congr (fun pixel => ?_) fun pixels => if_pos hcover
    simp only [inked, hencoding, hvalue, if_pos hcover, id]
  · refine (changes_pixel_blend hp _).congr (fun pixel => ?_) fun pixels => if_neg hcover
    simp only [inked, hencoding, hvalue, if_neg hcover]

/-- SRC: edit.rs:560-565 -/
theorem changes_pixel_text (hencoding : format.encoding = .EightBitRgba blue_first)
    {left top : I32} {text : String} {size : U32} {color : Color} {mask : GlyphMask}
    (alpha : FrameAlpha) {bounds : Rect}
    (hbounds : (Mark.Text left top text size color mask).bounds D = some bounds)
    (hmark : bounds.contains p.1 p.2) (hp : area.contains p.1 p.2) :
    ChangesPixel area 4 p (inked D (.Text left top text size color mask) reach format alpha p)
      (fun pixels => do
        let value ← mask.coverage[as_usize (p.2 - top.1) * mask.width.1 +
          as_usize (p.1 - left.1)]?
        if value > 0 then
          blend_at pixels (pos_of area 4 p) fun pixel =>
            D.blend_over pixel (ordered color blue_first) (D.of_coverage value) alpha
        else some pixels) := by
  obtain ⟨value, hvalue⟩ := text_coverage hbounds hmark
  simp only [hvalue, Option.bind_eq_bind, Option.bind_some]
  by_cases hcover : value > 0
  · refine (changes_pixel_blend hp _).congr (fun pixel => ?_) fun pixels => if_pos hcover
    simp only [inked, hencoding, hvalue, if_pos hcover]
  · refine changes_pixel_skip.congr (fun pixel => ?_) fun pixels => if_neg hcover
    simp only [inked, hencoding, hvalue, if_neg hcover, id]

/-- SRC: edit.rs:581-585 -/
theorem changes_pixel_arrow (hencoding : format.encoding = .EightBitRgba blue_first)
    {tail tip : F × F} {color : Color} {width : F} (alpha : FrameAlpha)
    {coverage : Int → Int → F} (hshape : D.arrow_coverage tail tip width = some coverage)
    (hp : area.contains p.1 p.2) :
    ChangesPixel area 4 p (inked D (.Arrow tail tip color width) reach format alpha p)
      fun pixels =>
        if D.positive (coverage p.1 p.2) then
          blend_at pixels (pos_of area 4 p) fun pixel =>
            D.blend_over pixel (ordered color blue_first) (coverage p.1 p.2) alpha
        else some pixels := by
  by_cases hcover : D.positive (coverage p.1 p.2)
  · refine (changes_pixel_blend hp _).congr (fun pixel => ?_) fun pixels => if_pos hcover
    simp only [inked, hencoding, hshape, if_pos hcover]
  · refine changes_pixel_skip.congr (fun pixel => ?_) fun pixels => if_neg hcover
    simp only [inked, hencoding, hshape, if_neg hcover, id]

end OnePixel

/-- **Painting, pixel by pixel**: on a tightly packed buffer painting a mark never
panics, keeps the layout, and sends each pixel of the area through `shade`. -/
theorem paint_mark_spec (mark : Mark F) {area : Rect} (hcanvas : Paintable area)
    (format : PixelFormat) (alpha : FrameAlpha) (pixels : List Byte)
    (hpixels : Packed area format.bytes_per_pixel pixels) :
    ∃ pixels', paint_mark D mark pixels (area.width * format.bytes_per_pixel) area format alpha =
        some pixels' ∧
      Packed area format.bytes_per_pixel pixels' ∧
      ∀ q, area.contains q.1 q.2 → pixel_of area format.bytes_per_pixel pixels' q =
        shade D mark area format alpha q (pixel_of area format.bytes_per_pixel pixels q) := by
  cases hbounds : mark.bounds D with
  | none => exact ⟨pixels, by simp [paint_mark, hbounds], hpixels, by simp [shade, hbounds]⟩
  | some bounds =>
  cases hinter : bounds.intersection area with
  | none =>
      exact ⟨pixels, by simp [paint_mark, hbounds, hinter], hpixels,
        by simp [shade, hbounds, hinter]⟩
  | some reach =>
  have hreach := Rect.within_of_intersection hinter
  have hne := (Rect.intersection_eq_some hinter).2.2.2.2
  have harea : ∀ p : Int × Int, reach.contains p.1 p.2 → area.contains p.1 p.2 :=
    fun p hp => hreach.contains hp
  have hmark : ∀ p : Int × Int, reach.contains p.1 p.2 → bounds.contains p.1 p.2 :=
    fun p hp => ((Rect.contains_intersection hinter p.1 p.2).mp hp).1
  simp only [paint_mark, shade, hbounds, Option.bind_some, hinter]
  cases hencoding : format.encoding with
  | HalfFloatRgba =>
      cases mark with
      | Redaction rect =>
          rw [PixelFormat.bytes_per_pixel_of_half_float hencoding] at hpixels ⊢
          simp only
          rw [fill_eq_visit 8 hne hreach hcanvas rfl hpixels _ fun x y h => offset_eq h]
          refine visit_spec hreach hcanvas _ _ (fun p hp => ?_) pixels hpixels
          have hredacted : redacted format = REDACTION_HALF_FLOAT := by simp only [redacted, hencoding]
          exact changes_pixel_redaction 8 rect alpha (harea p hp) rfl hredacted
      | Rectangle | Stroke | Text | Arrow =>
          exact ⟨pixels, rfl, hpixels, by simp [inked, hencoding]⟩
  | EightBitRgba blue_first =>
      rw [PixelFormat.bytes_per_pixel_of_eight_bit hencoding] at hpixels ⊢
      cases mark with
      | Redaction rect =>
          simp only
          rw [fill_eq_visit 4 hne hreach hcanvas rfl hpixels _ fun x y h => offset_eq h]
          refine visit_spec hreach hcanvas _ _ (fun p hp => ?_) pixels hpixels
          have hredacted : redacted format = REDACTION_EIGHT_BIT := by simp only [redacted, hencoding]
          exact changes_pixel_redaction 4 rect alpha (harea p hp) rfl hredacted
      | Rectangle rect color width radius =>
          refine visit_spec hreach hcanvas _ _ (fun p hp => ?_) pixels hpixels
          simp only [offset_eq (harea p hp)]
          exact changes_pixel_rectangle hencoding rect color width radius alpha (harea p hp)
      | Stroke points color width style =>
          have hloop := stroke_loop_eq_visit hreach hcanvas (D.stroke_coverage points width reach)
            (fun pixels p cover => stroke_pixel D (ordered color blue_first) style alpha cover
              (as_usize (p.2 - area.y) * (area.width * 4) + as_usize (p.1 - area.x) * 4) pixels)
            pixels
          obtain ⟨pixels', h, hrest⟩ := visit_spec hreach hcanvas
            (inked D (.Stroke points color width style) reach format alpha)
            (fun pixels p => do
              let cover ← (D.stroke_coverage points width reach)[
                (p.2 - reach.y).toNat * reach.width + (p.1 - reach.x).toNat]?
              stroke_pixel D (ordered color blue_first) style alpha cover
                (as_usize (p.2 - area.y) * (area.width * 4) + as_usize (p.1 - area.x) * 4) pixels)
            (fun p hp => by
              simp only [offset_eq (harea p hp)]
              exact changes_pixel_stroke hencoding points color width style alpha hp (harea p hp))
            pixels hpixels
          exact ⟨pixels', hloop.trans h, hrest⟩
      | Text left top text size color mask =>
          refine visit_spec hreach hcanvas _ _ (fun p hp => ?_) pixels hpixels
          simp only [offset_eq (harea p hp)]
          exact changes_pixel_text hencoding alpha hbounds (hmark p hp) (harea p hp)
      | Arrow tail tip color width =>
          cases hshape : D.arrow_coverage tail tip width with
          | none => exact ⟨pixels, by simp [hshape], hpixels, by simp [inked, hencoding, hshape]⟩
          | some coverage =>
          simp only [hshape]
          refine visit_spec hreach hcanvas _ _ (fun p hp => ?_) pixels hpixels
          simp only [offset_eq (harea p hp)]
          exact changes_pixel_arrow hencoding alpha hshape (harea p hp)

end Shade

end Captastic.Analysis
