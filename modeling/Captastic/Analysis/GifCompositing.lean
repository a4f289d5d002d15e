import Captastic.Model.Playback

/-!
# Compositing a GIF

What a viewer shows after each frame of a GIF, stated on pictures (a colour for each
position) rather than on buffers: frame `0` is drawn over opaque black, and each later
frame over what the one before it left once disposed of (`composite`).  A buffer
`Shows` a picture when its cells are the picture's colours; the reader's two loops,
`fill_rect` and `draw_frame`, are `cleared` and `drawn` on what the buffer shows.
-/

set_option autoImplicit false

namespace Captastic.Analysis

open Captastic.Library Captastic.Model

/-! ## Pictures and the buffers that show them -/

/-- A picture: the four bytes of each position, blue first. -/
abbrev Raster := Nat → Nat → Quad

/-- The opaque black picture. -/
def black : Raster := fun _ _ => ⟨0, 0, 0, 255⟩

/-- The buffer holds `width` by `height` pixels, those of the picture. -/
def Shows (width height : Nat) (canvas : List Byte) (pic : Raster) : Prop :=
  canvas.length = height * (width * 4) ∧
    ∀ x y, x < width → y < height → cell_of width 4 canvas x y = (pic x y).toList

/-- The two pictures agree at every position of a `width` by `height` canvas. -/
def AgreeOn (width height : Nat) (p q : Raster) : Prop :=
  ∀ x y, x < width → y < height → p x y = q x y

/-- Two pixels with the same four bytes are one pixel. -/
theorem Quad.toList_injective {p q : Quad} (h : p.toList = q.toList) : p = q := by
  cases p
  cases q
  simpa [Quad.toList] using h

section Shows

variable {width height : Nat} {canvas canvas' : List Byte} {p q : Raster}

/-- What a canvas shows, it shows of every picture that agrees within its sides. -/
theorem Shows.congr (h : Shows width height canvas p) (hpq : AgreeOn width height p q) :
    Shows width height canvas q :=
  ⟨h.1, fun x y hx hy => by rw [h.2 x y hx hy, hpq x y hx hy]⟩

/-- A buffer shows one picture, as far as its canvas goes. -/
theorem Shows.agree (hp : Shows width height canvas p) (hq : Shows width height canvas q) :
    AgreeOn width height p q := by
  intro x y hx hy
  exact Quad.toList_injective ((hp.2 x y hx hy).symm.trans (hq.2 x y hx hy))

/-- Only one buffer shows a picture. -/
theorem Shows.unique (h : Shows width height canvas p) (h' : Shows width height canvas' p) :
    canvas = canvas' :=
  eq_of_cells h.1 h'.1 fun x y hx hy => by rw [h.2 x y hx hy, h'.2 x y hx hy]

end Shows

/-- The four bytes from `pos`. -/
def quad_at (b : List Byte) (pos : Nat) : Quad :=
  ⟨b.getD pos 0, b.getD (pos + 1) 0, b.getD (pos + 2) 0, b.getD (pos + 3) 0⟩

/-- Four bytes at a place are the pixel read there. -/
theorem slice_at_four {b : List Byte} {pos : Nat} (h : pos + 4 ≤ b.length) :
    slice_at b pos 4 = (quad_at b pos).toList := by
  apply List.ext_getElem?
  intro i
  rw [getElem?_slice_at]
  by_cases hi : i < 4
  · rw [if_pos hi]
    have hget : ∀ k, pos + k < b.length → b[pos + k]? = some (b.getD (pos + k) 0) := by
      intro k hk
      rw [List.getD_eq_getElem?_getD, List.getElem?_eq_getElem hk, Option.getD_some]
    rw [hget i (by omega)]
    match i, hi with
    | 0, _ => rfl
    | 1, _ => rfl
    | 2, _ => rfl
    | 3, _ => rfl
  · rw [if_neg hi, List.getElem?_eq_none (by simp only [Quad.length_toList]; omega)]

/-- The picture of a buffer. -/
def raster_of (width : Nat) (b : List Byte) : Raster :=
  fun x y => quad_at b (cell_at (width * 4) 4 x y)

/-- The picture of a buffer, read off a cell. -/
theorem raster_of_of_cell {width height : Nat} {b : List Byte} {x y : Nat} {q : Quad}
    (hb : b.length = height * (width * 4)) (hx : x < width) (hy : y < height)
    (h : cell_of width 4 b x y = q.toList) : raster_of width b x y = q := by
  refine Quad.toList_injective (Eq.trans ?_ h)
  refine (slice_at_four ?_).symm
  rw [hb]
  exact cell_at_le (Nat.mul_le_mul_right _ hx) hy

/-- Bytes of the right length show the picture read from them. -/
theorem shows_raster_of {width height : Nat} {b : List Byte}
    (hb : b.length = height * (width * 4)) : Shows width height b (raster_of width b) := by
  refine ⟨hb, fun x y hx hy => slice_at_four ?_⟩
  rw [hb]
  exact cell_at_le (Nat.mul_le_mul_right _ hx) hy

/-- The offset of a pixel as the reader computes it. -/
theorem pixel_offset (width x y : Nat) : (y * width + x) * 4 = cell_at (width * 4) 4 x y := by
  rw [cell_at, Nat.add_mul, Nat.mul_assoc]

/-- The canvas a reader starts from shows black everywhere. -/
theorem shows_opaque_black (width height bytes : Nat) (h : bytes = height * (width * 4)) :
    Shows width height (opaque_black bytes) black := by
  have hlen : (opaque_black bytes).length = height * (width * 4) := by
    simp [opaque_black, h]
  refine ⟨hlen, fun x y hx hy => ?_⟩
  have hle : cell_at (width * 4) 4 x y + 4 ≤ bytes := by
    rw [h]
    exact cell_at_le (Nat.mul_le_mul_right _ hx) hy
  rw [← pixel_offset] at hle
  rw [cell_of, slice_at_four (by rw [hlen, ← h, ← pixel_offset]; exact hle), ← pixel_offset]
  have hget : ∀ k, (y * width + x) * 4 + k < bytes →
      (opaque_black bytes).getD ((y * width + x) * 4 + k) 0 = if k % 4 = 3 then 255 else 0 := by
    intro k hk
    rw [List.getD_eq_getElem?_getD, opaque_black, List.getElem?_map, List.getElem?_range hk,
      Option.map_some, Option.getD_some]
    simp only [show ((y * width + x) * 4 + k) % 4 = k % 4 by omega]
  have h₀ := hget 0 (by omega)
  have h₁ := hget 1 (by omega)
  have h₂ := hget 2 (by omega)
  have h₃ := hget 3 (by omega)
  simp only [Nat.add_zero] at h₀
  simp only [quad_at, h₀, h₁, h₂, h₃, black]
  rfl

/-! ## What drawing and clearing a frame do to a picture -/

section Frames

variable {C : Type} (frame : GifFrame C)

/-- The position lies in the frame's rectangle. -/
def covers (x y : Nat) : Prop :=
  (frame.left.toNat ≤ x ∧ x < frame.left.toNat + frame.width.toNat) ∧
    frame.top.toNat ≤ y ∧ y < frame.top.toNat + frame.height.toNat

instance (x y : Nat) : Decidable (covers frame x y) := inferInstanceAs (Decidable (_ ∧ _))

/-- The picture with the frame's rectangle black. -/
def cleared (pic : Raster) : Raster :=
  fun x y => if covers frame x y then ⟨0, 0, 0, 255⟩ else pic x y

/-- The decoded pixel a frame has for a position of its rectangle, red first. -/
def rgba_at (rgba : List Byte) (x y : Nat) : Quad :=
  quad_at rgba (((y - frame.top.toNat) * frame.width.toNat + (x - frame.left.toNat)) * 4)

/-- The picture with the frame's opaque pixels over it. -/
def drawn (rgba : List Byte) (pic : Raster) : Raster := fun x y =>
  if covers frame x y then
    let q := rgba_at frame rgba x y
    if q.b3 = 0 then pic x y else ⟨q.b2, q.b1, q.b0, 255⟩
  else pic x y

variable {width height : Nat} {canvas : List Byte} {pic : Raster}

/-- A box of the frame's rectangle, clipped to the canvas, is where the canvas meets it. -/
theorem covers_clipped {x y : Nat} (hx : x < width) (hy : y < height) :
    ((frame.left.toNat ≤ x ∧ x < frame.left.toNat +
        (min (frame.left.toNat + frame.width.toNat) width - frame.left.toNat)) ∧
      frame.top.toNat ≤ y ∧ y < frame.top.toNat +
        (min (frame.top.toNat + frame.height.toNat) height - frame.top.toNat)) ↔
      covers frame x y := by
  simp only [covers]
  omega

/-- `fill_rect` clears what the canvas shows.
SRC: playback.rs:390-400 -/
theorem fill_rect_spec (h : Shows width height canvas pic) :
    ∃ canvas', fill_rect canvas width height frame = some canvas' ∧
      Shows width height canvas' (cleared frame pic) := by
  obtain ⟨canvas', hfill, hlen, hget⟩ := paint_cells width height 4
    frame.left.toNat (min (frame.left.toNat + frame.width.toNat) width - frame.left.toNat)
    frame.top.toNat (min (frame.top.toNat + frame.height.toNat) height - frame.top.toNat)
    (by omega) (by omega)
    (fun b x y => write? b ((y * width + x) * 4) [0, 0, 0, 255])
    (fun _ _ _ => [0, 0, 0, 255])
    (fun b x y hx hy hb => by
      rw [pixel_offset]
      exact write_cell hb (by omega) (by omega) rfl)
    canvas h.1
  refine ⟨canvas', hfill, hlen, fun x y hx hy => ?_⟩
  rw [hget x y hx hy, cleared]
  simp only [covers_clipped frame hx hy]
  split
  · rfl
  · exact h.2 x y hx hy

/-- The decoded pixel the drawing loop reads is there.
SRC: playback.rs:313-314 -/
theorem slice_rgba {rgba : List Byte}
    (hrgba : rgba.length = frame.height.toNat * (frame.width.toNat * 4)) {x y : Nat}
    (hxy : covers frame x y) :
    slice? rgba (((y - frame.top.toNat) * frame.width.toNat + (x - frame.left.toNat)) * 4) 4 =
      some (rgba_at frame rgba x y).toList := by
  simp only [covers] at hxy
  have hle : ((y - frame.top.toNat) * frame.width.toNat + (x - frame.left.toNat)) * 4 + 4 ≤
      rgba.length := by
    rw [hrgba, pixel_offset]
    exact cell_at_le (Nat.mul_le_mul_right _ (by omega)) (by omega)
  rw [slice?_eq _ _ _ hle, slice_at_four hle, rgba_at]

/-- What the loop does to the canvas with one pixel of the frame.
SRC: playback.rs:309-318 -/
def draw_pixel (pixel : Option (List Byte)) (canvas : List Byte) (offset : Nat) :
    Option (List Byte) :=
  match pixel with
  | some [r, g, b, a] => if a = 0 then some canvas else write? canvas offset [b, g, r, 255]
  | _ => none

/-- `draw_frame` draws over what the canvas shows.
SRC: playback.rs:301-321 -/
theorem draw_frame_spec {rgba : List Byte}
    (hrgba : rgba.length = frame.height.toNat * (frame.width.toNat * 4))
    (h : Shows width height canvas pic) :
    ∃ canvas', draw_frame canvas rgba width height frame = some canvas' ∧
      Shows width height canvas' (drawn frame rgba pic) := by
  -- The loops count from the frame's corner; as loops over canvas positions they are these.
  have hloops : draw_frame canvas rgba width height frame =
      (List.range' frame.top.toNat (min frame.height.toNat (height - frame.top.toNat))).foldlM
        (fun canvas y => (List.range' frame.left.toNat
          (min frame.width.toNat (width - frame.left.toNat))).foldlM (fun canvas x =>
            draw_pixel (slice? rgba
              (((y - frame.top.toNat) * frame.width.toNat + (x - frame.left.toNat)) * 4) 4)
              canvas ((y * width + x) * 4)) canvas) canvas := by
    rw [draw_frame, ← foldlM_takeWhile]
    simp only [← foldlM_takeWhile, Nat.add_sub_cancel_left]
    rfl
  obtain ⟨canvas', hdraw, hlen, hget⟩ := paint_cells width height 4
    frame.left.toNat (min frame.width.toNat (width - frame.left.toNat))
    frame.top.toNat (min frame.height.toNat (height - frame.top.toNat)) (by omega) (by omega)
    (fun canvas x y => draw_pixel (slice? rgba
      (((y - frame.top.toNat) * frame.width.toNat + (x - frame.left.toNat)) * 4) 4)
      canvas ((y * width + x) * 4))
    (fun x y pixel =>
      let q := rgba_at frame rgba x y
      if q.b3 = 0 then pixel else [q.b2, q.b1, q.b0, 255])
    (fun b x y hx hy hb => by
      have hxy : covers frame x y := by
        simp only [covers]
        omega
      rw [slice_rgba frame hrgba hxy]
      simp only [draw_pixel, Quad.toList]
      by_cases ha : (rgba_at frame rgba x y).b3 = 0
      · simp only [if_pos ha]
        exact ⟨b, rfl, hb, rfl, fun _ _ _ _ => rfl⟩
      · simp only [if_neg ha, pixel_offset]
        exact write_cell hb (by omega) (by omega) rfl)
    canvas h.1
  refine ⟨canvas', hloops.trans hdraw, hlen, fun x y hx hy => ?_⟩
  have hbox : ((frame.left.toNat ≤ x ∧ x < frame.left.toNat +
      min frame.width.toNat (width - frame.left.toNat)) ∧ frame.top.toNat ≤ y ∧
      y < frame.top.toNat + min frame.height.toNat (height - frame.top.toNat)) ↔
      covers frame x y := by
    simp only [covers]
    omega
  rw [hget x y hx hy, drawn]
  simp only [hbox, h.2 x y hx hy]
  split
  · split <;> rfl
  · rfl

end Frames

/-! ## The picture after each frame -/

section Composite

variable {C : Type} (D : GifDecoder C)

/-- The picture a frame leaves for the next one to be drawn over. -/
def disposed_of (frame : GifFrame C) (pic : Raster) : Raster :=
  if frame.dispose = .Background then cleared frame pic else pic

/-- The frame drawn over a picture, if it decodes. -/
def drawn_over (frame : GifFrame C) (pic : Raster) : Option Raster :=
  match D.decode frame with
  | .ok rgba => some (drawn frame rgba pic)
  | .error _ => none

/-- **Sequential playback**: frames `0..=index` composited in order from opaque black,
when all of them decode. -/
def composite (frames : List (GifFrame C)) : Nat → Option Raster
  | 0 => do drawn_over D (← frames[0]?) black
  | index + 1 => do
    let pic ← composite frames index
    drawn_over D (← frames[index + 1]?) (disposed_of (← frames[index]?) pic)

variable {frames : List (GifFrame C)} {index : Nat} {pic : Raster}

/-- The first frame is drawn over black. -/
theorem composite_zero {frame : GifFrame C} (h : frames[0]? = some frame) :
    composite D frames 0 = drawn_over D frame black := by
  simp [composite, h]

/-- A later frame is drawn over what its predecessor's disposal leaves. -/
theorem composite_succ {previous frame : GifFrame C} (h : composite D frames index = some pic)
    (hp : frames[index]? = some previous) (hf : frames[index + 1]? = some frame) :
    composite D frames (index + 1) = drawn_over D frame (disposed_of previous pic) := by
  simp [composite, h, hp, hf]

/-- Where a frame has a picture, the frame before it has one. -/
theorem composite_pred (h : composite D frames (index + 1) = some pic) :
    ∃ pic', composite D frames index = some pic' := by
  rw [composite] at h
  cases hc : composite D frames index with
  | none => simp [hc] at h
  | some pic' => exact ⟨pic', rfl⟩

/-- The frames before one that has a picture have one too. -/
theorem composite_of_le {k : Nat} (h : composite D frames index = some pic) (hk : k ≤ index) :
    ∃ pic', composite D frames k = some pic' := by
  induction index generalizing pic with
  | zero =>
      obtain rfl : k = 0 := by omega
      exact ⟨pic, h⟩
  | succ index ih =>
      rcases Nat.eq_or_lt_of_le hk with rfl | hlt
      · exact ⟨pic, h⟩
      · obtain ⟨pic', h'⟩ := composite_pred D h
        exact ih h' (by omega)

/-- A picture after a frame means that the frame is there and decodes. -/
theorem decode_of_composite (h : composite D frames index = some pic) :
    ∃ frame rgba, frames[index]? = some frame ∧ D.decode frame = .ok rgba := by
  have hdrawn : ∀ (frame : GifFrame C) (below : Raster), drawn_over D frame below = some pic →
      ∃ rgba, D.decode frame = .ok rgba := by
    intro frame below h
    cases hd : D.decode frame with
    | ok rgba => exact ⟨rgba, rfl⟩
    | error error => simp [drawn_over, hd] at h
  cases index with
  | zero =>
      cases hf : frames[0]? with
      | none => simp [composite, hf] at h
      | some frame =>
          rw [composite_zero D hf] at h
          obtain ⟨rgba, hd⟩ := hdrawn frame _ h
          exact ⟨frame, rgba, rfl, hd⟩
  | succ index =>
      obtain ⟨pic', hc⟩ := composite_pred D h
      cases hp : frames[index]? with
      | none => simp [composite, hc, hp] at h
      | some previous =>
          cases hf : frames[index + 1]? with
          | none => simp [composite, hc, hp, hf] at h
          | some frame =>
              rw [composite_succ D hc hp hf] at h
              obtain ⟨rgba, hd⟩ := hdrawn frame _ h
              exact ⟨frame, rgba, rfl, hd⟩

end Composite

end Captastic.Analysis
