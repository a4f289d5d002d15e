import Captastic.Analysis.ChangedBox
import Captastic.Analysis.GifPlayback
import Mathlib.Data.List.Destutter

/-!
# What a recording's GIF plays back

The writer stores of each picture the box that changed since the last one it kept, with
the unchanged pixels transparent; the reader draws such a frame over the picture before
it.  So a frame the writer makes turns the previous picture into its own
(`frame_for_encodes`), the frames written so far play back the pictures kept so far
(`Stored`, `composite_of_stored`), and a whole recording plays back the pushed pictures
with each run of pictures of the same colours collapsed to its first
(`gif_round_trip`).
-/

set_option autoImplicit false

namespace Captastic.Analysis

open Captastic.Library Captastic.Model

variable {C W : Type}

/-! ## Colours -/

/-- What a recording shows of a buffer of pixels: its colours, opaque. -/
def shown (width : Nat) (b : List Byte) : Raster := fun x y =>
  let q := raster_of width b x y
  ⟨q.b0, q.b1, q.b2, 255⟩

/-- The two buffers have the same colours. -/
def same_colours (width height : Nat) (a b : List Byte) : Bool :=
  (List.range height).all fun y => (List.range width).all fun x =>
    rgb_at width a x y == rgb_at width b x y

/-- Pictures in order, with each run of the same colours collapsed to its first. -/
def collapse (width height : Nat) (pictures : List (List Byte)) : List (List Byte) :=
  pictures.destutter fun a b => same_colours width height a b = false

/-- The comparison passes exactly where every pixel's colour agrees. -/
theorem same_colours_iff {width height : Nat} {a b : List Byte} :
    same_colours width height a b = true ↔
      ∀ x y, x < width → y < height → rgb_at width a x y = rgb_at width b x y := by
  simp only [same_colours, List.all_eq_true, List.mem_range, beq_iff_eq]
  exact ⟨fun h x y hx hy => h y hy x hx, fun h y hy x hx => h x y hx hy⟩

section Colours

variable {width height : Nat} {b : List Byte} {x y : Nat}

/-- A pixel within the sides lies within the bytes. -/
theorem pixel_le (hb : b.length = height * (width * 4)) (hx : x < width) (hy : y < height) :
    cell_at (width * 4) 4 x y + 4 ≤ b.length := by
  rw [hb]
  exact cell_at_le (Nat.mul_le_mul_right _ hx) hy

/-- The colour bytes of a pixel are the first three of its four. -/
theorem rgb_at_eq (hb : b.length = height * (width * 4)) (hx : x < width) (hy : y < height) :
    rgb_at width b x y = [(raster_of width b x y).b0, (raster_of width b x y).b1,
      (raster_of width b x y).b2] := by
  have h := slice_at_four (pixel_le hb hx hy)
  have h₃ := congrArg (List.take 3) h
  rw [slice_at, List.take_take] at h₃
  exact h₃

/-- Pixels of the same colour are shown the same. -/
theorem shown_congr {c : List Byte} (hb : b.length = height * (width * 4))
    (hc : c.length = height * (width * 4)) (hx : x < width) (hy : y < height)
    (h : rgb_at width b x y = rgb_at width c x y) : shown width b x y = shown width c x y := by
  rw [rgb_at_eq hb hx hy, rgb_at_eq hc hx hy] at h
  simp only [List.cons.injEq, and_true] at h
  obtain ⟨h₀, h₁, h₂⟩ := h
  simp only [shown, h₀, h₁, h₂]

end Colours

/-! ## A lossless codec -/

/-- The palette and LZW stages lose nothing: what `from_rgba_speed` makes of pixels that are
each transparent or opaque decodes, at any position and delay, to transparent pixels
where they were transparent and to the same opaque pixels elsewhere. -/
def Lossless (K : GifCodec C) : Prop :=
  ∀ (frame : GifFrame C) (rgba : List Byte) (speed : Int),
    rgba.length = frame.height.toNat * (frame.width.toNat * 4) →
    (∀ x y, x < frame.width.toNat → y < frame.height.toNat →
      (raster_of frame.width.toNat rgba x y).b3 = 0 ∨
        (raster_of frame.width.toNat rgba x y).b3 = 255) →
    frame.data = K.from_rgba_speed frame.width frame.height rgba speed →
    ∃ out, K.decode frame = .ok out ∧ ∀ x y, x < frame.width.toNat → y < frame.height.toNat →
      ((raster_of frame.width.toNat rgba x y).b3 = 0 →
        (raster_of frame.width.toNat out x y).b3 = 0) ∧
      ((raster_of frame.width.toNat rgba x y).b3 = 255 →
        raster_of frame.width.toNat out x y = raster_of frame.width.toNat rgba x y)

/-! ## One frame -/

section Frame

variable (K : GifCodec C)

/-- `frame` is kept on screen and turns what `previous` shows into what `picture` shows;
with no previous picture it does so over anything. -/
def Encodes (width height : Nat) (previous : Option (List Byte)) (frame : GifFrame C)
    (picture : List Byte) : Prop :=
  frame.dispose = .Keep ∧ ∀ below : Raster,
    (∀ p, previous = some p → AgreeOn width height below (shown width p)) →
    ∃ pic, drawn_over K.toGifDecoder frame below = some pic ∧
      AgreeOn width height pic (shown width picture)

/-- A stored pixel is transparent when its colour is unchanged, and its colour red first
otherwise.
SRC: animation.rs:166-175 -/
theorem stored_pixel_cases (w : GifWriter C W) (bgra : List Byte) (x y : Nat) :
    ((∃ p, w.previous = some p ∧ rgb_at w.width p x y = rgb_at w.width bgra x y) ∧
      w.stored_pixel bgra x y = (⟨0, 0, 0, 0⟩ : Quad).toList) ∨
    w.stored_pixel bgra x y = (⟨(raster_of w.width bgra x y).b2, (raster_of w.width bgra x y).b1,
      (raster_of w.width bgra x y).b0, 255⟩ : Quad).toList := by
  simp only [GifWriter.stored_pixel, pixel_offset]
  cases w.previous with
  | none => exact Or.inr rfl
  | some p =>
      by_cases hsame : rgb_at w.width p x y = rgb_at w.width bgra x y
      · refine Or.inl ⟨⟨p, rfl, hsame⟩, ?_⟩
        rw [rgb_at, rgb_at] at hsame
        simp only [hsame, beq_self_eq_true, if_true]
        rfl
      · refine Or.inr ?_
        rw [rgb_at, rgb_at] at hsame
        simp only [beq_eq_false_iff_ne.mpr hsame, Bool.false_eq_true, if_false]
        rfl

variable {K}

/-- **A frame encodes its picture**: made of a box that fits the picture and covers every
pixel whose colour changed, it turns the previous picture into the new one. -/
theorem frame_for_encodes (hlossless : Lossless K) {w : GifWriter C W} {height : Nat}
    {bgra : List Byte} {region : Box} (hsides : w.width ≤ 65535 ∧ height ≤ 65535)
    (hfits : Box.Fits region w.width height) (hbgra : bgra.length = height * (w.width * 4))
    (hprevious : ∀ p, w.previous = some p → p.length = height * (w.width * 4))
    (hcovers : ∀ x y, x < w.width → y < height →
      Box.Covers region x y ∨ ∃ p, w.previous = some p ∧
        rgb_at w.width p x y = rgb_at w.width bgra x y) (delay : UInt16) :
    Encodes K w.width height w.previous { w.frame_for K bgra region with delay } bgra := by
  obtain ⟨hleft, hright, htop, hbottom⟩ := hfits
  obtain ⟨hw, hh⟩ := hsides
  refine ⟨rfl, fun below hbelow => ?_⟩
  set frame : GifFrame C := { w.frame_for K bgra region with delay } with hframe
  have hfw : frame.width.toNat = region.width :=
    UInt16.toNat_ofNat_of_lt' (by simp only [Box.width, UInt16.size]; omega)
  have hfh : frame.height.toNat = region.height :=
    UInt16.toNat_ofNat_of_lt' (by simp only [Box.height, UInt16.size]; omega)
  have hfl : frame.left.toNat = region.left :=
    UInt16.toNat_ofNat_of_lt' (by simp only [UInt16.size]; omega)
  have hft : frame.top.toNat = region.top :=
    UInt16.toNat_ofNat_of_lt' (by simp only [UInt16.size]; omega)
  obtain ⟨hlen, hcells⟩ := build_cells region.left region.top region.width region.height
    (show ∀ x y, (w.stored_pixel bgra x y).length = 4 by
      intro x y
      rcases stored_pixel_cases w bgra x y with ⟨-, h⟩ | h <;> rw [h] <;> rfl)
  set rgba := (List.range' region.top region.height).flatMap fun y =>
    (List.range' region.left region.width).flatMap fun x => w.stored_pixel bgra x y
  have hpixel : ∀ x y (q : Quad), x < region.width → y < region.height →
      w.stored_pixel bgra (region.left + x) (region.top + y) = q.toList →
      raster_of region.width rgba x y = q := by
    intro x y q hx hy hq
    exact raster_of_of_cell hlen hx hy ((hcells x y hx hy).trans hq)
  obtain ⟨out, hout, hpixels⟩ := hlossless frame rgba QUANTIZER_SPEED (by rw [hfw, hfh]; exact hlen)
    (by
      intro x y hx hy
      rw [hfw] at hx ⊢
      rw [hfh] at hy
      rcases stored_pixel_cases w bgra (region.left + x) (region.top + y) with ⟨-, h⟩ | h
      · exact Or.inl (by rw [hpixel x y _ hx hy h])
      · exact Or.inr (by rw [hpixel x y _ hx hy h]))
    rfl
  rw [hfw, hfh] at hpixels
  refine ⟨drawn frame out below, by rw [drawn_over, hout], fun x y hx hy => ?_⟩
  -- An unchanged pixel shows what was there.
  have hunchanged : (∃ p, w.previous = some p ∧ rgb_at w.width p x y = rgb_at w.width bgra x y) →
      below x y = shown w.width bgra x y := by
    rintro ⟨p, hp, hsame⟩
    rw [hbelow p hp x y hx hy]
    exact shown_congr (hprevious p hp) hbgra hx hy hsame
  rw [drawn]
  by_cases hin : Box.Covers region x y
  · have hframe_covers : covers frame x y := by
      simp only [covers, hfl, hft, hfw, hfh, Box.Covers, Box.width, Box.height] at hin ⊢
      omega
    simp only [Box.Covers] at hin
    have hx' : x - region.left < region.width := by simp only [Box.width]; omega
    have hy' : y - region.top < region.height := by simp only [Box.height]; omega
    rw [if_pos hframe_covers]
    simp only [rgba_at, hfl, hft, hfw, pixel_offset]
    obtain ⟨htransparent, hsolid⟩ := hpixels _ _ hx' hy'
    simp only [raster_of] at htransparent hsolid
    have hstored := stored_pixel_cases w bgra (region.left + (x - region.left))
      (region.top + (y - region.top))
    have hback := hpixel (x - region.left) (y - region.top)
    rw [show region.left + (x - region.left) = x by omega,
      show region.top + (y - region.top) = y by omega] at hstored hback
    simp only [raster_of] at hback
    rcases hstored with ⟨hsame, h⟩ | h
    · have hq := hback _ hx' hy' h
      rw [if_pos (htransparent (by rw [hq]))]
      exact hunchanged hsame
    · have hq := hback _ hx' hy' h
      rw [hsolid (by rw [hq]), hq, if_neg (show ¬ (255 : Byte) = 0 by decide)]
      rfl
  · have hframe_covers : ¬ covers frame x y := by
      simp only [covers, hfl, hft, hfw, hfh, Box.Covers, Box.width, Box.height] at hin ⊢
      omega
    rw [if_neg hframe_covers]
    rcases hcovers x y hx hy with h | h
    · exact absurd h hin
    · exact hunchanged h

end Frame

/-! ## The frames written so far -/

section Writer

variable (K : GifCodec C) (E : GifEncoder C W)

/-- The frames play back the pictures, each over the one before. -/
inductive Stored (width height : Nat) : List (GifFrame C) → List (List Byte) → Prop
  | nil : Stored width height [] []
  | snoc {frames pictures frame picture} (h : Stored width height frames pictures)
      (hframe : Encodes K width height pictures.getLast? frame picture) :
      Stored width height (frames ++ [frame]) (pictures ++ [picture])

variable {K} {width height : Nat} {frames : List (GifFrame C)} {pictures : List (List Byte)}

/-- There are as many frames as pictures kept. -/
theorem Stored.length_eq (h : Stored K width height frames pictures) :
    frames.length = pictures.length := by
  induction h with
  | nil => rfl
  | snoc _ _ ih => simp [ih]

/-- Every frame written is left in place. -/
theorem Stored.dispose_keep (h : Stored K width height frames pictures) :
    ∀ frame ∈ frames, frame.dispose = .Keep := by
  induction h with
  | nil => simp
  | snoc _ hframe ih =>
      intro frame hmem
      rcases List.mem_append.mp hmem with hmem | hmem
      · exact ih frame hmem
      · rw [List.mem_singleton.mp hmem]
        exact hframe.1

/-- Frames appended to a GIF do not change the pictures before them. -/
theorem composite_append (D : GifDecoder C) (frames more : List (GifFrame C)) {k : Nat}
    (hk : k < frames.length) : composite D (frames ++ more) k = composite D frames k := by
  induction k with
  | zero => simp only [composite, List.getElem?_append_left hk]
  | succ k ih =>
      simp only [composite, ih (by omega), List.getElem?_append_left hk,
        List.getElem?_append_left (show k < frames.length by omega)]

/-- **Playback of stored frames**: the composited picture after frame `k` shows the `k`-th
picture. -/
theorem composite_of_stored (h : Stored K width height frames pictures) {k : Nat}
    {picture : List Byte} (hk : pictures[k]? = some picture) :
    ∃ pic, composite K.toGifDecoder frames k = some pic ∧
      AgreeOn width height pic (shown width picture) := by
  induction h generalizing k picture with
  | nil => simp at hk
  | @snoc frames pictures frame last h hframe ih =>
      have hlen := h.length_eq
      have hlt : k < pictures.length + 1 := by
        have := (List.getElem?_eq_some_iff.mp hk).1
        simpa using this
      rcases Nat.lt_succ_iff_lt_or_eq.mp hlt with hlt | rfl
      · rw [List.getElem?_append_left hlt] at hk
        rw [composite_append _ _ _ (by omega)]
        exact ih hk
      · obtain rfl : last = picture := by simpa using hk
        have hget : (frames ++ [frame])[pictures.length]? = some frame := by
          rw [← hlen]
          exact List.getElem?_concat_length
        cases hn : pictures.length with
        | zero =>
            obtain rfl : pictures = [] := List.length_eq_zero_iff.mp hn
            obtain ⟨pic, hpic, hagree⟩ := hframe.2 black (by simp)
            exact ⟨pic, by rw [composite_zero _ (by simpa using hget), hpic], hagree⟩
        | succ m =>
            obtain ⟨previous, hprevious⟩ : ∃ previous, pictures[m]? = some previous :=
              ⟨_, List.getElem?_eq_getElem (by omega)⟩
            obtain ⟨before, hbefore⟩ : ∃ before, frames[m]? = some before :=
              ⟨_, List.getElem?_eq_getElem (by omega)⟩
            obtain ⟨below, hbelow, hshown⟩ := ih hprevious
            have hlast : pictures.getLast? = some previous := by
              rw [List.getLast?_eq_getElem?, hn]
              exact hprevious
            obtain ⟨pic, hpic, hagree⟩ := hframe.2 below (by
              rintro p hp
              obtain rfl : previous = p := Option.some.inj (hlast.symm.trans hp)
              exact hshown)
            refine ⟨pic, ?_, hagree⟩
            rw [hn] at hget
            have hbelow' : composite K.toGifDecoder (frames ++ [frame]) m = some below := by
              rw [composite_append _ _ _ (by omega), hbelow]
            have hbefore' : (frames ++ [frame])[m]? = some before := by
              rw [List.getElem?_append_left (by omega), hbefore]
            rw [composite_succ _ hbelow' hbefore' hget, disposed_of,
              h.dispose_keep before (List.mem_of_getElem? hbefore), if_neg (by decide), hpic]

/-! ## One push -/

/-- Every frame the encoder is given is written. -/
def Accepts (E : GifEncoder C W) : Prop :=
  (∀ width height, ∃ w, E.create width height = .ok w) ∧
    (∀ w frame, ∃ w', E.write_frame w frame = .ok w') ∧ ∀ w, ∃ w', E.into_inner w = .ok w'

variable (K) in
/-- The writer's invariant: it has been given `received` pictures and kept `pictures` of
them; the last one is held back, and the others are stored. -/
structure WriterInv (width height : Nat) (w : GifWriter C W) (pictures : List (List Byte))
    (received : Nat) : Prop where
  width_eq : w.width = width
  height_eq : w.height = height
  received_eq : w.summary.frames_received = received
  written_eq : w.summary.frames_written = (E.stored w.encoder).length
  previous_eq : w.previous = pictures.getLast?
  sizes : ∀ p ∈ pictures, p.length = height * (width * 4)
  held : (pictures = [] ∧ w.pending = none ∧ E.stored w.encoder = []) ∨
    ∃ kept last frame, pictures = kept ++ [last] ∧ w.pending = some frame ∧
      Stored K width height (E.stored w.encoder) kept ∧
      ∀ delay, Encodes K width height kept.getLast? { frame with delay } last

/-- A frame that is written is stored, with some delay, and nothing else changes.
SRC: animation.rs:145-156 -/
theorem write_spec (w : GifWriter C W) (pending : GifFrame C) (shown_until : Duration) :
    ∃ w' res, w.write E pending shown_until = (w', res) ∧ (Accepts E → res = .ok ()) ∧
      (res = .ok () → (∃ delay, E.stored w'.encoder = E.stored w.encoder ++ [{ pending with delay }]) ∧
        w'.width = w.width ∧ w'.height = w.height ∧ w'.previous = w.previous ∧
        w'.summary.frames_received = w.summary.frames_received ∧
        w'.summary.frames_written = w.summary.frames_written + 1) := by
  simp only [GifWriter.write]
  split
  · rename_i message hmessage
    refine ⟨_, _, rfl, fun haccepts => ?_, by simp⟩
    obtain ⟨w', hw'⟩ := haccepts.2.1 w.encoder _
    rw [hmessage] at hw'
    cases hw'
  · rename_i encoder hencoder
    exact ⟨_, _, rfl, fun _ => rfl, fun _ =>
      ⟨⟨_, E.stored_write_frame _ _ _ hencoder⟩, rfl, rfl, rfl, rfl, rfl⟩⟩

/-- The pictures kept once `bgra` is pushed. -/
def keep (width height : Nat) (pictures : List (List Byte)) (bgra : List Byte) :
    List (List Byte) :=
  match pictures.getLast? with
  | none => [bgra]
  | some last => if same_colours width height last bgra = false then pictures ++ [bgra] else pictures

/-- A picture unlike the last is kept beside the others. -/
theorem keep_eq_append {bgra : List Byte}
    (h : ∀ last, pictures.getLast? = some last → same_colours width height last bgra = false) :
    keep width height pictures bgra = pictures ++ [bgra] := by
  rw [keep]
  cases hlast : pictures.getLast? with
  | none =>
      rw [List.getLast?_eq_none_iff.mp hlast]
      rfl
  | some last => exact if_pos (h last hlast)

/-- **The step lemma**: a push of a picture of the right size keeps the invariant.
SRC: animation.rs:98-131 -/
theorem push_spec (hlossless : Lossless K)
    (hsides : (0 < width ∧ width ≤ 65535) ∧ 0 < height ∧ height ≤ 65535) {w : GifWriter C W}
    {received : Nat} (h : WriterInv K E width height w pictures received) {bgra : List Byte}
    (hbgra : bgra.length = height * (width * 4)) (pos : Duration) :
    ∃ w' res, w.push K E bgra pos = (w', res) ∧ (Accepts E → res = .ok ()) ∧
      (res = .ok () →
        WriterInv K E width height w' (keep width height pictures bgra) (received + 1)) := by
  obtain ⟨rfl, rfl⟩ : w.width = width ∧ w.height = height := ⟨h.width_eq, h.height_eq⟩
  have hexpected : ¬ bgra.length ≠ w.width * w.height * 4 := by
    rw [not_not, hbgra, Nat.mul_assoc, Nat.mul_left_comm]
  have hsizes : ∀ p, w.previous = some p → p.length = w.height * (w.width * 4) := by
    intro p hp
    rw [h.previous_eq] at hp
    exact h.sizes p (List.mem_of_getLast? hp)
  have hsizes' : ∀ p ∈ pictures ++ [bgra], p.length = w.height * (w.width * 4) := by
    intro p hp
    rcases List.mem_append.mp hp with hp | hp
    · exact h.sizes p hp
    · rwa [List.mem_singleton.mp hp]
  simp only [GifWriter.push]
  rw [if_neg hexpected]
  -- The writer once the frame has been counted.
  set w₁ : GifWriter C W := { w with
    first_at := some (w.first_at.getD pos),
    summary.frames_received := w.summary.frames_received + 1 } with hw₁
  have hreceived : w₁.summary.frames_received = received + 1 := by
    rw [hw₁, h.received_eq]
  have hencodes : ∀ {region : Box}, Box.Fits region w.width w.height →
      (∀ x y, x < w.width → y < w.height → Box.Covers region x y ∨ ∃ p, w.previous = some p ∧
        rgb_at w.width p x y = rgb_at w.width bgra x y) → ∀ delay,
      Encodes K w.width w.height w.previous { w₁.frame_for K bgra region with delay } bgra :=
    fun hfits hcovers delay => frame_for_encodes (w := w₁) hlossless ⟨hsides.1.2, hsides.2.2⟩
      hfits hbgra hsizes hcovers delay
  cases hprevious : w.previous with
  | none =>
      have hnil : pictures = [] := by
        rw [h.previous_eq] at hprevious
        exact List.getLast?_eq_none_iff.mp hprevious
      subst hnil
      obtain ⟨-, hpending, hstored⟩ | ⟨kept, last, frame, hkept, -⟩ := h.held
      · simp only [hpending]
        refine ⟨_, _, rfl, fun _ => rfl, fun _ => ⟨rfl, rfl, hreceived, h.written_eq, rfl, hsizes',
          Or.inr ⟨[], bgra, _, rfl, rfl, ?_, ?_⟩⟩⟩
        · show Stored K _ _ (E.stored w.encoder) []
          rw [hstored]
          exact Stored.nil
        · rw [hprevious] at hencodes
          exact hencodes ⟨hsides.1.1, le_refl _, hsides.2.1, le_refl _⟩ fun x y hx hy =>
            Or.inl ⟨⟨Nat.zero_le _, hx⟩, Nat.zero_le _, hy⟩
      · simp at hkept
  | some a =>
      obtain ⟨hnil, -⟩ | ⟨kept, last, frame, rfl, hpending, hstored, hheld⟩ := h.held
      · rw [h.previous_eq, hnil] at hprevious
        cases hprevious
      obtain rfl : last = a := by
        rw [h.previous_eq, List.getLast?_concat] at hprevious
        exact Option.some.inj hprevious
      obtain ⟨hsame, hdiffer⟩ := changed_box_spec last bgra w.width w.height
      simp only
      cases hbox : changed_box last bgra w.width w.height with
      | none =>
          have hkeep : keep w.width w.height (kept ++ [last]) bgra = kept ++ [last] := by
            rw [keep, List.getLast?_concat]
            simp only
            rw [if_neg]
            simpa using same_colours_iff.mpr (hsame hbox)
          rw [hkeep]
          exact ⟨w₁, _, rfl, fun _ => rfl, fun _ => ⟨rfl, rfl, hreceived, h.written_eq,
            h.previous_eq, h.sizes, h.held⟩⟩
      | some region =>
          obtain ⟨hfits, ⟨x, y, hx, hy, hne⟩, hcovers⟩ := hdiffer region hbox
          rw [keep_eq_append fun p hp => ?_]
          · simp only [hpending]
            obtain ⟨w', res, hwrite, haccepts, hok⟩ := write_spec E
              { w with first_at := some (w.first_at.getD pos),
                       summary.frames_received := w.summary.frames_received + 1,
                       previous := some bgra, pending := none } frame (pos - w.first_at.getD pos)
            rw [hwrite]
            cases res with
            | error error => exact ⟨w', .error error, rfl, haccepts, by simp⟩
            | ok u =>
                obtain ⟨⟨delay, hdelay⟩, hwidth, hheight, hprev, hrec, hwritten⟩ := hok rfl
                refine ⟨_, _, rfl, fun _ => rfl, fun _ => ⟨hwidth, hheight, hrec.trans hreceived, ?_,
                  ?_, hsizes', Or.inr ⟨kept ++ [last], bgra, _, rfl, rfl, ?_, ?_⟩⟩⟩
                · show w'.summary.frames_written = (E.stored w'.encoder).length
                  rw [hwritten, hdelay, List.length_append]
                  exact congrArg (· + 1) h.written_eq
                · rw [List.getLast?_concat]
                  exact hprev
                · show Stored K _ _ (E.stored w'.encoder) (kept ++ [last])
                  rw [hdelay]
                  exact Stored.snoc hstored (hheld delay)
                · rw [List.getLast?_concat, ← hprevious]
                  refine hencodes hfits fun x y hx hy => ?_
                  by_cases hrgb : rgb_at w.width last x y = rgb_at w.width bgra x y
                  · exact Or.inr ⟨last, hprevious, hrgb⟩
                  · exact Or.inl (hcovers x y hx hy hrgb)
          · rw [List.getLast?_concat] at hp
            obtain rfl := Option.some.inj hp
            rw [← Bool.not_eq_true, same_colours_iff]
            exact fun hall => hne (hall x y hx hy)

/-! ## A whole recording -/

/-- A writer is made for accepted sides where the encoder takes them, and has nothing written. -/
theorem new_spec (hsides : (0 < width ∧ width ≤ 65535) ∧ 0 < height ∧ height ≤ 65535) :
    (Accepts E → ∃ w, GifWriter.new E width height = .ok w) ∧
      ∀ w, GifWriter.new E width height = .ok w → WriterInv K E width height w [] 0 := by
  rw [GifWriter.new, if_neg (by omega), if_neg (by omega)]
  cases hcreate : E.create (UInt16.ofNat width) (UInt16.ofNat height) with
  | error message =>
      refine ⟨fun haccepts => ?_, by simp⟩
      obtain ⟨w, hw⟩ := haccepts.1 (UInt16.ofNat width) (UInt16.ofNat height)
      rw [hcreate] at hw
      cases hw
  | ok encoder =>
      have hstored := E.stored_create _ _ _ hcreate
      refine ⟨fun _ => ⟨_, rfl⟩, ?_⟩
      rintro w ⟨⟩
      exact ⟨rfl, rfl, rfl, by simp [hstored], rfl, by simp, Or.inl ⟨rfl, rfl, hstored⟩⟩

/-- **The run lemma**: pushing pictures of the right size keeps the invariant. -/
theorem push_all_spec (hlossless : Lossless K)
    (hsides : (0 < width ∧ width ≤ 65535) ∧ 0 < height ∧ height ≤ 65535)
    (pushes : List (List Byte × Duration))
    (hsize : ∀ push ∈ pushes, push.1.length = height * (width * 4)) {w : GifWriter C W}
    {received : Nat} (h : WriterInv K E width height w pictures received) :
    (Accepts E → ∃ w', GifWriter.push_all K E w pushes = .ok w') ∧
      ∀ w', GifWriter.push_all K E w pushes = .ok w' → WriterInv K E width height w'
        ((pushes.map Prod.fst).foldl (keep width height) pictures) (received + pushes.length) := by
  induction pushes generalizing w pictures received with
  | nil =>
      refine ⟨fun _ => ⟨w, rfl⟩, ?_⟩
      rintro w' ⟨⟩
      exact h
  | cons push pushes ih =>
      obtain ⟨bgra, pos⟩ := push
      obtain ⟨w₁, res, hpush, haccepts, hok⟩ := push_spec E hlossless hsides h
        (hsize (bgra, pos) (by simp)) pos
      cases res with
      | error error =>
          refine ⟨fun ha => (nomatch haccepts ha), fun w' hw' => ?_⟩
          simp [GifWriter.push_all, hpush] at hw'
      | ok u =>
          obtain ⟨hrun, hinv⟩ := ih (fun p hp => hsize p (List.mem_cons_of_mem _ hp)) (hok rfl)
          simp only [GifWriter.push_all, hpush, List.map_cons, List.foldl_cons, List.length_cons]
          refine ⟨hrun, fun w' hw' => ?_⟩
          rw [show received + (pushes.length + 1) = received + 1 + pushes.length by omega]
          exact hinv w' hw'

/-- Finishing writes the picture held back.
SRC: animation.rs:133-143 -/
theorem finish_spec {w : GifWriter C W} {received : Nat}
    (h : WriterInv K E width height w pictures received) (end_at : Duration) :
    (Accepts E → ∃ file summary, w.finish E end_at = .ok (file, summary)) ∧
      ∀ file summary, w.finish E end_at = .ok (file, summary) →
        summary.frames_received = received ∧ summary.frames_written = pictures.length ∧
          Stored K width height (E.stored file) pictures := by
  have hclose : ∀ w' : GifWriter C W, (Accepts E → ∃ file, E.into_inner w'.encoder = .ok file) ∧
      ∀ file, E.into_inner w'.encoder = .ok file → E.stored file = E.stored w'.encoder :=
    fun w' => ⟨fun haccepts => haccepts.2.2 _, fun file hfile => E.stored_into_inner _ _ hfile⟩
  simp only [GifWriter.finish]
  obtain ⟨rfl, hpending, hstored⟩ | ⟨kept, last, frame, rfl, hpending, hstored, hheld⟩ := h.held
  · simp only [hpending]
    obtain ⟨hopen, hfile⟩ := hclose w
    cases hinner : E.into_inner w.encoder with
    | error message =>
        refine ⟨fun ha => ?_, by simp⟩
        obtain ⟨file, hf⟩ := hopen ha
        rw [hinner] at hf
        cases hf
    | ok file =>
        refine ⟨fun _ => ⟨_, _, rfl⟩, fun file' summary hresult => ?_⟩
        obtain ⟨rfl, rfl⟩ := Prod.mk.inj (Except.ok.inj hresult)
        refine ⟨h.received_eq, h.written_eq.trans (by rw [hstored]; rfl), ?_⟩
        rw [hfile file hinner, hstored]
        exact Stored.nil
  · simp only [hpending]
    obtain ⟨w', res, hwrite, haccepts, hok⟩ :=
      write_spec E { w with pending := none } frame (end_at - w.first_at.getD end_at)
    rw [hwrite]
    cases res with
    | error error => exact ⟨fun ha => (nomatch haccepts ha), by simp⟩
    | ok u =>
        obtain ⟨⟨delay, hdelay⟩, -, -, -, hrec, hwritten⟩ := hok rfl
        obtain ⟨hopen, hfile⟩ := hclose w'
        simp only
        cases hinner : E.into_inner w'.encoder with
        | error message =>
            refine ⟨fun ha => ?_, by simp⟩
            obtain ⟨file, hf⟩ := hopen ha
            rw [hinner] at hf
            cases hf
        | ok file =>
            refine ⟨fun _ => ⟨_, _, rfl⟩, fun file' summary hresult => ?_⟩
            obtain ⟨rfl, rfl⟩ := Prod.mk.inj (Except.ok.inj hresult)
            refine ⟨hrec.trans h.received_eq, ?_, ?_⟩
            · show w'.summary.frames_written = _
              rw [hwritten, h.written_eq, hstored.length_eq, List.length_append,
                List.length_singleton]
            · rw [hfile file hinner, hdelay]
              exact Stored.snoc hstored (hheld delay)

/-- Keeping pictures one by one collapses runs of the same colours. -/
theorem foldl_keep (width height : Nat) (pictures : List (List Byte)) :
    pictures.foldl (keep width height) [] = collapse width height pictures := by
  have hrun : ∀ (pictures kept : List (List Byte)) (last : List Byte),
      pictures.foldl (keep width height) (kept ++ [last]) =
        kept ++ pictures.destutter' (fun a b => same_colours width height a b = false) last := by
    intro pictures
    induction pictures with
    | nil => exact fun _ _ => rfl
    | cons picture pictures ih =>
        intro kept last
        rw [List.foldl_cons, keep, List.getLast?_concat]
        simp only
        by_cases hsame : same_colours width height last picture = false
        · rw [if_pos hsame, ih, List.destutter'_cons, if_pos hsame, List.append_assoc]
          rfl
        · rw [if_neg hsame, ih, List.destutter'_cons, if_neg hsame]
  cases pictures with
  | nil => rfl
  | cons picture pictures => exact hrun pictures [] picture

/-- A GIF whose frames are all kept on screen has no disposal to show. -/
theorem no_disposal_of_stored (h : Stored K width height frames pictures) :
    ¬ DisposalShows K.toGifDecoder width height frames := by
  rintro ⟨index, previous, frame, pic, -, hprevious, -, -, hdispose, -⟩
  rw [h.dispose_keep previous (List.mem_of_getElem? hprevious)] at hdispose
  cases hdispose

end Writer

/-- **The round trip of pictures.**  With a lossless codec, a recording of pictures of the
right size is written whenever the encoder accepts its frames; the file then holds one
frame for each picture left when runs of the same colours are collapsed, the summary
counts them and the pushes, and after any other calls a reader of the file returns as
frame `k` the colours of the `k`-th of them, which is its composited picture. -/
theorem gif_round_trip (K : GifCodec C) (E : GifEncoder C W) (hlossless : Lossless K)
    {width height : Nat} (hsides : (0 < width ∧ width ≤ 65535) ∧ 0 < height ∧ height ≤ 65535)
    (pushes : List (List Byte × Duration))
    (hsize : ∀ push ∈ pushes, push.1.length = height * (width * 4)) (end_at : Duration) :
    (Accepts E → ∃ file summary,
      GifWriter.record K E width height pushes end_at = .ok (file, summary)) ∧
    ∀ file summary, GifWriter.record K E width height pushes end_at = .ok (file, summary) →
      summary.frames_received = pushes.length ∧
      summary.frames_written = (collapse width height (pushes.map Prod.fst)).length ∧
      (E.stored file).length = (collapse width height (pushes.map Prod.fst)).length ∧
      ∀ k picture, (collapse width height (pushes.map Prod.fst))[k]? = some picture →
        (∃ pic, composite K.toGifDecoder (E.stored file) k = some pic ∧
          AgreeOn width height pic (shown width picture)) ∧
        ∀ r calls r', GifReader.new (UInt16.ofNat width) (UInt16.ofNat height) (E.stored file) =
            .ok r → read_frames K.toGifDecoder calls r = some r' →
          ∃ r'' pixels, r'.frame K.toGifDecoder k = some (r'', .ok pixels) ∧
            Shows width height pixels (shown width picture) := by
  obtain ⟨hopens, hnew⟩ := new_spec (K := K) E hsides
  constructor
  · intro haccepts
    obtain ⟨w, hw⟩ := hopens haccepts
    obtain ⟨hpushes, hinv⟩ := push_all_spec E hlossless hsides pushes hsize (hnew w hw)
    obtain ⟨w', hw'⟩ := hpushes haccepts
    obtain ⟨file, summary, hfile⟩ := (finish_spec E (hinv w' hw') end_at).1 haccepts
    exact ⟨file, summary, by simp [GifWriter.record, hw, hw', hfile, bind, Except.bind]⟩
  · intro file summary hrecord
    rw [GifWriter.record] at hrecord
    cases hw : GifWriter.new E width height with
    | error error => simp [hw, bind, Except.bind] at hrecord
    | ok w =>
    cases hw' : GifWriter.push_all K E w pushes with
    | error error => simp [hw, hw', bind, Except.bind] at hrecord
    | ok w' =>
    have hfile : w'.finish E end_at = .ok (file, summary) := by
      simpa [hw, hw', bind, Except.bind] using hrecord
    have hinv := (push_all_spec E hlossless hsides pushes hsize (hnew w hw)).2 w' hw'
    obtain ⟨hreceived, hwritten, hstored⟩ := (finish_spec E hinv end_at).2 file summary hfile
    rw [foldl_keep] at hwritten hstored
    refine ⟨by omega, hwritten, hstored.length_eq, fun k picture hk => ?_⟩
    obtain ⟨pic, hpic, hagree⟩ := composite_of_stored hstored hk
    refine ⟨⟨pic, hpic, hagree⟩, fun r calls r' hr hcalls => ?_⟩
    have hno := no_disposal_of_stored hstored
    have hcoherent := (new_coherent K.toGifDecoder hr).1
    rw [UInt16.toNat_ofNat_of_lt' (by simp only [UInt16.size]; omega),
      UInt16.toNat_ofNat_of_lt' (by simp only [UInt16.size]; omega)] at hcoherent
    obtain ⟨r₁, hr₁, hcoherent₁⟩ := read_frames_coherent K.toGifDecoder hno calls hcoherent
    obtain rfl : r₁ = r' := Option.some.inj (hr₁.symm.trans hcalls)
    obtain ⟨r'', res, hframe, -, hok, herror⟩ :=
      frame_coherent K.toGifDecoder hno hcoherent₁ k
    cases res with
    | error e => simp [herror e rfl] at hpic
    | ok pixels =>
        obtain ⟨pic', hpic', hshows⟩ := hok pixels rfl
        obtain rfl : pic = pic' := Option.some.inj (hpic.symm.trans hpic')
        exact ⟨r'', pixels, hframe, hshows.congr hagree⟩

/-! ## A recording of one pixel -/

/-- Pixels stored as they are. -/
def raw_codec : GifCodec (List Byte) where
  toGifDecoder := raw_decoder
  from_rgba_speed _ _ rgba _ := rgba

/-- Storing the bytes as they are loses nothing. -/
theorem lossless_raw_codec : Lossless raw_codec := by
  intro frame rgba speed hlen _ hdata
  obtain rfl : frame.data = rgba := hdata
  exact ⟨frame.data, if_pos hlen, fun _ _ _ _ => ⟨id, fun _ => rfl⟩⟩

/-- An encoder that keeps its frames in a list. -/
def list_encoder : GifEncoder (List Byte) (List (GifFrame (List Byte))) where
  create _ _ := .ok []
  write_frame frames frame := .ok (frames ++ [frame])
  into_inner := .ok
  stored := id
  stored_create _ _ _ h := (Except.ok.inj h).symm
  stored_write_frame _ _ _ h := (Except.ok.inj h).symm
  stored_into_inner _ _ h := (Except.ok.inj h).symm

/-- A pixel pushed twice and then another: two frames, the second of which shows the other
pixel. -/
theorem gif_round_trip_one_pixel :
    ∃ file summary, GifWriter.record raw_codec list_encoder 1 1 [([1, 2, 3, 255], 0),
        ([1, 2, 3, 0], from_millis 100), ([9, 8, 7, 255], from_millis 200)] (from_millis 300) =
          .ok (file, summary) ∧ summary.frames_received = 3 ∧ summary.frames_written = 2 ∧
      ∃ pic, composite raw_decoder file 1 = some pic ∧
        AgreeOn 1 1 pic (shown 1 [9, 8, 7, 255]) := by
  obtain ⟨hrecords, hplays⟩ := gif_round_trip raw_codec list_encoder lossless_raw_codec
    (show (0 < 1 ∧ 1 ≤ 65535) ∧ 0 < 1 ∧ 1 ≤ 65535 by decide) [([1, 2, 3, 255], 0),
      ([1, 2, 3, 0], from_millis 100), ([9, 8, 7, 255], from_millis 200)] (by decide)
    (from_millis 300)
  obtain ⟨file, summary, hfile⟩ :=
    hrecords ⟨fun _ _ => ⟨_, rfl⟩, fun _ _ => ⟨_, rfl⟩, fun _ => ⟨_, rfl⟩⟩
  obtain ⟨hreceived, hwritten, -, hpictures⟩ := hplays file summary hfile
  exact ⟨file, summary, hfile, hreceived, hwritten, (hpictures 1 [9, 8, 7, 255] (by decide)).1⟩

end Captastic.Analysis
