import Captastic.Analysis.GifCompositing

/-!
# Random access to a GIF

`GifReader` keeps a canvas, the index of the frame it shows, and snapshots taken on
the way.  The cache is coherent (`Coherent`) when the canvas shows the composited
picture of its index and every snapshot shows that of its slot.  Every step keeps it
coherent but one: a frame that does not decode is found out after the frame before it
has been disposed of, and the canvas is left cleared while its index still names that
frame.  Random access therefore equals sequential playback exactly when no such
disposal shows (`frame_eq_composite_iff`).
-/

set_option autoImplicit false

namespace Captastic.Analysis

open Captastic.Library Captastic.Model

variable {C : Type} (D : GifDecoder C)

/-! ## The invariant -/

/-- The reader is one of `frames` with a canvas of `width` by `height`, and each of its
snapshots is the picture of its slot. -/
structure Kept (width height : Nat) (frames : List (GifFrame C)) (r : GifReader C) : Prop where
  width_eq : r.width = width
  height_eq : r.height = height
  frames_eq : r.frames = frames
  spacing_pos : 0 < r.snapshot_spacing
  slots : r.snapshots.length = div_ceil frames.length r.snapshot_spacing
  canvas_length : r.canvas.length = height * (width * 4)
  snapshots : ∀ slot pixels, r.snapshots[slot]? = some (some pixels) → ∃ pic,
    composite D frames (slot * r.snapshot_spacing) = some pic ∧ Shows width height pixels pic
  first_kept : ∀ (slot : Nat) (pixels : List Byte), r.snapshots[slot]? = some (some pixels) →
    ∃ pixels, r.snapshots[0]? = some (some pixels)

/-- The cache is coherent: the canvas, too, shows the picture its index names, and the
first snapshot was taken before any index was named. -/
structure Coherent (width height : Nat) (frames : List (GifFrame C)) (r : GifReader C) : Prop
    extends Kept D width height frames r where
  canvas : ∀ index, r.canvas_index = some index → ∃ pic,
    composite D frames index = some pic ∧ Shows width height r.canvas pic
  first_snapshot : ∀ index, r.canvas_index = some index → ∃ pixels,
    r.snapshots[0]? = some (some pixels)

/-- The canvas is what frame `next` is drawn over: nothing yet for frame `0`, the frame
before it otherwise. -/
def Ready (width height : Nat) (r : GifReader C) : Nat → Prop
  | 0 => r.canvas_index = none ∧ Shows width height r.canvas black
  | next + 1 => r.canvas_index = some next

/-- **A disposal shows**: the picture after frame `index` exists, frame `index + 1` does
not decode, and disposing of frame `index` to the background blackens a pixel of it. -/
def DisposalShows (width height : Nat) (frames : List (GifFrame C)) : Prop :=
  ∃ index previous frame pic, composite D frames index = some pic ∧
    frames[index]? = some previous ∧ frames[index + 1]? = some frame ∧
    (∀ rgba, D.decode frame ≠ .ok rgba) ∧ previous.dispose = .Background ∧
    ∃ x y, x < width ∧ y < height ∧ covers previous x y ∧ pic x y ≠ ⟨0, 0, 0, 255⟩

section Reader

variable {width height : Nat} {frames : List (GifFrame C)} {r : GifReader C}

/-- A frame's slot lies within the slots. -/
theorem slot_lt {n spacing index : Nat} (hs : 0 < spacing) (h : index < n) :
    index / spacing < div_ceil n spacing := by
  rw [div_ceil, Nat.div_lt_iff_lt_mul hs]
  have h₁ := Nat.div_add_mod (n + spacing - 1) spacing
  have h₂ := Nat.mod_lt (n + spacing - 1) hs
  rw [Nat.mul_comm] at h₁
  omega

/-! ## One frame -/

/-- Disposing of the frame on the canvas leaves its disposed picture.
SRC: playback.rs:289-294 -/
theorem disposed_succ (h : Coherent D width height frames r) {index : Nat} {pic : Raster}
    {previous : GifFrame C} (hprevious : frames[index]? = some previous)
    (hshows : Shows width height r.canvas pic) :
    ∃ canvas, r.disposed (index + 1) = some canvas ∧
      Shows width height canvas (disposed_of previous pic) := by
  simp only [GifReader.disposed, h.frames_eq, h.width_eq, h.height_eq, Nat.add_sub_cancel,
    hprevious, Option.bind_eq_bind, Option.bind_some, disposed_of]
  rw [if_pos (Nat.succ_pos index)]
  split
  · exact fill_rect_spec previous hshows
  · exact ⟨r.canvas, rfl, hshows⟩

/-- What frame `index` is drawn over, from a reader that is ready for it. -/
theorem disposed_spec (h : Coherent D width height frames r) {index : Nat}
    (hready : Ready width height r index) {frame : GifFrame C}
    (hframe : frames[index]? = some frame) :
    ∃ canvas below, r.disposed index = some canvas ∧ Shows width height canvas below ∧
      composite D frames index = drawn_over D frame below := by
  cases index with
  | zero =>
      obtain ⟨-, hblack⟩ := hready
      exact ⟨r.canvas, black, rfl, hblack, composite_zero D hframe⟩
  | succ index =>
      obtain ⟨pic, hpic, hshows⟩ := h.canvas index hready
      obtain ⟨previous, -, hprevious, -⟩ := decode_of_composite D hpic
      obtain ⟨canvas, hcanvas, hbelow⟩ := disposed_succ D h hprevious hshows
      exact ⟨canvas, _, hcanvas, hbelow, composite_succ D hpic hprevious hframe⟩

/-- Keeping a snapshot of a canvas that shows the picture of `index`.
SRC: playback.rs:323-328 -/
theorem keep_snapshot_spec (r : GifReader C) (index : Nat) {pic : Raster}
    (h : Kept D width height frames r)
    (hindex : index < frames.length) (hcurrent : r.canvas_index = some index)
    (hfirst : index ≠ 0 → ∃ pixels, r.snapshots[0]? = some (some pixels))
    (hpic : composite D frames index = some pic) (hshows : Shows width height r.canvas pic) :
    ∃ r', r.keep_snapshot index = some r' ∧ Coherent D width height frames r' ∧
      r'.canvas_index = some index := by
  have hcanvas : ∀ i, r.canvas_index = some i → ∃ pic,
      composite D frames i = some pic ∧ Shows width height r.canvas pic := by
    intro i hi
    obtain rfl : index = i := Option.some.inj (hcurrent.symm.trans hi)
    exact ⟨pic, hpic, hshows⟩
  rw [GifReader.keep_snapshot]
  by_cases hmod : index % r.snapshot_spacing = 0
  · rw [if_pos hmod]
    have hslot : index / r.snapshot_spacing < r.snapshots.length := by
      rw [h.slots]
      exact slot_lt h.spacing_pos hindex
    have hzero : index = 0 → index / r.snapshot_spacing = 0 := by
      rintro rfl
      exact Nat.zero_div _
    have hback : index / r.snapshot_spacing * r.snapshot_spacing = index :=
      Nat.div_mul_cancel (Nat.dvd_of_mod_eq_zero hmod)
    cases hentry : r.snapshots[index / r.snapshot_spacing]? with
    | none => exact absurd (List.getElem?_eq_none_iff.mp hentry) (by omega)
    | some entry =>
    cases entry with
    | some pixels =>
        refine ⟨r, by simp [hentry], { h with canvas := hcanvas, first_snapshot := ?_ }, hcurrent⟩
        intro i _
        by_cases h0 : index = 0
        · exact ⟨pixels, by rw [← hzero h0]; exact hentry⟩
        · exact hfirst h0
    | none =>
        have hzeroth : ∃ pixels, (r.snapshots.set (index / r.snapshot_spacing)
            (some r.canvas))[0]? = some (some pixels) := by
          simp only [List.getElem?_set]
          by_cases h0 : index = 0
          · exact ⟨r.canvas, by rw [if_pos (hzero h0), if_pos hslot]⟩
          · split
            · exact ⟨r.canvas, rfl⟩
            · exact hfirst h0
        refine ⟨{ r with snapshots := r.snapshots.set (index / r.snapshot_spacing) (some r.canvas) },
          by simp [hentry], { h with
            slots := by simpa using h.slots, canvas := hcanvas, snapshots := ?_,
            first_kept := fun _ _ _ => hzeroth, first_snapshot := fun _ _ => hzeroth }, hcurrent⟩
        intro slot pixels hpixels
        simp only [List.getElem?_set] at hpixels
        split at hpixels
        · rename_i hsame
          obtain rfl : r.canvas = pixels := by simpa using hpixels
          exact ⟨pic, by rw [← hsame, hback]; exact hpic, hshows⟩
        · exact h.snapshots slot pixels hpixels
  · rw [if_neg hmod]
    refine ⟨r, rfl, { h with canvas := hcanvas, first_snapshot := fun i _ => hfirst ?_ }, hcurrent⟩
    rintro rfl
    exact hmod (Nat.zero_mod _)

/-- **A frame that decodes**: applying it succeeds and leaves a coherent reader on it.
SRC: playback.rs:287-330 -/
theorem apply_ok (h : Coherent D width height frames r) {index : Nat}
    (hready : Ready width height r index) {frame : GifFrame C}
    (hframe : frames[index]? = some frame) {rgba : List Byte}
    (hdecode : D.decode frame = .ok rgba) :
    ∃ r', r.apply D index = some (r', .ok ()) ∧ Coherent D width height frames r' ∧
      r'.canvas_index = some index := by
  obtain ⟨canvas, below, hdisposed, hbelow, hcomposite⟩ := disposed_spec D h hready hframe
  obtain rfl := h.width_eq
  obtain rfl := h.height_eq
  obtain rfl := h.frames_eq
  obtain ⟨canvas', hdraw, hshows⟩ :=
    draw_frame_spec frame (D.length_decode frame rgba hdecode) hbelow
  obtain ⟨r', hkeep, hcoherent, hindex⟩ := keep_snapshot_spec D
    { r with canvas := canvas', canvas_index := some index } index
    { h.toKept with canvas_length := hshows.1, snapshots := h.snapshots, first_kept := h.first_kept }
    (List.getElem?_eq_some_iff.mp hframe).1 rfl
    (fun h0 => by
      obtain ⟨k, rfl⟩ := Nat.exists_eq_succ_of_ne_zero h0
      exact h.first_snapshot k hready)
    (by rw [hcomposite, drawn_over, hdecode]) hshows
  exact ⟨r', by simp [GifReader.apply, hdisposed, hframe, hdecode, hdraw, hkeep], hcoherent,
    hindex⟩

/-- **A frame that does not decode**: applying it fails, and the canvas is left disposed.
SRC: playback.rs:287-300 -/
theorem apply_error (h : Coherent D width height frames r) {index : Nat}
    (hready : Ready width height r index) {frame : GifFrame C}
    (hframe : frames[index]? = some frame) {error : String}
    (hdecode : D.decode frame = .error error) :
    ∃ canvas e, r.disposed index = some canvas ∧
      r.apply D index = some ({ r with canvas }, .error e) := by
  obtain ⟨canvas, below, hdisposed, -, -⟩ := disposed_spec D h hready hframe
  obtain rfl := h.frames_eq
  exact ⟨canvas, _, hdisposed, by simp [GifReader.apply, hdisposed, hframe, hdecode]; rfl⟩

/-- Disposing of a frame whose disposal does not show leaves its picture. -/
theorem disposed_of_agree {index : Nat} {previous frame : GifFrame C} {pic : Raster}
    (hno : ¬ DisposalShows D width height frames) (hpic : composite D frames index = some pic)
    (hprevious : frames[index]? = some previous) (hframe : frames[index + 1]? = some frame)
    (hdecode : ∀ rgba, D.decode frame ≠ .ok rgba) :
    AgreeOn width height (disposed_of previous pic) pic := by
  intro x y hx hy
  rw [disposed_of]
  split
  · rename_i hdispose
    rw [cleared]
    split
    · rename_i hcovers
      by_contra hne
      exact hno ⟨index, previous, frame, pic, hpic, hprevious, hframe, hdecode, hdispose, x, y,
        hx, hy, hcovers, fun h => hne h.symm⟩
    · rfl
  · rfl

/-- What a failed frame leaves behind is coherent while no disposal shows. -/
theorem coherent_of_disposed (hno : ¬ DisposalShows D width height frames)
    (h : Coherent D width height frames r) {index : Nat} (hready : Ready width height r index)
    {frame : GifFrame C} (hframe : frames[index]? = some frame)
    (hdecode : ∀ rgba, D.decode frame ≠ .ok rgba) {canvas : List Byte}
    (hcanvas : r.disposed index = some canvas) :
    Coherent D width height frames { r with canvas } := by
  cases index with
  | zero =>
      obtain rfl : r.canvas = canvas := Option.some.inj hcanvas
      exact h
  | succ index =>
      obtain ⟨pic, hpic, hshows⟩ := h.canvas index hready
      obtain ⟨previous, -, hprevious, -⟩ := decode_of_composite D hpic
      obtain ⟨canvas', hcanvas', hbelow⟩ := disposed_succ D h hprevious hshows
      obtain rfl : canvas' = canvas := Option.some.inj (hcanvas'.symm.trans hcanvas)
      have hstill := hbelow.congr (disposed_of_agree D hno hpic hprevious hframe hdecode)
      refine { h.toKept with
        canvas_length := hstill.1, snapshots := h.snapshots, canvas := ?_,
        first_kept := h.first_kept, first_snapshot := h.first_snapshot }
      intro i hi
      obtain rfl : index = i := Option.some.inj (hready.symm.trans hi)
      exact ⟨pic, hpic, hstill⟩

/-- **The step lemma**: while no disposal shows, applying the frame a coherent reader is
ready for keeps it coherent, whether or not the frame decodes. -/
theorem apply_coherent (hno : ¬ DisposalShows D width height frames)
    (h : Coherent D width height frames r) {index : Nat} (hready : Ready width height r index)
    (hindex : index < frames.length) :
    ∃ r' res, r.apply D index = some (r', res) ∧ Coherent D width height frames r' ∧
      (res = .ok () → Ready width height r' (index + 1)) ∧
      (∀ e, res = .error e → composite D frames index = none) := by
  have hframe := List.getElem?_eq_getElem hindex
  cases hdecode : D.decode frames[index] with
  | ok rgba =>
      obtain ⟨r', happly, hcoherent, hcurrent⟩ := apply_ok D h hready hframe hdecode
      exact ⟨r', _, happly, hcoherent, fun _ => hcurrent, by simp⟩
  | error error =>
      obtain ⟨canvas, e, hcanvas, happly⟩ := apply_error D h hready hframe hdecode
      refine ⟨_, _, happly, coherent_of_disposed D hno h hready hframe (by simp [hdecode]) hcanvas,
        by simp, fun _ _ => ?_⟩
      obtain ⟨-, below, -, -, hcomposite⟩ := disposed_spec D h hready hframe
      simp [hcomposite, drawn_over, hdecode]

/-- **The replay loop** keeps the reader coherent, and ends ready for the next frame when
every frame of it decodes. -/
theorem apply_each_coherent (hno : ¬ DisposalShows D width height frames) (n : Nat) {first : Nat}
    (h : Coherent D width height frames r) (hready : Ready width height r first)
    (hlast : first + n ≤ frames.length) :
    ∃ r' res, r.apply_each D (List.range' first n) = some (r', res) ∧
      Coherent D width height frames r' ∧
      (res = .ok () → Ready width height r' (first + n)) ∧
      (∀ e, res = .error e → ∃ i, i < first + n ∧ composite D frames i = none) := by
  induction n generalizing r first with
  | zero => exact ⟨r, _, rfl, h, fun _ => hready, by simp⟩
  | succ n ih =>
      obtain ⟨r₁, res₁, happly, hcoherent₁, hok, herror⟩ :=
        apply_coherent D hno h hready (by omega)
      rw [List.range'_succ]
      cases res₁ with
      | ok u =>
          obtain ⟨r₂, res₂, heach, hcoherent₂, hok₂, herror₂⟩ :=
            ih hcoherent₁ (hok rfl) (by omega)
          refine ⟨r₂, res₂, by simp [GifReader.apply_each, happly, heach], hcoherent₂, ?_, ?_⟩
          · rw [show first + (n + 1) = first + 1 + n by omega]
            exact hok₂
          · rw [show first + (n + 1) = first + 1 + n by omega]
            exact herror₂
      | error e =>
          exact ⟨r₁, .error e, by simp [GifReader.apply_each, happly], hcoherent₁, by simp,
            fun e' he' => ⟨first, by omega, herror e rfl⟩⟩

/-! ## Where a replay starts -/

/-- The nearest snapshot is one, at or before the frame asked for.
SRC: playback.rs:355-358 -/
theorem nearest_snapshot_spec (h : Coherent D width height frames r) {index : Nat}
    (hindex : index < frames.length) :
    ∃ found, r.nearest_snapshot index = some found ∧
      (∀ snapshot, found = some snapshot → ∃ slot pixels,
        snapshot = slot * r.snapshot_spacing ∧ snapshot ≤ index ∧
          r.snapshots[slot]? = some (some pixels)) ∧
      (found = none → ∀ pixels, r.snapshots[0]? ≠ some (some pixels)) := by
  have hslot := slot_lt h.spacing_pos hindex
  rw [← h.slots] at hslot
  refine ⟨_, by rw [GifReader.nearest_snapshot, if_pos hslot], ?_, ?_⟩
  · intro snapshot hsnapshot
    obtain ⟨slot, hfind, rfl⟩ := Option.map_eq_some_iff.mp hsnapshot
    have hmem := List.mem_of_find?_eq_some hfind
    have hsome := List.find?_some hfind
    rw [List.mem_reverse, List.mem_range] at hmem
    refine ⟨slot, ?_⟩
    cases hentry : r.snapshots[slot]? with
    | none => simp [hentry] at hsome
    | some entry =>
        cases entry with
        | none => simp [hentry] at hsome
        | some pixels =>
            refine ⟨pixels, rfl, ?_, rfl⟩
            have := Nat.div_mul_le_self index r.snapshot_spacing
            have hle : slot * r.snapshot_spacing ≤
                index / r.snapshot_spacing * r.snapshot_spacing :=
              Nat.mul_le_mul_right _ (by omega)
            omega
  · intro hnone pixels hpixels
    rw [Option.map_eq_none_iff, List.find?_eq_none] at hnone
    exact hnone 0 (by simp) (by simp [hpixels])

/-- Restoring a snapshot leaves a coherent reader on its frame.
SRC: playback.rs:361-368 -/
theorem restore_spec (h : Coherent D width height frames r) {slot : Nat} {pixels : List Byte}
    (hpixels : r.snapshots[slot]? = some (some pixels)) :
    ∃ r', r.restore (slot * r.snapshot_spacing) = some r' ∧ Coherent D width height frames r' ∧
      r'.canvas_index = some (slot * r.snapshot_spacing) := by
  obtain ⟨pic, hpic, hshows⟩ := h.snapshots slot pixels hpixels
  have hlen : pixels.length = r.canvas.length := hshows.1.trans h.canvas_length.symm
  refine ⟨{ r with canvas := pixels, canvas_index := some (slot * r.snapshot_spacing) }, ?_,
    { h.toKept with
      canvas_length := hshows.1, snapshots := h.snapshots, first_kept := h.first_kept, canvas := ?_,
      first_snapshot := fun _ _ => h.first_kept slot pixels hpixels }, rfl⟩
  · simp [GifReader.restore, Nat.mul_div_cancel _ h.spacing_pos, hpixels, hlen]
  · intro i hi
    obtain rfl := Option.some.inj hi
    exact ⟨pic, hpic, hshows⟩

/-- A replay starts from a coherent reader that is ready for its first frame.
SRC: playback.rs:349-374 -/
theorem resume_from_spec (h : Coherent D width height frames r) {index : Nat}
    (hindex : index < frames.length) :
    ∃ r' first, r.resume_from index = some (r', first) ∧ Coherent D width height frames r' ∧
      Ready width height r' first ∧ first ≤ index + 1 := by
  obtain ⟨found, hfound, hsome, hnone⟩ := nearest_snapshot_spec D h hindex
  have hrestore : ∀ snapshot, found = some snapshot → ∃ r', r.restore snapshot = some r' ∧
      Coherent D width height frames r' ∧ Ready width height r' (snapshot + 1) ∧
      snapshot + 1 ≤ index + 1 := by
    intro snapshot hs
    obtain ⟨slot, pixels, rfl, hle, hpixels⟩ := hsome snapshot hs
    obtain ⟨r', hr', hcoherent, hcurrent⟩ := restore_spec D h hpixels
    exact ⟨r', hr', hcoherent, hcurrent, by omega⟩
  cases hresume : r.canvas_index.filter fun current => decide (current < index) with
  | some current =>
      obtain ⟨hcurrent, hlt⟩ := Option.filter_eq_some_iff.mp hresume
      have hforwards : ∃ r' first, some (r, current + 1) = some (r', first) ∧
          Coherent D width height frames r' ∧ Ready width height r' first ∧ first ≤ index + 1 :=
        ⟨r, current + 1, rfl, h, hcurrent, by have := of_decide_eq_true hlt; omega⟩
      cases found with
      | none => simpa [GifReader.resume_from, hresume, hfound] using hforwards
      | some snapshot =>
          by_cases hnear : snapshot ≤ current
          · simpa [GifReader.resume_from, hresume, hfound, hnear] using hforwards
          · obtain ⟨r', hr', hrest⟩ := hrestore snapshot rfl
            exact ⟨r', snapshot + 1, by simp [GifReader.resume_from, hresume, hfound, hnear, hr'],
              hrest⟩
  | none =>
      cases found with
      | some snapshot =>
          obtain ⟨r', hr', hrest⟩ := hrestore snapshot rfl
          exact ⟨r', snapshot + 1, by simp [GifReader.resume_from, hresume, hfound, hr'], hrest⟩
      | none =>
          have hfresh : r.canvas_index = none := by
            cases hi : r.canvas_index with
            | none => rfl
            | some current =>
                obtain ⟨pixels, hpixels⟩ := h.first_snapshot current hi
                exact absurd hpixels (hnone rfl pixels)
          have hblack := shows_opaque_black _ _ _ h.canvas_length
          refine ⟨{ r with canvas := opaque_black r.canvas.length }, 0,
            by simp [GifReader.resume_from, hresume, hfound], { h.toKept with
              canvas_length := hblack.1, snapshots := h.snapshots, first_kept := h.first_kept,
              canvas := ?_, first_snapshot := h.first_snapshot }, ⟨hfresh, hblack⟩, by omega⟩
          intro i hi
          simp [hfresh] at hi

/-! ## Calls -/

/-- **One call**: while no disposal shows, a call of `frame` does not panic, keeps the
reader coherent, and returns the composited picture, or an error when there is none.
SRC: playback.rs:342-379 -/
theorem frame_coherent (hno : ¬ DisposalShows D width height frames)
    (h : Coherent D width height frames r) (index : Nat) :
    ∃ r' res, r.frame D index = some (r', res) ∧ Coherent D width height frames r' ∧
      (∀ pixels, res = .ok pixels → ∃ pic, composite D frames index = some pic ∧
        Shows width height pixels pic) ∧
      (∀ e, res = .error e → composite D frames index = none) := by
  rw [GifReader.frame, h.frames_eq]
  by_cases hpast : index ≥ frames.length
  · rw [if_pos hpast]
    refine ⟨r, _, rfl, h, by simp, fun _ _ => ?_⟩
    cases hc : composite D frames index with
    | none => rfl
    | some pic =>
        obtain ⟨frame, -, hframe, -⟩ := decode_of_composite D hc
        have := (List.getElem?_eq_some_iff.mp hframe).1
        omega
  rw [if_neg hpast]
  by_cases hcurrent : r.canvas_index = some index
  · rw [if_pos hcurrent]
    refine ⟨r, _, rfl, h, ?_, by simp⟩
    rintro _ ⟨⟩
    exact h.canvas index hcurrent
  rw [if_neg hcurrent]
  obtain ⟨r₁, first, hresume, hcoherent₁, hready₁, hfirst⟩ :=
    resume_from_spec D h (show index < frames.length by omega)
  obtain ⟨r₂, res, heach, hcoherent₂, hok, herror⟩ :=
    apply_each_coherent D hno (index + 1 - first) hcoherent₁ hready₁ (by omega)
  rw [show first + (index + 1 - first) = index + 1 by omega] at hok herror
  cases res with
  | ok u =>
      refine ⟨r₂, .ok r₂.canvas, by simp [hresume, heach], hcoherent₂, ?_, by simp⟩
      rintro _ ⟨⟩
      exact hcoherent₂.canvas index (hok rfl)
  | error e =>
      refine ⟨r₂, .error e, by simp [hresume, heach], hcoherent₂, by simp, fun _ _ => ?_⟩
      obtain ⟨i, hi, hnone⟩ := herror e rfl
      cases hc : composite D frames index with
      | none => rfl
      | some pic =>
          obtain ⟨pic', hpic'⟩ := composite_of_le D hc (show i ≤ index by omega)
          rw [hnone] at hpic'
          cases hpic'

/-- A reader just made is coherent, with an opaque black canvas.
SRC: playback.rs:236-285 -/
theorem new_coherent {width height : UInt16}
    (h : GifReader.new width height frames = .ok r) :
    Coherent D width.toNat height.toNat frames r ∧ r.canvas_index = none := by
  rw [GifReader.new] at h
  simp only at h
  split at h
  · cases h
  cases ht : Timeline.new (frame_starts 0 frames).1 (from_millis ((frame_starts 0 frames).2 * 10)) with
  | error e =>
      rw [ht] at h
      cases h
  | ok timeline =>
      rw [ht] at h
      obtain rfl := Except.ok.inj h
      have hblack := shows_opaque_black width.toNat height.toNat
        (width.toNat * height.toNat * 4) (by
          rw [Nat.mul_comm width.toNat, Nat.mul_assoc])
      have hempty : ∀ (n slot : Nat) (pixels : List Byte),
          (List.replicate n (none : Option (List Byte)))[slot]? ≠ some (some pixels) := by
        intro n slot pixels
        rw [List.getElem?_replicate]
        split <;> simp
      exact ⟨{
        width_eq := rfl
        height_eq := rfl
        frames_eq := rfl
        spacing_pos := by simp only [MINIMUM_SNAPSHOT_SPACING]; omega
        slots := List.length_replicate
        canvas_length := hblack.1
        snapshots := fun _ _ hs => absurd hs (hempty _ _ _)
        first_kept := fun _ _ hs => absurd hs (hempty _ _ _)
        canvas := fun _ hi => by cases hi
        first_snapshot := fun _ hi => by cases hi }, rfl⟩

/-! ## When a disposal shows -/

/-- Replaying frames that decode succeeds, whatever comes after them. -/
theorem apply_each_ok (n : Nat) {first : Nat} (h : Coherent D width height frames r)
    (hready : Ready width height r first)
    (hdecode : ∀ i, i < first + n → ∃ pic, composite D frames i = some pic) :
    ∃ r', r.apply_each D (List.range' first n) = some (r', .ok ()) ∧
      Coherent D width height frames r' ∧ Ready width height r' (first + n) := by
  induction n generalizing r first with
  | zero => exact ⟨r, rfl, h, hready⟩
  | succ n ih =>
      obtain ⟨pic, hpic⟩ := hdecode first (by omega)
      obtain ⟨frame, rgba, hframe, hrgba⟩ := decode_of_composite D hpic
      obtain ⟨r₁, happly, hcoherent₁, hcurrent⟩ := apply_ok D h hready hframe hrgba
      have hready₁ : Ready width height r₁ (first + 1) := hcurrent
      obtain ⟨r₂, heach, hcoherent₂, hready₂⟩ :=
        ih hcoherent₁ hready₁ fun i hi => hdecode i (by omega)
      rw [show first + (n + 1) = first + 1 + n by omega]
      exact ⟨r₂, by simp [List.range'_succ, GifReader.apply_each, happly, heach], hcoherent₂,
        hready₂⟩

/-- Calls in a row are the first ones and then the others. -/
theorem apply_each_append (xs ys : List Nat) {r' : GifReader C}
    (hxs : r.apply_each D xs = some (r', .ok ())) :
    r.apply_each D (xs ++ ys) = r'.apply_each D ys := by
  induction xs generalizing r with
  | nil =>
      obtain rfl : r = r' := by simpa [GifReader.apply_each] using hxs
      rfl
  | cons x xs ih =>
      simp only [GifReader.apply_each, List.cons_append, Option.bind_eq_bind] at hxs ⊢
      cases hx : r.apply D x with
      | none => simp [hx] at hxs
      | some out =>
          obtain ⟨r₁, res⟩ := out
          cases res with
          | error e => simp [hx] at hxs
          | ok u => exact ih (by simpa [hx] using hxs)

/-- A call for the first frame that does not decode fails and leaves the disposed picture
of the frame before it on the canvas, under that frame's index. -/
theorem frame_undecodable (h : Coherent D width height frames r) (index : Nat)
    {previous frame : GifFrame C} {pic : Raster} (hpic : composite D frames index = some pic)
    (hprevious : frames[index]? = some previous) (hframe : frames[index + 1]? = some frame)
    (hdecode : ∀ rgba, D.decode frame ≠ .ok rgba) :
    ∃ r' e, r.frame D (index + 1) = some (r', .error e) ∧ r'.canvas_index = some index ∧
      r'.frames = frames ∧ Shows width height r'.canvas (disposed_of previous pic) := by
  have hnone : ∀ pic', composite D frames (index + 1) ≠ some pic' := by
    intro pic' hpic'
    obtain ⟨frame', rgba, hframe', hrgba⟩ := decode_of_composite D hpic'
    obtain rfl : frame' = frame := Option.some.inj (hframe'.symm.trans hframe)
    exact hdecode rgba hrgba
  have hstale : r.canvas_index ≠ some (index + 1) := by
    intro hcurrent
    obtain ⟨pic', hpic', -⟩ := h.canvas _ hcurrent
    exact hnone pic' hpic'
  have hlt : index + 1 < frames.length := (List.getElem?_eq_some_iff.mp hframe).1
  obtain ⟨r₁, first, hresume, hcoherent₁, hready₁, hfirst⟩ := resume_from_spec D h hlt
  have hfirst' : first ≤ index + 1 := by
    rcases Nat.eq_or_lt_of_le hfirst with rfl | hlt
    · obtain ⟨pic', hpic', -⟩ := hcoherent₁.canvas _ hready₁
      exact absurd hpic' (hnone pic')
    · omega
  obtain ⟨r₂, heach, hcoherent₂, hready₂⟩ := apply_each_ok D (index + 1 - first) hcoherent₁
    hready₁ fun i hi => composite_of_le D hpic (by omega)
  rw [show first + (index + 1 - first) = index + 1 by omega] at hready₂
  obtain ⟨error, herror⟩ : ∃ error, D.decode frame = .error error := by
    cases hd : D.decode frame with
    | ok rgba => exact absurd hd (hdecode rgba)
    | error error => exact ⟨error, rfl⟩
  obtain ⟨canvas, e, hcanvas, happly⟩ := apply_error D hcoherent₂ hready₂ hframe herror
  obtain ⟨pic₂, hpic₂, hshows₂⟩ := hcoherent₂.canvas index hready₂
  obtain rfl : pic = pic₂ := Option.some.inj (hpic.symm.trans hpic₂)
  obtain ⟨canvas', hcanvas', hshows⟩ := disposed_succ D hcoherent₂ hprevious hshows₂
  obtain rfl : canvas' = canvas := Option.some.inj (hcanvas'.symm.trans hcanvas)
  refine ⟨{ r₂ with canvas := canvas' }, e, ?_, hready₂, hcoherent₂.frames_eq, hshows⟩
  have hrange : List.range' first (index + 1 + 1 - first) =
      List.range' first (index + 1 - first) ++ [index + 1] := by
    rw [show index + 1 + 1 - first = index + 1 - first + 1 by omega, List.range'_concat]
    congr 2
    omega
  rw [GifReader.frame, h.frames_eq, if_neg (by omega), if_neg hstale]
  simp [hresume, hrange, apply_each_append D _ _ heach, GifReader.apply_each,
    happly]

end Reader

/-! ## Runs of calls -/

/-- Reads frames in the given order; what each call returns is dropped. -/
def read_frames (calls : List Nat) (r : GifReader C) : Option (GifReader C) :=
  calls.foldlM (fun r index => (r.frame D index).map Prod.fst) r

/-- **The run lemma**: while no disposal shows, calls never panic and keep the reader
coherent. -/
theorem read_frames_coherent {width height : Nat} {frames : List (GifFrame C)}
    (hno : ¬ DisposalShows D width height frames) (calls : List Nat) {r : GifReader C}
    (h : Coherent D width height frames r) :
    ∃ r', read_frames D calls r = some r' ∧ Coherent D width height frames r' := by
  refine foldlM_inv (Coherent D width height frames) _ calls ?_ r h
  intro r index _ hr
  obtain ⟨r', res, hframe, hcoherent, -⟩ := frame_coherent D hno hr index
  exact ⟨r', by simp [hframe], hcoherent⟩

/-- **Random access is sequential playback**, exactly when no disposal shows: after any
calls a call neither panics nor returns anything but the composited picture of its frame
if and only if no frame that does not decode follows one whose disposal to the
background changes the picture. -/
theorem frame_eq_composite_iff {width height : UInt16} {frames : List (GifFrame C)}
    {r : GifReader C} (hnew : GifReader.new width height frames = .ok r) :
    (∀ calls : List Nat, ∃ r', read_frames D calls r = some r' ∧ ∀ index, ∃ r'' res,
      r'.frame D index = some (r'', res) ∧ ∀ pixels, res = .ok pixels → ∃ pic,
        composite D frames index = some pic ∧ Shows width.toNat height.toNat pixels pic) ↔
      ¬ DisposalShows D width.toNat height.toNat frames := by
  obtain ⟨hcoherent, -⟩ := new_coherent D hnew
  constructor
  · rintro hall ⟨index, previous, frame, pic, hpic, hprevious, hframe, hdecode, hdispose, x, y,
      hx, hy, hcovers, hcolour⟩
    obtain ⟨r₁, e, hcall, hcurrent, hframes, hshows⟩ :=
      frame_undecodable D hcoherent index hpic hprevious hframe hdecode
    obtain ⟨r', hrun, hnext⟩ := hall [index + 1]
    obtain rfl : r₁ = r' := by simpa [read_frames, hcall] using hrun
    obtain ⟨r'', res, hagain, hok⟩ := hnext index
    have hlt := (List.getElem?_eq_some_iff.mp hprevious).1
    rw [GifReader.frame, hframes, if_neg (by omega), if_pos hcurrent] at hagain
    obtain ⟨rfl, rfl⟩ := Prod.mk.inj (Option.some.inj hagain)
    obtain ⟨pic', hpic', hshows'⟩ := hok _ rfl
    obtain rfl : pic = pic' := Option.some.inj (hpic.symm.trans hpic')
    have hblack := hshows.agree hshows' x y hx hy
    rw [disposed_of, if_pos hdispose, cleared, if_pos hcovers] at hblack
    exact hcolour hblack.symm
  · intro hno calls
    obtain ⟨r', hrun, hr'⟩ := read_frames_coherent D hno calls hcoherent
    refine ⟨r', hrun, fun index => ?_⟩
    obtain ⟨r'', res, hframe, -, hok, -⟩ := frame_coherent D hno hr' index
    exact ⟨r'', res, hframe, hok⟩

/-! ## A GIF whose second frame is damaged -/

/-- Frames stored as they are, of which one of the wrong size does not decode. -/
def raw_decoder : GifDecoder (List Byte) where
  decode frame :=
    if frame.data.length = frame.height.toNat * (frame.width.toNat * 4) then .ok frame.data
    else .error "unexpected end of file"
  length_decode frame rgba h := by
    split at h
    · rename_i hlen
      rwa [← Except.ok.inj h]
    · cases h

/-- One white pixel, disposed of to the background. -/
def white_frame : GifFrame (List Byte) where
  left := 0
  top := 0
  width := 1
  height := 1
  delay := 10
  dispose := .Background
  data := [255, 255, 255, 255]

/-- A frame with no pixel data. -/
def damaged_frame : GifFrame (List Byte) := { white_frame with data := [] }

/-- A GIF of one frame is read as it is composited. -/
theorem frame_eq_composite_one_frame :
    ∃ r, GifReader.new 1 1 [white_frame] = .ok r ∧ ∀ calls : List Nat, ∃ r',
      read_frames raw_decoder calls r = some r' ∧ ∀ index, ∃ r'' res,
        r'.frame raw_decoder index = some (r'', res) ∧ ∀ pixels, res = .ok pixels → ∃ pic,
          composite raw_decoder [white_frame] index = some pic ∧ Shows 1 1 pixels pic := by
  obtain ⟨r, hr⟩ : ∃ r, GifReader.new 1 1 [white_frame] = .ok r := ⟨_, rfl⟩
  have hshows : ¬ DisposalShows raw_decoder (1 : UInt16).toNat (1 : UInt16).toNat [white_frame] := by
    rintro ⟨index, previous, frame, pic, h⟩
    have hframe := h.2.2.1
    simp at hframe
  exact ⟨r, hr, (frame_eq_composite_iff raw_decoder hr).mpr hshows⟩

/-- Asked for the damaged second frame and then for the first, the reader returns the
first frame already cleared: black for white.
SRC: playback.rs:288-300, 350 -/
theorem frame_after_a_damaged_frame :
    ∃ r r' r'' pixels pic, GifReader.new 1 1 [white_frame, damaged_frame] = .ok r ∧
      read_frames raw_decoder [1] r = some r' ∧
      r'.frame raw_decoder 0 = some (r'', .ok pixels) ∧
      composite raw_decoder [white_frame, damaged_frame] 0 = some pic ∧
      ¬ Shows 1 1 pixels pic := by
  obtain ⟨r, hr⟩ : ∃ r, GifReader.new 1 1 [white_frame, damaged_frame] = .ok r := ⟨_, rfl⟩
  obtain ⟨r', e, hcall, hcurrent, hframes, hshows⟩ := frame_undecodable raw_decoder
    (new_coherent raw_decoder hr).1 0 rfl rfl rfl (fun rgba h => by cases h)
  have hagain : r'.frame raw_decoder 0 = some (r', .ok r'.canvas) := by
    rw [GifReader.frame, hframes, if_neg (by decide), if_pos hcurrent]
  refine ⟨r, r', r', r'.canvas, _, hr, by simp [read_frames, hcall], hagain, rfl, fun h => ?_⟩
  exact absurd (h.agree hshows 0 0 (by decide) (by decide)) (by decide)

end Captastic.Analysis
