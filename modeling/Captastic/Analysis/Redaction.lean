import Captastic.Analysis.EditHistory
import Captastic.Analysis.FrameCrop
import Captastic.Analysis.Painting

/-!
# Redaction is noninterfering

`render` copies the crop out of the capture, row by row at the capture's stride, and
paints the marks over it.  Every pixel of the published image is the pixel of the
capture sent through the marks' `shade`s in order (`render_spec`), and a redaction's
`shade` is constant inside its rectangle; so a pixel under a present redaction comes
out the same whatever the capture held, wherever in the list the redaction stands
(`foldl_shade_of_redacted`).  Two captures that agree on what no redaction hides are
therefore published as the same image (`render_noninterference`).
-/

set_option autoImplicit false

namespace Captastic.Analysis

open Captastic.Library Captastic.Model

variable {F : Type}

/-! ## The crop, copied out of the capture -/

/-- A crop of a capture, in numbers: a non-empty box inside the capture. -/
theorem crop_facts {frame : CpuFrame} {crop : Rect} (h : CropOf (full_bounds frame) crop) :
    (0 ≤ crop.x ∧ 0 ≤ crop.y) ∧ (0 < crop.width ∧ 0 < crop.height) ∧
      crop.x.toNat + crop.width ≤ frame.width ∧ crop.y.toNat + crop.height ≤ frame.height := by
  obtain ⟨⟨hw, hh⟩, hx, hr, hy, hb⟩ := h
  simp only [full_bounds, Rect.right, Rect.bottom] at hx hr hy hb
  omega

/-- A crop of a picture is a canvas. -/
theorem canvas_crop {frame : CpuFrame} {crop : Rect} (h : CropOf (full_bounds frame) crop) :
    Canvas crop := by
  obtain ⟨⟨hx, hy⟩, -, hr, hb⟩ := crop_facts h
  obtain ⟨hw, hh⟩ := frame.sides_le
  constructor
  · exact hx
  · exact hy
  · simp only [Rect.right]
    omega
  · simp only [Rect.bottom]
    omega

/-- The row slice `render` copies is in range.
SRC: edit.rs:437-439 -/
theorem crop_row_le {frame : CpuFrame} {crop : Rect} (h : CropOf (full_bounds frame) crop)
    {row : Nat} (hrow : row < crop.height) :
    (crop.y.toNat + row) * frame.stride_bytes + crop.x.toNat * frame.format.bytes_per_pixel +
      crop.width * frame.format.bytes_per_pixel ≤ frame.pixels.length := by
  obtain ⟨-, -, hr, hb⟩ := crop_facts h
  obtain ⟨-, -, hstride, -, hlen⟩ := frame.layout_facts
  have h₁ : (crop.x.toNat + crop.width) * frame.format.bytes_per_pixel ≤
      frame.width * frame.format.bytes_per_pixel := Nat.mul_le_mul_right _ hr
  have h₂ : (crop.y.toNat + row + 1) * frame.stride_bytes ≤ frame.height * frame.stride_bytes :=
    Nat.mul_le_mul_right _ (by omega)
  rw [Nat.add_mul] at h₁
  rw [Nat.succ_mul, Nat.mul_comm frame.height] at h₂
  omega

/-- **The copied crop**: copying never panics, and each pixel is the capture's own.
SRC: edit.rs:430-440 -/
theorem cropped_pixels_spec {e : Edit F} (h : CropOf (full_bounds e.source) e.crop) :
    ∃ pixels, e.cropped_pixels = some pixels ∧
      Packed e.crop e.source.format.bytes_per_pixel pixels ∧
      ∀ q : Int × Int, e.crop.contains q.1 q.2 →
        pixel_of e.crop e.source.format.bytes_per_pixel pixels q =
          frame_pixel e.source q.1.toNat q.2.toNat := by
  obtain ⟨⟨hx, hy⟩, ⟨hw, hh⟩, hr, hb⟩ := crop_facts h
  have hranges := e.crop.ranges
  set size := e.source.format.bytes_per_pixel with hsize
  have hpos : 0 < e.crop.width * size :=
    Nat.mul_pos hw (PixelFormat.bytes_per_pixel_pos e.source.format)
  set start : Nat → Nat := fun row =>
    (as_usize e.crop.y + row) * e.source.stride_bytes + as_usize e.crop.x * size with hstart
  have hstart_eq : ∀ row, start row =
      (e.crop.y.toNat + row) * e.source.stride_bytes + e.crop.x.toNat * size := by
    intro row
    rw [hstart]
    simp only
    rw [as_usize_of_nonneg hx (by omega), as_usize_of_nonneg hy (by omega)]
  obtain ⟨pixels, hcopy, hpacked, hrows⟩ := foldlM_pointwise (Packed e.crop size)
    (fun row => row < e.crop.height)
    (fun pixels row => slice_at pixels (row * (e.crop.width * size)) (e.crop.width * size))
    (fun pixels row => do
      let target ← slice? e.source.pixels (start row) (e.crop.width * size)
      write? pixels (row * (e.crop.width * size)) target)
    (fun row _ => slice_at e.source.pixels (start row) (e.crop.width * size))
    (List.range e.crop.height) List.nodup_range (fun row hrow => List.mem_range.mp hrow)
    (by
      intro pixels row hrow hpixels
      rw [List.mem_range] at hrow
      have hin := crop_row_le h hrow
      rw [← hsize, ← hstart_eq] at hin
      have hlen := length_slice_at _ _ _ hin
      have hfit : row * (e.crop.width * size) + e.crop.width * size ≤ pixels.length := by
        rw [hpixels, ← Nat.succ_mul]
        exact Nat.mul_le_mul_right _ hrow
      obtain ⟨pixels', hwrite⟩ := write?_isSome pixels
        (slice_at e.source.pixels (start row) (e.crop.width * size)) (row * (e.crop.width * size))
        (by rwa [hlen])
      refine ⟨pixels', by simp [slice?_eq _ _ _ hin, hwrite],
        (length_write? hwrite).trans hpixels, ?_, ?_⟩
      · have hself := slice_at_write?_self hwrite
        rwa [hlen] at hself
      · intro row' _ hne
        refine slice_at_write?_disjoint hwrite ?_
        rw [hlen, ← Nat.succ_mul, ← Nat.succ_mul]
        rcases Nat.lt_or_gt_of_ne hne with hlt | hlt
        · exact Or.inl (Nat.mul_le_mul_right _ hlt)
        · exact Or.inr (Nat.mul_le_mul_right _ hlt))
    (List.replicate (e.crop.width * size * e.crop.height) 0)
    (by simp [Packed, Nat.mul_comm])
  refine ⟨pixels, ?_, hpacked, ?_⟩
  · rw [Edit.cropped_pixels]
    simp only
    rw [if_neg hpos.ne']
    exact hcopy
  · rintro ⟨x, y⟩ hq
    simp only [Rect.contains, Rect.right, Rect.bottom] at hq
    have hrow := hrows (y - e.crop.y).toNat (by omega)
    rw [if_pos (List.mem_range.mpr (by omega))] at hrow
    have hcol : (x - e.crop.x).toNat * size + size ≤ e.crop.width * size := by
      rw [← Nat.succ_mul]
      exact Nat.mul_le_mul_right _ (by omega)
    have hcell := congrArg (fun row => slice_at row ((x - e.crop.x).toNat * size) size) hrow
    simp only [slice_at_slice_at _ hcol] at hcell
    rw [pixel_of, pos_of, cell_at, hcell, frame_pixel, cell_at, ← hsize, hstart_eq]
    congr 1
    rw [show x.toNat = e.crop.x.toNat + (x - e.crop.x).toNat by omega,
      show y.toNat = e.crop.y.toNat + (y - e.crop.y).toNat by omega, Nat.add_mul e.crop.x.toNat]
    omega

/-! ## The published image, pixel by pixel -/

/-- What the marks of a list, painted in order, make of the pixel at `q`. -/
def painted (D : Drawing F) (marks : List (Mark F)) (area : Rect) (format : PixelFormat)
    (alpha : FrameAlpha) (q : Int × Int) (pixel : List Byte) : List Byte :=
  marks.foldl (fun pixel mark => shade D mark area format alpha q pixel) pixel

variable (D : Drawing F)

/-- Painting a list of marks sends each pixel through their shades in order. -/
theorem paint_marks_spec {area : Rect} (hcanvas : Paintable area) (format : PixelFormat)
    (alpha : FrameAlpha) (marks : List (Mark F)) (pixels : List Byte)
    (hpixels : Packed area format.bytes_per_pixel pixels) :
    ∃ pixels', marks.foldlM (fun pixels mark => paint_mark D mark pixels
        (area.width * format.bytes_per_pixel) area format alpha) pixels = some pixels' ∧
      Packed area format.bytes_per_pixel pixels' ∧
      ∀ q, area.contains q.1 q.2 → pixel_of area format.bytes_per_pixel pixels' q =
        painted D marks area format alpha q (pixel_of area format.bytes_per_pixel pixels q) := by
  induction marks generalizing pixels with
  | nil => exact ⟨pixels, rfl, hpixels, fun _ _ => rfl⟩
  | cons mark marks ih =>
      obtain ⟨pixels₁, h₁, hpacked₁, hget₁⟩ :=
        paint_mark_spec D mark hcanvas format alpha pixels hpixels
      obtain ⟨pixels₂, h₂, hpacked₂, hget₂⟩ := ih pixels₁ hpacked₁
      refine ⟨pixels₂, by simp [h₁, h₂], hpacked₂, fun q hq => ?_⟩
      rw [hget₂ q hq, hget₁ q hq]
      rfl

/-- What `render` returns for an edit of a capture: the crop's box, the capture's
own tags, and each pixel the capture's with the marks painted over it. -/
structure Rendered (e : Edit F) (frame : CpuFrame) : Prop where
  width : frame.width = e.crop.width
  height : frame.height = e.crop.height
  stride_bytes : frame.stride_bytes = e.crop.width * e.source.format.bytes_per_pixel
  format : frame.format = e.source.format
  origin : frame.origin = e.source.origin
  color_space : frame.color_space = e.source.color_space
  alpha : frame.alpha = e.source.alpha
  metadata : frame.metadata = e.rendered_metadata
  packed : Packed e.crop e.source.format.bytes_per_pixel frame.pixels
  pixels : ∀ q : Int × Int, e.crop.contains q.1 q.2 →
    pixel_of e.crop e.source.format.bytes_per_pixel frame.pixels q =
      painted D e.marks e.crop e.source.format e.source.alpha q
        (frame_pixel e.source q.1.toNat q.2.toNat)

/-- **The published image**: rendering an edit whose crop is one of its capture's
neither panics nor fails.
SRC: edit.rs:429-472 -/
theorem render_spec {e : Edit F} (h : CropOf (full_bounds e.source) e.crop) :
    ∃ frame, e.render D = some (.ok frame) ∧ Rendered D e frame := by
  obtain ⟨pixels₀, h₀, hpacked₀, hget₀⟩ := cropped_pixels_spec h
  obtain ⟨pixels, hpaint, hpacked, hget⟩ := paint_marks_spec D (canvas_crop h).paintable e.source.format
    e.source.alpha e.marks pixels₀ hpacked₀
  obtain ⟨-, ⟨hw, hh⟩, hr, hb⟩ := crop_facts h
  obtain ⟨-, hrow, hstride, hsize, -⟩ := e.source.layout_facts
  have hrow' : e.crop.width * e.source.format.bytes_per_pixel ≤
      e.source.width * e.source.format.bytes_per_pixel := Nat.mul_le_mul_right _ (by omega)
  have hbytes : e.crop.width * e.source.format.bytes_per_pixel * e.crop.height ≤
      e.source.stride_bytes * e.source.height := Nat.mul_le_mul (by omega) (by omega)
  have hlayout : validate_layout pixels.length e.crop.width e.crop.height
      (e.crop.width * e.source.format.bytes_per_pixel) e.source.format =
      .ok (e.crop.width * e.source.format.bytes_per_pixel * e.crop.height) := by
    refine validate_layout_eq_ok.mpr ⟨⟨hw, hh⟩, by omega, le_refl _, by omega, ?_, rfl⟩
    rw [hpacked, Nat.mul_comm e.crop.height]
  refine ⟨⟨pixels, _, _, _, e.source.format, e.source.origin, e.source.color_space,
    e.source.alpha, e.rendered_metadata, hlayout⟩, ?_, ⟨rfl, rfl, rfl, rfl, rfl, rfl, rfl, rfl,
      hpacked, fun q hq => by rw [hget q hq, hget₀ q hq]⟩⟩
  simp only [Edit.render, h₀, Option.bind_eq_bind, Option.bind_some, hpaint]
  rw [CpuFrame.new_of_layout hlayout]
  rfl

/-! ## What a redaction hides -/

/-- The pixel `(x, y)` is inside a redaction of the list. -/
def Redacted (marks : List (Mark F)) (x y : Int) : Prop :=
  ∃ rect, Mark.Redaction rect ∈ marks ∧ rect.contains x y

/-- **Order does not matter**: a pixel under a redaction of the list comes out the
same whatever it was, whatever is painted before and after the redaction. -/
theorem painted_of_redacted {marks : List (Mark F)} {area : Rect} {q : Int × Int}
    (hq : area.contains q.1 q.2) (h : Redacted marks q.1 q.2) (format : PixelFormat)
    (alpha : FrameAlpha) (pixel₁ pixel₂ : List Byte) :
    painted D marks area format alpha q pixel₁ = painted D marks area format alpha q pixel₂ := by
  obtain ⟨rect, hmem, hrect⟩ := h
  obtain ⟨before, after, rfl⟩ := List.append_of_mem hmem
  simp only [painted, List.foldl_append, List.foldl_cons, shade_redaction D hrect hq]

/-! ## Two captures of one shape -/

/-- Two captures alike in everything an edit and a publication read but the pixels,
the stride and the colour space. -/
structure SameShape (s₁ s₂ : CpuFrame) : Prop where
  width : s₁.width = s₂.width
  height : s₁.height = s₂.height
  format : s₁.format = s₂.format
  alpha : s₁.alpha = s₂.alpha
  metadata : s₁.metadata = s₂.metadata

/-- The same edit over another capture. -/
def with_source (source : CpuFrame) (e : Edit F) : Edit F := { e with source }

/-- Captures of one shape have the same bounds. -/
theorem full_bounds_congr {s₁ s₂ : CpuFrame} (h : SameShape s₁ s₂) :
    full_bounds s₁ = full_bounds s₂ :=
  Rect.ext_fields rfl rfl h.width h.height

section WithSource

variable (source : CpuFrame) (e : Edit F)

/-- Applying a step does not read the capture. -/
theorem apply_with_source (step : Step F) :
    (with_source source e).apply step = (e.apply step).map (with_source source) := by
  rw [apply_eq, apply_eq, Option.map_map]
  rfl

/-- Recording a step does not read the capture. -/
theorem record_with_source (step : Step F) :
    (with_source source e).record step = (e.record step).map (with_source source) := by
  simp only [Edit.record, apply_with_source, Option.map_map]
  rfl

/-- Undoing does not read the capture. -/
theorem undo_with_source :
    (with_source source e).undo = e.undo.map fun r => (with_source source r.1, r.2) := by
  rw [undo_eq (full_bounds source), undo_eq (full_bounds source), Option.map_map]
  rfl

/-- Redoing does not read the capture. -/
theorem redo_with_source :
    (with_source source e).redo = e.redo.map fun r => (with_source source r.1, r.2) := by
  rw [redo_eq (full_bounds source), redo_eq (full_bounds source), Option.map_map]
  rfl

/-- What an edit accepts depends on its capture's size and format only.
SRC: edit.rs:311-339 -/
theorem accept_with_source (h : SameShape e.source source) (mark : Mark F) :
    (with_source source e).accept D mark = e.accept D mark := by
  have hbounds : (with_source source e).bounds = e.bounds := (full_bounds_congr h).symm
  have hformat : (with_source source e).source.format = e.source.format := h.format.symm
  unfold Edit.accept
  rw [hbounds, hformat]

variable [BEq F]

/-- A call over a capture of the same shape does the same to the edit. -/
theorem call_with_source (h : SameShape e.source source) (c : Call F) :
    call D (with_source source e) c = (call D e c).map fun r => (with_source source r.1, r.2) := by
  have hbounds : (with_source source e).bounds = e.bounds := (full_bounds_congr h).symm
  have hrec : ∀ step : Step F, ((with_source source e).record step).map (·, true) =
      (((e.record step).map (·, true)).map fun r : Edit F × Bool =>
        (with_source source r.1, r.2)) := by
    intro step
    rw [record_with_source, Option.map_map, Option.map_map]
    rfl
  have hadd : ∀ mark, (with_source source e).add D mark =
      (e.add D mark).map fun r => (with_source source r.1, r.2) := by
    intro mark
    simp only [Edit.add, accept_with_source D source e h]
    cases e.accept D mark with
    | none => rfl
    | some mark => exact hrec _
  cases c with
  | set_crop rect =>
      simp only [call, Edit.set_crop, hbounds]
      cases rect.intersection e.bounds with
      | none => rfl
      | some after =>
          rw [show (with_source source e).crop = e.crop from rfl]
          simp only
          split
          · rfl
          · exact hrec _
  | add mark => exact hadd mark
  | redact rect => exact hadd _
  | replace index mark =>
      simp only [call, Edit.replace, accept_with_source D source e h]
      rw [show (with_source source e).marks = e.marks from rfl]
      cases e.marks[index]? with
      | none => rfl
      | some before =>
          cases mark with
          | none => exact hrec _
          | some mark =>
              simp only
              cases e.accept D mark with
              | none => rfl
              | some kept =>
                  simp only
                  split
                  · exact hrec _
                  · rfl
  | undo => exact undo_with_source source e
  | redo => exact redo_with_source source e

end WithSource

variable [BEq F]

/-- The calls do to two captures of one shape the same thing. -/
theorem run_with_source {s₁ s₂ : CpuFrame} (h : SameShape s₁ s₂) (calls : List (Call F)) :
    run D calls (Edit.new s₂) = (run D calls (Edit.new s₁)).map (with_source s₂) := by
  have hrun : ∀ (calls : List (Call F)) (e : Edit F), HistoryInv s₁ e →
      run D calls (with_source s₂ e) = (run D calls e).map (with_source s₂) := by
    intro calls
    induction calls with
    | nil => exact fun e _ => rfl
    | cons c calls ih =>
        intro e he
        have hsource : SameShape e.source s₂ := by rwa [he.source_eq]
        obtain ⟨e', b, hcall, hinv, -⟩ := call_outcome D he c
        simp only [run, List.foldlM_cons, call_with_source D s₂ e hsource c, hcall] at ih ⊢
        exact ih e' hinv
  rw [← hrun calls _ (history_inv_new s₁)]
  congr 1
  simp only [Edit.new, with_source, full_bounds_congr h]

/-! ## The theorem -/

omit [BEq F] in
/-- Two frames published for the same crop and marks, whose pixels agree, differ in
their colour space at most. -/
theorem frame_eq_of_rendered {e₁ e₂ : Edit F} {r₁ r₂ : CpuFrame} (h₁ : Rendered D e₁ r₁)
    (h₂ : Rendered D e₂ r₂) (hshape : SameShape e₁.source e₂.source) (hcrop : e₁.crop = e₂.crop)
    (hpixels : ∀ q : Int × Int, e₁.crop.contains q.1 q.2 →
      pixel_of e₁.crop e₁.source.format.bytes_per_pixel r₁.pixels q =
        pixel_of e₁.crop e₁.source.format.bytes_per_pixel r₂.pixels q) :
    r₂ = { r₁ with color_space := e₂.source.color_space } := by
  have hpacked₂ := h₂.packed
  rw [← hcrop, ← hshape.format] at hpacked₂
  have hbytes : r₁.pixels = r₂.pixels := packed_ext h₁.packed hpacked₂ hpixels
  refine CpuFrame.ext_fields hbytes.symm ?_ ?_ ?_ ?_ ?_ h₂.color_space ?_ ?_
  · rw [h₂.width, h₁.width, hcrop]
  · rw [h₂.height, h₁.height, hcrop]
  · rw [h₂.stride_bytes, h₁.stride_bytes, hcrop, hshape.format]
  · rw [h₂.format, h₁.format, hshape.format]
  · rfl
  · rw [h₂.alpha, h₁.alpha, hshape.alpha]
  · rw [h₂.metadata, h₁.metadata]
    simp only [Edit.rendered_metadata, hshape.metadata, hcrop]

/-- **Redaction is noninterfering.**  Make the same calls on two captures of one
shape, and let the captures agree on every pixel of the final crop that no redaction
of the final marks covers.  Then both edits are published, as the same image: the same
bytes and the same metadata, each with its own capture's colour space. -/
theorem render_noninterference (s₁ s₂ : CpuFrame) (hshape : SameShape s₁ s₂)
    (calls : List (Call F)) :
    ∃ e₁ e₂, run D calls (Edit.new s₁) = some e₁ ∧ run D calls (Edit.new s₂) = some e₂ ∧
      e₂.marks = e₁.marks ∧ e₂.crop = e₁.crop ∧
      ((∀ x y : Nat, e₁.crop.contains x y → ¬ Redacted e₁.marks x y →
          frame_pixel s₁ x y = frame_pixel s₂ x y) →
        ∃ r₁, e₁.render D = some (.ok r₁) ∧
          e₂.render D = some (.ok { r₁ with color_space := s₂.color_space })) := by
  obtain ⟨e₁, hrun₁, hinv₁⟩ := run_inv D s₁ calls
  obtain ⟨e₂, hrun₂, hinv₂⟩ := run_inv D s₂ calls
  have hsame : e₂ = with_source s₂ e₁ := by
    have h := run_with_source D hshape calls
    rw [hrun₁, hrun₂] at h
    exact Option.some.inj h
  have hcrop : e₂.crop = e₁.crop := by rw [hsame]; rfl
  have hmarks : e₂.marks = e₁.marks := by rw [hsame]; rfl
  refine ⟨e₁, e₂, hrun₁, hrun₂, hmarks, hcrop, fun hagree => ?_⟩
  obtain ⟨r₁, hr₁, hrendered₁⟩ := render_spec D (e := e₁) (by
    rw [hinv₁.source_eq]
    exact hinv₁.crop)
  obtain ⟨r₂, hr₂, hrendered₂⟩ := render_spec D (e := e₂) (by
    rw [hinv₂.source_eq]
    exact hinv₂.crop)
  refine ⟨r₁, hr₁, ?_⟩
  rw [hr₂, ← hinv₂.source_eq]
  congr 2
  refine frame_eq_of_rendered D hrendered₁ hrendered₂ ?_ hcrop.symm fun q hq => ?_
  · rwa [hinv₁.source_eq, hinv₂.source_eq]
  · have hnonneg := (crop_facts hinv₁.crop).1
    have hq' : e₂.crop.contains q.1 q.2 := by rwa [hcrop]
    have hx : ((q.1.toNat : Nat) : Int) = q.1 := by
      simp only [Rect.contains] at hq
      omega
    have hy : ((q.2.toNat : Nat) : Int) = q.2 := by
      simp only [Rect.contains] at hq
      omega
    have h₂ := hrendered₂.pixels q hq'
    rw [hcrop, hmarks, hinv₂.source_eq, ← hshape.format, ← hshape.alpha] at h₂
    have h₁ := hrendered₁.pixels q hq
    rw [hinv₁.source_eq] at h₁ ⊢
    rw [h₁, h₂]
    by_cases hred : Redacted e₁.marks q.1 q.2
    · exact painted_of_redacted D hq hred _ _ _ _
    · rw [hagree q.1.toNat q.2.toNat (by rwa [hx, hy]) (by rwa [hx, hy])]

/-- A pixel and another one, each redacted, are published as the same frame. -/
theorem render_noninterference_one_pixel :
    ∃ e₁ e₂ r, run blank_drawing [redact_one_pixel] (Edit.new (one_pixel ⟨1, 2, 3, 255⟩)) = some e₁ ∧
      run blank_drawing [redact_one_pixel] (Edit.new (one_pixel ⟨9, 8, 7, 0⟩)) = some e₂ ∧
      e₁.render blank_drawing = some (.ok r) ∧ e₂.render blank_drawing = some (.ok r) := by
  obtain ⟨e₁, e₂, h₁, h₂, -, -, h⟩ := render_noninterference blank_drawing
    (one_pixel ⟨1, 2, 3, 255⟩) (one_pixel ⟨9, 8, 7, 0⟩) ⟨rfl, rfl, rfl, rfl, rfl⟩ [redact_one_pixel]
  obtain ⟨r, hr₁, hr₂⟩ := h (by
    intro x y hxy hvisible
    obtain rfl := Option.some.inj h₁
    exact absurd ⟨_, List.mem_singleton.mpr rfl, hxy⟩ hvisible)
  refine ⟨e₁, e₂, r, h₁, h₂, hr₁, ?_⟩
  have hspace : r.color_space = .Srgb := by
    obtain rfl := Option.some.inj h₁
    obtain rfl : _ = r := Except.ok.inj (Option.some.inj hr₁)
    rfl
  rw [hr₂, show (one_pixel ⟨9, 8, 7, 0⟩).color_space = r.color_space from hspace.symm]

end Captastic.Analysis
