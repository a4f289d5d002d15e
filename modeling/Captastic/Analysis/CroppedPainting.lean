import Captastic.Analysis.FrameCrop
import Captastic.Analysis.Redaction
import Captastic.Model.Stroke

/-!
# Cropping commutes with painting

What a mark does to a pixel depends on where the pixel is, and not on the area that is painted:
a stroke's coverage, the one thing computed for a whole area, is the same at a pixel in every
area (`traced_stroke_coverage`).  So a part of a buffer can be cut out before painting or after
it (`paint_mark_cut_out`), and publishing a crop is cropping what is published without one
(`render_crop`).
-/

set_option autoImplicit false

namespace Captastic.Analysis

open Captastic.Library Captastic.Model

variable {F : Type} (D : Drawing F) (pen : Pen F)

/-! ## Shades do not depend on the area -/

/-- What a mark leaves for a pixel is the same in every part that holds the pixel. -/
theorem inked_congr (mark : Mark F) {reach reach' : Rect} {p : Int × Int}
    (inside : reach.contains p.1 p.2) (inside' : reach'.contains p.1 p.2) (format : PixelFormat)
    (alpha : FrameAlpha) (pixel : List Byte) :
    inked (traced D pen) mark reach format alpha p pixel =
      inked (traced D pen) mark reach' format alpha p pixel := by
  unfold inked
  cases format.encoding with
  | HalfFloatRgba => cases mark <;> rfl
  | EightBitRgba blue_first =>
    cases mark with
    | Stroke points color width style =>
      have cover := @traced_stroke_coverage _ pen _ _ D points width inside
      have cover' := @traced_stroke_coverage _ pen _ _ D points width inside'
      simp only [cover, cover']
    | Redaction | Rectangle | Arrow | Text => rfl

section Shades

variable {D} {mark : Mark F} {bounds area : Rect} {p : Int × Int}

/-- A pixel outside a mark is left as it is. -/
theorem shade_of_unmarked (bounds_eq : mark.bounds D = some bounds)
    (unmarked : ¬ bounds.contains p.1 p.2) (format : PixelFormat) (alpha : FrameAlpha)
    (pixel : List Byte) : shade D mark area format alpha p pixel = pixel := by
  unfold shade
  rw [bounds_eq, Option.bind_some]
  cases reach_eq : bounds.intersection area with
  | none => rfl
  | some reach =>
    apply if_neg
    rw [Rect.contains_intersection reach_eq]
    exact fun both => unmarked both.1

/-- A pixel of a mark and of the area is in the part that is painted. -/
theorem shade_of_marked (bounds_eq : mark.bounds D = some bounds)
    (marked : bounds.contains p.1 p.2) (inside : area.contains p.1 p.2) (format : PixelFormat)
    (alpha : FrameAlpha) (pixel : List Byte) :
    ∃ reach : Rect, reach.contains p.1 p.2 ∧
      shade D mark area format alpha p pixel = inked D mark reach format alpha p pixel := by
  unfold shade
  rw [bounds_eq, Option.bind_some]
  cases reach_eq : bounds.intersection area with
  | none => exact absurd inside (Rect.not_contains_of_intersection_eq_none reach_eq _ _ marked)
  | some reach =>
    have reached := (Rect.contains_intersection reach_eq p.1 p.2).mpr ⟨marked, inside⟩
    exact ⟨reach, reached, if_pos reached⟩

end Shades

/-- What a mark does to a pixel of two areas is the same in both. -/
theorem shade_congr (mark : Mark F) {area area' : Rect} {p : Int × Int}
    (inside : area.contains p.1 p.2) (inside' : area'.contains p.1 p.2) (format : PixelFormat)
    (alpha : FrameAlpha) (pixel : List Byte) :
    shade (traced D pen) mark area format alpha p pixel =
      shade (traced D pen) mark area' format alpha p pixel := by
  cases bounds_eq : mark.bounds (traced D pen) with
  | none =>
    unfold shade
    rw [bounds_eq]
    rfl
  | some bounds =>
    by_cases marked : bounds.contains p.1 p.2
    · obtain ⟨reach, reached, shade_eq⟩ :=
        shade_of_marked bounds_eq marked inside format alpha pixel
      obtain ⟨reach', reached', shade_eq'⟩ :=
        shade_of_marked bounds_eq marked inside' format alpha pixel
      rw [shade_eq, shade_eq']
      apply inked_congr
      · exact reached
      · exact reached'
    · rw [shade_of_unmarked bounds_eq marked, shade_of_unmarked bounds_eq marked]

/-- What a list of marks does to a pixel of two areas is the same in both. -/
theorem painted_congr (marks : List (Mark F)) {area area' : Rect} {p : Int × Int}
    (inside : area.contains p.1 p.2) (inside' : area'.contains p.1 p.2) (format : PixelFormat)
    (alpha : FrameAlpha) (pixel : List Byte) :
    painted (traced D pen) marks area format alpha p pixel =
      painted (traced D pen) marks area' format alpha p pixel := by
  unfold painted
  induction marks generalizing pixel with
  | nil => rfl
  | cons mark marks ih =>
    rw [List.foldl_cons, List.foldl_cons, shade_congr D pen mark inside inside', ih]

/-! ## Parts of a buffer -/

/-- The rows of `area`, cut out of a buffer that holds `whole`. -/
def cut_out (whole area : Rect) (size : Nat) (pixels : List Byte) : List Byte :=
  (List.range' 0 area.height).flatMap fun row : Nat =>
    slice_at pixels (pos_of whole size (area.x, area.y + row)) (area.width * size)

section CutOut

variable {whole area : Rect} {size : Nat} {pixels : List Byte}

/-- Part of an area that can be painted can be painted. -/
theorem Paintable.part (paintable : Paintable whole) (within : area.Within whole) :
    Paintable area := by
  obtain ⟨right, bottom, width, height⟩ := paintable
  unfold Rect.Within Rect.right Rect.bottom at within
  constructor
  · unfold Rect.right at right ⊢
    omega
  · unfold Rect.bottom at bottom ⊢
    omega
  · omega
  · omega

/-- A row of a part lies in the buffer of the whole. -/
theorem row_in_range (within : area.Within whole) (packed : Packed whole size pixels) {row : Nat}
    (row_lt : row < area.height) :
    pos_of whole size (area.x, area.y + row) + area.width * size ≤ pixels.length := by
  unfold Rect.Within Rect.right Rect.bottom at within
  have row_holds : ((area.x - whole.x).toNat + area.width) * size ≤ whole.width * size :=
    Nat.mul_le_mul_right _ (by omega)
  have rows : ((area.y + row - whole.y).toNat + 1) * (whole.width * size) ≤
      whole.height * (whole.width * size) := Nat.mul_le_mul_right _ (by omega)
  rw [Nat.add_mul] at row_holds
  rw [Nat.succ_mul] at rows
  unfold Packed at packed
  unfold pos_of cell_at
  simp only
  omega

/-- What is cut out of packed pixels is packed. -/
theorem packed_cut_out (within : area.Within whole) (packed : Packed whole size pixels) :
    Packed area size (cut_out whole area size pixels) := by
  unfold Packed cut_out
  rw [length_flatMap_of_length (m := area.width * size), List.length_range']
  intro row member
  refine length_slice_at _ _ _ (row_in_range within packed ?_)
  have := List.mem_range'_1.mp member
  omega

/-- The pixels of a part are the pixels of the whole. -/
theorem pixel_of_cut_out (within : area.Within whole) (packed : Packed whole size pixels)
    {q : Int × Int} (inside : area.contains q.1 q.2) :
    pixel_of area size (cut_out whole area size pixels) q = pixel_of whole size pixels q := by
  have column : ((q.1 - area.x).toNat + 1) * size ≤ area.width * size := column_le inside
  unfold Rect.contains Rect.right Rect.bottom at inside
  unfold Rect.Within Rect.right Rect.bottom at within
  have rows : ∀ row ∈ List.range' 0 area.height,
      (slice_at pixels (pos_of whole size (area.x, area.y + (row : Nat)))
        (area.width * size)).length = area.width * size := by
    intro row member
    refine length_slice_at _ _ _ (row_in_range within packed ?_)
    have := List.mem_range'_1.mp member
    omega
  have row_at : (List.range' 0 area.height)[(q.2 - area.y).toNat]? =
      some (q.2 - area.y).toNat := by
    rw [List.getElem?_range' (by omega), Nat.zero_add, Nat.one_mul]
  have row := slice_at_flatMap rows row_at
  have cell := congrArg (fun row => slice_at row ((q.1 - area.x).toNat * size) size) row
  rw [Nat.succ_mul] at column
  simp only [slice_at_slice_at _ column] at cell
  unfold pixel_of cut_out pos_of cell_at
  unfold pos_of cell_at at cell
  rw [cell]
  congr 1
  rw [show area.y + ((q.2 - area.y).toNat : Int) = q.2 by omega,
    show (q.1 - whole.x).toNat = (area.x - whole.x).toNat + (q.1 - area.x).toNat by omega,
    Nat.add_mul]
  simp only
  omega

/-- **Cutting out commutes with painting**: a mark painted into a part of a buffer leaves the
bytes that it leaves there when it is painted into the whole.
SRC: edit.rs:481-590 -/
theorem paint_mark_cut_out (mark : Mark F) (format : PixelFormat) (alpha : FrameAlpha)
    (paintable : Paintable whole) (within : area.Within whole)
    (packed : Packed whole format.bytes_per_pixel pixels) :
    paint_mark (traced D pen) mark (cut_out whole area format.bytes_per_pixel pixels)
        (area.width * format.bytes_per_pixel) area format alpha =
      (paint_mark (traced D pen) mark pixels (whole.width * format.bytes_per_pixel) whole format
        alpha).map (cut_out whole area format.bytes_per_pixel) := by
  obtain ⟨painted_whole, whole_ran, whole_packed, whole_pixels⟩ :=
    paint_mark_spec (traced D pen) mark paintable format alpha pixels packed
  obtain ⟨painted_part, part_ran, part_packed, part_pixels⟩ :=
    paint_mark_spec (traced D pen) mark (paintable.part within) format alpha
      (cut_out whole area format.bytes_per_pixel pixels) (packed_cut_out within packed)
  rw [whole_ran, part_ran, Option.map_some]
  congr 1
  apply packed_ext part_packed (packed_cut_out within whole_packed)
  intro q inside
  have inside_whole := within.contains inside
  rw [part_pixels q inside, pixel_of_cut_out within packed inside,
    pixel_of_cut_out within whole_packed inside, whole_pixels q inside_whole,
    shade_congr D pen mark inside inside_whole]

end CutOut

/-! ## Crops of what is published -/

/-- The crop starts at a position of the desktop that is an `i32`. -/
def OnDesktop32 (e : Edit F) : Prop :=
  e.source.metadata.source_rect.x + e.crop.x ≤ 2147483647 ∧
    e.source.metadata.source_rect.y + e.crop.y ≤ 2147483647

instance (e : Edit F) : Decidable (OnDesktop32 e) := inferInstanceAs (Decidable (_ ∧ _))

/-- The same edit without a crop.
SRC: edit.rs:238-240 -/
def uncropped (e : Edit F) : Edit F := { e with crop := e.bounds }

variable {D pen} {e : Edit F}

/-- A picture is a crop of itself. -/
theorem crop_of_bounds (source : CpuFrame) : CropOf (full_bounds source) (full_bounds source) := by
  obtain ⟨⟨width_pos, height_pos⟩, -⟩ := source.layout_facts
  exact ⟨⟨width_pos, height_pos⟩, le_refl _, le_refl _, le_refl _, le_refl _⟩

/-- The rectangle of the desktop that a rendered crop covers. -/
theorem rendered_rect (crop : CropOf (full_bounds e.source) e.crop) (on_desktop : OnDesktop32 e) :
    e.rendered_metadata.source_rect.x = e.source.metadata.source_rect.x + e.crop.x ∧
      e.rendered_metadata.source_rect.y = e.source.metadata.source_rect.y + e.crop.y ∧
      e.rendered_metadata.source_rect.width = e.crop.width ∧
      e.rendered_metadata.source_rect.height = e.crop.height := by
  obtain ⟨⟨x_nonneg, y_nonneg⟩, -⟩ := crop_facts crop
  have ranges := e.source.metadata.source_rect.ranges
  unfold OnDesktop32 at on_desktop
  refine ⟨?_, ?_, rfl, rfl⟩
  · simp only [Edit.rendered_metadata, saturating_add_i32]
    omega
  · simp only [Edit.rendered_metadata, saturating_add_i32]
    omega

/-- Without its crop an edit stays on the desktop. -/
theorem uncropped_on_desktop (e : Edit F) : OnDesktop32 (uncropped e) := by
  have ranges := e.source.metadata.source_rect.ranges
  unfold OnDesktop32 uncropped Edit.bounds full_bounds
  simp only
  omega

/-- **Publishing a crop is cropping what is published without one.**
SRC: edit.rs:429-472, frame.rs:291-354 -/
theorem render_crop (crop : CropOf (full_bounds e.source) e.crop)
    (on_desktop : OnDesktop32 e) :
    ∃ out whole cropped, e.render (traced D pen) = some (.ok out) ∧
      (uncropped e).render (traced D pen) = some (.ok whole) ∧
      whole.crop out.metadata.source_rect = .ok cropped ∧ SameCrop out cropped := by
  obtain ⟨out, out_made, rendered⟩ := render_spec (traced D pen) crop
  obtain ⟨whole, whole_made, whole_rendered⟩ :=
    render_spec (traced D pen) (e := uncropped e) (crop_of_bounds e.source)
  obtain ⟨⟨x_nonneg, y_nonneg⟩, ⟨width_pos, height_pos⟩, right, bottom⟩ := crop_facts crop
  obtain ⟨x_eq, y_eq, width_eq, height_eq⟩ := rendered_rect crop on_desktop
  obtain ⟨whole_x, whole_y, whole_width, whole_height⟩ :=
    rendered_rect (e := uncropped e) (crop_of_bounds e.source) (uncropped_on_desktop e)
  rw [← rendered.metadata] at x_eq y_eq width_eq height_eq
  rw [← whole_rendered.metadata] at whole_x whole_y whole_width whole_height
  have size_eq : whole.format = e.source.format := whole_rendered.format
  have whole_matches : SourceMatches whole := by
    unfold SourceMatches
    rw [whole_width, whole_height, whole_rendered.width, whole_rendered.height]
    exact ⟨rfl, rfl⟩
  simp only [uncropped, Edit.bounds, full_bounds, add_zero] at whole_x whole_y whole_width whole_height
  have inside : Inside whole.metadata.source_rect out.metadata.source_rect := by
    unfold Inside Rect.NonEmpty Rect.Within Rect.right Rect.bottom
    omega
  have local_x_eq : local_x whole.metadata.source_rect out.metadata.source_rect =
      e.crop.x.toNat := by
    unfold local_x
    omega
  have local_y_eq : local_y whole.metadata.source_rect out.metadata.source_rect =
      e.crop.y.toNat := by
    unfold local_y
    omega
  obtain ⟨cropped, made, cut⟩ := crop_of_inside whole_matches inside
  refine ⟨out, whole, cropped, out_made, whole_made, made, ?_⟩
  have length := cut.length
  rw [width_eq, height_eq, size_eq] at length
  have same_bytes : out.pixels = cropped.pixels := by
    refine packed_ext rendered.packed length ?_
    rintro ⟨x, y⟩ inside_crop
    have inside_bounds : (full_bounds e.source).contains x y := crop.2.contains inside_crop
    rw [rendered.pixels (x, y) inside_crop]
    unfold Rect.contains Rect.right Rect.bottom at inside_crop
    have cell := cut.pixels (x - e.crop.x).toNat (y - e.crop.y).toNat (by omega) (by omega)
    have own := cut.cell (x - e.crop.x).toNat (y - e.crop.y).toNat
    have shown := whole_rendered.pixels (x, y) inside_bounds
    rw [width_eq, size_eq, cell, local_x_eq, local_y_eq,
      show e.crop.x.toNat + (x - e.crop.x).toNat = x.toNat by omega,
      show e.crop.y.toNat + (y - e.crop.y).toNat = y.toNat by omega] at own
    unfold pixel_of pos_of
    unfold cell_of at own
    rw [own]
    unfold frame_pixel
    rw [whole_rendered.stride_bytes, size_eq]
    unfold pixel_of pos_of uncropped Edit.bounds full_bounds at shown
    simp only [sub_zero] at shown
    unfold uncropped Edit.bounds full_bounds
    simp only
    rw [shown]
    exact painted_congr D pen e.marks inside_crop inside_bounds _ _ _
  exact
    { pixels := same_bytes
      width := by rw [rendered.width, cut.width, width_eq]
      height := by rw [rendered.height, cut.height, height_eq]
      stride_bytes := by rw [rendered.stride_bytes, cut.stride_bytes, width_eq, size_eq]
      format := by rw [rendered.format, cut.format, size_eq]
      alpha := by
        rw [rendered.alpha, cut.alpha, whole_rendered.alpha]
        rfl
      source_rect := cut.source_rect.symm }

variable (D pen) [BEq F]

/-- **Cropping commutes with painting.**  Whatever calls made an edit, if the corner of its crop
is a position of the desktop then publishing the crop is cropping what would be published
without it; and a mark painted into any part of a buffer leaves the bytes that it leaves there
when it is painted into the whole.
SRC: edit.rs:429-590, edit.rs:710-737, frame.rs:291-354 -/
theorem cropping_commutes_with_painting (source : CpuFrame) (calls : List (Call F)) :
    (∃ e, run (traced D pen) calls (Edit.new source) = some e ∧
      (OnDesktop32 e → ∃ out whole cropped, e.render (traced D pen) = some (.ok out) ∧
        (uncropped e).render (traced D pen) = some (.ok whole) ∧
        whole.crop out.metadata.source_rect = .ok cropped ∧ SameCrop out cropped)) ∧
    ∀ (mark : Mark F) (whole area : Rect) (format : PixelFormat) (alpha : FrameAlpha)
      (pixels : List Byte), Paintable whole → area.Within whole →
      Packed whole format.bytes_per_pixel pixels →
      paint_mark (traced D pen) mark (cut_out whole area format.bytes_per_pixel pixels)
          (area.width * format.bytes_per_pixel) area format alpha =
        (paint_mark (traced D pen) mark pixels (whole.width * format.bytes_per_pixel) whole format
          alpha).map (cut_out whole area format.bytes_per_pixel) := by
  refine ⟨?_, ?_⟩
  · obtain ⟨e, ran, history⟩ := run_inv (traced D pen) source calls
    refine ⟨e, ran, ?_⟩
    apply render_crop
    rw [history.source_eq]
    exact history.crop
  · intro mark whole area format alpha pixels paintable within packed
    exact paint_mark_cut_out D pen mark format alpha paintable within packed

/-- A pen that covers nothing. -/
def blank_pen : Pen Unit where
  default_point := ((), ())
  zero := ()
  exceeds _ _ := false
  segment_edges _ _ := (0, 0, 0, 0)
  segment_cover _ _ _ := ()

/-- Two is a width. -/
theorem in_u32_two : InU32 2 := by decide

/-- One is a coordinate. -/
theorem in_i32_one : InI32 1 := by decide

/-- Two pixels side by side lie on one row. -/
theorem pair_layout : validate_layout 8 2 1 8 .Bgra8Unorm = .ok (8 * 1) := rfl

/-- Two pixels side by side, the left one at this position of the desktop. -/
def pixel_pair (x : Int) (x_i32 : InI32 x) : CpuFrame where
  pixels := [1, 2, 3, 255, 4, 5, 6, 255]
  width := 2
  height := 1
  stride_bytes := 8
  format := .Bgra8Unorm
  origin := .TopLeft
  color_space := .Srgb
  alpha := .Opaque
  metadata := { plain_metadata with
    source_rect :=
      { x := x
        y := 0
        width := 2
        height := 1
        x_i32 := x_i32
        y_i32 := in_i32_zero
        width_u32 := in_u32_two
        height_u32 := Rect.origin_pixel.height_u32 } }
  layout := pair_layout

/-- A crop to the right pixel of the two. -/
def crop_right : Call Unit := .set_crop { Rect.origin_pixel with x := 1, x_i32 := in_i32_one }

/-- The right pixel of two, published and cut out of what is published. -/
theorem pixel_pair_commutes :
    ∃ e, run (traced blank_drawing blank_pen) [crop_right] (Edit.new (pixel_pair 5 (by decide))) =
        some e ∧
      ∃ out whole cropped, e.render (traced blank_drawing blank_pen) = some (.ok out) ∧
        (uncropped e).render (traced blank_drawing blank_pen) = some (.ok whole) ∧
        whole.crop out.metadata.source_rect = .ok cropped ∧ SameCrop out cropped := by
  obtain ⟨⟨e, ran, commutes⟩, -⟩ := cropping_commutes_with_painting blank_drawing blank_pen
    (pixel_pair 5 (by decide)) [crop_right]
  refine ⟨e, ran, commutes ?_⟩
  obtain rfl := Option.some.inj ran
  decide

/-- A column of pixels at the end of the coordinates, as long as it is asked to be. -/
def far_column (height : U32) : Rect where
  x := 0
  y := 2147483646
  width := 1
  height := height.1
  x_i32 := in_i32_zero
  width_u32 := Rect.origin_pixel.width_u32
  height_u32 := height.2

/-- At the end of the desktop's coordinates the source rectangle of a crop stays where it was,
and what lies there in the whole picture is the left pixel.  A mark on a column that reaches
past the last coordinate is painted into a part of the column and not into the whole.
SRC: edit.rs:453-458, edit.rs:689-703 -/
theorem far_pixel_pair_differs :
    (∃ e out whole, SourceMatches e.source ∧
      run (traced blank_drawing blank_pen) [crop_right]
        (Edit.new (pixel_pair 2147483647 (by decide))) = some e ∧
      e.render (traced blank_drawing blank_pen) = some (.ok out) ∧
      (uncropped e).render (traced blank_drawing blank_pen) = some (.ok whole) ∧
      ∀ selection cropped, whole.crop selection = .ok cropped →
        ¬ (cropped.metadata.source_rect = out.metadata.source_rect ∧
          cropped.pixels = out.pixels)) ∧
    ∃ (mark : Mark Unit) (whole area : Rect) (pixels : List Byte), area.Within whole ∧
      Packed whole 4 pixels ∧
      paint_mark (traced blank_drawing blank_pen) mark (cut_out whole area 4 pixels)
          (area.width * 4) area .Bgra8Unorm .Opaque ≠
        (paint_mark (traced blank_drawing blank_pen) mark pixels (whole.width * 4) whole
          .Bgra8Unorm .Opaque).map (cut_out whole area 4) := by
  refine ⟨⟨_, _, _, ⟨rfl, rfl⟩, rfl, rfl, rfl, ?_⟩, ?_⟩
  · rintro selection cropped made ⟨same_rect, same_pixels⟩
    obtain ⟨-, -, cut⟩ := cropped_of_ok made
    rw [cut.source_rect] at same_rect
    have first := cut.cell 0 0
    rw [cut.pixels 0 0 (by rw [same_rect]; decide) (by rw [same_rect]; decide), same_rect,
      same_pixels] at first
    revert first
    decide
  · refine ⟨.Redaction (far_column ⟨3, by decide⟩), far_column ⟨3, by decide⟩, far_column ⟨1, by decide⟩,
      List.replicate 12 9, by decide, rfl, ?_⟩
    decide

end Captastic.Analysis
