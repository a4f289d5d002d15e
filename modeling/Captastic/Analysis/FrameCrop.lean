import Captastic.Analysis.UprightTexture

/-!
# Cropping a frame

`CpuFrame::crop` copies rows out of a buffer whose layout has been validated, and the layout
bounds every slice it takes: a frame has at least four bytes for each pixel that an `u32`
counts, so no side and no offset inside it comes near the end of its type
(`crop_of_inside`).  A crop's pixels are the source's at the same desktop positions, which
makes a crop of a crop the crop itself (`crop_crop`).
-/

set_option autoImplicit false

namespace Captastic.Analysis

open Captastic.Library Captastic.Model

/-! ## The copied rows -/

/-- **The rows of a crop**, copied one by one out of rows that hold them.
SRC: frame.rs:325-334 -/
theorem copied_rows_spec {source : List Byte} (size stride x y width height : Nat)
    {source_height : Nat} (row_holds : (x + width) * size ≤ stride)
    (rows_hold : y + height ≤ source_height) (length : source_height * stride ≤ source.length)
    (small : source_height * stride ≤ 4294967295) :
    ∃ out, (List.range' 0 height).foldlM
        (CpuFrame.copy_row source stride (x * size) (width * size) y)
        (List.replicate (width * size * height) 0) = .ok out ∧
      out.length = height * (width * size) ∧
      ∀ px py, px < width → py < height →
        cell_of width size out px py =
          slice_at source (cell_at stride size (x + px) (y + py)) size := by
  rw [Nat.add_mul] at row_holds
  have row_in_range : ∀ row, row < height →
      (y + row) * stride + x * size + width * size ≤ source_height * stride := by
    intro row row_lt
    have next : (y + row + 1) * stride ≤ source_height * stride :=
      Nat.mul_le_mul_right _ (by omega)
    rw [Nat.succ_mul] at next
    omega
  -- A row is the one cell of its line, in a picture one cell wide.
  obtain ⟨out, ran, out_length, rows⟩ := paint_cells 1 height (width * size) 0 1 0 height
    (by omega) (by omega)
    (fun b _ row => (slice? source ((y + row) * stride + x * size) (width * size)).bind
      (write? b (row * (width * size))))
    (fun _ row _ => slice_at source ((y + row) * stride + x * size) (width * size))
    (fun b px py hx hy b_length => by
      have px_eq : px = 0 := by omega
      subst px_eq
      have py_lt : py < height := by omega
      have in_range := (row_in_range py py_lt).trans length
      obtain ⟨b', written, b'_length, own, others⟩ := write_cell (x := 0) (y := py)
        (v := slice_at source ((y + py) * stride + x * size) (width * size)) b_length (by omega)
        py_lt (length_slice_at _ _ _ in_range)
      refine ⟨b', ?_, b'_length, own, others⟩
      rw [slice?_eq _ _ _ in_range, Option.bind_some]
      simpa [cell_at] using written)
    (List.replicate (width * size * height) 0)
    (by rw [List.length_replicate, Nat.one_mul, Nat.mul_comm])
  refine ⟨out, ?_, by rw [out_length, Nat.one_mul], ?_⟩
  · refine foldlM_ok_of_some (g := fun b row =>
      (slice? source ((y + row) * stride + x * size) (width * size)).bind
        (write? b (row * (width * size)))) ?_ (by simpa using ran)
    intro b row b' member copied
    have row_lt : row < height := by
      have := List.mem_range'_1.mp member
      omega
    have range := row_in_range row row_lt
    have product : (y + row) * stride ≤ 18446744073709551615 := by omega
    have sum : (y + row) * stride + x * size ≤ 18446744073709551615 := by omega
    rw [slice?_eq _ _ _ (range.trans length), Option.bind_some] at copied
    unfold CpuFrame.copy_row
    simp only [checked_mul_usize, if_pos product, Option.bind_some, checked_add_usize, if_pos sum,
      or_fail_some, ok_bind, slice?_eq _ _ _ (range.trans length), access_some, copied]
  · intro px py hx hy
    have row := rows 0 py (by omega) hy
    rw [if_pos ⟨⟨Nat.le_refl 0, by omega⟩, Nat.zero_le py, by omega⟩] at row
    have inside : px * size + size ≤ width * size := by
      rw [← Nat.succ_mul]
      exact Nat.mul_le_mul_right _ hx
    have cell := congrArg (fun b => slice_at b (px * size) size) row
    simp only [cell_of, cell_at, slice_at_slice_at _ inside, Nat.one_mul, Nat.zero_mul,
      Nat.add_zero] at cell ⊢
    rw [cell, Nat.add_mul x]
    congr 1
    omega

/-! ## Crops -/

/-- The bytes of the pixel `(x, y)` of a capture. -/
def frame_pixel (frame : CpuFrame) (x y : Nat) : List Byte :=
  slice_at frame.pixels (cell_at frame.stride_bytes frame.format.bytes_per_pixel x y)
    frame.format.bytes_per_pixel

/-- The frame's source rectangle has the frame's size. -/
def SourceMatches (f : CpuFrame) : Prop :=
  f.metadata.source_rect.width = f.width ∧ f.metadata.source_rect.height = f.height

instance (f : CpuFrame) : Decidable (SourceMatches f) := inferInstanceAs (Decidable (_ ∧ _))

/-- What a crop of a frame is: packed rows of the frame's format, with the frame's tags, each
pixel the frame's own at the same distance from the selection. -/
structure Cropped (f : CpuFrame) (selection : Rect) (out : CpuFrame) : Prop where
  width : out.width = selection.width
  height : out.height = selection.height
  stride_bytes : out.stride_bytes = selection.width * f.format.bytes_per_pixel
  format : out.format = f.format
  origin : out.origin = f.origin
  color_space : out.color_space = f.color_space
  alpha : out.alpha = f.alpha
  metadata : out.metadata =
    { f.metadata with
      source_rect := selection
      copy_count := saturating_add_u32 f.metadata.copy_count 1
      pool_slot := none }
  length : out.pixels.length = selection.height * (selection.width * f.format.bytes_per_pixel)
  pixels : ∀ x y, x < selection.width → y < selection.height →
    frame_pixel out x y = frame_pixel f (local_x f.metadata.source_rect selection + x)
      (local_y f.metadata.source_rect selection + y)

/-- **A selection inside the source** is cropped: no arithmetic overflows and no slice is out
of range.
SRC: frame.rs:291-354 -/
theorem crop_of_inside {f : CpuFrame} (source : SourceMatches f) {selection : Rect}
    (inside : Inside f.metadata.source_rect selection) :
    ∃ out, f.crop selection = .ok out ∧ Cropped f selection out := by
  obtain ⟨x_eq, y_eq, right, bottom⟩ := local_of_inside inside
  rw [source.1] at right
  rw [source.2] at bottom
  obtain ⟨selection_width, selection_height⟩ := inside.1
  obtain ⟨width_le, height_le⟩ := f.sides_le
  obtain ⟨-, row_u32, row_holds, bytes_u32, bytes_held⟩ := f.layout_facts
  generalize x_def : local_x f.metadata.source_rect selection = x at *
  generalize y_def : local_y f.metadata.source_rect selection = y at *
  set size := f.format.bytes_per_pixel with size_def
  have selected_row : (x + selection.width) * size ≤ f.width * size := Nat.mul_le_mul_right _ right
  have selected_bytes : selection.width * size * selection.height ≤ f.stride_bytes * f.height := by
    refine Nat.mul_le_mul ?_ (by omega)
    rw [Nat.add_mul] at selected_row
    omega
  rw [Nat.mul_comm f.stride_bytes] at bytes_u32 bytes_held selected_bytes
  obtain ⟨pixels, ran, length, cells⟩ := copied_rows_spec size f.stride_bytes x y selection.width
    selection.height (selected_row.trans row_holds) bottom bytes_held bytes_u32
  rw [Nat.add_mul] at selected_row
  have not_empty : ¬ (selection.width = 0 ∨ selection.height = 0) := by omega
  have same_sides : ¬ (f.metadata.source_rect.width ≠ f.width ∨
      f.metadata.source_rect.height ≠ f.height) := by
    unfold SourceMatches at source
    omega
  have not_outside : ¬ (selection.x < f.metadata.source_rect.x ∨
      selection.y < f.metadata.source_rect.y ∨
      selection.right > f.metadata.source_rect.right ∨
      selection.bottom > f.metadata.source_rect.bottom) := by
    have within := inside.2
    unfold Rect.Within at within
    omega
  have sub_x : InI32 (x : Int) := by
    unfold InI32
    omega
  have sub_y : InI32 (y : Int) := by
    unfold InI32
    omega
  have x_u32 : (0 : Int) ≤ x ∧ (x : Int) ≤ 4294967295 := by omega
  have y_u32 : (0 : Int) ≤ y ∧ (y : Int) ≤ 4294967295 := by omega
  have stride_u32 : selection.width * size ≤ 4294967295 := by omega
  have len_u32 : selection.width * size * selection.height ≤ 4294967295 := by omega
  have x_bytes_u32 : x * size ≤ 4294967295 := by omega
  have layout : validate_layout pixels.length selection.width selection.height
      (selection.width * size) f.format = .ok (selection.width * size * selection.height) := by
    refine validate_layout_eq_ok.mpr ⟨⟨selection_width, selection_height⟩, stride_u32,
      Nat.le_refl _, len_u32, ?_, rfl⟩
    rw [length, Nat.mul_comm]
  refine ⟨CpuFrame.with_alpha ⟨pixels, selection.width, selection.height, selection.width * size,
    f.format, f.origin, f.color_space, .Opaque,
    { f.metadata with
      source_rect := selection
      copy_count := saturating_add_u32 f.metadata.copy_count 1
      pool_slot := none }, layout⟩ f.alpha, ?_,
    ⟨rfl, rfl, rfl, rfl, rfl, rfl, rfl, rfl, length, ?_⟩⟩
  · unfold CpuFrame.crop
    simp only [fail_if_of_not not_empty, ok_bind, fail_if_of_not same_sides,
      fail_if_of_not not_outside, sub_i32, x_eq, y_eq, if_pos sub_x, if_pos sub_y, access_some,
      try_u32, if_pos x_u32, if_pos y_u32, Int.toNat_natCast, or_fail_some, checked_mul_u32,
      ← size_def, if_pos stride_u32, if_pos len_u32, if_pos x_bytes_u32, ran]
    simp only [CpuFrame.new_of_layout layout]
  · intro px py hx hy
    subst x_def y_def
    exact cells px py hx hy

/-- **A selection that is not inside the source** is refused, as is every selection of a frame
whose source rectangle has another size.
SRC: frame.rs:292-309 -/
theorem crop_refused {f : CpuFrame} {selection : Rect}
    (outside : ¬ (SourceMatches f ∧ Inside f.metadata.source_rect selection)) :
    ∃ error, f.crop selection = fail error := by
  unfold CpuFrame.crop
  by_cases empty : selection.width = 0 ∨ selection.height = 0
  · exact ⟨_, fail_if_of empty⟩
  simp only [fail_if_of_not empty, ok_bind]
  by_cases other_size : f.metadata.source_rect.width ≠ f.width ∨
      f.metadata.source_rect.height ≠ f.height
  · exact ⟨_, fail_if_of other_size⟩
  simp only [fail_if_of_not other_size, ok_bind]
  rw [fail_if_of]
  · exact ⟨_, rfl⟩
  · unfold SourceMatches Inside Rect.NonEmpty Rect.Within at outside
    omega

/-- What a crop that succeeds started from, and what it returned. -/
theorem cropped_of_ok {f out : CpuFrame} {selection : Rect} (made : f.crop selection = .ok out) :
    SourceMatches f ∧ Inside f.metadata.source_rect selection ∧ Cropped f selection out := by
  by_cases accepted : SourceMatches f ∧ Inside f.metadata.source_rect selection
  · obtain ⟨out', made', cropped⟩ := crop_of_inside accepted.1 accepted.2
    obtain rfl := Except.ok.inj (made.symm.trans made')
    exact ⟨accepted.1, accepted.2, cropped⟩
  · obtain ⟨error, refused⟩ := crop_refused accepted
    rw [refused] at made
    cases made

/-- A crop never stops the program. -/
theorem crop_not_stopped (f : CpuFrame) (selection : Rect) :
    f.crop selection ≠ .error .stopped := by
  by_cases accepted : SourceMatches f ∧ Inside f.metadata.source_rect selection
  · obtain ⟨out, made, -⟩ := crop_of_inside accepted.1 accepted.2
    rw [made]
    nofun
  · obtain ⟨error, refused⟩ := crop_refused accepted
    rw [refused]
    nofun

/-! ## Crops of crops -/

namespace Cropped

variable {f out : CpuFrame} {selection : Rect}

/-- A cropped frame's source rectangle has its width and height. -/
theorem source_matches (cropped : Cropped f selection out) : SourceMatches out := by
  unfold SourceMatches
  rw [cropped.metadata, cropped.width, cropped.height]
  exact ⟨rfl, rfl⟩

/-- A cropped frame's source rectangle is the selection. -/
theorem source_rect (cropped : Cropped f selection out) :
    out.metadata.source_rect = selection := by
  rw [cropped.metadata]

/-- The cell of a crop's buffer. -/
theorem cell (cropped : Cropped f selection out) (x y : Nat) :
    cell_of selection.width f.format.bytes_per_pixel out.pixels x y = frame_pixel out x y := by
  unfold cell_of frame_pixel
  rw [cropped.stride_bytes, cropped.format]

end Cropped

/-- Where a selection starts, in two steps. -/
theorem local_add {source outer inner : Rect} (outer_inside : Inside source outer)
    (inner_inside : Inside outer inner) :
    local_x source outer + local_x outer inner = local_x source inner ∧
      local_y source outer + local_y outer inner = local_y source inner := by
  unfold Inside Rect.Within at outer_inside inner_inside
  unfold local_x local_y
  omega

/-- A rectangle inside one inside a third is inside the third. -/
theorem Inside.trans {source outer inner : Rect} (outer_inside : Inside source outer)
    (inner_inside : Inside outer inner) : Inside source inner := by
  refine ⟨inner_inside.1, ?_⟩
  unfold Inside Rect.Within at outer_inside inner_inside
  unfold Rect.Within
  omega

/-- Two frames of the same pixels, laid out alike, from the same place of the desktop. -/
structure SameCrop (f g : CpuFrame) : Prop where
  pixels : f.pixels = g.pixels
  width : f.width = g.width
  height : f.height = g.height
  stride_bytes : f.stride_bytes = g.stride_bytes
  format : f.format = g.format
  alpha : f.alpha = g.alpha
  source_rect : f.metadata.source_rect = g.metadata.source_rect

/-- **A crop of a crop** is the crop: the two offsets add up, whatever the padding was. -/
theorem crop_crop {f outer twice once : CpuFrame} {a b : Rect} (outer_crop : Cropped f a outer)
    (twice_crop : Cropped outer b twice) (once_crop : Cropped f b once)
    (a_inside : Inside f.metadata.source_rect a) (b_inside : Inside a b) :
    SameCrop twice once := by
  obtain ⟨x_add, y_add⟩ := local_add a_inside b_inside
  obtain ⟨-, -, right, bottom⟩ := local_of_inside b_inside
  have format_eq := outer_crop.format
  have same_bytes : twice.pixels = once.pixels := by
    have twice_length := twice_crop.length
    rw [format_eq] at twice_length
    refine eq_of_cells twice_length once_crop.length ?_
    intro x y hx hy
    have twice_cell := twice_crop.cell x y
    rw [format_eq] at twice_cell
    rw [twice_cell, once_crop.cell, twice_crop.pixels x y hx hy, once_crop.pixels x y hx hy,
      outer_crop.source_rect, outer_crop.pixels _ _ (by omega) (by omega), ← x_add, ← y_add,
      Nat.add_assoc, Nat.add_assoc]
  exact
    { pixels := same_bytes
      width := by rw [twice_crop.width, once_crop.width]
      height := by rw [twice_crop.height, once_crop.height]
      stride_bytes := by rw [twice_crop.stride_bytes, once_crop.stride_bytes, format_eq]
      format := by rw [twice_crop.format, once_crop.format, format_eq]
      alpha := by rw [twice_crop.alpha, once_crop.alpha, outer_crop.alpha]
      source_rect := by rw [twice_crop.source_rect, once_crop.source_rect] }

/-- The pixel that a frame shows at a position of the desktop. -/
def desktop_pixel (f : CpuFrame) (x y : Int) : List Byte :=
  frame_pixel f (x - f.metadata.source_rect.x).toNat (y - f.metadata.source_rect.y).toNat

/-- **Cropping is safe and composes.**  A crop never stops the program; it succeeds exactly for
a non-empty selection inside a source rectangle of the frame's size, shows what the frame shows
at the same positions of the desktop, and may be made in two steps.
SRC: frame.rs:291-354 -/
theorem crop_safe_and_composes (f : CpuFrame) :
    (∀ selection, f.crop selection ≠ .error .stopped ∧
      ((∃ out, f.crop selection = .ok out) ↔
        SourceMatches f ∧ Inside f.metadata.source_rect selection)) ∧
    (∀ selection out, f.crop selection = .ok out →
      out.width = selection.width ∧ out.height = selection.height ∧
        out.metadata.source_rect = selection ∧
        ∀ x y, x < out.width → y < out.height →
          frame_pixel out x y = desktop_pixel f (selection.x + x) (selection.y + y)) ∧
    ∀ a b outer, f.crop a = .ok outer → Inside a b →
      ∃ twice once, outer.crop b = .ok twice ∧ f.crop b = .ok once ∧ SameCrop twice once := by
  refine ⟨?_, ?_, ?_⟩
  · intro selection
    refine ⟨crop_not_stopped f selection, ?_, ?_⟩
    · rintro ⟨out, made⟩
      obtain ⟨source, inside, -⟩ := cropped_of_ok made
      exact ⟨source, inside⟩
    · rintro ⟨source, inside⟩
      obtain ⟨out, made, -⟩ := crop_of_inside source inside
      exact ⟨out, made⟩
  · intro selection out made
    obtain ⟨-, inside, cropped⟩ := cropped_of_ok made
    refine ⟨cropped.width, cropped.height, cropped.source_rect, ?_⟩
    intro x y hx hy
    rw [cropped.width] at hx
    rw [cropped.height] at hy
    rw [cropped.pixels x y hx hy]
    obtain ⟨x_eq, y_eq, -, -⟩ := local_of_inside inside
    unfold desktop_pixel
    congr 1
    · omega
    · omega
  · intro a b outer outer_made b_inside
    obtain ⟨source, a_inside, outer_crop⟩ := cropped_of_ok outer_made
    have inside_outer : Inside outer.metadata.source_rect b := by
      rw [outer_crop.source_rect]
      exact b_inside
    obtain ⟨twice, twice_made, twice_crop⟩ :=
      crop_of_inside outer_crop.source_matches inside_outer
    obtain ⟨once, once_made, once_crop⟩ := crop_of_inside source (a_inside.trans b_inside)
    exact ⟨twice, once, twice_made, once_made,
      crop_crop outer_crop twice_crop once_crop a_inside b_inside⟩

/-- Two pixels by two, with four bytes behind each row, at the far left of the desktop. -/
def padded_frame : CpuFrame where
  pixels := List.replicate 24 9
  width := 2
  height := 2
  stride_bytes := 12
  format := .Bgra8Unorm
  origin := .TopLeft
  color_space := .Srgb
  alpha := .Straight
  metadata :=
    { capture_id := 1
      backend := "gdi"
      display_id := "left"
      source_rect := { x := -2147483648, y := 5, width := 2, height := 2 }
      rotation_degrees := 0
      capture_mode := .Latest none
      presentation_offset_ns := none
      timing_provenance := .ArrivalTime
      native_ready_offset_ns := 3
      cpu_ready_offset_ns := some 4
      frame_age_ns := none
      verified_current_offset_ns := none
      frame_generation := none
      copy_count := 2
      pool_slot := none
      cursor := none }
  layout := rfl

/-- The lower right pixel of the padded frame, cut out in two steps and in one. -/
theorem padded_frame_crops :
    ∃ column corner corner', padded_frame.crop
        { x := -2147483647, y := 5, width := 1, height := 2 } = .ok column ∧
      column.crop { x := -2147483647, y := 6, width := 1, height := 1 } = .ok corner ∧
      padded_frame.crop { x := -2147483647, y := 6, width := 1, height := 1 } = .ok corner' ∧
      SameCrop corner corner' := by
  obtain ⟨accepts, -, composes⟩ := crop_safe_and_composes padded_frame
  obtain ⟨column, made⟩ := (accepts
    { x := -2147483647, y := 5, width := 1, height := 2 }).2.mpr ⟨by decide, by decide, by decide⟩
  obtain ⟨corner, corner', twice, once, same⟩ := composes _
    { x := -2147483647, y := 6, width := 1, height := 1 } column made ⟨by decide, by decide⟩
  exact ⟨column, corner, corner', made, twice, once, same⟩

end Captastic.Analysis
