import Captastic.Analysis.FrameCrop

/-!
# Two ways to cut a region out of a desktop

A region can be read back as the box of the raw texture that holds it, and turned upright, or
cut out of the whole picture turned upright.  Moving the origin of the box moves what the
upright map names (`upright_box`), so the two ways accept the same selections and make the
same pixels (`region_routes_agree`).
-/

set_option autoImplicit false

namespace Captastic.Analysis

open Captastic.Library Captastic.Model

/-! ## The two routes -/

/-- A texture that the program reads: 8-bit BGRA, on a display of its sides turned upright. -/
structure Readable (texture : Texture) (metadata : FrameMetadata) : Prop where
  sides : SidesOk texture.width texture.height
  is_rotation : IsRotation metadata.rotation_degrees
  format : texture.format = DXGI_FORMAT_B8G8R8A8_UNORM
  bounds : (metadata.source_rect.width, metadata.source_rect.height) =
    dimensions_after_rotation texture.width texture.height metadata.rotation_degrees

/-- The bytes of the texel that a pixel of the upright picture shows. -/
def shown_texel (texture : Texture) (metadata : FrameMetadata) (x y : Nat) : List Byte :=
  (texture.texel (upright metadata.rotation_degrees texture.width texture.height (x, y)).1
    (upright metadata.rotation_degrees texture.width texture.height (x, y)).2).toList

/-- A frame of 8-bit BGRA pixels without padding, each of them as given. -/
structure IsPicture (frame : CpuFrame) (width height : Nat) (pixel : Nat → Nat → List Byte) :
    Prop where
  width_eq : frame.width = width
  height_eq : frame.height = height
  stride_eq : frame.stride_bytes = width * 4
  format_eq : frame.format = .Bgra8Unorm
  length : frame.pixels.length = height * (width * 4)
  pixels : ∀ x y, x < width → y < height →
    cell_of width 4 frame.pixels x y = pixel x y

/-- Two frames that show one picture have the same pixels. -/
theorem IsPicture.pixels_eq {f g : CpuFrame} {width height : Nat} {pixel : Nat → Nat → List Byte}
    (hf : IsPicture f width height pixel) (hg : IsPicture g width height pixel) :
    f.pixels = g.pixels := by
  refine eq_of_cells hf.length hg.length ?_
  intro x y hx hy
  rw [hf.pixels x y hx hy, hg.pixels x y hx hy]

/-- Bytes of the size of a picture make a frame. -/
theorem new_frame_eq (operation : String) {pixels : List Byte} {width height : Nat}
    (metadata : FrameMetadata) (sides : SidesOk width height)
    (length : pixels.length = height * (width * 4)) :
    ∃ frame, new_frame operation pixels ⟨width, height, width * 4⟩ metadata = .ok frame ∧
      frame.pixels = pixels ∧ frame.width = width ∧ frame.height = height ∧
      frame.stride_bytes = width * 4 ∧ frame.format = .Bgra8Unorm ∧ frame.metadata = metadata := by
  have bounds := sides.le
  have layout : validate_layout pixels.length width height (width * 4) .Bgra8Unorm =
      .ok (width * 4 * height) := by
    refine validate_layout_eq_ok.mpr ⟨⟨sides.width_pos, sides.height_pos⟩, ?_, Nat.le_refl _,
      sides.bytes, ?_, rfl⟩
    · simp only [PixelFormat.bytes_per_pixel]
      omega
    · rw [length, Nat.mul_comm]
  unfold new_frame
  simp only [CpuFrame.new_of_layout layout]
  exact ⟨_, rfl, rfl, rfl, rfl, rfl, rfl, rfl⟩

/-- A GPU that copies and maps a texture, and every box of it. -/
structure MapsBoxes (gpu : Gpu) (texture : Texture) : Prop where
  whole : ∃ mapped, gpu.map texture = .ok mapped
  box : ∀ left top width height, 0 < width → 0 < height → left + width ≤ texture.width →
    top + height ≤ texture.height →
    ∃ mapped, gpu.map (texture.boxed left top width height) = .ok mapped

/-- A texture that is mapped can be read row by row. -/
theorem holds_rows_of_mapped {texture : Texture} (mapped : MappedTexture texture) :
    HoldsRows mapped.data texture.width texture.height mapped.row_pitch :=
  ⟨mapped.pitch_holds_row, mapped.length⟩

/-- **A mapped texture turned upright** is the picture of its texels. -/
theorem normalize_mapped {texture : Texture} (mapped : MappedTexture texture) {rotation : Nat}
    (destination : List Byte) (is_rotation : IsRotation rotation)
    (sides : SidesOk texture.width texture.height) {width' height' : Nat}
    (turned_sides :
      dimensions_after_rotation texture.width texture.height rotation = (width', height'))
    (length : destination.length = width' * 4 * height') :
    ∃ out, normalize_bgra_into mapped.data texture.width texture.height mapped.row_pitch rotation
        destination = .ok (⟨width', height', width' * 4⟩, out) ∧
      out.length = height' * (width' * 4) ∧
      ∀ x y, x < width' → y < height' → cell_of width' 4 out x y =
        (texture.texel (upright rotation texture.width texture.height (x, y)).1
          (upright rotation texture.width texture.height (x, y)).2).toList := by
  obtain ⟨out, ran, out_length, cells⟩ := normalize_bgra_into_spec is_rotation sides
    mapped.pitch_u32 (holds_rows_of_mapped mapped) turned_sides length
  refine ⟨out, ran, out_length, ?_⟩
  intro x y hx hy
  have named : upright rotation texture.width texture.height (x, y) ∈
      Positions (texture.width, texture.height) := by
    refine (upright_bijOn is_rotation).mapsTo ?_
    rw [turned_sides]
    exact ⟨hx, hy⟩
  rw [cells x y hx hy, mapped.texels _ _ named.1 named.2]

/-- The bytes of a texture turned upright, each pixel the texel it shows. -/
structure IsUpright (texture : Texture) (metadata : FrameMetadata) (bytes : List Byte) : Prop where
  length : bytes.length = metadata.source_rect.height * (metadata.source_rect.width * 4)
  pixels : ∀ x y, x < metadata.source_rect.width → y < metadata.source_rect.height →
    cell_of metadata.source_rect.width 4 bytes x y = shown_texel texture metadata x y

/-- A picture of these sides with the pointer drawn in, if there is one. -/
def drawn_in (width height : Nat) (pointer : Option PointerSample) (bytes : List Byte) :
    List Byte :=
  match pointer with
  | some pointer => (composite_pointer bytes width height (width * 4) pointer).2
  | none => bytes

/-- The metadata of a frame whose picture, without the pointer, is `bare`. -/
def metadata_after_readback (metadata : FrameMetadata) (pointer : Option PointerSample)
    (bare : List Byte) (cpu_ready_ns slot : Nat) : FrameMetadata :=
  { metadata with
    cursor :=
      match pointer with
      | some pointer =>
        some (composite_pointer bare metadata.source_rect.width metadata.source_rect.height
          (metadata.source_rect.width * 4) pointer).1
      | none => metadata.cursor
    cpu_ready_offset_ns := some cpu_ready_ns
    copy_count := saturating_add_u32 metadata.copy_count 2
    pool_slot := some (slot % 65536) }

/-- Drawing the pointer keeps the length of the buffer. -/
theorem length_drawn_in (width height : Nat) (pointer : Option PointerSample) (bytes : List Byte) :
    (drawn_in width height pointer bytes).length = bytes.length := by
  unfold drawn_in
  cases pointer with
  | none => rfl
  | some pointer => exact length_composite_pointer bytes width height (width * 4) pointer

/-- **The whole picture**, with the pointer drawn in.
SRC: dxgi.rs:1199-1364 -/
theorem readback_spec {gpu : Gpu} {pool : CpuBufferPool} (cpu_ready_ns : Nat)
    {texture : Texture} {metadata : FrameMetadata} (pointer : Option PointerSample)
    (readable : Readable texture metadata) {mapped : MappedTexture texture}
    (maps : gpu.map texture = .ok mapped)
    (has_slot : ∃ free, pool.available_index
      (metadata.source_rect.width * 4 * metadata.source_rect.height) = some free) :
    ∃ bare frame slot, IsUpright texture metadata bare ∧
      readback gpu pool cpu_ready_ns texture metadata pointer =
        .ok (frame, metadata_after_readback metadata pointer bare cpu_ready_ns slot) ∧
      IsPicture frame metadata.source_rect.width metadata.source_rect.height
        (cell_of metadata.source_rect.width 4 (drawn_in metadata.source_rect.width
          metadata.source_rect.height pointer bare)) ∧
      frame.metadata = metadata_after_readback metadata pointer bare cpu_ready_ns slot := by
  obtain ⟨⟨slot, pool'⟩, free⟩ := has_slot
  obtain ⟨bytes, held, bytes_length⟩ := pool.available_index_spec free
  have slot_bytes : pool'.get_mut slot = some bytes := by
    unfold CpuBufferPool.get_mut
    simp [held]
  obtain ⟨sides, is_rotation, format, bounds⟩ := readable
  have sides' := dimensions_ok metadata.rotation_degrees sides
  have layout := normalized_layout_eq is_rotation sides
  rw [← bounds] at layout sides'
  simp only at layout sides'
  obtain ⟨out, ran, out_length, cells⟩ :=
    normalize_mapped mapped bytes is_rotation sides bounds.symm bytes_length
  have stride_u32 : texture.width * 4 ≤ 4294967295 := by
    have := sides.le
    omega
  have row_holds : ¬ mapped.row_pitch < texture.width * 4 := Nat.not_lt.mpr mapped.pitch_holds_row
  have size_ok : mapped.row_pitch * texture.height ≤ 18446744073709551615 :=
    Nat.le_trans (Nat.mul_le_mul mapped.pitch_u32 sides.le.2.2) (by decide)
  have format_ok : ¬ texture.format ≠ DXGI_FORMAT_B8G8R8A8_UNORM := fun h => h format
  have same_bounds : ¬ (metadata.source_rect.width ≠ metadata.source_rect.width ∨
      metadata.source_rect.height ≠ metadata.source_rect.height) := by simp
  have drawn_length : (drawn_in metadata.source_rect.width metadata.source_rect.height pointer
      out).length = metadata.source_rect.height * (metadata.source_rect.width * 4) := by
    rw [length_drawn_in, out_length]
  obtain ⟨frame, made, frame_pixels, frame_width, frame_height, frame_stride, frame_format,
    frame_metadata⟩ := new_frame_eq "readback"
      (metadata_after_readback metadata pointer out cpu_ready_ns slot) sides' drawn_length
  refine ⟨out, frame, slot, ⟨out_length, cells⟩, ?_, ?_, frame_metadata⟩
  · unfold readback
    simp only [fail_if_of_not format_ok, ok_bind, maps, native, checked_mul_u32, if_pos stride_u32,
      or_fail_some, fail_if_of_not row_holds, layout, fail_if_of_not same_bounds,
      frame_byte_len_eq sides', free, checked_mul_usize, if_pos size_ok, slot_bytes, access_some,
      ran]
    cases pointer with
    | none =>
      simp only [metadata_after_readback, drawn_in] at made ⊢
      rw [made]
      rfl
    | some pointer =>
      simp only [metadata_after_readback, drawn_in] at made ⊢
      rw [made]
      rfl
  · refine ⟨frame_width, frame_height, frame_stride, frame_format,
      by rw [frame_pixels, drawn_length], ?_⟩
    intro x y _ _
    rw [frame_pixels]

/-- A rotation that is supported is a rotation. -/
theorem is_rotation_of_supported {rotation : Nat}
    (supported : is_supported_rotation rotation = true) : IsRotation rotation := by
  unfold is_supported_rotation at supported
  unfold IsRotation
  simp only [Bool.or_eq_true, beq_iff_eq] at supported
  omega

/-- SRC: dxgi.rs:2050-2089 -/
theorem normalized_layout_ok {width height rotation : Nat} {layout : PixelLayout}
    (made : normalized_layout width height rotation = .ok layout) :
    IsRotation rotation ∧ (0 < width ∧ 0 < height) ∧
      (layout.width, layout.height) = dimensions_after_rotation width height rotation := by
  unfold normalized_layout at made
  obtain ⟨not_empty, made⟩ := then_eq_ok.mp made
  obtain ⟨supported, made⟩ := then_eq_ok.mp made
  obtain ⟨stride, -, made⟩ := bind_eq_ok.mp made
  have sides := fail_if_eq_ok.mp not_empty
  refine ⟨is_rotation_of_supported ?_, by omega, ?_⟩
  · cases known : is_supported_rotation rotation with
    | true => rfl
    | false =>
      rw [known] at supported
      cases supported
  · obtain rfl := Except.ok.inj made
    rfl

/-- The length that is computed is that of the rows, and fits a `u32`. -/
theorem frame_byte_len_ok {width height len : Nat} (made : frame_byte_len width height = .ok len) :
    width * 4 * height ≤ 4294967295 ∧ len = width * 4 * height := by
  unfold frame_byte_len checked_mul_u32 at made
  have counted := or_fail_eq_ok.mp made
  split at counted
  · rw [Option.bind_some] at counted
    split at counted
    · rename_i fits
      exact ⟨fits, (Option.some.inj counted).symm⟩
    · cases counted
  · cases counted

/-- **A readback that succeeds** had a texture it reads, mapped rows and a free slot.
SRC: dxgi.rs:1199-1364 -/
theorem readable_of_readback {gpu : Gpu} {pool : CpuBufferPool} {cpu_ready_ns : Nat}
    {texture : Texture} {metadata metadata' : FrameMetadata} {pointer : Option PointerSample}
    {frame : CpuFrame}
    (read : readback gpu pool cpu_ready_ns texture metadata pointer = .ok (frame, metadata')) :
    Readable texture metadata ∧ (∃ mapped, gpu.map texture = .ok mapped) ∧
      ∃ free, pool.available_index
        (metadata.source_rect.width * 4 * metadata.source_rect.height) = some free := by
  unfold readback at read
  obtain ⟨format, read⟩ := then_eq_ok.mp read
  obtain ⟨mapped, maps, read⟩ := bind_eq_ok.mp read
  obtain ⟨tight_stride, -, read⟩ := bind_eq_ok.mp read
  obtain ⟨-, read⟩ := then_eq_ok.mp read
  obtain ⟨layout, layout_ok, read⟩ := bind_eq_ok.mp read
  obtain ⟨same_sides, read⟩ := then_eq_ok.mp read
  obtain ⟨len, len_ok, read⟩ := bind_eq_ok.mp read
  obtain ⟨free, slot, read⟩ := bind_eq_ok.mp read
  obtain ⟨is_rotation, sides, layout_eq⟩ := normalized_layout_ok layout_ok
  obtain ⟨bytes, len_eq⟩ := frame_byte_len_ok len_ok
  have same := fail_if_eq_ok.mp same_sides
  have width_eq : layout.width = metadata.source_rect.width := by omega
  have height_eq : layout.height = metadata.source_rect.height := by omega
  have bounds : (metadata.source_rect.width, metadata.source_rect.height) =
      dimensions_after_rotation texture.width texture.height metadata.rotation_degrees := by
    rw [← width_eq, ← height_eq, layout_eq]
  refine ⟨⟨?_, is_rotation, ?_, bounds⟩, ⟨mapped, ?_⟩, free, ?_⟩
  · rw [width_eq, height_eq] at bytes
    unfold dimensions_after_rotation at bounds
    split at bounds
    · obtain ⟨h₁, h₂⟩ := Prod.mk.inj bounds
      rw [h₁, h₂] at bytes
      exact (SidesOk.mk sides.2 sides.1 bytes).swap
    · obtain ⟨h₁, h₂⟩ := Prod.mk.inj bounds
      rw [h₁, h₂] at bytes
      exact ⟨sides.1, sides.2, bytes⟩
  · exact Decidable.not_not.mp (fail_if_eq_ok.mp format)
  · unfold native at maps
    split at maps
    · rename_i mapped' maps'
      rw [maps', Except.ok.inj maps]
    · cases maps
  · rw [← width_eq, ← height_eq, ← len_eq]
    exact or_fail_eq_ok.mp slot

/-- **What a readback returns**: the picture with the pointer drawn in.
SRC: dxgi.rs:1199-1364 -/
theorem readback_ok {gpu : Gpu} {pool : CpuBufferPool} {cpu_ready_ns : Nat} {texture : Texture}
    {metadata metadata' : FrameMetadata} {pointer : Option PointerSample} {frame : CpuFrame}
    (read : readback gpu pool cpu_ready_ns texture metadata pointer = .ok (frame, metadata')) :
    ∃ bare slot, IsUpright texture metadata bare ∧
      metadata' = metadata_after_readback metadata pointer bare cpu_ready_ns slot ∧
      IsPicture frame metadata.source_rect.width metadata.source_rect.height
        (cell_of metadata.source_rect.width 4 (drawn_in metadata.source_rect.width
          metadata.source_rect.height pointer bare)) ∧
      frame.metadata = metadata' := by
  obtain ⟨readable, ⟨mapped, maps⟩, has_slot⟩ := readable_of_readback read
  obtain ⟨bare, frame', slot, is_upright, read', picture, frame_metadata⟩ :=
    readback_spec cpu_ready_ns pointer readable maps has_slot
  rw [read] at read'
  obtain ⟨rfl, rfl⟩ := Prod.mk.inj (Except.ok.inj read')
  exact ⟨bare, slot, is_upright, rfl, picture, frame_metadata⟩

/-- **A crop** of a picture is the picture of the selection.
SRC: frame.rs:291-354 -/
theorem crop_spec {f : CpuFrame} {width height : Nat} {pixel : Nat → Nat → List Byte}
    (picture : IsPicture f width height pixel)
    (bounds : f.metadata.source_rect.width = width ∧ f.metadata.source_rect.height = height)
    {selection : Rect} (inside : Inside f.metadata.source_rect selection) :
    ∃ out, f.crop selection = .ok out ∧
      IsPicture out selection.width selection.height (fun x y =>
        pixel (local_x f.metadata.source_rect selection + x)
          (local_y f.metadata.source_rect selection + y)) ∧
      out.metadata.source_rect = selection := by
  have source : SourceMatches f := by
    unfold SourceMatches
    rw [picture.width_eq, picture.height_eq]
    exact bounds
  obtain ⟨-, -, right, bottom⟩ := local_of_inside inside
  obtain ⟨out, made, cropped⟩ := crop_of_inside source inside
  have size : f.format.bytes_per_pixel = 4 := by
    rw [picture.format_eq]
    rfl
  have stride_eq := cropped.stride_bytes
  have length := cropped.length
  rw [size] at stride_eq length
  refine ⟨out, made, ⟨cropped.width, cropped.height, stride_eq,
    cropped.format.trans picture.format_eq, length, ?_⟩, cropped.source_rect⟩
  intro x y hx hy
  have own := cropped.cell x y
  have whole := picture.pixels (local_x f.metadata.source_rect selection + x)
    (local_y f.metadata.source_rect selection + y) (by omega) (by omega)
  rw [size] at own
  rw [own, cropped.pixels x y hx hy, ← whole]
  unfold frame_pixel cell_of
  rw [size, picture.stride_eq]

/-- **The box of a selection**: its sides turn into the selection's, and a pixel of the
selection shows the texel that it shows in the whole picture. -/
theorem raw_selection_spec {texture : Texture} {metadata : FrameMetadata}
    (readable : Readable texture metadata) {selection : Rect}
    (inside : Inside metadata.source_rect selection) :
    ∃ selected raw left top, local_selection metadata.source_rect selection = .ok selected ∧
      raw_selection_for_rotation selected texture.width texture.height
        metadata.rotation_degrees = .ok raw ∧
      raw.x = (left : Nat) ∧ raw.y = (top : Nat) ∧
      left + raw.width ≤ texture.width ∧ top + raw.height ≤ texture.height ∧
      dimensions_after_rotation raw.width raw.height metadata.rotation_degrees =
        (selection.width, selection.height) ∧
      ∀ px py, px < selection.width → py < selection.height →
        upright metadata.rotation_degrees texture.width texture.height
            (local_x metadata.source_rect selection + px,
              local_y metadata.source_rect selection + py) =
          (left + (upright metadata.rotation_degrees raw.width raw.height (px, py)).1,
            top + (upright metadata.rotation_degrees raw.width raw.height (px, py)).2) := by
  obtain ⟨sides, is_rotation, -, bounds⟩ := readable
  have sides' := dimensions_ok metadata.rotation_degrees sides
  rw [← bounds] at sides'
  obtain ⟨-, -, right, bottom⟩ := local_of_inside inside
  have right' : local_x metadata.source_rect selection + selection.width ≤
      (dimensions_after_rotation texture.width texture.height metadata.rotation_degrees).1 := by
    rw [← bounds]
    exact right
  have bottom' : local_y metadata.source_rect selection + selection.height ≤
      (dimensions_after_rotation texture.width texture.height metadata.rotation_degrees).2 := by
    rw [← bounds]
    exact bottom
  obtain ⟨selected, selected_eq, selected_x, selected_y, selected_width, selected_height⟩ :=
    local_selection_of_inside inside ⟨sides'.le.1.2, sides'.le.2.2⟩
  have non_empty : selected.NonEmpty := by
    have := inside.1
    unfold Rect.NonEmpty at *
    omega
  obtain ⟨raw, raw_eq, raw_x, raw_y, raw_width, raw_height⟩ :=
    raw_selection_for_rotation_eq is_rotation sides selected_x selected_y non_empty
      (by rw [selected_width]; exact right') (by rw [selected_height]; exact bottom')
  rw [selected_width, selected_height] at raw_x raw_y raw_width raw_height
  obtain ⟨box_right, box_bottom, turned_sides⟩ := raw_box_spec is_rotation right' bottom'
  refine ⟨selected, raw, _, _, selected_eq, raw_eq, raw_x, raw_y, ?_, ?_, ?_, ?_⟩
  · rw [raw_width]
    exact box_right
  · rw [raw_height]
    exact box_bottom
  · rw [raw_width, raw_height]
    exact turned_sides
  · intro px py hx hy
    rw [raw_width, raw_height]
    exact upright_box is_rotation right' bottom' hx hy

/-- **The box of a selection**, read back and turned upright, is the picture of the selection,
unless the box cannot be mapped.
SRC: dxgi.rs:1473-1637 -/
theorem materialize_region_cases (gpu : Gpu) {texture : Texture} {metadata : FrameMetadata}
    (readable : Readable texture metadata) {selection : Rect}
    (inside : Inside metadata.source_rect selection) :
    ∃ left top width height, (0 < width ∧ 0 < height) ∧ left + width ≤ texture.width ∧
      top + height ≤ texture.height ∧
      (∀ error, gpu.map (texture.boxed left top width height) = .error error →
        (DxgiGpuFrame.mk texture metadata).materialize_region gpu selection = fail error) ∧
      ∀ mapped, gpu.map (texture.boxed left top width height) = .ok mapped →
        ∃ out, (DxgiGpuFrame.mk texture metadata).materialize_region gpu selection = .ok out ∧
          IsPicture out selection.width selection.height (fun x y =>
            shown_texel texture metadata (local_x metadata.source_rect selection + x)
              (local_y metadata.source_rect selection + y)) ∧
          out.metadata.source_rect = selection := by
  obtain ⟨selected, raw, left, top, selected_eq, raw_eq, raw_x, raw_y, box_right, box_bottom,
    turned_sides, moved⟩ := raw_selection_spec readable inside
  obtain ⟨sides, is_rotation, format, bounds⟩ := readable
  have non_empty := inside.1
  unfold Rect.NonEmpty at non_empty
  have raw_sides : SidesOk raw.width raw.height := by
    have not_empty : 0 < raw.width ∧ 0 < raw.height := by
      unfold dimensions_after_rotation at turned_sides
      split at turned_sides
      · obtain ⟨h₁, h₂⟩ := Prod.mk.inj turned_sides
        omega
      · obtain ⟨h₁, h₂⟩ := Prod.mk.inj turned_sides
        omega
    exact sides.box not_empty.1 not_empty.2 (by omega) (by omega)
  have selection_sides := dimensions_ok metadata.rotation_degrees raw_sides
  rw [turned_sides] at selection_sides
  simp only at selection_sides
  have format_ok : ¬ texture.format ≠ DXGI_FORMAT_B8G8R8A8_UNORM := fun h => h format
  have sides_le := sides.le
  have left_u32 : (0 : Int) ≤ left ∧ (left : Int) ≤ 4294967295 := by omega
  have top_u32 : (0 : Int) ≤ top ∧ (top : Int) ≤ 4294967295 := by omega
  refine ⟨left, top, raw.width, raw.height, ⟨raw_sides.width_pos, raw_sides.height_pos⟩, box_right,
    box_bottom, ?_, ?_⟩
  · intro error not_mapped
    unfold DxgiGpuFrame.materialize_region
    simp only [selected_eq, ok_bind, fail_if_of_not format_ok, raw_eq, raw_x, raw_y, try_u32,
      if_pos left_u32, if_pos top_u32, Int.toNat_natCast, or_fail_some, not_mapped, native]
    rfl
  intro mapped mapped_eq
  have layout := normalized_layout_eq is_rotation raw_sides
  rw [turned_sides] at layout
  simp only at layout
  obtain ⟨pixels, ran, length, cells⟩ := normalize_mapped mapped
    (List.replicate (selection.width * 4 * selection.height) 0) is_rotation raw_sides turned_sides (by rw [List.length_replicate])
  obtain ⟨frame, made, frame_pixels, frame_width, frame_height, frame_stride, frame_format,
    frame_metadata⟩ := new_frame_eq "gpu_region_readback"
      { metadata with
        source_rect := selection
        copy_count := saturating_add_u32 metadata.copy_count 2
        pool_slot := none } selection_sides length
  refine ⟨frame, ?_, ⟨frame_width, frame_height, frame_stride, frame_format,
    by rw [frame_pixels, length], ?_⟩, by rw [frame_metadata]⟩
  · have stride_u32 : raw.width * 4 ≤ 4294967295 := by omega
    have row_holds : ¬ mapped.row_pitch < raw.width * 4 := Nat.not_lt.mpr mapped.pitch_holds_row
    have size_ok : mapped.row_pitch * raw.height ≤ 18446744073709551615 :=
      Nat.le_trans (Nat.mul_le_mul mapped.pitch_u32 raw_sides.le.2.2) (by decide)
    have same_sides : ¬ (selection.width ≠ selection.width ∨
        selection.height ≠ selection.height) := by simp
    have ran' : normalize_bgra_into mapped.data raw.width raw.height mapped.row_pitch
        metadata.rotation_degrees
        (List.replicate (selection.width * 4 * selection.height) 0) = _ := ran
    unfold DxgiGpuFrame.materialize_region
    simp only [selected_eq, ok_bind, fail_if_of_not format_ok, raw_eq, raw_x, raw_y, try_u32,
      if_pos left_u32, if_pos top_u32, Int.toNat_natCast, or_fail_some, mapped_eq, native,
      checked_mul_u32, if_pos stride_u32, fail_if_of_not row_holds, layout,
      fail_if_of_not same_sides, frame_byte_len_eq selection_sides, frame_byte_len_eq sides,
      checked_mul_usize, if_pos size_ok, ran', made]
  · intro px py hx hy
    rw [frame_pixels, cells px py hx hy]
    unfold shown_texel
    rw [moved px py hx hy]
    rfl

/-- The box of a selection, read back through a GPU that maps every box. -/
theorem materialize_region_spec {gpu : Gpu} {texture : Texture} {metadata : FrameMetadata}
    (maps : MapsBoxes gpu texture) (readable : Readable texture metadata) {selection : Rect}
    (inside : Inside metadata.source_rect selection) :
    ∃ out, (DxgiGpuFrame.mk texture metadata).materialize_region gpu selection = .ok out ∧
      IsPicture out selection.width selection.height (fun x y =>
        shown_texel texture metadata (local_x metadata.source_rect selection + x)
          (local_y metadata.source_rect selection + y)) ∧
      out.metadata.source_rect = selection := by
  obtain ⟨left, top, width, height, sides, right, bottom, -, made⟩ :=
    materialize_region_cases gpu readable inside
  obtain ⟨mapped, mapped_eq⟩ := maps.box left top width height sides.1 sides.2 right bottom
  exact made mapped mapped_eq

/-- A selection that is not inside the display is refused. -/
theorem materialize_region_of_not_inside (gpu : Gpu) (frame : DxgiGpuFrame) {selection : Rect}
    (outside : ¬ Inside frame.metadata.source_rect selection) :
    ∃ error, frame.materialize_region gpu selection = fail error := by
  obtain ⟨error, refused⟩ := local_selection_of_not_inside outside
  refine ⟨error, ?_⟩
  unfold DxgiGpuFrame.materialize_region
  simp only [refused]
  rfl

/-- Two frames that agree on their sizes, their pixels and where they come from. -/
structure SameRegion (f g : CpuFrame) : Prop where
  width : f.width = g.width
  height : f.height = g.height
  stride_bytes : f.stride_bytes = g.stride_bytes
  pixels : f.pixels = g.pixels
  source_rect : f.metadata.source_rect = g.metadata.source_rect

/-- **The two routes agree.**  Turning a texture upright takes its texels one to one to the
pixels, whatever the pitch of its rows; and a selection is accepted by both routes, with the
same region as the result, or refused by both.
SRC: dxgi.rs:1473-1764, dxgi.rs:2042-2182, frame.rs:291-354 -/
theorem region_routes_agree {gpu : Gpu} (pool : CpuBufferPool) (cpu_ready_ns : Nat)
    {texture : Texture} {metadata : FrameMetadata} (readable : Readable texture metadata)
    (maps : MapsBoxes gpu texture)
    (has_slot : ∃ free, pool.available_index
      (metadata.source_rect.width * 4 * metadata.source_rect.height) = some free) :
    (Set.BijOn (upright metadata.rotation_degrees texture.width texture.height)
        (Positions (metadata.source_rect.width, metadata.source_rect.height))
        (Positions (texture.width, texture.height)) ∧
      ∀ (mapped : MappedTexture texture) (destination : List Byte),
        destination.length = metadata.source_rect.width * 4 * metadata.source_rect.height →
        ∃ layout out, normalize_bgra_into mapped.data texture.width texture.height
            mapped.row_pitch metadata.rotation_degrees destination = .ok (layout, out) ∧
          out.length = destination.length ∧
          ∀ x y, x < metadata.source_rect.width → y < metadata.source_rect.height →
            cell_of metadata.source_rect.width 4 out x y =
              (texture.texel
                (upright metadata.rotation_degrees texture.width texture.height (x, y)).1
                (upright metadata.rotation_degrees texture.width texture.height (x, y)).2).toList) ∧
      ∃ whole metadata', readback gpu pool cpu_ready_ns texture metadata none =
          .ok (whole, metadata') ∧
        ∀ selection,
          (Inside metadata.source_rect selection → ∃ region cropped,
            (DxgiGpuFrame.mk texture metadata').materialize_region gpu selection = .ok region ∧
            whole.crop selection = .ok cropped ∧ SameRegion region cropped) ∧
          (¬ Inside metadata.source_rect selection → ∃ error error',
            (DxgiGpuFrame.mk texture metadata').materialize_region gpu selection = fail error ∧
            whole.crop selection = fail error') := by
  obtain ⟨mapped, mapped_eq⟩ := maps.whole
  obtain ⟨bare, whole, slot, is_upright, read, drawn, whole_metadata⟩ :=
    readback_spec cpu_ready_ns none readable mapped_eq has_slot
  have picture : IsPicture whole metadata.source_rect.width metadata.source_rect.height
      (shown_texel texture metadata) :=
    { drawn with
      pixels := fun x y hx hy => (drawn.pixels x y hx hy).trans (is_upright.pixels x y hx hy) }
  generalize metadata_eq : metadata_after_readback metadata none bare cpu_ready_ns slot = metadata'
    at read whole_metadata
  have same_rect : metadata'.source_rect = metadata.source_rect := by
    rw [← metadata_eq]
    rfl
  have same_rotation : metadata'.rotation_degrees = metadata.rotation_degrees := by
    rw [← metadata_eq]
    rfl
  have bounds := readable.bounds
  refine ⟨⟨?_, ?_⟩, whole, metadata', read, ?_⟩
  · rw [bounds]
    exact upright_bijOn readable.is_rotation
  · intro mapped destination length
    obtain ⟨out, ran, out_length, cells⟩ :=
      normalize_mapped mapped destination readable.is_rotation readable.sides bounds.symm length
    refine ⟨_, out, ran, ?_, cells⟩
    rw [out_length, length, Nat.mul_comm]
  intro selection
  have readable' : Readable texture metadata' := by
    obtain ⟨sides, is_rotation, format, -⟩ := readable
    exact ⟨sides, same_rotation ▸ is_rotation, format, by rw [same_rect, same_rotation, bounds]⟩
  have shown_eq : shown_texel texture metadata' = shown_texel texture metadata := by
    unfold shown_texel
    rw [same_rotation]
  constructor
  · intro inside
    obtain ⟨region, region_eq, region_picture, region_rect⟩ :=
      materialize_region_spec maps readable' (by rw [same_rect]; exact inside)
    obtain ⟨cropped, cropped_eq, cropped_picture, cropped_rect⟩ :=
      crop_spec picture (by rw [whole_metadata, same_rect]; exact ⟨rfl, rfl⟩)
        (by rw [whole_metadata, same_rect]; exact inside)
    rw [whole_metadata, ← shown_eq] at cropped_picture
    refine ⟨region, cropped, region_eq, cropped_eq, ?_⟩
    exact
      { width := by rw [region_picture.width_eq, cropped_picture.width_eq]
        height := by rw [region_picture.height_eq, cropped_picture.height_eq]
        stride_bytes := by rw [region_picture.stride_eq, cropped_picture.stride_eq]
        pixels := region_picture.pixels_eq cropped_picture
        source_rect := by rw [region_rect, cropped_rect] }
  · intro outside
    obtain ⟨error, refused⟩ := materialize_region_of_not_inside gpu
      ⟨texture, metadata'⟩ (by rw [same_rect]; exact outside)
    have not_accepted :
        ¬ (SourceMatches whole ∧ Inside whole.metadata.source_rect selection) := by
      intro accepted
      apply outside
      rw [← same_rect, ← whole_metadata]
      exact accepted.2
    obtain ⟨error', refused'⟩ := crop_refused not_accepted
    exact ⟨error, error', refused, refused'⟩

/-! ## A GPU with padded rows -/

/-- The rows of a texture, with `padding` bytes behind each of them. -/
def padded_rows (texture : Texture) (padding : Nat) : List Byte :=
  (List.range ((texture.width * 4 + padding) * texture.height)).map fun i =>
    (texture.texel (i % (texture.width * 4 + padding) / 4)
      (i / (texture.width * 4 + padding))).toList[i % (texture.width * 4 + padding) % 4]?.getD 0

/-- A texel stands where its row and column say, behind the padding of the rows above. -/
theorem padded_rows_texel {texture : Texture} {padding x y : Nat} (hx : x < texture.width)
    (hy : y < texture.height) :
    slice_at (padded_rows texture padding) (cell_at (texture.width * 4 + padding) 4 x y) 4 =
      (texture.texel x y).toList := by
  have in_range : (texture.width * 4 + padding) * y + texture.width * 4 ≤
      (texture.width * 4 + padding) * texture.height := by
    have next : (texture.width * 4 + padding) * (y + 1) ≤
        (texture.width * 4 + padding) * texture.height := Nat.mul_le_mul_left _ hy
    rw [Nat.mul_succ] at next
    omega
  apply List.ext_getElem?
  intro i
  rw [getElem?_slice_at]
  by_cases i_lt : i < 4
  · have byte_lt : x * 4 + i < texture.width * 4 + padding := by omega
    have index : cell_at (texture.width * 4 + padding) 4 x y + i =
        x * 4 + i + (texture.width * 4 + padding) * y := by
      unfold cell_at
      rw [Nat.mul_comm y]
      omega
    have column : (x * 4 + i + (texture.width * 4 + padding) * y) % (texture.width * 4 + padding) =
        x * 4 + i := by
      rw [Nat.add_mul_mod_self_left, Nat.mod_eq_of_lt byte_lt]
    have row : (x * 4 + i + (texture.width * 4 + padding) * y) / (texture.width * 4 + padding) =
        y := by
      rw [Nat.add_mul_div_left _ _ (by omega), Nat.div_eq_of_lt byte_lt, Nat.zero_add]
    have texel_x : (x * 4 + i) / 4 = x := by omega
    have texel_byte : (x * 4 + i) % 4 = i := by omega
    have held : i < (texture.texel x y).toList.length := i_lt
    rw [if_pos i_lt, index]
    unfold padded_rows
    rw [List.getElem?_map, List.getElem?_range (by omega), Option.map_some, column, row, texel_x,
      texel_byte, List.getElem?_eq_getElem held, Option.getD_some]
  · rw [if_neg i_lt, List.getElem?_eq_none (by rw [Quad.length_toList]; omega)]

/-- A GPU that maps textures with `padding` bytes behind every row. -/
def padding_gpu (padding : Nat) : Gpu where
  map texture :=
    if pitch_u32 : texture.width * 4 + padding ≤ 4294967295 then
      .ok ⟨texture.width * 4 + padding, padded_rows texture padding, pitch_u32,
        Nat.le_add_right _ _, by simp [padded_rows], fun _ _ hx hy => padded_rows_texel hx hy⟩
    else .error (invalid_frame "map_staging" "the row pitch exceeds the limits of the device")

/-- A device that pads its rows maps every box. -/
theorem padding_gpu_maps {padding : Nat} {texture : Texture}
    (pitch_u32 : texture.width * 4 + padding ≤ 4294967295) :
    MapsBoxes (padding_gpu padding) texture := by
  refine ⟨⟨_, dif_pos pitch_u32⟩, ?_⟩
  intro left top width height _ _ right _
  have box_u32 : width * 4 + padding ≤ 4294967295 := by omega
  exact ⟨_, dif_pos box_u32⟩

/-- A desktop of 3 by 2 texels, on a display turned by 90 degrees left of the primary one. -/
def turned_desktop : Texture :=
  ⟨3, 2, DXGI_FORMAT_B8G8R8A8_UNORM, fun x y => ⟨x.toUInt8, y.toUInt8, 7, 255⟩⟩

/-- The example's left edge is an `i32`. -/
theorem turned_x : InI32 (-2) := by decide

/-- So is its top. -/
theorem turned_y : InI32 5 := by decide

/-- Its width is a `u32`. -/
theorem turned_width : InU32 2 := by decide

/-- So is its height. -/
theorem turned_height : InU32 3 := by decide

def turned_metadata : FrameMetadata where
  capture_id := 1
  backend := "dxgi"
  display_id := "dxgi:left"
  source_rect :=
    { x := -2, y := 5, width := 2, height := 3, x_i32 := turned_x, y_i32 := turned_y,
      width_u32 := turned_width, height_u32 := turned_height }
  rotation_degrees := 90
  capture_mode := .Latest none
  presentation_offset_ns := some (-9)
  timing_provenance := .OsPresentationTime
  native_ready_offset_ns := 3
  cpu_ready_offset_ns := none
  frame_age_ns := some 9
  verified_current_offset_ns := none
  frame_generation := some 1
  copy_count := 1
  pool_slot := none
  cursor := none

/-- Its texture can be read back. -/
theorem turned_desktop_readable : Readable turned_desktop turned_metadata :=
  ⟨⟨by decide, by decide, by decide⟩, Or.inr (Or.inl rfl), rfl, rfl⟩

/-- The lower two pixels of the right column, cut out both ways. -/
theorem turned_desktop_routes_agree :
    ∃ whole metadata', readback (padding_gpu 8) ⟨[none], 0⟩ 4 turned_desktop turned_metadata none =
        .ok (whole, metadata') ∧
      ∃ region cropped,
        (DxgiGpuFrame.mk turned_desktop metadata').materialize_region (padding_gpu 8)
            { x := -1, y := 6, width := 1, height := 2 } = .ok region ∧
        whole.crop { x := -1, y := 6, width := 1, height := 2 } = .ok cropped ∧
        SameRegion region cropped := by
  have maps : MapsBoxes (padding_gpu 8) turned_desktop := padding_gpu_maps (by decide)
  obtain ⟨-, whole, metadata', read, agree⟩ := region_routes_agree ⟨[none], 0⟩ 4
    turned_desktop_readable maps ⟨_, rfl⟩
  exact ⟨whole, metadata', read, (agree _).1 ⟨by decide, by decide⟩⟩

end Captastic.Analysis
