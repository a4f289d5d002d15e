import Captastic.Model.Bitmap
import Mathlib.Tactic.IntervalCases

/-!
# Bitmaps read back

A reader of bitmaps that knows only their format: it takes the size, the order of the rows and
the place of each channel from the header, and the pixels from where the file says they are.
What `encode_frame` writes is read back as the frame's picture, and so is the payload of the
clipboard, whose rows come in the other order (`bitmap_faithful`).
-/

set_option autoImplicit false

namespace Captastic.Analysis

open Captastic.Library Captastic.Model

/-! ## The reader -/

/-- A colour, with an alpha where the picture has one. -/
structure Color where
  red : Byte
  green : Byte
  blue : Byte
  alpha : Option Byte
deriving DecidableEq

/-- A picture, its rows from the top. -/
structure BitmapPicture where
  width : Nat
  height : Nat
  rows : List (List Color)
deriving DecidableEq

/-- The bytes of a stored pixel, and where its channels are among them. -/
structure StoredPixel where
  size : Nat
  red : Nat
  green : Nat
  blue : Nat
  alpha : Option Nat
deriving DecidableEq

/-- The byte of a pixel that a mask stands for. -/
def byte_of_mask (mask : Nat) : Option Nat := [0, 1, 2, 3].find? fun byte => 255 * 256 ^ byte = mask

/-- The alpha of 32-bit pixels, which only the longest header states: no mask is no alpha. -/
def stored_alpha (info : List Byte) (header_size : Nat) : Option (Option Nat) :=
  if header_size = 124 then
    (read_le? info 52 4).bind fun mask =>
      if mask = 0 then some none else (byte_of_mask mask).map some
  else some none

/-- How the pixels are stored, by the bit count and the compression. -/
def stored_pixel (info : List Byte) : Option StoredPixel := do
  let header_size ← read_le? info 0 4
  let bit_count ← read_le? info 14 2
  let compression ← read_le? info 16 4
  if bit_count = 24 ∧ compression = 0 then some ⟨3, 2, 1, 0, none⟩
  else if bit_count = 32 ∧ compression = 0 then
    (stored_alpha info header_size).map fun alpha => ⟨4, 2, 1, 0, alpha⟩
  else if bit_count = 32 ∧ compression = 3 ∧ header_size = 124 then
    let red ← (read_le? info 40 4).bind byte_of_mask
    let green ← (read_le? info 44 4).bind byte_of_mask
    let blue ← (read_le? info 48 4).bind byte_of_mask
    (stored_alpha info header_size).map fun alpha => ⟨4, red, green, blue, alpha⟩
  else none

/-- The colour of a stored pixel. -/
def StoredPixel.color (layout : StoredPixel) (bytes : List Byte) : Option Color := do
  let red ← bytes[layout.red]?
  let green ← bytes[layout.green]?
  let blue ← bytes[layout.blue]?
  match layout.alpha with
  | none => some ⟨red, green, blue, none⟩
  | some alpha => bytes[alpha]?.map fun alpha => ⟨red, green, blue, some alpha⟩

/-- The colours of a row of so many pixels. -/
def read_row (layout : StoredPixel) : Nat → List Byte → Option (List Color)
  | 0, _ => some []
  | width + 1, bytes => do
    let color ← layout.color (bytes.take layout.size)
    let colors ← read_row layout width (bytes.drop layout.size)
    some (color :: colors)

/-- The picture an info header describes.  Rows are padded to whole words; a positive height
stores the bottom row first. -/
def read_dib (info pixels : List Byte) : Option BitmapPicture := do
  let width ← (read_le? info 4 4).map i32_of_bits
  let height ← (read_le? info 8 4).map i32_of_bits
  let planes ← read_le? info 12 2
  let layout ← stored_pixel info
  if planes = 1 ∧ 0 < width ∧ height ≠ 0 then
    let stride := (width.toNat * layout.size + 3) / 4 * 4
    let rows ← (List.range height.natAbs).mapM fun y =>
      let stored_row := if 0 < height then height.natAbs - 1 - y else y
      (slice? pixels (stored_row * stride) stride).bind (read_row layout width.toNat)
    some ⟨width.toNat, height.natAbs, rows⟩
  else none

/-- A bitmap file: the file header says where the pixels are. -/
def read_bmp (file : List Byte) : Option BitmapPicture := do
  let pixel_offset ← read_le? file 10 4
  if file.take 2 = [66, 77] then read_dib (file.drop 14) (file.drop pixel_offset) else none

/-- A bitmap without a file: the pixels follow the header. -/
def read_packed_dib (payload : List Byte) : Option BitmapPicture := do
  let header_size ← read_le? payload 0 4
  read_dib payload (payload.drop header_size)

/-! ## The picture of a frame -/

/-- The colour of a source pixel. -/
def color_of (frame : CpuFrame) (pixel : Quad) : Color :=
  let alpha := if frame.alpha = .Straight then some pixel.b3 else none
  match frame.format.encoding with
  | .EightBitRgba true => ⟨pixel.b2, pixel.b1, pixel.b0, alpha⟩
  | _ => ⟨pixel.b0, pixel.b1, pixel.b2, alpha⟩

/-- The source pixels of a row. -/
def source_pixels (frame : CpuFrame) (row : Nat) : List Quad :=
  quads (slice_at frame.pixels (row * frame.stride_bytes) (frame.width * 4))

/-- The picture a frame of eight-bit pixels shows. -/
def picture_of (frame : CpuFrame) : BitmapPicture where
  width := frame.width
  height := frame.height
  rows := (List.range frame.height).map fun row => (source_pixels frame row).map (color_of frame)

/-! ## Pixels and rows -/

/-- So many whole pixels have the bytes they were cut from. -/
theorem quads_flatMap {bytes : List Byte} {count : Nat} (length : bytes.length = count * 4) :
    (quads bytes).length = count ∧ (quads bytes).flatMap Quad.toList = bytes := by
  induction count generalizing bytes with
  | zero =>
    rw [List.length_eq_zero_iff.mp (by omega : bytes.length = 0)]
    exact ⟨rfl, rfl⟩
  | succ count ih =>
    match bytes with
    | b0 :: b1 :: b2 :: b3 :: bytes =>
      simp only [List.length_cons] at length
      obtain ⟨rest, same⟩ := ih (by omega : bytes.length = count * 4)
      rw [quads, List.length_cons, List.flatMap_cons, rest, same]
      exact ⟨rfl, rfl⟩
    | [] | [_] | [_, _] | [_, _, _] =>
      simp only [List.length_cons, List.length_nil] at length
      omega

/-- **A converted row** is the pixels converted, and what was behind them before. -/
theorem convert_row_eq {size : Nat} (convert : Quad → List Byte) {pixels : List Quad}
    {row : List Byte} (fits : pixels.length * size ≤ row.length) :
    convert_row size convert pixels row =
      pixels.flatMap convert ++ row.drop (pixels.length * size) := by
  induction pixels generalizing row with
  | nil =>
    rw [convert_row, List.flatMap_nil, List.nil_append, List.length_nil, Nat.zero_mul,
      List.drop_zero]
  | cons pixel pixels ih =>
    rw [List.length_cons, Nat.succ_mul] at fits
    have rest : pixels.length * size ≤ (row.drop size).length := by
      rw [List.length_drop]
      omega
    rw [convert_row, if_pos (by omega), ih rest, List.flatMap_cons, List.drop_drop,
      List.append_assoc, List.length_cons, Nat.succ_mul, Nat.add_comm size]

/-- **A row that is read** is the colours of the pixels it was written from. -/
theorem read_row_eq (layout : StoredPixel) {convert : Quad → List Byte} {color : Quad → Color}
    (sized : ∀ pixel, (convert pixel).length = layout.size)
    (colored : ∀ pixel, layout.color (convert pixel) = some (color pixel)) (pixels : List Quad)
    (rest : List Byte) :
    read_row layout pixels.length (pixels.flatMap convert ++ rest) = some (pixels.map color) := by
  induction pixels with
  | nil => rfl
  | cons pixel pixels ih =>
    rw [List.length_cons, read_row, List.flatMap_cons, List.append_assoc, ← sized pixel,
      List.take_left, List.drop_left, colored pixel, ih]
    rfl

/-- **A bitmap is read** where its header and its rows are. -/
theorem read_dib_eq {info : List Byte} (pixels : List Byte) {width height : Int}
    {layout : StoredPixel} (colors : Nat → List Color)
    (width_read : (read_le? info 4 4).map i32_of_bits = some width)
    (height_read : (read_le? info 8 4).map i32_of_bits = some height)
    (planes_read : read_le? info 12 2 = some 1) (layout_read : stored_pixel info = some layout)
    (sides : 0 < width ∧ height ≠ 0)
    (rows_read : ∀ y < height.natAbs,
      (slice? pixels ((if 0 < height then height.natAbs - 1 - y else y) *
          ((width.toNat * layout.size + 3) / 4 * 4))
        ((width.toNat * layout.size + 3) / 4 * 4)).bind (read_row layout width.toNat) =
        some (colors y)) :
    read_dib info pixels =
      some ⟨width.toNat, height.natAbs, (List.range height.natAbs).map colors⟩ := by
  have rows : ((List.range height.natAbs).mapM fun y =>
      (slice? pixels ((if 0 < height then height.natAbs - 1 - y else y) *
          ((width.toNat * layout.size + 3) / 4 * 4))
        ((width.toNat * layout.size + 3) / 4 * 4)).bind (read_row layout width.toNat)) =
      some ((List.range height.natAbs).map colors) := by
    have each : ∀ ys : List Nat, (∀ y ∈ ys, y < height.natAbs) → (ys.mapM fun y =>
        (slice? pixels ((if 0 < height then height.natAbs - 1 - y else y) *
            ((width.toNat * layout.size + 3) / 4 * 4))
          ((width.toNat * layout.size + 3) / 4 * 4)).bind (read_row layout width.toNat)) =
        some (ys.map colors) := by
      intro ys
      induction ys with
      | nil => exact fun _ => rfl
      | cons y ys ih =>
        intro inside
        rw [List.mapM_cons, rows_read y (inside y List.mem_cons_self),
          ih fun z member => inside z (List.mem_cons_of_mem _ member)]
        rfl
    exact each _ fun y member => List.mem_range.mp member
  unfold read_dib
  rw [width_read, height_read, planes_read, layout_read]
  simp only [Option.bind_eq_bind, Option.bind_some]
  rw [if_pos ⟨trivial, sides⟩]
  simp only [rows, Option.bind_some]

/-! ## Rows of a frame -/

variable (frame : CpuFrame)

/-- A row of the frame is inside its buffer. -/
theorem source_row_inside {row : Nat} (inside : row < frame.height)
    (eight_bit : frame.format.bytes_per_pixel = 4) :
    row * frame.stride_bytes + frame.width * 4 ≤ frame.pixels.length := by
  obtain ⟨-, -, row_holds, -, held⟩ := frame.layout_facts
  rw [eight_bit] at row_holds
  have next : (row + 1) * frame.stride_bytes ≤ frame.height * frame.stride_bytes :=
    Nat.mul_le_mul_right _ inside
  rw [Nat.succ_mul] at next
  rw [Nat.mul_comm] at held
  omega

/-- The pixels of a row are as many as the frame is wide, and have its bytes. -/
theorem source_pixels_facts {row : Nat} (inside : row < frame.height)
    (eight_bit : frame.format.bytes_per_pixel = 4) :
    (source_pixels frame row).length = frame.width ∧
      (source_pixels frame row).flatMap Quad.toList =
        slice_at frame.pixels (row * frame.stride_bytes) (frame.width * 4) :=
  quads_flatMap (length_slice_at _ _ _ (source_row_inside frame inside eight_bit))

/-- The bytes a pixel takes in the file. -/
def pixel_size : Nat := if frame.alpha = .Straight then 4 else 3

/-- The bytes a row takes in the file, whole words. -/
def padded_row : Nat := (frame.width * pixel_size frame + 3) / 4 * 4

/-- A stored row has room for its pixels. -/
theorem row_le_padded_row : frame.width * pixel_size frame ≤ padded_row frame := by
  unfold padded_row
  omega

/-- What the checks find of a frame that passes them. -/
def layout_of : SourceLayout where
  source_row_bytes := frame.width * 4
  swizzle := frame.format = .Bgra8Unorm
  straight_alpha := frame.alpha = .Straight

/-- A converted pixel takes the bytes the format says. -/
theorem length_convert_pixel (pixel : Quad) :
    (convert_pixel (layout_of frame) pixel).length = pixel_size frame := by
  unfold convert_pixel pixel_size layout_of
  by_cases straight : frame.alpha = .Straight
  · simp only [straight, decide_true, if_true, List.length_cons, List.length_nil]
  · simp only [straight, decide_false, if_false, List.length_cons, List.length_nil,
      Bool.false_eq_true]

/-- A row of the file: the pixels of one row of the frame, and zeros up to a whole word. -/
def stored_row (row : Nat) : List Byte :=
  (source_pixels frame row).flatMap (convert_pixel (layout_of frame)) ++
    List.replicate (padded_row frame - frame.width * pixel_size frame) 0

/-- A converted row takes as many for each pixel. -/
theorem length_converted {row : Nat} (inside : row < frame.height)
    (eight_bit : frame.format.bytes_per_pixel = 4) :
    ((source_pixels frame row).flatMap (convert_pixel (layout_of frame))).length =
      frame.width * pixel_size frame := by
  rw [length_flatMap_of_length fun pixel _ => length_convert_pixel frame pixel,
    (source_pixels_facts frame inside eight_bit).1]

/-- A stored row is as long as it says with its padding. -/
theorem length_stored_row {row : Nat} (inside : row < frame.height)
    (eight_bit : frame.format.bytes_per_pixel = 4) :
    (stored_row frame row).length = padded_row frame := by
  have fits := row_le_padded_row frame
  unfold stored_row
  rw [List.length_append, length_converted frame inside eight_bit, List.length_replicate]
  omega

/-- A row buffer whose padding is zero. -/
def PaddedWithZeros (row : List Byte) : Prop :=
  row.length = padded_row frame ∧ row.drop (frame.width * pixel_size frame) =
    List.replicate (padded_row frame - frame.width * pixel_size frame) 0

/-- Its padding is zeros. -/
theorem stored_row_padded {row : Nat} (inside : row < frame.height)
    (eight_bit : frame.format.bytes_per_pixel = 4) :
    PaddedWithZeros frame (stored_row frame row) := by
  refine ⟨length_stored_row frame inside eight_bit, ?_⟩
  unfold stored_row
  rw [← length_converted frame inside eight_bit, List.drop_left]

/-- **One row** is appended as it is stored, whatever row the buffer held before. -/
theorem push_row_eq {row : Nat} (inside : row < frame.height)
    (eight_bit : frame.format.bytes_per_pixel = 4) (bmp : List Byte) {buffer : List Byte}
    (padded : PaddedWithZeros frame buffer) :
    push_row (layout_of frame) frame (bmp, buffer) row =
      .ok (bmp ++ stored_row frame row, stored_row frame row) := by
  have source : (layout_of frame).source_row frame row =
      some (slice_at frame.pixels (row * frame.stride_bytes) (frame.width * 4)) :=
    slice?_eq _ _ _ (source_row_inside frame inside eight_bit)
  have size : (if (layout_of frame).straight_alpha then 4 else 3) = pixel_size frame := by
    unfold pixel_size layout_of
    by_cases straight : frame.alpha = .Straight
    · rw [if_pos straight, if_pos (decide_eq_true straight)]
    · rw [if_neg straight, if_neg (by simpa using straight)]
  have pixels := (source_pixels_facts frame inside eight_bit).1
  have converted : convert_row (pixel_size frame) (convert_pixel (layout_of frame))
      (source_pixels frame row) buffer = stored_row frame row := by
    have fits : (source_pixels frame row).length * pixel_size frame ≤ buffer.length := by
      rw [pixels, padded.1]
      exact row_le_padded_row frame
    rw [convert_row_eq (convert_pixel (layout_of frame)) fits, pixels, padded.2]
    rfl
  unfold push_row
  rw [source, access_some, ok_bind, size]
  change (Except.ok (bmp ++ convert_row _ _ (source_pixels frame row) buffer, convert_row _ _
    (source_pixels frame row) buffer) : Outcome EncodeError _) = _
  rw [converted]

/-- **The rows**, in whatever order. -/
theorem push_rows_eq (eight_bit : frame.format.bytes_per_pixel = 4) {rows : List Nat}
    (inside : ∀ row ∈ rows, row < frame.height) (bmp : List Byte) {buffer : List Byte}
    (padded : PaddedWithZeros frame buffer) :
    ∃ buffer', rows.foldlM (push_row (layout_of frame) frame) (bmp, buffer) =
      .ok (bmp ++ rows.flatMap (stored_row frame), buffer') := by
  induction rows generalizing bmp buffer with
  | nil =>
    rw [List.flatMap_nil, List.append_nil]
    exact ⟨buffer, rfl⟩
  | cons row rows ih =>
    have here := inside row List.mem_cons_self
    rw [List.foldlM_cons, push_row_eq frame here eight_bit bmp padded, ok_bind, List.flatMap_cons,
      ← List.append_assoc]
    exact ih (fun later member => inside later (List.mem_cons_of_mem _ member)) _
      (stored_row_padded frame here eight_bit)

/-! ## Encoding -/

/-- The pixels have eight bits, and their colours are not of the wide space. -/
def Encodable : Prop := frame.format ≠ .Rgba16Float ∧ frame.color_space ≠ .ScRgb

instance : Decidable (Encodable frame) := inferInstanceAs (Decidable (_ ∧ _))

/-- The bytes of the headers. -/
def header_length : Nat := if frame.alpha = .Straight then 138 else 54

/-- The bytes of the file. -/
def file_length : Nat := header_length frame + padded_row frame * frame.height

/-- A frame that can be encoded has pixels of four bytes. -/
theorem Encodable.eight_bit {frame : CpuFrame} (encodable : Encodable frame) :
    frame.format.bytes_per_pixel = 4 := by
  have narrow := encodable.1
  cases format : frame.format with
  | Rgba16Float => exact absurd format narrow
  | Bgra8Unorm | Rgba8Unorm => rfl

/-- A frame of bytes is converted the way its layout says. -/
theorem swizzle_of_narrow (narrow : frame.format ≠ .Rgba16Float) (format : OutputFormat) :
    SourceLayout.swizzle_of frame format = .ok (layout_of frame).swizzle := by
  unfold SourceLayout.swizzle_of layout_of
  cases pixel_format : frame.format with
  | Rgba16Float => exact absurd pixel_format narrow
  | Bgra8Unorm | Rgba8Unorm => rfl

/-- **The checks** are passed by the frames that can be encoded. -/
theorem inspect_eq (encodable : Encodable frame) (format : OutputFormat) :
    SourceLayout.inspect frame format = .ok (layout_of frame) := by
  obtain ⟨⟨wide, high⟩, small, row_holds, size, held⟩ := frame.layout_facts
  rw [encodable.eight_bit] at small row_holds
  have top_left : ¬ frame.origin ≠ .TopLeft := by
    cases frame.origin
    exact fun different => different rfl
  have some_pixels : ¬ (frame.width = 0 ∨ frame.height = 0) := by omega
  have swizzle := swizzle_of_narrow frame encodable.1 format
  have row : checked_mul_usize frame.width 4 = some (frame.width * 4) := if_pos (by omega)
  have minimum : try_u32 (frame.width * 4 : Nat) = some (frame.width * 4) := if_pos (by omega)
  have stride : ¬ frame.stride_bytes < frame.width * 4 := by omega
  have required : checked_mul_usize frame.stride_bytes frame.height =
      some (frame.stride_bytes * frame.height) := if_pos (by omega)
  have long : ¬ frame.pixels.length < frame.stride_bytes * frame.height := by omega
  unfold SourceLayout.inspect
  rw [fail_if_of_not top_left, ok_bind, fail_if_of_not some_pixels, ok_bind, swizzle, ok_bind,
    fail_if_of_not encodable.2, ok_bind, row, or_fail_some, ok_bind, minimum, or_fail_some,
    ok_bind, fail_if_of_not stride, ok_bind, required, or_fail_some, ok_bind,
    fail_if_of_not long, ok_bind]
  rfl

/-- **The checks** refuse every other frame. -/
theorem inspect_refuses (refused : ¬ Encodable frame) (format : OutputFormat) :
    ∃ error, SourceLayout.inspect frame format = .error (.error error) := by
  have top_left : ¬ frame.origin ≠ .TopLeft := by
    cases frame.origin
    exact fun different => different rfl
  have some_pixels : ¬ (frame.width = 0 ∨ frame.height = 0) := by
    have sides := frame.layout_facts.1
    omega
  unfold SourceLayout.inspect
  rw [fail_if_of_not top_left, ok_bind, fail_if_of_not some_pixels, ok_bind]
  by_cases narrow : frame.format ≠ .Rgba16Float
  · have wide : frame.color_space = .ScRgb := by
      by_contra other
      exact refused ⟨narrow, other⟩
    refine ⟨.UnsupportedColorSpace format frame.color_space, ?_⟩
    rw [swizzle_of_narrow frame narrow format, ok_bind, fail_if_of wide]
    rfl
  · have half : SourceLayout.swizzle_of frame format =
        fail (.UnsupportedFormat format frame.format) := by
      unfold SourceLayout.swizzle_of
      rw [not_not.mp narrow]
      rfl
    rw [half]
    exact ⟨_, rfl⟩

/-- The headers of the file. -/
def header_fields : List StoredField :=
  let straight := frame.alpha = .Straight
  file_fields (file_length frame) (header_length frame) ++
    info_fields (if straight then 124 else 40) frame.width frame.height
      (if straight then 32 else 24) (if straight then 3 else 0)
      (padded_row frame * frame.height) ++
    (if straight then v5_fields else [])

/-- Rows that do not overflow are padded to whole words. -/
theorem row_bytes_eq (bits : Nat) (small : frame.width * (bits / 8) ≤ 8589934592) :
    row_bytes frame.width bits = .ok ((frame.width * (bits / 8) + 3) / 4 * 4) := by
  unfold row_bytes checked_mul_usize checked_add_usize
  rw [if_pos (by omega), Option.bind_some, if_pos (by omega), Option.map_some, or_fail_some]

/-- The rows of the file take no more than the frame's own. -/
theorem image_le (encodable : Encodable frame) :
    padded_row frame * frame.height ≤ 4294967295 := by
  obtain ⟨⟨wide, -⟩, -, row_holds, size, -⟩ := frame.layout_facts
  rw [encodable.eight_bit] at row_holds
  have row : padded_row frame ≤ frame.stride_bytes := by
    refine Nat.le_trans ?_ row_holds
    unfold padded_row pixel_size
    split <;> omega
  exact (Nat.mul_le_mul_right _ row).trans size

/-- **What is computed before a byte is written**: the sizes that the headers state, where they
fit. -/
theorem encode_frame_sized (encodable : Encodable frame) :
    encode_frame frame =
      if file_length frame ≤ 4294967295 then
        ((List.range' 0 frame.height).reverse.foldlM (push_row (layout_of frame) frame)
          (stored (header_fields frame), List.replicate (padded_row frame) 0)).bind
            fun state => .ok state.1
      else fail .SizeOverflow := by
  obtain ⟨wide, high⟩ := frame.sides_le
  have image := image_le frame encodable
  have width_fits : try_i32 frame.width = some (frame.width : Int) :=
    if_pos (by unfold InI32; omega)
  have height_fits : try_i32 frame.height = some (frame.height : Int) :=
    if_pos (by unfold InI32; omega)
  have image_counted : checked_mul_usize (padded_row frame) frame.height =
      some (padded_row frame * frame.height) := if_pos (by omega)
  have image_fits : try_u32 (padded_row frame * frame.height : Nat) =
      some (padded_row frame * frame.height) := if_pos (by omega)
  have file_counted : checked_add_usize (header_length frame) (padded_row frame * frame.height) =
      some (file_length frame) := by
    refine if_pos ?_
    unfold header_length
    split <;> omega
  have file_fits : try_u32 (file_length frame : Nat) =
      if file_length frame ≤ 4294967295 then some (file_length frame) else none := by
    unfold try_u32
    by_cases fits : file_length frame ≤ 4294967295
    · rw [if_pos fits, if_pos (by omega), Int.toNat_natCast]
    · rw [if_neg fits, if_neg (by omega)]
  unfold encode_frame
  rw [inspect_eq frame encodable, ok_bind]
  dsimp only
  rw [width_fits, or_fail_some, ok_bind, height_fits, or_fail_some, ok_bind]
  by_cases straight : frame.alpha = .Straight
  · have alpha : (layout_of frame).straight_alpha = true := decide_eq_true straight
    have row : row_bytes frame.width 32 = .ok (padded_row frame) := by
      rw [row_bytes_eq frame 32 (by omega)]
      unfold padded_row pixel_size
      rw [if_pos straight]
    have header : FILE_HEADER_BYTES + V5_HEADER_BYTES = header_length frame := by
      unfold header_length
      rw [if_pos straight]
      rfl
    simp only [alpha, if_true]
    rw [row, ok_bind, image_counted, or_fail_some, ok_bind, header, file_counted, or_fail_some,
      ok_bind, image_fits, or_fail_some, ok_bind, file_fits]
    by_cases fits : file_length frame ≤ 4294967295
    · rw [if_pos fits, if_pos fits, or_fail_some, ok_bind]
      unfold header_fields
      simp only [straight, if_true]
      rfl
    · rw [if_neg fits, if_neg fits]
      rfl
  · have alpha : (layout_of frame).straight_alpha = false := decide_eq_false straight
    have row : row_bytes frame.width 24 = .ok (padded_row frame) := by
      rw [row_bytes_eq frame 24 (by omega)]
      unfold padded_row pixel_size
      rw [if_neg straight]
    have header : FILE_HEADER_BYTES + INFO_HEADER_BYTES = header_length frame := by
      unfold header_length
      rw [if_neg straight]
      rfl
    simp only [alpha, if_false, Bool.false_eq_true]
    rw [row, ok_bind, image_counted, or_fail_some, ok_bind, header, file_counted, or_fail_some,
      ok_bind, image_fits, or_fail_some, ok_bind, file_fits]
    by_cases fits : file_length frame ≤ 4294967295
    · rw [if_pos fits, if_pos fits, or_fail_some, ok_bind]
      unfold header_fields
      simp only [straight, if_false]
      rfl
    · rw [if_neg fits, if_neg fits]
      rfl

/-- The rows of the file, from the bottom. -/
def stored_rows : List Byte := (List.range' 0 frame.height).reverse.flatMap (stored_row frame)

/-- **A frame is encoded** where its pixels can be and the file's size can be stated. -/
theorem encode_frame_eq (encodable : Encodable frame) (fits : file_length frame ≤ 4294967295) :
    encode_frame frame = .ok (stored (header_fields frame) ++ stored_rows frame) := by
  have zeros : PaddedWithZeros frame (List.replicate (padded_row frame) 0) :=
    ⟨List.length_replicate, List.drop_replicate⟩
  have inside : ∀ row ∈ (List.range' 0 frame.height).reverse, row < frame.height := by
    intro row member
    have range := List.mem_range'_1.mp (List.mem_reverse.mp member)
    omega
  obtain ⟨buffer, ran⟩ := push_rows_eq frame encodable.eight_bit inside
    (stored (header_fields frame)) zeros
  rw [encode_frame_sized frame encodable, if_pos fits, ran]
  rfl

/-- **Every other frame is refused**, with an error. -/
theorem encode_frame_refuses
    (refused : ¬ (Encodable frame ∧ file_length frame ≤ 4294967295)) :
    ∃ error, encode_frame frame = .error (.error error) := by
  by_cases encodable : Encodable frame
  · have large : ¬ file_length frame ≤ 4294967295 := fun fits => refused ⟨encodable, fits⟩
    rw [encode_frame_sized frame encodable, if_neg large]
    exact ⟨_, rfl⟩
  · obtain ⟨error, checked⟩ := inspect_refuses frame encodable .Bmp
    refine ⟨error, ?_⟩
    unfold encode_frame
    rw [checked]
    rfl

/-! ## Reading the headers -/

/-- What an info header states. -/
structure InfoStates (info : List Byte) (header_size : Nat) (width height : Int)
    (bit_count compression size_image : Nat) : Prop where
  size_read : read_le? info 0 4 = some header_size
  width_read : (read_le? info 4 4).map i32_of_bits = some width
  height_read : (read_le? info 8 4).map i32_of_bits = some height
  planes_read : read_le? info 12 2 = some 1
  bits_read : read_le? info 14 2 = some bit_count
  compression_read : read_le? info 16 4 = some compression
  image_read : read_le? info 20 4 = some size_image

/-- A signed field that was stored is read back. -/
theorem read_signed {bytes : List Byte} {pos : Nat} {value : Int} (fits : InI32 value)
    (stored_there : read_le? bytes pos 4 = some (bits_of_i32 value)) :
    (read_le? bytes pos 4).map i32_of_bits = some value := by
  unfold InI32 at fits
  rw [stored_there, Option.map_some, i32_of_bits_of_i32 fits.1 (by omega)]

/-- **An info header** states the fields it was made of. -/
theorem info_states {header_bytes bits compression size_image : Nat} {width height : Int}
    (size_small : header_bytes ≤ 4294967295) (width_fits : InI32 width) (height_fits : InI32 height)
    (bits_small : bits ≤ 65535) (compression_small : compression ≤ 4294967295)
    (image_small : size_image ≤ 4294967295) (more : List StoredField) (rest : List Byte) :
    InfoStates
      (stored (info_fields header_bytes width height bits compression size_image ++ more) ++ rest)
      header_bytes width height bits compression size_image := by
  have size : u32_or_max header_bytes = header_bytes := by
    unfold u32_or_max try_u32
    rw [if_pos (by omega), Option.getD_some, Int.toNat_natCast]
  unfold info_fields
  rw [size]
  exact
    { size_read := read_field 0 rfl rfl (Nat.lt_succ_of_le size_small) rest
      width_read := read_signed width_fits (read_field 1 rfl rfl (bits_of_i32_lt width) rest)
      height_read := read_signed height_fits (read_field 2 rfl rfl (bits_of_i32_lt height) rest)
      planes_read := read_field 3 rfl rfl (by decide) rest
      bits_read := read_field 4 rfl rfl (Nat.lt_succ_of_le bits_small) rest
      compression_read := read_field 5 rfl rfl (Nat.lt_succ_of_le compression_small) rest
      image_read := read_field 6 rfl rfl (Nat.lt_succ_of_le image_small) rest }

/-- 24-bit pixels have no alpha. -/
theorem stored_pixel_24 {info : List Byte} {header_size size_image : Nat} {width height : Int}
    (states : InfoStates info header_size width height 24 0 size_image) :
    stored_pixel info = some ⟨3, 2, 1, 0, none⟩ := by
  unfold stored_pixel
  rw [states.size_read, states.bits_read, states.compression_read]
  rfl

/-- 32-bit pixels whose channels the masks state. -/
theorem stored_pixel_masks {info : List Byte} {size_image : Nat} {width height : Int}
    (states : InfoStates info 124 width height 32 3 size_image)
    (red : read_le? info 40 4 = some 0x00ff0000) (green : read_le? info 44 4 = some 0x0000ff00)
    (blue : read_le? info 48 4 = some 0x000000ff) (alpha : read_le? info 52 4 = some 0xff000000) :
    stored_pixel info = some ⟨4, 2, 1, 0, some 3⟩ := by
  unfold stored_pixel stored_alpha
  rw [states.size_read, states.bits_read, states.compression_read, red, green, blue, alpha]
  rfl

/-- 32-bit pixels in the usual order, with an alpha where the longest header has its mask. -/
theorem stored_pixel_32 {info : List Byte} {size_image : Nat} {width height : Int} (alpha : Bool)
    (states : InfoStates info 124 width height 32 0 size_image)
    (mask : read_le? info 52 4 = some (if alpha then 0xff000000 else 0)) :
    stored_pixel info = some ⟨4, 2, 1, 0, if alpha then some 3 else none⟩ := by
  unfold stored_pixel stored_alpha
  rw [states.size_read, states.bits_read, states.compression_read, mask]
  cases alpha <;> rfl

/-! ## Reading the file -/

/-- The file header takes 14 bytes. -/
theorem length_file_fields (file_size pixel_offset : Nat) :
    stored_length (file_fields file_size pixel_offset) = 14 := rfl

/-- The information header takes 40. -/
theorem length_info_fields (header_bytes : Nat) (width height : Int) (bits compression
    size_image : Nat) :
    stored_length (info_fields header_bytes width height bits compression size_image) = 40 := rfl

/-- What a version 5 header adds takes 84. -/
theorem length_v5_fields : stored_length v5_fields = 84 := by decide

/-- The headers take the length they say. -/
theorem length_header_fields : (stored (header_fields frame)).length = header_length frame := by
  rw [length_stored]
  unfold header_fields header_length
  dsimp only
  rw [stored_length_append, stored_length_append, length_file_fields, length_info_fields]
  by_cases straight : frame.alpha = .Straight
  · rw [if_pos straight, if_pos straight, length_v5_fields]
  · rw [if_neg straight, if_neg straight]
    rfl

/-- The rows take as many bytes as they are long, each. -/
theorem length_stored_rows (eight_bit : frame.format.bytes_per_pixel = 4) :
    (stored_rows frame).length = frame.height * padded_row frame := by
  unfold stored_rows
  rw [length_flatMap_of_length , List.length_reverse, List.length_range']
  intro row member
  have range := List.mem_range'_1.mp (List.mem_reverse.mp member)
  exact length_stored_row frame (by omega) eight_bit

/-- **A row of the picture** is where a file that stores the bottom row first has it. -/
theorem slice_stored_rows (eight_bit : frame.format.bytes_per_pixel = 4) {row : Nat}
    (inside : row < frame.height) :
    slice? (stored_rows frame) ((frame.height - 1 - row) * padded_row frame) (padded_row frame) =
      some (stored_row frame row) := by
  have lengths : ∀ row ∈ (List.range' 0 frame.height).reverse,
      (stored_row frame row).length = padded_row frame := by
    intro row member
    have range := List.mem_range'_1.mp (List.mem_reverse.mp member)
    exact length_stored_row frame (by omega) eight_bit
  have place : (List.range' 0 frame.height).reverse[frame.height - 1 - row]? = some row := by
    rw [List.getElem?_reverse (by rw [List.length_range']; omega), List.length_range',
      List.getElem?_range' (by omega)]
    congr 1
    omega
  have next : (frame.height - 1 - row + 1) * padded_row frame ≤ frame.height * padded_row frame :=
    Nat.mul_le_mul_right _ (by omega)
  rw [Nat.succ_mul] at next
  rw [slice?_eq _ _ _ (by rw [length_stored_rows frame eight_bit]; exact next)]
  unfold stored_rows
  rw [slice_at_flatMap lengths place]

/-- How the file stores a pixel. -/
def file_pixel : StoredPixel := ⟨pixel_size frame, 2, 1, 0,
  if frame.alpha = .Straight then some 3 else none⟩

/-- A pixel of the file has the colour of the frame's. -/
theorem file_pixel_color (encodable : Encodable frame) (pixel : Quad) :
    (file_pixel frame).color (convert_pixel (layout_of frame) pixel) =
      some (color_of frame pixel) := by
  have narrow := encodable.1
  unfold file_pixel color_of convert_pixel layout_of SourceLayout.channels
  by_cases straight : frame.alpha = .Straight
  · cases format : frame.format with
    | Rgba16Float => exact absurd format narrow
    | Bgra8Unorm =>
      simp only [straight, decide_true, if_true]
      rfl
    | Rgba8Unorm =>
      simp only [straight, decide_true, if_true]
      rfl
  · cases format : frame.format with
    | Rgba16Float => exact absurd format narrow
    | Bgra8Unorm =>
      simp only [straight, decide_false, if_false]
      rfl
    | Rgba8Unorm =>
      simp only [straight, decide_false, if_false]
      rfl

/-- A row of the file is read as the row of the picture. -/
theorem read_stored_row (encodable : Encodable frame) {row : Nat} (inside : row < frame.height) :
    read_row (file_pixel frame) frame.width (stored_row frame row) =
      some ((source_pixels frame row).map (color_of frame)) := by
  have pixels := (source_pixels_facts frame inside encodable.eight_bit).1
  have row_read := read_row_eq (file_pixel frame) (length_convert_pixel frame)
    (file_pixel_color frame encodable) (source_pixels frame row)
    (List.replicate (padded_row frame - frame.width * pixel_size frame) 0)
  rw [pixels] at row_read
  exact row_read

/-- The fields of the info header of the file. -/
def info_part : List StoredField :=
  info_fields (if frame.alpha = .Straight then 124 else 40) frame.width frame.height
      (if frame.alpha = .Straight then 32 else 24) (if frame.alpha = .Straight then 3 else 0)
      (padded_row frame * frame.height) ++
    (if frame.alpha = .Straight then v5_fields else [])

/-- The headers are that of the file and that of the picture. -/
theorem header_fields_eq : header_fields frame =
    file_fields (file_length frame) (header_length frame) ++ info_part frame := by
  unfold header_fields info_part
  exact List.append_assoc _ _ _

/-- **The info header** of the file states the sides, and how its pixels are stored. -/
theorem info_part_states (encodable : Encodable frame) (rest : List Byte) :
    InfoStates (stored (info_part frame) ++ rest) (if frame.alpha = .Straight then 124 else 40)
        frame.width frame.height (if frame.alpha = .Straight then 32 else 24)
        (if frame.alpha = .Straight then 3 else 0) (padded_row frame * frame.height) ∧
      stored_pixel (stored (info_part frame) ++ rest) = some (file_pixel frame) := by
  obtain ⟨wide, high⟩ := frame.sides_le
  have image := image_le frame encodable
  have width_fits : InI32 frame.width := by
    unfold InI32
    omega
  have height_fits : InI32 frame.height := by
    unfold InI32
    omega
  unfold info_part file_pixel pixel_size
  by_cases straight : frame.alpha = .Straight
  · simp only [if_pos straight]
    have states := info_states (by decide : 124 ≤ 4294967295) width_fits height_fits
      (by decide : 32 ≤ 65535) (by decide : 3 ≤ 4294967295) image v5_fields rest
    refine ⟨states, stored_pixel_masks states ?_ ?_ ?_ ?_⟩
    · exact read_field 11 rfl rfl (by decide) rest
    · exact read_field 12 rfl rfl (by decide) rest
    · exact read_field 13 rfl rfl (by decide) rest
    · exact read_field 14 rfl rfl (by decide) rest
  · simp only [if_neg straight]
    have states := info_states (by decide : 40 ≤ 4294967295) width_fits height_fits
      (by decide : 24 ≤ 65535) (by decide : 0 ≤ 4294967295) image [] rest
    exact ⟨states, stored_pixel_24 states⟩

/-- What is promised of a file written for a frame: it is read back as the frame's picture, its
header states its own size, where the rows are and what they take, and rows are padded with
zeros. -/
structure FileFaithful (bytes : List Byte) : Prop where
  decoded : read_bmp bytes = some (picture_of frame)
  length : bytes.length = header_length frame + frame.height * padded_row frame
  file_size : read_le? bytes 2 4 = some bytes.length
  pixel_offset : read_le? bytes 10 4 = some (header_length frame)
  image_size : read_le? bytes 34 4 = some (bytes.length - header_length frame)
  padding : ∀ row < frame.height, ∀ column < padded_row frame,
    frame.width * pixel_size frame ≤ column →
      bytes[header_length frame + row * padded_row frame + column]? = some 0

/-- Behind the pixels of a row stand zeros up to the next. -/
theorem stored_rows_padding (eight_bit : frame.format.bytes_per_pixel = 4) {row column : Nat}
    (inside : row < frame.height) (short : column < padded_row frame)
    (behind : frame.width * pixel_size frame ≤ column) :
    (stored_rows frame)[row * padded_row frame + column]? = some 0 := by
  have there := slice_stored_rows frame eight_bit
    (by omega : frame.height - 1 - row < frame.height)
  have place : frame.height - 1 - (frame.height - 1 - row) = row := by omega
  rw [place] at there
  have fits : row * padded_row frame + padded_row frame ≤ (stored_rows frame).length := by
    have next : (row + 1) * padded_row frame ≤ frame.height * padded_row frame :=
      Nat.mul_le_mul_right _ inside
    rw [length_stored_rows frame eight_bit]
    rw [Nat.succ_mul] at next
    exact next
  rw [slice?_eq _ _ _ fits] at there
  have byte := congrArg (fun bytes => bytes[column]?) (Option.some.inj there)
  simp only [getElem?_slice_at, if_pos short] at byte
  rw [byte]
  unfold stored_row
  have converted := length_converted frame (by omega : frame.height - 1 - row < frame.height)
    eight_bit
  rw [List.getElem?_append_right (by omega), converted, List.getElem?_replicate,
    if_pos (by omega)]

/-- **The file** of a frame is read back, and its header states what it holds. -/
theorem file_faithful (encodable : Encodable frame) (fits : file_length frame ≤ 4294967295) :
    FileFaithful frame (stored (header_fields frame) ++ stored_rows frame) := by
  have eight_bit := encodable.eight_bit
  have header := length_header_fields frame
  have rows := length_stored_rows frame eight_bit
  have total : (stored (header_fields frame) ++ stored_rows frame).length = file_length frame := by
    rw [List.length_append, header, rows]
    unfold file_length
    rw [Nat.mul_comm]
  have offset_small : header_length frame ≤ 4294967295 := by
    unfold header_length
    split <;> omega
  have offset : u32_or_max (header_length frame) = header_length frame := by
    unfold u32_or_max try_u32
    rw [if_pos (by omega), Option.getD_some, Int.toNat_natCast]
  have offset_read : read_le? (stored (header_fields frame) ++ stored_rows frame) 10 4 =
      some (header_length frame) := by
    rw [header_fields_eq]
    unfold file_fields
    rw [offset]
    exact read_field 5 rfl rfl (Nat.lt_succ_of_le offset_small) _
  have info_bytes : (stored (header_fields frame) ++ stored_rows frame).drop 14 =
      stored (info_part frame) ++ stored_rows frame := by
    have file := length_stored (file_fields (file_length frame) (header_length frame))
    rw [length_file_fields] at file
    rw [header_fields_eq, stored_append, List.append_assoc, ← file, List.drop_left]
  obtain ⟨states, pixel⟩ := info_part_states frame encodable (stored_rows frame)
  obtain ⟨wide, high⟩ := frame.layout_facts.1
  exact
    { decoded := by
        have magic : (stored (header_fields frame) ++ stored_rows frame).take 2 = [66, 77] := rfl
        have picture := read_dib_eq (stored_rows frame)
          (fun row => (source_pixels frame row).map (color_of frame))
          states.width_read states.height_read states.planes_read pixel (by omega)
          (fun row inside => by
            have stride : ((frame.width : Int).toNat * (file_pixel frame).size + 3) / 4 * 4 =
                padded_row frame := by
              rw [Int.toNat_natCast]
              rfl
            rw [Int.natAbs_natCast] at inside ⊢
            rw [stride, if_pos (by omega), slice_stored_rows frame eight_bit inside,
              Option.bind_some, Int.toNat_natCast]
            exact read_stored_row frame encodable inside)
        unfold read_bmp
        rw [offset_read, Option.bind_eq_bind, Option.bind_some, if_pos magic, info_bytes,
          ← header, List.drop_left, picture, Int.toNat_natCast, Int.natAbs_natCast]
        rfl
      length := by rw [List.length_append, header, rows]
      file_size := by
        rw [total, header_fields_eq]
        exact read_field 2 rfl rfl (Nat.lt_succ_of_le fits) _
      pixel_offset := offset_read
      image_size := by
        have image : (stored (header_fields frame) ++ stored_rows frame).length -
            header_length frame = padded_row frame * frame.height := by
          rw [List.length_append, header, rows, Nat.add_sub_cancel_left, Nat.mul_comm]
        rw [image, header_fields_eq]
        exact read_field 12 rfl rfl (Nat.lt_succ_of_le (image_le frame encodable)) _
      padding := fun row inside column short behind => by
        rw [List.getElem?_append_right (by omega), header]
        have place : header_length frame + row * padded_row frame + column - header_length frame =
            row * padded_row frame + column := by omega
        rw [place, stored_rows_padding frame eight_bit inside short behind] }

/-! ## The clipboard -/

/-- What is published of a frame that can be. -/
def dib_layout : DibV5Layout where
  header :=
    { bV5Size := V5_HEADER_BYTES
      bV5Width := frame.width
      bV5Height := -frame.height
      bV5Planes := 1
      bV5BitCount := 32
      bV5Compression := BI_RGB
      bV5SizeImage := frame.width * 4 * frame.height
      bV5RedMask := 0x00ff0000
      bV5GreenMask := 0x0000ff00
      bV5BlueMask := 0x000000ff
      bV5AlphaMask := if frame.alpha = .Straight then 0xff000000 else 0
      bV5CSType := LCS_SRGB
      bV5Intent := LCS_GM_IMAGES }
  tight_stride := frame.width * 4
  payload_bytes := 124 + frame.width * 4 * frame.height

/-- The rows of a bitmap on the clipboard fit a `u32`, without padding. -/
theorem tight_le (bgra : frame.format = .Bgra8Unorm) :
    frame.width * 4 * frame.height ≤ 4294967295 := by
  obtain ⟨-, -, row_holds, size, -⟩ := frame.layout_facts
  rw [bgra] at row_holds
  exact (Nat.mul_le_mul_right _ row_holds).trans size

/-- **Only frames of BGRA pixels** are published, and each of them is. -/
theorem new_eq_ok_iff (layout : DibV5Layout) :
    DibV5Layout.new frame = .ok layout ↔
      frame.format = .Bgra8Unorm ∧ layout = dib_layout frame := by
  obtain ⟨wide, high⟩ := frame.sides_le
  obtain ⟨⟨some_width, some_height⟩, -, row_holds, size, held⟩ := frame.layout_facts
  cases format : frame.format with
  | Rgba8Unorm | Rgba16Float =>
    unfold DibV5Layout.new DibV5Layout.check_encoding
    rw [format]
    exact ⟨nofun, nofun⟩
  | Bgra8Unorm =>
    have tight := tight_le frame format
    rw [format] at row_holds
    replace row_holds : frame.width * 4 ≤ frame.stride_bytes := row_holds
    have encoding : DibV5Layout.check_encoding frame = .ok () := by
      unfold DibV5Layout.check_encoding
      rw [format]
      rfl
    have top_left : ¬ frame.origin ≠ .TopLeft := by
      cases frame.origin
      exact fun different => different rfl
    have width_fits : try_i32 frame.width = some (frame.width : Int) :=
      if_pos (by unfold InI32; omega)
    have height_fits : try_i32 frame.height = some (frame.height : Int) :=
      if_pos (by unfold InI32; omega)
    have some_pixels : ¬ ((frame.width : Int) = 0 ∨ (frame.height : Int) = 0) := by omega
    have row : checked_mul_usize frame.width 4 = some (frame.width * 4) := if_pos (by omega)
    have stride : ¬ frame.stride_bytes < frame.width * 4 := by omega
    have pixels : checked_mul_usize (frame.width * 4) frame.height =
        some (frame.width * 4 * frame.height) := if_pos (by omega)
    have long : ¬ frame.pixels.length <
        min (frame.stride_bytes * frame.height) 18446744073709551615 := by omega
    have payload : checked_add_usize V5_HEADER_BYTES (frame.width * 4 * frame.height) =
        some (124 + frame.width * 4 * frame.height) := by
      unfold checked_add_usize V5_HEADER_BYTES
      rw [if_pos (by omega)]
    have image : try_u32 (frame.width * 4 * frame.height : Nat) =
        some (frame.width * 4 * frame.height) := if_pos (by omega)
    unfold DibV5Layout.new
    rw [encoding, ok_bind, fail_if_of_not top_left, ok_bind, width_fits, or_fail_some, ok_bind,
      height_fits, or_fail_some, ok_bind, fail_if_of_not some_pixels, ok_bind, row, or_fail_some,
      ok_bind, fail_if_of_not stride, ok_bind, pixels, or_fail_some, ok_bind, fail_if_of_not long,
      ok_bind, payload, or_fail_some, ok_bind, image, or_fail_some, ok_bind]
    constructor
    · intro built
      exact ⟨rfl, (Except.ok.inj built).symm⟩
    · rintro ⟨-, rfl⟩
      rfl

/-- A row as it is published. -/
def tight_row (row : Nat) : List Byte :=
  slice_at frame.pixels (row * frame.stride_bytes) (frame.width * 4)

/-- The published rows, from the top. -/
def tight_rows : List Byte := (List.range' 0 frame.height).flatMap (tight_row frame)

/-- A row of a bitmap on the clipboard has no padding. -/
theorem length_tight_row (bgra : frame.format = .Bgra8Unorm) {row : Nat}
    (inside : row < frame.height) : (tight_row frame row).length = frame.width * 4 :=
  length_slice_at _ _ _ (source_row_inside frame inside (by rw [bgra]; rfl))

/-- What is written behind what was written before. -/
theorem write?_behind (before : List Byte) {rest bytes : List Byte}
    (fits : bytes.length ≤ rest.length) :
    write? (before ++ rest) before.length bytes =
      some (before ++ bytes ++ rest.drop bytes.length) := by
  unfold write?
  rw [if_pos (by rw [List.length_append]; omega), List.take_left, ← List.drop_drop, List.drop_left]

/-- **The rows** are copied one behind the other. -/
theorem copy_rows_eq (bgra : frame.format = .Bgra8Unorm) {first count : Nat}
    (inside : first + count ≤ frame.height) {before rest : List Byte}
    (place : before.length = 124 + first * (frame.width * 4))
    (room : rest.length = count * (frame.width * 4)) :
    (List.range' first count).foldlM ((dib_layout frame).copy_row frame) (before ++ rest) =
      some (before ++ (List.range' first count).flatMap (tight_row frame)) := by
  induction count generalizing first before rest with
  | zero =>
    rw [List.length_eq_zero_iff.mp (by omega : rest.length = 0)]
    rfl
  | succ count ih =>
    have here : first < frame.height := by omega
    have row_length := length_tight_row frame bgra here
    rw [Nat.succ_mul] at room
    have copied : (dib_layout frame).copy_row frame (before ++ rest) first =
        some (before ++ tight_row frame first ++ rest.drop (frame.width * 4)) := by
      have source : slice? frame.pixels (first * frame.stride_bytes) (frame.width * 4) =
          some (tight_row frame first) :=
        slice?_eq _ _ _ (source_row_inside frame here (by rw [bgra]; rfl))
      have written := write?_behind before
        (by omega : (tight_row frame first).length ≤ rest.length)
      rw [place, row_length] at written
      unfold DibV5Layout.copy_row
      change (slice? frame.pixels (first * frame.stride_bytes) (frame.width * 4)).bind _ = _
      rw [source, Option.bind_some]
      exact written
    have next : (before ++ tight_row frame first).length =
        124 + (first + 1) * (frame.width * 4) := by
      rw [List.length_append, place, row_length, Nat.succ_mul]
      omega
    have left : (rest.drop (frame.width * 4)).length = count * (frame.width * 4) := by
      rw [List.length_drop]
      omega
    rw [List.range'_succ, List.foldlM_cons, copied, Option.bind_eq_bind, Option.bind_some,
      ih (by omega) next left, List.flatMap_cons, List.append_assoc]

/-- Its header takes 124 bytes. -/
theorem length_dib_fields : stored_length (dib_layout frame).header.fields = 124 := by
  unfold BITMAPV5HEADER.fields
  rw [stored_length_append, stored_length_append]
  simp only [stored_length, List.map_cons, List.map_nil, List.map_replicate, List.sum_cons,
    List.sum_nil, push_u32, push_i32, push_u16]
  rfl

/-- **The payload**, written over whatever the memory held. -/
theorem write_eq (bgra : frame.format = .Bgra8Unorm) {destination : List Byte}
    (length : destination.length = 124 + frame.width * 4 * frame.height) :
    (dib_layout frame).write frame destination =
      .ok (stored (dib_layout frame).header.fields ++ tight_rows frame) := by
  have header := length_dib_fields frame
  rw [← length_stored] at header
  have right_size : ¬ destination.length ≠ (dib_layout frame).payload_bytes :=
    fun other => other length
  have headed : write? destination 0 (stored (dib_layout frame).header.fields) =
      some (stored (dib_layout frame).header.fields ++ destination.drop 124) := by
    unfold write?
    rw [if_pos (by omega), header, List.take_zero, List.nil_append]
  have room : (destination.drop 124).length = frame.height * (frame.width * 4) := by
    rw [List.length_drop, length, Nat.mul_comm frame.height]
    omega
  have rows := copy_rows_eq frame bgra (Nat.le_of_eq (Nat.zero_add frame.height))
    (by omega : (stored (dib_layout frame).header.fields).length = 124 + 0 * (frame.width * 4)) room
  unfold DibV5Layout.write
  rw [fail_if_of_not right_size, ok_bind, headed, access_some, ok_bind, rows]
  rfl

/-- How the payload stores a pixel. -/
def payload_pixel : StoredPixel := ⟨4, 2, 1, 0, if frame.alpha = .Straight then some 3 else none⟩

/-- A pixel of its rows has the colour it shows in the frame. -/
theorem payload_pixel_color (bgra : frame.format = .Bgra8Unorm) (pixel : Quad) :
    (payload_pixel frame).color pixel.toList = some (color_of frame pixel) := by
  unfold payload_pixel color_of
  rw [bgra]
  by_cases straight : frame.alpha = .Straight
  · rw [if_pos straight, if_pos straight]
    rfl
  · rw [if_neg straight, if_neg straight]
    rfl

/-- A row of the payload is read as the row of the picture. -/
theorem read_tight_row (bgra : frame.format = .Bgra8Unorm) {row : Nat}
    (inside : row < frame.height) :
    read_row (payload_pixel frame) frame.width (tight_row frame row) =
      some ((source_pixels frame row).map (color_of frame)) := by
  obtain ⟨pixels, bytes⟩ := source_pixels_facts frame inside (by rw [bgra]; rfl)
  have row_read := read_row_eq (payload_pixel frame) Quad.length_toList
    (payload_pixel_color frame bgra) (source_pixels frame row) []
  rw [pixels, bytes, List.append_nil] at row_read
  exact row_read

/-- **A row of the picture** is where a payload that stores the top row first has it. -/
theorem slice_tight_rows (bgra : frame.format = .Bgra8Unorm) {row : Nat}
    (inside : row < frame.height) :
    slice? (tight_rows frame) (row * (frame.width * 4)) (frame.width * 4) =
      some (tight_row frame row) := by
  have lengths : ∀ row ∈ List.range' 0 frame.height,
      (tight_row frame row).length = frame.width * 4 := by
    intro row member
    have range := List.mem_range'_1.mp member
    exact length_tight_row frame bgra (by omega)
  have place : (List.range' 0 frame.height)[row]? = some row := by
    rw [List.getElem?_range' inside]
    congr 1
    omega
  have total : (tight_rows frame).length = frame.height * (frame.width * 4) := by
    unfold tight_rows
    rw [length_flatMap_of_length lengths, List.length_range']
  have next : (row + 1) * (frame.width * 4) ≤ frame.height * (frame.width * 4) :=
    Nat.mul_le_mul_right _ inside
  rw [Nat.succ_mul] at next
  rw [slice?_eq _ _ _ (by rw [total]; exact next)]
  unfold tight_rows
  rw [slice_at_flatMap lengths place]

/-- What is promised of a payload published for a frame: it is read back as the frame's picture,
is as long as its header and its rows, and states what the rows take. -/
structure PayloadFaithful (payload : List Byte) : Prop where
  decoded : read_packed_dib payload = some (picture_of frame)
  length : payload.length = 124 + frame.width * 4 * frame.height
  image_size : read_le? payload 20 4 = some (frame.width * 4 * frame.height)

/-- The mask of the alpha, where the header is read. -/
theorem read_alpha_mask {header : BITMAPV5HEADER} (small : header.bV5AlphaMask < 256 ^ 4)
    (rest : List Byte) :
    read_le? (stored header.fields ++ rest) 52 4 = some header.bV5AlphaMask := by
  have place : stored_length (header.fields.take 14) = 52 := by
    unfold BITMAPV5HEADER.fields
    simp only [List.cons_append, List.take_succ_cons, stored_length, List.map_cons, push_u32,
      push_i32, push_u16]
    rfl
  exact read_field 14 rfl place small rest

/-- Its header has a mask for alpha exactly where the frame's is straight. -/
theorem dib_alpha_mask : (dib_layout frame).header.bV5AlphaMask =
    if frame.alpha = .Straight then 0xff000000 else 0 := rfl

/-- **The payload** of a frame is read back. -/
theorem payload_faithful (bgra : frame.format = .Bgra8Unorm) :
    PayloadFaithful frame (stored (dib_layout frame).header.fields ++ tight_rows frame) := by
  obtain ⟨wide, high⟩ := frame.sides_le
  obtain ⟨some_width, some_height⟩ := frame.layout_facts.1
  have tight := tight_le frame bgra
  have header := length_dib_fields frame
  rw [← length_stored] at header
  have width_fits : InI32 frame.width := by
    unfold InI32
    omega
  have height_fits : InI32 (-(frame.height : Int)) := by
    unfold InI32
    omega
  have states : InfoStates (stored (dib_layout frame).header.fields ++ tight_rows frame) 124
      frame.width (-(frame.height : Int)) 32 0 (frame.width * 4 * frame.height) :=
    { size_read := read_field 0 rfl rfl (by decide) _
      width_read := read_signed width_fits (read_field 1 rfl rfl (bits_of_i32_lt _) _)
      height_read := read_signed height_fits (read_field 2 rfl rfl (bits_of_i32_lt _) _)
      planes_read := read_field 3 rfl rfl (by decide) _
      bits_read := read_field 4 rfl rfl (by decide) _
      compression_read := read_field 5 rfl rfl (by decide) _
      image_read := read_field 6 rfl rfl (Nat.lt_succ_of_le tight) _ }
  have mask_small : (dib_layout frame).header.bV5AlphaMask < 256 ^ 4 := by
    rw [dib_alpha_mask]
    split <;> decide
  have pixel : stored_pixel (stored (dib_layout frame).header.fields ++ tight_rows frame) =
      some (payload_pixel frame) := by
    have mask := read_alpha_mask mask_small (tight_rows frame)
    rw [dib_alpha_mask] at mask
    unfold payload_pixel
    by_cases straight : frame.alpha = .Straight
    · rw [if_pos straight] at mask ⊢
      exact stored_pixel_32 true states mask
    · rw [if_neg straight] at mask ⊢
      exact stored_pixel_32 false states mask
  have picture := read_dib_eq (tight_rows frame)
    (fun row => (source_pixels frame row).map (color_of frame))
    states.width_read states.height_read states.planes_read pixel (by omega)
    (fun row inside => by
      have stride : ((frame.width : Int).toNat * (payload_pixel frame).size + 3) / 4 * 4 =
          frame.width * 4 := by
        change ((frame.width : Int).toNat * 4 + 3) / 4 * 4 = _
        omega
      rw [Int.natAbs_neg, Int.natAbs_natCast] at inside
      rw [stride, if_neg (by omega), slice_tight_rows frame bgra inside, Option.bind_some,
        Int.toNat_natCast]
      exact read_tight_row frame bgra inside)
  exact
    { decoded := by
        unfold read_packed_dib
        rw [states.size_read, Option.bind_eq_bind, Option.bind_some, ← header, List.drop_left,
          picture, Int.toNat_natCast, Int.natAbs_neg, Int.natAbs_natCast]
        rfl
      length := by
        have rows : (tight_rows frame).length = frame.height * (frame.width * 4) := by
          unfold tight_rows
          rw [length_flatMap_of_length, List.length_range']
          intro row member
          have range := List.mem_range'_1.mp member
          exact length_tight_row frame bgra (by omega)
        rw [List.length_append, header, rows, Nat.mul_comm frame.height]
      image_size := states.image_read }

/-! ## Both bitmaps -/

/-- What is promised of the bitmaps of a frame: the file is written where the frame can be
encoded and its headers can state the sizes, and otherwise refused with an error; file and
payload are read back as the frame's picture. -/
structure BitmapFaithful : Prop where
  written : Encodable frame → file_length frame ≤ 4294967295 →
    ∃ bytes, encode_frame frame = .ok bytes ∧ FileFaithful frame bytes
  refused : ¬ (Encodable frame ∧ file_length frame ≤ 4294967295) →
    ∃ error, encode_frame frame = .error (.error error)
  published : ∀ layout, DibV5Layout.new frame = .ok layout →
    ∀ destination, destination.length = layout.payload_bytes →
      ∃ payload, layout.write frame destination = .ok payload ∧ PayloadFaithful frame payload

/-- **The bitmaps of every frame** hold its picture. -/
theorem bitmap_faithful : BitmapFaithful frame where
  written := fun encodable fits =>
    ⟨_, encode_frame_eq frame encodable fits, file_faithful frame encodable fits⟩
  refused := encode_frame_refuses frame
  published := by
    intro layout accepted destination length
    obtain ⟨bgra, rfl⟩ := (new_eq_ok_iff frame layout).mp accepted
    exact ⟨_, write_eq frame bgra length, payload_faithful frame bgra⟩

end Captastic.Analysis
