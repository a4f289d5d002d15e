import Captastic.Analysis.FrameCrop
import Captastic.Library.Extrema
import Captastic.Library.Layers
import Captastic.Model.DisplayManager

/-!
# Composing the virtual desktop

`compose_virtual_desktop` paints the frames of all displays over black, sorted so that the
smallest display id is painted last.  Copying one frame succeeds exactly where its rectangle
lies inside the bounds, and then changes the pixels of that rectangle and no other
(`copy_frame_into_spec`), so the whole is a stack of layers and shows, at each position, the
frame of the smallest id that shows_at it (`virtual_desktop_composed`).
-/

set_option autoImplicit false

namespace Captastic.Analysis

open Captastic.Library Captastic.Model

/-! ## Black -/

/-- Filling keeps the length of the buffer. -/
theorem length_fill_black (b : List Byte) : (fill_black b).length = b.length := by
  induction b using fill_black.induct with
  | case1 b0 b1 b2 b3 rest ih =>
    rw [fill_black, List.length_append, ih, Quad.length_toList]
    simp only [List.length_cons]
    omega
  | case2 rest short =>
    rw [fill_black]
    exact short

/-- A buffer of four bytes or more begins with four. -/
theorem exists_four {b : List Byte} (long : 4 ≤ b.length) :
    ∃ b0 b1 b2 b3 rest, b = b0 :: b1 :: b2 :: b3 :: rest := by
  obtain ⟨b0, b', rfl⟩ := List.exists_cons_of_length_pos (by omega : 0 < b.length)
  obtain ⟨b1, b', rfl⟩ := List.exists_cons_of_length_pos (l := b') (by simp only [List.length_cons] at long; omega)
  obtain ⟨b2, b', rfl⟩ := List.exists_cons_of_length_pos (l := b') (by simp only [List.length_cons] at long; omega)
  obtain ⟨b3, b', rfl⟩ := List.exists_cons_of_length_pos (l := b') (by simp only [List.length_cons] at long; omega)
  exact ⟨b0, b1, b2, b3, b', rfl⟩

/-- Every pixel of what was filled is opaque black. -/
theorem slice_at_fill_black (b : List Byte) (i : Nat) (in_range : i * 4 + 4 ≤ b.length) :
    slice_at (fill_black b) (i * 4) 4 = OPAQUE_BLACK.toList := by
  induction b using fill_black.induct generalizing i with
  | case1 b0 b1 b2 b3 rest ih =>
    rw [fill_black]
    cases i with
    | zero => rfl
    | succ i =>
      simp only [List.length_cons] at in_range
      have rest_slice := ih i (by omega)
      rw [slice_at, List.drop_append, Quad.length_toList, Nat.succ_mul, Nat.add_sub_cancel,
        List.drop_of_length_le (by simp), List.nil_append]
      exact rest_slice
  | case2 rest short =>
    have length_lt : rest.length < 4 := by
      by_contra long
      obtain ⟨b0, b1, b2, b3, rest', rfl⟩ := exists_four (Nat.le_of_not_lt long)
      exact short b0 b1 b2 b3 rest' rfl
    omega

/-! ## One frame -/

/-- A frame that can be part of a picture of `bounds`. -/
def Composable (bounds : Rect) (frame : CpuFrame) : Prop :=
  frame.format.encoding = .EightBitRgba true ∧ SourceMatches frame ∧
    frame.metadata.source_rect.Within bounds

instance (bounds : Rect) (frame : CpuFrame) : Decidable (Composable bounds frame) :=
  inferInstanceAs (Decidable (_ ∧ _))

/-- The frame shows this position of the desktop. -/
def shows_at (frame : CpuFrame) (p : Int × Int) : Prop :=
  frame.metadata.source_rect.contains p.1 p.2

instance (frame : CpuFrame) (p : Int × Int) : Decidable (shows_at frame p) :=
  inferInstanceAs (Decidable (frame.metadata.source_rect.contains p.1 p.2))

/-- The position of a pixel of `bounds`. -/
def desktop_position (bounds : Rect) (x y : Nat) : Int × Int := (bounds.x + x, bounds.y + y)

variable {bounds : Rect}

/-- The check of one edge fails exactly where the edge is beyond the total.
SRC: display_manager.rs:517-523 -/
theorem edge_isNone {start length total : Nat} (total_usize : total ≤ 18446744073709551615) :
    ((checked_add_usize start length).filter (· ≤ total)).isNone = true ↔
      total < start + length := by
  unfold checked_add_usize
  by_cases counted : start + length ≤ 18446744073709551615
  · rw [if_pos counted, Option.filter_some]
    by_cases inside : start + length ≤ total
    · simp [inside]
    · simp only [inside, decide_false, Bool.false_eq_true, if_false, Option.isNone_none, true_iff]
      omega
  · rw [if_neg counted]
    simp only [Option.filter_none, Option.isNone_none, true_iff]
    omega

/-- **One row** is copied where it lies inside the buffer.
SRC: display_manager.rs:533-556 -/
theorem copy_frame_row_of_write {source destination destination' : List Byte}
    {source_stride width local_x local_y row : Nat}
    (small : bounds.width * 4 ≤ 4294967295) (right : local_x + width ≤ bounds.width)
    (bottom : local_y + row < bounds.height)
    (source_small : row * source_stride ≤ 4294967295)
    (held : row * source_stride + width * 4 ≤ source.length)
    (written : write? destination (cell_at (bounds.width * 4) 4 local_x (local_y + row))
      (slice_at source (row * source_stride) (width * 4)) = some destination') :
    copy_frame_row source source_stride (width * 4) local_x local_y (bounds.width * 4)
      destination row = .ok destination' := by
  have height_u32 := bounds.height_u32
  unfold InU32 at height_u32
  have line : (local_y + row) * (bounds.width * 4) ≤ 4294967295 * 4294967295 :=
    Nat.mul_le_mul (by omega) small
  have in_range : cell_at (bounds.width * 4) 4 local_x (local_y + row) + width * 4 ≤
      destination.length := by
    have := write?_in_range written
    rwa [length_slice_at _ _ _ held] at this
  unfold cell_at at in_range written
  generalize line_def : (local_y + row) * (bounds.width * 4) = line_start at *
  have source_usize : row * source_stride ≤ 18446744073709551615 := by omega
  have line_usize : line_start ≤ 18446744073709551615 := by omega
  have start_usize : line_start + local_x * 4 ≤ 18446744073709551615 := by omega
  have end_usize : line_start + local_x * 4 + width * 4 ≤ 18446744073709551615 := by omega
  have inside : ¬ line_start + local_x * 4 + width * 4 > destination.length := by omega
  unfold copy_frame_row
  simp only [checked_mul_usize, checked_add_usize, line_def, if_pos source_usize,
    if_pos line_usize, if_pos start_usize, if_pos end_usize, access_some, or_fail_some, ok_bind,
    fail_if_of_not inside, slice?_eq _ _ _ held, written]

/-- **A frame inside the bounds** is copied: the pixels of its rectangle are its own
afterwards, and no other pixel changes.
SRC: display_manager.rs:470-558 -/
theorem copy_frame_into_spec (small : bounds.width * 4 ≤ 4294967295) {frame : CpuFrame}
    (composable : Composable bounds frame) {destination : List Byte}
    (length : destination.length = bounds.height * (bounds.width * 4)) :
    ∃ destination', copy_frame_into bounds (bounds.width * 4) destination frame =
        .ok destination' ∧
      destination'.length = bounds.height * (bounds.width * 4) ∧
      ∀ x y, x < bounds.width → y < bounds.height →
        cell_of bounds.width 4 destination' x y =
          if shows_at frame (desktop_position bounds x y) then
            desktop_pixel frame (desktop_position bounds x y).1 (desktop_position bounds x y).2
          else cell_of bounds.width 4 destination x y := by
  obtain ⟨bgra, ⟨width_eq, height_eq⟩, within⟩ := composable
  have four := PixelFormat.bytes_per_pixel_of_eight_bit bgra
  obtain ⟨-, -, row_holds, bytes_u32, bytes_held⟩ := frame.layout_facts
  have width_u32 := bounds.width_u32
  have height_u32 := bounds.height_u32
  rw [four] at row_holds
  unfold Rect.Within Rect.right Rect.bottom at within
  unfold InU32 at width_u32 height_u32
  obtain ⟨local_x, local_x_eq⟩ := Int.eq_ofNat_of_zero_le
    (by omega : 0 ≤ frame.metadata.source_rect.x - bounds.x)
  obtain ⟨local_y, local_y_eq⟩ := Int.eq_ofNat_of_zero_le
    (by omega : 0 ≤ frame.metadata.source_rect.y - bounds.y)
  have right : local_x + frame.width ≤ bounds.width := by omega
  have bottom : local_y + frame.height ≤ bounds.height := by omega
  have source_row : ∀ i, i < frame.height →
      i * frame.stride_bytes + frame.width * 4 ≤ frame.stride_bytes * frame.height := by
    intro i i_lt
    have next : (i + 1) * frame.stride_bytes ≤ frame.height * frame.stride_bytes :=
      Nat.mul_le_mul_right _ i_lt
    rw [Nat.succ_mul, Nat.mul_comm frame.height] at next
    omega
  obtain ⟨destination', ran, length', painted⟩ := paint_rows bounds.width bounds.height 4 local_x
    frame.width local_y frame.height right bottom
    (fun i => slice_at frame.pixels (i * frame.stride_bytes) (frame.width * 4))
    (fun i i_lt => length_slice_at _ _ _ ((source_row i i_lt).trans bytes_held)) destination length
  refine ⟨destination', ?_, length', ?_⟩
  · have copied : (List.range frame.height).foldlM
        (copy_frame_row frame.pixels frame.stride_bytes (frame.width * 4) local_x local_y
          (bounds.width * 4)) destination = .ok destination' := by
      refine foldlM_ok_of_some ?_ ran
      intro b i b' member written
      have i_lt := List.mem_range.mp member
      have row := source_row i i_lt
      exact copy_frame_row_of_write small right (by omega) (by omega) (row.trans bytes_held) written
    have same_sides : ¬ (frame.origin ≠ .TopLeft ∨
        frame.width ≠ frame.metadata.source_rect.width ∨
        frame.height ≠ frame.metadata.source_rect.height) := by
      cases frame.origin
      simp [width_eq, height_eq]
    have local_x_usize : (0 : Int) ≤ local_x := by omega
    have local_y_usize : (0 : Int) ≤ local_y := by omega
    have not_outside :
        ¬ (((checked_add_usize local_x frame.width).filter (· ≤ bounds.width)).isNone = true ∨
          ((checked_add_usize local_y frame.height).filter (· ≤ bounds.height)).isNone = true) := by
      rw [edge_isNone (by omega), edge_isNone (by omega)]
      omega
    unfold copy_frame_into
    simp only [fail_if_of_not (not_not.mpr bgra), fail_if_of_not same_sides, ok_bind, local_x_eq,
      local_y_eq, try_usize, if_pos local_x_usize, if_pos local_y_usize, Int.toNat_natCast,
      or_fail_some, fail_if_of_not not_outside]
    exact copied
  · intro x y x_lt y_lt
    rw [painted x y x_lt y_lt]
    by_cases covered : shows_at frame (desktop_position bounds x y)
    · rw [if_pos covered]
      unfold shows_at desktop_position Rect.contains Rect.right Rect.bottom at covered
      rw [if_pos (by omega)]
      have cell : (x - local_x) * 4 + 4 ≤ frame.width * 4 := by omega
      have x_eq : (bounds.x + x - frame.metadata.source_rect.x).toNat = x - local_x := by omega
      have y_eq : (bounds.y + y - frame.metadata.source_rect.y).toNat = y - local_y := by omega
      rw [slice_at_slice_at _ cell, desktop_pixel, desktop_position, frame_pixel, four, x_eq, y_eq,
        cell_at]
    · rw [if_neg covered]
      unfold shows_at desktop_position Rect.contains Rect.right Rect.bottom at covered
      rw [if_neg (by omega)]

/-- **A frame that is not inside the bounds**, or not what can be composed, is refused. -/
theorem copy_frame_into_refused {stride : Nat} {frame : CpuFrame}
    (not_composable : ¬ Composable bounds frame) (destination : List Byte) :
    ∃ error, copy_frame_into bounds stride destination frame = fail error := by
  have width_u32 := bounds.width_u32
  have height_u32 := bounds.height_u32
  unfold InU32 at width_u32 height_u32
  unfold copy_frame_into
  by_cases other_format : frame.format.encoding ≠ .EightBitRgba true
  · exact ⟨_, fail_if_of other_format⟩
  simp only [fail_if_of_not other_format, ok_bind]
  by_cases other_sides : frame.origin ≠ .TopLeft ∨
      frame.width ≠ frame.metadata.source_rect.width ∨
      frame.height ≠ frame.metadata.source_rect.height
  · exact ⟨_, fail_if_of other_sides⟩
  simp only [fail_if_of_not other_sides, ok_bind, try_usize]
  by_cases left_of : 0 ≤ frame.metadata.source_rect.x - bounds.x
  · rw [if_pos left_of, or_fail_some, ok_bind]
    by_cases above : 0 ≤ frame.metadata.source_rect.y - bounds.y
    · rw [if_pos above, or_fail_some, ok_bind]
      have beyond : bounds.width < (frame.metadata.source_rect.x - bounds.x).toNat + frame.width ∨
          bounds.height < (frame.metadata.source_rect.y - bounds.y).toNat + frame.height := by
        by_contra inside
        apply not_composable
        unfold Composable SourceMatches Rect.Within Rect.right Rect.bottom
        refine ⟨not_not.mp other_format, ?_⟩
        omega
      rw [fail_if_of]
      · exact ⟨_, rfl⟩
      · rw [edge_isNone (by omega), edge_isNone (by omega)]
        exact beyond
    · rw [if_neg above]
      exact ⟨_, rfl⟩
  · rw [if_neg left_of]
    exact ⟨_, rfl⟩

/-! ## All frames -/

/-- The pixel a frame shows at a position. -/
def pixel_shown (frame : CpuFrame) (p : Int × Int) : List Byte := desktop_pixel frame p.1 p.2

/-- **Frames inside the bounds** are painted over each other, in order. -/
theorem copy_frames_spec (small : bounds.width * 4 ≤ 4294967295) {frames : List CpuFrame}
    (composable : ∀ frame ∈ frames, Composable bounds frame) {destination : List Byte}
    (length : destination.length = bounds.height * (bounds.width * 4)) :
    ∃ destination', frames.foldlM (copy_frame_into bounds (bounds.width * 4)) destination =
        .ok destination' ∧
      destination'.length = bounds.height * (bounds.width * 4) ∧
      ∀ x y, x < bounds.width → y < bounds.height →
        cell_of bounds.width 4 destination' x y = layered shows_at pixel_shown frames
          (cell_of bounds.width 4 destination x y) (desktop_position bounds x y) := by
  induction frames generalizing destination with
  | nil => exact ⟨destination, rfl, length, fun _ _ _ _ => rfl⟩
  | cons frame rest ih =>
    obtain ⟨next, copied, next_length, next_cells⟩ :=
      copy_frame_into_spec small (composable frame (by simp)) length
    obtain ⟨last, ran, last_length, last_cells⟩ :=
      ih (fun frame member => composable frame (by simp [member])) next_length
    refine ⟨last, ?_, last_length, ?_⟩
    · rw [List.foldlM_cons, copied, ok_bind]
      exact ran
    · intro x y x_lt y_lt
      rw [last_cells x y x_lt y_lt, next_cells x y x_lt y_lt]
      rfl

/-- **A frame that cannot be composed** fails the whole, whichever frames come before it. -/
theorem copy_frames_refused (small : bounds.width * 4 ≤ 4294967295) {frames : List CpuFrame}
    (not_composable : ∃ frame ∈ frames, ¬ Composable bounds frame) {destination : List Byte}
    (length : destination.length = bounds.height * (bounds.width * 4)) :
    ∃ error, frames.foldlM (copy_frame_into bounds (bounds.width * 4)) destination =
      fail error := by
  induction frames generalizing destination with
  | nil =>
    obtain ⟨frame, member, -⟩ := not_composable
    cases member
  | cons frame rest ih =>
    rw [List.foldlM_cons]
    by_cases composable : Composable bounds frame
    · obtain ⟨next, copied, next_length, -⟩ := copy_frame_into_spec small composable length
      rw [copied, ok_bind]
      apply ih _ next_length
      obtain ⟨other, member, not_other⟩ := not_composable
      rcases List.mem_cons.mp member with rfl | later
      · exact absurd composable not_other
      · exact ⟨other, later, not_other⟩
    · obtain ⟨error, refused⟩ := copy_frame_into_refused composable destination
      rw [refused]
      exact ⟨error, rfl⟩

/-! ## The order -/

/-- What the frames are sorted by. -/
def layer_key (frame : CpuFrame) : String := frame.metadata.display_id

/-- Ordering the frames leaves them the same frames. -/
theorem ordered_perm (frames : List CpuFrame) : (ordered_frames frames).Perm frames :=
  List.mergeSort_perm frames _

/-- They are ordered from the highest layer down. -/
theorem ordered_falling (frames : List CpuFrame) :
    (ordered_frames frames).Pairwise fun a b => layer_key b ≤ layer_key a := by
  have sorted : (ordered_frames frames).Pairwise fun a b => decide (layer_key b ≤ layer_key a) = true := by
    apply List.pairwise_mergeSort
    · intro a b c b_le c_le
      simp only [decide_eq_true_eq] at b_le c_le ⊢
      exact c_le.trans b_le
    · intro a b
      simpa using le_total (layer_key b) (layer_key a)
  simpa using sorted

/-- Frames with distinct ids are painted by falling ids. -/
theorem ordered_strict {frames : List CpuFrame} (distinct : (frames.map layer_key).Nodup) :
    (ordered_frames frames).Pairwise fun a b => layer_key b < layer_key a := by
  have distinct' : ((ordered_frames frames).map layer_key).Nodup :=
    ((ordered_perm frames).map layer_key).nodup_iff.mpr distinct
  refine (ordered_falling frames).imp₂ ?_ (List.pairwise_map.mp distinct')
  intro a b b_le different
  exact lt_of_le_of_ne b_le (Ne.symm different)

/-- Frames with distinct ids are painted in one order, whichever they are listed in. -/
theorem ordered_of_perm {frames frames' : List CpuFrame} (perm : frames'.Perm frames)
    (distinct : (frames.map layer_key).Nodup) : ordered_frames frames' = ordered_frames frames := by
  have distinct' : (frames'.map layer_key).Nodup := (perm.map layer_key).nodup_iff.mpr distinct
  have perm' : (ordered_frames frames').Perm (ordered_frames frames) :=
    (ordered_perm frames').trans (perm.trans (ordered_perm frames).symm)
  refine perm'.eq_of_pairwise ?_ (ordered_strict distinct') (ordered_strict distinct)
  intro a b _ _ b_lt a_lt
  exact absurd b_lt a_lt.asymm

/-! ## The metadata -/

/-- The offset the fold ends with: the least one, if every output has one. -/
theorem foldlM_least_verified (l : List (Option Nat)) (oldest : Option Nat) :
    l.foldlM least_verified oldest =
      if l.all Option.isSome then some (oldest.toList ++ l.filterMap id).min? else none := by
  induction l generalizing oldest with
  | nil => cases oldest <;> rfl
  | cons verified rest ih =>
    rw [List.foldlM_cons]
    cases verified with
    | none => rfl
    | some offset =>
      unfold least_verified
      rw [Option.map_some]
      refine (ih _).trans ?_
      rw [List.all_cons, Option.isSome_some, Bool.true_and]
      cases oldest with
      | none => rfl
      | some previous => rfl

/-- The composition is verified where each of its frames is, by the least of their offsets. -/
theorem verified_of_eq (frames : List CpuFrame) :
    verified_of frames =
      if frames.all fun frame => frame.metadata.verified_current_offset_ns.isSome then
        (frames.filterMap fun frame => frame.metadata.verified_current_offset_ns).min?
      else none := by
  unfold verified_of
  rw [foldlM_least_verified, List.all_map, List.filterMap_map]
  simp only [Option.toList_none, List.nil_append, Function.comp_def]
  split
  · rfl
  · rfl

/-- The metadata does not depend on the order of the frames. -/
theorem composite_metadata_of_perm {frames frames' : List CpuFrame} (perm : frames'.Perm frames)
    (bounds : Rect) (request : CaptureRequest) (slot : Nat) :
    composite_metadata frames' bounds request slot =
      composite_metadata frames bounds request slot := by
  have copies : ∀ count, frames'.foldl
        (fun count frame => saturating_add_u32 count frame.metadata.copy_count) count =
      frames.foldl (fun count frame => saturating_add_u32 count frame.metadata.copy_count)
        count := by
    refine perm.foldl_eq' ?_
    intro a _ b _ count
    unfold saturating_add_u32
    omega
  unfold composite_metadata
  rw [min?_of_perm (perm.filterMap _), max?_of_perm (perm.filterMap _), perm.all_eq, copies,
    verified_of_eq, verified_of_eq, perm.all_eq, min?_of_perm (perm.filterMap _)]

/-! ## The picture -/

/-- What a composed picture is. -/
structure Composite (frames : List CpuFrame) (bounds : Rect) (out : CpuFrame) : Prop where
  source_rect : out.metadata.source_rect = bounds
  source_matches : SourceMatches out
  pixels : ∀ p : Int × Int, bounds.contains p.1 p.2 →
    (∃ frame, Shown shows_at layer_key frames p frame ∧ pixel_shown out p = pixel_shown frame p) ∨
    ((∀ frame ∈ frames, ¬ shows_at frame p) ∧ pixel_shown out p = OPAQUE_BLACK.toList)
  verified : ∀ offset, out.metadata.verified_current_offset_ns = some offset →
    ∀ frame ∈ frames, ∃ verified, frame.metadata.verified_current_offset_ns = some verified ∧
      offset ≤ verified
  age : ∀ age, out.metadata.frame_age_ns = some age ↔
    (∃ frame ∈ frames, frame.metadata.frame_age_ns = some age) ∧
      ∀ frame ∈ frames, ∀ other, frame.metadata.frame_age_ns = some other → other ≤ age

/-- Every frame of a verified composition was verified, no earlier. -/
theorem verified_of_spec {frames : List CpuFrame} {offset : Nat}
    (verified : verified_of frames = some offset) :
    ∀ frame ∈ frames, ∃ verified, frame.metadata.verified_current_offset_ns = some verified ∧
      offset ≤ verified := by
  rw [verified_of_eq] at verified
  split at verified
  · rename_i all_verified
    rw [List.min?_eq_some_iff] at verified
    intro frame member
    obtain ⟨value, has⟩ := Option.isSome_iff_exists.mp (List.all_eq_true.mp all_verified frame member)
    exact ⟨value, has, verified.2 value (List.mem_filterMap.mpr ⟨frame, member, has⟩)⟩
  · cases verified

/-- The age is that of the oldest frame, where any has one. -/
theorem oldest_spec (frames : List CpuFrame) (age : Nat) :
    (frames.filterMap (·.metadata.frame_age_ns)).max? = some age ↔
      (∃ frame ∈ frames, frame.metadata.frame_age_ns = some age) ∧
        ∀ frame ∈ frames, ∀ other, frame.metadata.frame_age_ns = some other → other ≤ age := by
  rw [List.max?_eq_some_iff, List.mem_filterMap]
  simp only [List.mem_filterMap, forall_exists_index, and_imp]
  exact and_congr_right fun _ =>
    ⟨fun h frame member other has => h other frame member has,
      fun h other frame member has => h frame member other has⟩

/-- Bounds that were accepted when the displays were enumerated take no more bytes than an
`u32` counts. -/
theorem bytes_of_validated {adapters : List Int} {unavailable : List String}
    (valid : validate_virtual_topology adapters unavailable bounds = .ok ()) :
    bounds.width * 4 * bounds.height ≤ 4294967295 := by
  by_contra large
  have too_many : (((checked_mul_usize bounds.width 4).bind
      (checked_mul_usize · bounds.height)).all fun bytes =>
        decide (bytes > MAX_COMPOSITE_FRAME_BYTES)) = true := by
    unfold checked_mul_usize MAX_COMPOSITE_FRAME_BYTES
    split
    · rw [Option.bind_some]
      split
      · rw [Option.all_some, decide_eq_true_eq]
        omega
      · rfl
    · rfl
  unfold validate_virtual_topology at valid
  simp only [too_many, if_true] at valid
  split at valid
  · cases valid
  · split at valid
    · cases valid
    · cases valid

/-- **Frames inside the bounds** are composed, into whichever buffer the pool has free. -/
theorem compose_of_composable {frames : List CpuFrame} (some_frame : frames ≠ [])
    (distinct : (frames.map layer_key).Nodup)
    (composable : ∀ frame ∈ frames, Composable bounds frame)
    (small : bounds.width * 4 * bounds.height ≤ 4294967295) (request : CaptureRequest)
    {pool : CompositeBufferPool}
    (free : (pool.available_index (bounds.width * 4 * bounds.height)).isSome) :
    ∃ out, compose_virtual_desktop frames bounds request pool = .ok out ∧
      Composite frames bounds out := by
  obtain ⟨frame, member⟩ := List.exists_mem_of_ne_nil _ some_frame
  obtain ⟨-, ⟨width_eq, height_eq⟩, within⟩ := composable frame member
  obtain ⟨⟨width_pos, height_pos⟩, -⟩ := frame.layout_facts
  unfold Rect.Within Rect.right Rect.bottom at within
  have stride_u32 : bounds.width * 4 ≤ 4294967295 :=
    (Nat.le_mul_of_pos_right _ (by omega)).trans small
  have len_usize : bounds.width * 4 * bounds.height ≤ 18446744073709551615 := by omega
  obtain ⟨⟨slot, pool'⟩, found⟩ := Option.isSome_iff_exists.mp free
  obtain ⟨previous, held, previous_length⟩ := pool.get_mut_of_available found
  have black_length : (fill_black previous).length = bounds.height * (bounds.width * 4) := by
    rw [length_fill_black, previous_length, Nat.mul_comm]
  obtain ⟨pixels, painted, length, cells⟩ := copy_frames_spec stride_u32
    (fun frame member => composable frame ((ordered_perm frames).mem_iff.mp member)) black_length
  have layout : validate_layout pixels.length bounds.width bounds.height (bounds.width * 4)
      .Bgra8Unorm = .ok (bounds.width * 4 * bounds.height) := by
    refine validate_layout_eq_ok.mpr ⟨by omega, stride_u32, Nat.le_refl _, small, ?_, rfl⟩
    rw [length, Nat.mul_comm]
  refine ⟨⟨pixels, bounds.width, bounds.height, bounds.width * 4, .Bgra8Unorm, .TopLeft, .Srgb,
    .Opaque, composite_metadata frames bounds request slot, layout⟩, ?_, rfl, ⟨rfl, rfl⟩, ?_,
    fun _ verified => verified_of_spec verified, oldest_spec frames⟩
  · unfold compose_virtual_desktop
    simp only [checked_mul_u32, if_pos stride_u32, checked_mul_usize, if_pos len_usize,
      or_fail_some, ok_bind, found, held, access_some, painted, composite_frame,
      CpuFrame.new_of_layout layout]
  · intro p inside
    unfold Rect.contains Rect.right Rect.bottom at inside
    obtain ⟨x, x_eq⟩ := Int.eq_ofNat_of_zero_le (by omega : 0 ≤ p.1 - bounds.x)
    obtain ⟨y, y_eq⟩ := Int.eq_ofNat_of_zero_le (by omega : 0 ≤ p.2 - bounds.y)
    have at_p : desktop_position bounds x y = p := by
      unfold desktop_position
      ext
      · simp only
        omega
      · simp only
        omega
    have x_lt : x < bounds.width := by omega
    have y_lt : y < bounds.height := by omega
    have cell := cells x y x_lt y_lt
    rw [at_p] at cell
    have shown_pixel : ∀ out : CpuFrame, out.pixels = pixels → out.stride_bytes = bounds.width * 4 →
        out.format = .Bgra8Unorm → out.metadata.source_rect = bounds →
        pixel_shown out p = cell_of bounds.width 4 pixels x y := by
      rintro out rfl stride format rect
      unfold pixel_shown desktop_pixel frame_pixel cell_of
      rw [stride, format, rect, x_eq, y_eq]
      rfl
    rw [shown_pixel _ rfl rfl rfl rfl, cell]
    by_cases covered : ∃ frame ∈ frames, shows_at frame p
    · obtain ⟨least, shown⟩ := exists_shown layer_key covered
      refine Or.inl ⟨least, shown, ?_⟩
      exact layered_of_shown (ordered_strict distinct)
        (shown.of_perm (ordered_perm frames).symm) _
    · have uncovered : ∀ frame ∈ frames, ¬ shows_at frame p :=
        fun frame member shows => covered ⟨frame, member, shows⟩
      refine Or.inr ⟨uncovered, ?_⟩
      rw [layered_of_uncovered
        (fun frame member => uncovered frame ((ordered_perm frames).mem_iff.mp member))]
      have start : cell_at (bounds.width * 4) 4 x y = (y * bounds.width + x) * 4 := by
        unfold cell_at
        rw [Nat.add_mul, Nat.mul_assoc]
      have in_range : cell_at (bounds.width * 4) 4 x y + 4 ≤ bounds.height * (bounds.width * 4) :=
        cell_at_le (by omega) y_lt
      rw [length_fill_black] at black_length
      unfold cell_of
      rw [start] at in_range ⊢
      exact slice_at_fill_black _ _ (by omega)

/-- **A frame outside the bounds** makes the composition fail, with an error. -/
theorem compose_refused {frames : List CpuFrame}
    (not_composable : ∃ frame ∈ frames, ¬ Composable bounds frame) (request : CaptureRequest)
    (pool : CompositeBufferPool) :
    ∃ error, compose_virtual_desktop frames bounds request pool = fail error := by
  unfold compose_virtual_desktop
  by_cases stride_u32 : bounds.width * 4 ≤ 4294967295
  · simp only [checked_mul_u32, if_pos stride_u32, or_fail_some, ok_bind]
    cases len : checked_mul_usize (bounds.width * 4) bounds.height with
    | none => exact ⟨_, rfl⟩
    | some len_bytes =>
      rw [or_fail_some, ok_bind]
      cases found : pool.available_index len_bytes with
      | none => exact ⟨_, rfl⟩
      | some taken =>
        obtain ⟨slot, pool'⟩ := taken
        obtain ⟨previous, held, previous_length⟩ := pool.get_mut_of_available found
        have len_eq : len_bytes = bounds.width * 4 * bounds.height := by
          unfold checked_mul_usize at len
          split at len
          · exact (Option.some.inj len).symm
          · cases len
        have black_length : (fill_black previous).length = bounds.height * (bounds.width * 4) := by
          rw [length_fill_black, previous_length, len_eq, Nat.mul_comm]
        obtain ⟨frame, member, not_frame⟩ := not_composable
        have member' := (ordered_perm frames).mem_iff.mpr member
        obtain ⟨error, refused⟩ :=
          copy_frames_refused stride_u32 ⟨frame, member', not_frame⟩ black_length
        simp only [or_fail_some, ok_bind, held, access_some, refused]
        exact ⟨error, rfl⟩
  · simp only [checked_mul_u32, if_neg stride_u32]
    exact ⟨_, rfl⟩

/-- **The virtual desktop.**  Frames with distinct ids inside the bounds are composed into a
picture that shows, at each position, the frame of the smallest id that covers it and black
where none does, whatever the buffer held; the result does not depend on the order of the
frames; and a frame outside the bounds makes the call fail with an error.  A buffer must be free, and
the bounds' size one that an `u32` counts (`bytes_of_validated`).
SRC: display_manager.rs:353-558 -/
theorem virtual_desktop_composed (frames : List CpuFrame) (bounds : Rect)
    (request : CaptureRequest) (pool : CompositeBufferPool) :
    (frames ≠ [] → (frames.map layer_key).Nodup → (∀ frame ∈ frames, Composable bounds frame) →
      bounds.width * 4 * bounds.height ≤ 4294967295 →
      (pool.available_index (bounds.width * 4 * bounds.height)).isSome →
      ∃ out, compose_virtual_desktop frames bounds request pool = .ok out ∧
        Composite frames bounds out) ∧
    ((frames.map layer_key).Nodup → ∀ frames', frames'.Perm frames →
      compose_virtual_desktop frames' bounds request pool =
        compose_virtual_desktop frames bounds request pool) ∧
    ((∃ frame ∈ frames, ¬ frame.metadata.source_rect.Within bounds) →
      ∃ error, compose_virtual_desktop frames bounds request pool = fail error) := by
  refine ⟨?_, ?_, ?_⟩
  · intro some_frame distinct composable small free
    exact compose_of_composable some_frame distinct composable small request free
  · intro distinct frames' perm
    unfold compose_virtual_desktop
    rw [ordered_of_perm perm distinct]
    simp only [composite_metadata_of_perm perm]
  · rintro ⟨frame, member, outside⟩
    exact compose_refused ⟨frame, member, fun composable => outside composable.2.2⟩ request pool

/-- The example's left edge is an `i32`. -/
theorem corner_x : InI32 (-2147483647) := by decide

/-- So is its top. -/
theorem corner_y : InI32 6 := by decide

/-- Its buffer is laid out as it should be. -/
theorem corner_layout : validate_layout 4 1 1 4 .Bgra8Unorm = .ok (4 * 1) := rfl

/-- One pixel over the lower right one of the padded frame, of a smaller id. -/
def corner_frame : CpuFrame :=
  { padded_frame with
    pixels := [1, 2, 3, 4]
    width := 1
    height := 1
    stride_bytes := 4
    metadata :=
      { padded_frame.metadata with
        display_id := "corner"
        source_rect :=
          { Rect.origin_pixel with x := -2147483647, y := 6, x_i32 := corner_x, y_i32 := corner_y }
        verified_current_offset_ns := some 7
        frame_age_ns := some 12 }
    layout := corner_layout }

/-- Two overlapping displays and a column that none covers, composed into a used buffer. -/
theorem overlapping_displays_composed :
    ∃ out, compose_virtual_desktop [padded_frame, corner_frame]
        { x := -2147483648, y := 5, width := 3, height := 2 }
        ⟨1, .VirtualDesktop, .Latest none, true, false, .Exclude⟩
        ⟨[some ⟨2, []⟩, some ⟨1, List.replicate 24 9⟩], 0⟩ = .ok out ∧
      Composite [padded_frame, corner_frame]
        { x := -2147483648, y := 5, width := 3, height := 2 } out := by
  refine (virtual_desktop_composed [padded_frame, corner_frame]
    { x := -2147483648, y := 5, width := 3, height := 2 } _ _).1 (by simp) (by decide) ?_
    (by decide) rfl
  intro frame member
  simp only [List.mem_cons, List.not_mem_nil, or_false] at member
  rcases member with rfl | rfl
  · decide
  · decide

end Captastic.Analysis
