import Captastic.Analysis.CroppedPainting
import Captastic.Model.Editor

/-!
# The buffers behind the editor's preview

The preview is patched: the pixels that the last mark in progress changed are copied back from
the buffer of the committed marks, and the mark that is in progress now is painted over it.  As
long as the two buffers differ in those pixels only (`BuffersKept`), copying them back gives the
committed buffer itself (`copy_dirty_restores`), so the preview shows the committed marks with
the pending one over them (`show_pending_spec`).
-/

set_option autoImplicit false

namespace Captastic.Analysis

open Captastic.Library Captastic.Model

variable {F I : Type} {D : Drawing F} {G : EditorGeometry F I}

/-! ## Buffers of a capture -/

section Buffers

variable {source : CpuFrame} {mark : Mark F} {pixels : List Byte}

/-- A capture's bounds can be painted. -/
theorem paintable_bounds (source : CpuFrame) : Paintable (full_bounds source) :=
  (canvas_crop (crop_of_bounds source)).paintable

/-- A mark painted into a buffer of the capture sends each pixel through its shade. -/
theorem paint_into_spec (D : Drawing F) (mark : Mark F)
    (packed : Packed (full_bounds source) 4 pixels) :
    ∃ painted, paint_into D source mark pixels = some painted ∧
      Packed (full_bounds source) 4 painted ∧
      ∀ q : Int × Int, (full_bounds source).contains q.1 q.2 →
        pixel_of (full_bounds source) 4 painted q =
          shade D mark (full_bounds source) .Bgra8Unorm .Opaque q
            (pixel_of (full_bounds source) 4 pixels q) :=
  paint_mark_spec D mark (paintable_bounds source) .Bgra8Unorm .Opaque pixels packed

/-- A pixel that the mark does not reach is left as it is. -/
theorem shade_of_unreached {q : Int × Int}
    (unreached : ∀ reach, mark_reach D source mark = some reach → ¬ reach.contains q.1 q.2)
    (pixel : List Byte) :
    shade D mark (full_bounds source) .Bgra8Unorm .Opaque q pixel = pixel := by
  unfold shade
  unfold mark_reach at unreached
  cases reach_eq : (mark.bounds D).bind fun bounds => bounds.intersection (full_bounds source) with
  | none => rfl
  | some reach => exact if_neg (unreached reach reach_eq)

/-- A mark that reaches no pixel paints nothing. -/
theorem paint_into_of_unreached (unreached : mark_reach D source mark = none) :
    paint_into D source mark pixels = some pixels := by
  unfold mark_reach at unreached
  unfold paint_into paint_mark
  rw [unreached]

/-- A pixel that is shown has four bytes. -/
theorem length_shown_pixel (alpha : FrameAlpha) (pixel : List Byte) :
    (shown_pixel alpha pixel).length = 4 := by
  cases alpha with
  | Opaque => rfl
  | Straight => rfl

/-- A row of the capture is shown as a row of the preview. -/
theorem length_shown_row {row : Nat} {shown : List Byte}
    (made : shown_row source row = some shown) : shown.length = source.width * 4 := by
  unfold shown_row at made
  rw [Option.bind_eq_bind, Option.bind_eq_some_iff] at made
  obtain ⟨source_row, -, made⟩ := made
  obtain rfl := Option.some.inj made
  rw [length_flatMap_of_length fun x _ => length_shown_pixel source.alpha _, List.length_range]

/-- Rows that were all made, joined. -/
theorem length_flatten_mapM {ι : Type} {f : ι → Option (List Byte)} {n : Nat}
    (length : ∀ i row, f i = some row → row.length = n) {l : List ι} {rows : List (List Byte)}
    (made : l.mapM f = some rows) : rows.flatten.length = l.length * n := by
  induction l generalizing rows with
  | nil =>
    obtain rfl : [] = rows := by simpa using made
    simp
  | cons i l ih =>
    rw [List.mapM_cons, Option.bind_eq_bind, Option.bind_eq_some_iff] at made
    obtain ⟨row, row_made, made⟩ := made
    rw [Option.bind_eq_bind, Option.bind_eq_some_iff] at made
    obtain ⟨rest, rest_made, made⟩ := made
    obtain rfl := Option.some.inj made
    rw [List.flatten_cons, List.length_append, ih rest_made, length i row row_made,
      List.length_cons, Nat.succ_mul]
    omega

/-- The marks composed over the capture fill a buffer of it. -/
theorem packed_compose_preview {marks : List (Mark F)}
    (composed : compose_preview D source marks = some pixels) :
    Packed (full_bounds source) 4 pixels := by
  unfold compose_preview at composed
  rw [Option.bind_eq_bind, Option.bind_eq_some_iff] at composed
  obtain ⟨rows, rows_made, composed⟩ := composed
  have packed : Packed (full_bounds source) 4 rows.flatten := by
    have length := length_flatten_mapM (fun _ _ made => length_shown_row made) rows_made
    rw [List.length_range] at length
    exact length
  refine foldlM_keeps (Packed (full_bounds source) 4) _ marks ?_ packed composed
  intro before mark after _ before_packed painted
  obtain ⟨made, ran, made_packed, -⟩ := paint_into_spec D mark before_packed
  rw [ran] at painted
  obtain rfl := Option.some.inj painted
  exact made_packed

end Buffers

/-! ## The patched pixels -/

/-- The two buffers of a capture differ in the pixels of `dirty` only. -/
structure BuffersKept (source : CpuFrame) (committed preview : List Byte) (dirty : Option Rect) :
    Prop where
  committed_packed : Packed (full_bounds source) 4 committed
  preview_packed : Packed (full_bounds source) 4 preview
  dirty_inside : ∀ rect, dirty = some rect → rect.NonEmpty ∧ rect.Within (full_bounds source)
  clean : ∀ q : Int × Int, (full_bounds source).contains q.1 q.2 →
    (∀ rect, dirty = some rect → ¬ rect.contains q.1 q.2) →
      pixel_of (full_bounds source) 4 preview q = pixel_of (full_bounds source) 4 committed q

namespace BuffersKept

variable {source : CpuFrame} {committed preview : List Byte} {dirty : Rect}

/-- With nothing to restore the two buffers are the same. -/
theorem same (kept : BuffersKept source committed preview none) : preview = committed :=
  packed_ext kept.preview_packed kept.committed_packed fun q inside =>
    kept.clean q inside fun _ none_eq => by cases none_eq

/-- With nothing pending, shown and committed alike, the buffers are kept. -/
theorem of_same {pixels : List Byte} (packed : Packed (full_bounds source) 4 pixels) :
    BuffersKept source pixels pixels none where
  committed_packed := packed
  preview_packed := packed
  dirty_inside := fun _ none_eq => by cases none_eq
  clean := fun _ _ _ => rfl

/-- A row of the dirty rectangle lies in the committed buffer. -/
theorem dirty_row_le (kept : BuffersKept source committed preview (some dirty)) {i : Nat}
    (i_lt : i < dirty.height) :
    cell_at (source.width * 4) 4 dirty.x.toNat (dirty.y.toNat + i) + dirty.width * 4 ≤
      committed.length := by
  have within := (kept.dirty_inside dirty rfl).2
  unfold Rect.Within full_bounds Rect.right Rect.bottom at within
  simp only at within
  have rows : (dirty.y.toNat + i + 1) * (source.width * 4) ≤
      source.height * (source.width * 4) := Nat.mul_le_mul_right _ (by omega)
  have length : committed.length = source.height * (source.width * 4) := kept.committed_packed
  rw [Nat.succ_mul] at rows
  unfold cell_at
  omega

/-- A row of the dirty rectangle is copied as one write of its bytes. -/
theorem copy_row_eq (kept : BuffersKept source committed preview (some dirty)) {i : Nat}
    (i_lt : i < dirty.height) (pixels : List Byte) :
    (do
      let start := as_usize (dirty.y + i) * (source.width * 4) + as_usize dirty.x * 4
      let bytes ← slice? committed start (dirty.width * 4)
      write? pixels start bytes) =
    write? pixels (cell_at (source.width * 4) 4 dirty.x.toNat (dirty.y.toNat + i))
      (slice_at committed (cell_at (source.width * 4) 4 dirty.x.toNat (dirty.y.toNat + i))
        (dirty.width * 4)) := by
  have within := (kept.dirty_inside dirty rfl).2
  have ranges := dirty.ranges
  unfold Rect.Within full_bounds Rect.right Rect.bottom at within
  simp only at within
  have start_eq : as_usize (dirty.y + i) * (source.width * 4) + as_usize dirty.x * 4 =
      cell_at (source.width * 4) 4 dirty.x.toNat (dirty.y.toNat + i) := by
    rw [as_usize_of_nonneg (by omega) (by omega), as_usize_of_nonneg (by omega) (by omega), cell_at,
      show (dirty.y + (i : Int)).toNat = dirty.y.toNat + i by omega]
  simp only [start_eq, slice?_eq _ _ _ (kept.dirty_row_le i_lt), Option.bind_eq_bind,
    Option.bind_some]

/-- **The dirty pixels copied back** make the preview the committed buffer.
SRC: editor.rs:1561-1567 -/
theorem copy_dirty_restores (kept : BuffersKept source committed preview (some dirty)) :
    copy_dirty (source.width * 4) dirty committed preview = some committed := by
  obtain ⟨nonempty, within⟩ := kept.dirty_inside dirty rfl
  obtain ⟨-, bottom_eq⟩ := edges_i32 within (paintable_bounds source)
  have edges := within
  unfold Rect.Within full_bounds Rect.right Rect.bottom at edges
  simp only at edges
  obtain ⟨restored, ran, length, cells⟩ := paint_rows source.width source.height 4 dirty.x.toNat
    dirty.width dirty.y.toNat dirty.height (by omega) (by omega)
    (fun i => slice_at committed (cell_at (source.width * 4) 4 dirty.x.toNat (dirty.y.toNat + i))
      (dirty.width * 4))
    (fun i i_lt => length_slice_at _ _ _ (kept.dirty_row_le i_lt)) preview kept.preview_packed
  have same : restored = committed := by
    refine eq_of_cells length kept.committed_packed fun x y x_lt y_lt => ?_
    rw [cells x y x_lt y_lt]
    by_cases inside : (dirty.x.toNat ≤ x ∧ x < dirty.x.toNat + dirty.width) ∧
        dirty.y.toNat ≤ y ∧ y < dirty.y.toNat + dirty.height
    · rw [if_pos inside, slice_at_slice_at _ (by omega), cell_of]
      congr 1
      unfold cell_at
      rw [show dirty.y.toNat + (y - dirty.y.toNat) = y by omega]
      omega
    · rw [if_neg inside]
      refine kept.clean (x, y) ?_ ?_
      · unfold Rect.contains full_bounds Rect.right Rect.bottom
        simp only
        omega
      · rintro rect ⟨⟩ holds
        unfold Rect.contains Rect.right Rect.bottom at holds
        omega
  refine Eq.trans ?_ (ran.trans (congrArg some same))
  unfold copy_dirty
  rw [bottom_eq, Rect.bottom, ← foldlM_range]
  refine foldlM_congr_of_inv (fun _ => True) _ _ _ ?_ (fun _ _ _ _ _ _ => trivial) preview trivial
  intro pixels i member _
  exact kept.copy_row_eq (List.mem_range.mp member) pixels

/-- A mark painted over the committed buffer differs from it where the mark reaches only. -/
theorem of_painted {mark : Mark F} {painted : List Byte}
    (packed : Packed (full_bounds source) 4 committed)
    (ran : paint_into D source mark committed = some painted) :
    BuffersKept source committed painted (mark_reach D source mark) := by
  obtain ⟨made, made_ran, made_packed, pixels⟩ := paint_into_spec D mark packed
  rw [ran] at made_ran
  obtain rfl := Option.some.inj made_ran
  constructor
  · exact packed
  · exact made_packed
  · intro rect reach_eq
    unfold mark_reach at reach_eq
    rw [Option.bind_eq_some_iff] at reach_eq
    obtain ⟨bounds, -, reach_eq⟩ := reach_eq
    exact ⟨(Rect.intersection_eq_some reach_eq).2.2.2.2, Rect.within_of_intersection reach_eq⟩
  · intro q inside unreached
    rw [pixels q inside, shade_of_unreached unreached]

end BuffersKept

/-- The smallest rectangle of two parts of a capture holds both and is a part of it.
SRC: editor.rs:1539-1548 -/
theorem rect_union_spec {a b area : Rect} (a_part : a.NonEmpty ∧ a.Within area)
    (b_part : b.NonEmpty ∧ b.Within area) (paintable : Paintable area) :
    ((rect_union a b).NonEmpty ∧ (rect_union a b).Within area) ∧
      a.Within (rect_union a b) ∧ b.Within (rect_union a b) := by
  obtain ⟨⟨a_width, a_height⟩, a_within⟩ := a_part
  obtain ⟨⟨b_width, b_height⟩, b_within⟩ := b_part
  obtain ⟨right_le, bottom_le, width_le, height_le⟩ := paintable
  have a_ranges := a.ranges
  have b_ranges := b.ranges
  unfold Rect.Within at a_within b_within
  have right_eq := Rect.right
  obtain ⟨joined, made⟩ : ∃ joined, Rect.from_edges (min a.x b.x) (min a.y b.y)
      (max a.right b.right) (max a.bottom b.bottom) = some joined := by
    unfold Rect.right Rect.bottom at *
    apply Rect.from_edges_isSome
    · omega
    · omega
    · omega
    · omega
  obtain ⟨x_eq, y_eq, right_eq, bottom_eq, nonempty⟩ := Rect.from_edges_eq_some made
  have union_eq : rect_union a b = joined := by
    unfold rect_union
    rw [made]
    rfl
  rw [union_eq]
  refine ⟨⟨nonempty, ?_⟩, ?_, ?_⟩
  · unfold Rect.Within
    omega
  · unfold Rect.Within
    omega
  · unfold Rect.Within
    omega

/-- A mark painted into the committed buffer is added to what waits to be restored.
SRC: editor.rs:1526-1536 -/
theorem BuffersKept.of_committed {source : CpuFrame} {committed preview painted : List Byte}
    {waiting : Option Rect} {mark : Mark F}
    (kept : BuffersKept source committed preview waiting)
    (ran : paint_into D source mark committed = some painted) :
    BuffersKept source painted preview (join_dirty waiting (mark_reach D source mark)) := by
  obtain ⟨made, made_ran, made_packed, pixels⟩ := paint_into_spec D mark kept.committed_packed
  rw [ran] at made_ran
  obtain rfl := Option.some.inj made_ran
  have over_mark := BuffersKept.of_painted kept.committed_packed ran
  -- Outside both rectangles neither the old difference nor the new mark is seen.
  have unchanged : ∀ q : Int × Int, (full_bounds source).contains q.1 q.2 →
      (∀ rect, waiting = some rect → ¬ rect.contains q.1 q.2) →
      (∀ rect, mark_reach D source mark = some rect → ¬ rect.contains q.1 q.2) →
        pixel_of (full_bounds source) 4 preview q = pixel_of (full_bounds source) 4 painted q := by
    intro q inside unwaiting unreached
    rw [kept.clean q inside unwaiting, over_mark.clean q inside unreached]
  cases waiting with
  | none =>
    cases reach_eq : mark_reach D source mark with
    | none =>
      refine ⟨made_packed, kept.preview_packed, ?_, ?_⟩
      · rintro rect ⟨⟩
      · intro q inside _
        refine unchanged q inside (fun _ none_eq => by cases none_eq) ?_
        rw [reach_eq]
        exact fun _ none_eq => by cases none_eq
    | some reach =>
      refine ⟨made_packed, kept.preview_packed, ?_, ?_⟩
      · rintro rect ⟨⟩
        exact over_mark.dirty_inside reach reach_eq
      · intro q inside unreached
        refine unchanged q inside (fun _ none_eq => by cases none_eq) ?_
        rw [reach_eq]
        exact unreached
  | some dirty =>
    cases reach_eq : mark_reach D source mark with
    | none =>
      refine ⟨made_packed, kept.preview_packed, ?_, ?_⟩
      · rintro rect ⟨⟩
        exact kept.dirty_inside dirty rfl
      · intro q inside unwaiting
        refine unchanged q inside unwaiting ?_
        rw [reach_eq]
        exact fun _ none_eq => by cases none_eq
    | some reach =>
      obtain ⟨part, dirty_within, reach_within⟩ := rect_union_spec (kept.dirty_inside dirty rfl)
        (over_mark.dirty_inside reach reach_eq) (paintable_bounds source)
      refine ⟨made_packed, kept.preview_packed, ?_, ?_⟩
      · rintro rect ⟨⟩
        exact part
      · intro q inside outside
        refine unchanged q inside ?_ ?_
        · rintro rect ⟨⟩ holds
          exact outside _ rfl (dirty_within.contains holds)
        · rw [reach_eq]
          rintro rect ⟨⟩ holds
          exact outside _ rfl (reach_within.contains holds)

/-! ## The preview and the pending mark -/

section Shows

variable (D G) (s : EditorState F I)

/-- The buffers that an editor holds differ in the pixels that wait to be restored only. -/
def EditorKept : Prop := BuffersKept s.edit.source s.committed s.preview s.pending_dirty

/-- The committed marks with the pending one over them. -/
def shown_preview : Option (List Byte) :=
  match s.pending_mark G with
  | none => some s.committed
  | some mark => paint_into D s.edit.source mark s.committed

/-- The preview is the committed buffer with the pending mark painted over it. -/
def PreviewShows : Prop := shown_preview D G s = some s.preview

/-- The buffers are kept, and the preview shows the pending mark. -/
structure PreviewKept : Prop where
  kept : EditorKept s
  shows : PreviewShows D G s

variable {D G s}

/-- What waits to be restored is, whatever was painted there before. -/
theorem show_pending_eq (kept : EditorKept s) :
    s.show_pending D G = match s.pending_mark G with
      | none => some { s with preview := s.committed, pending_dirty := none }
      | some mark => (paint_into D s.edit.source mark s.committed).map fun painted =>
          { s with preview := painted, pending_dirty := mark_reach D s.edit.source mark } := by
  unfold EditorKept at kept
  unfold EditorState.show_pending
  cases dirty_eq : s.pending_dirty with
  | none =>
    rw [dirty_eq] at kept
    simp only [kept.same, Option.bind_eq_bind]
    cases s.pending_mark G with
    | none => rfl
    | some mark => exact Option.map_eq_bind.symm
  | some dirty =>
    rw [dirty_eq] at kept
    simp only [kept.copy_dirty_restores, Option.bind_eq_bind, Option.bind_some]
    cases s.pending_mark G with
    | none => rfl
    | some mark => exact Option.map_eq_bind.symm

/-- **Showing the pending mark** succeeds, changes the preview only, and the preview shows it.
SRC: editor.rs:1550-1578 -/
theorem show_pending_spec (kept : EditorKept s) :
    ∃ preview dirty,
      s.show_pending D G = some { s with preview := preview, pending_dirty := dirty } ∧
        PreviewKept D G { s with preview := preview, pending_dirty := dirty } := by
  have packed : Packed (full_bounds s.edit.source) 4 s.committed := kept.committed_packed
  rw [show_pending_eq kept]
  cases mark_eq : s.pending_mark G with
  | none =>
    refine ⟨s.committed, none, rfl, ?_⟩
    constructor
    · exact .of_same packed
    · show shown_preview D G s = some s.committed
      unfold shown_preview
      rw [mark_eq]
  | some mark =>
    obtain ⟨painted, ran, -⟩ := paint_into_spec D mark packed
    refine ⟨painted, mark_reach D s.edit.source mark, ?_, ?_⟩
    · simp only [ran, Option.map_some]
    · constructor
      · exact .of_painted packed ran
      · show shown_preview D G s = some painted
        unfold shown_preview
        rw [mark_eq]
        exact ran

/-- Where nothing is pending the preview is the committed buffer. -/
theorem PreviewKept.of_refreshed {pixels : List Byte} (refreshed : s.committed = pixels)
    (same : s.preview = pixels) (clean : s.pending_dirty = none)
    (packed : Packed (full_bounds s.edit.source) 4 pixels) (no_mark : s.pending_mark G = none) :
    PreviewKept D G s := by
  constructor
  · unfold EditorKept
    rw [refreshed, same, clean]
    exact .of_same packed
  · unfold PreviewShows shown_preview
    rw [no_mark, refreshed, same]

/-- A change of what is neither shown nor pending. -/
theorem PreviewKept.of_mark {s' : EditorState F I} (shows : PreviewKept D G s)
    (mark : s'.pending_mark G = s.pending_mark G) (source : s'.edit.source = s.edit.source)
    (committed : s'.committed = s.committed) (preview : s'.preview = s.preview)
    (dirty : s'.pending_dirty = s.pending_dirty) : PreviewKept D G s' := by
  obtain ⟨kept, shows⟩ := shows
  unfold EditorKept at kept
  unfold PreviewShows shown_preview at shows
  constructor
  · unfold EditorKept
    rw [source, committed, preview, dirty]
    exact kept
  · unfold PreviewShows shown_preview
    rw [mark, source, committed, preview]
    exact shows

end Shows

end Captastic.Analysis
