import Captastic.Library.Loops
import Mathlib.Tactic.Linarith

/-!
# Slices of a buffer, and buffers laid out in rows of cells

A slice access `b[pos..pos + n]` that is out of range stops the program, so reading
(`slice?`) and overwriting (`write?`) a slice are partial: `none` is the failed
access.  A picture is stored in rows `stride` apart, each holding cells of `size`
elements; `cell_at` is where a cell starts, and distinct cells that lie inside their
rows never overlap (`cell_at_disjoint`).  A buffer without padding is determined by
its cells (`eq_of_cells`).
-/

set_option autoImplicit false

namespace Captastic.Library

variable {α : Type}

/-! ## Slices -/

/-- `b[pos..pos + n]`, or `none` when that is out of range. -/
def slice? (b : List α) (pos n : Nat) : Option (List α) :=
  if pos + n ≤ b.length then some ((b.drop pos).take n) else none

/-- `b[pos..pos + v.len()].copy_from_slice(v)`, or `none` when that is out of range. -/
def write? (b : List α) (pos : Nat) (v : List α) : Option (List α) :=
  if pos + v.length ≤ b.length then some (b.take pos ++ v ++ b.drop (pos + v.length))
  else none

/-- The elements a slice access reads when it is in range. -/
def slice_at (b : List α) (pos n : Nat) : List α := (b.drop pos).take n

/-- A stretch inside the buffer can be read. -/
theorem slice?_eq (b : List α) (pos n : Nat) (h : pos + n ≤ b.length) :
    slice? b pos n = some (slice_at b pos n) := if_pos h

/-- A stretch inside the buffer has the length asked for. -/
theorem length_slice_at (b : List α) (pos n : Nat) (h : pos + n ≤ b.length) :
    (slice_at b pos n).length = n := by
  simp only [slice_at, List.length_take, List.length_drop]
  omega

/-- An element of a stretch is the buffer's at its place. -/
theorem getElem?_slice_at (b : List α) (pos n i : Nat) :
    (slice_at b pos n)[i]? = if i < n then b[pos + i]? else none := by
  rw [slice_at, List.getElem?_take]
  split <;> simp [List.getElem?_drop]

/-- A slice of a slice. -/
theorem slice_at_slice_at (b : List α) {pos n k m : Nat} (h : k + m ≤ n) :
    slice_at (slice_at b pos n) k m = slice_at b (pos + k) m := by
  apply List.ext_getElem?
  intro i
  simp only [getElem?_slice_at]
  by_cases hi : i < m
  · rw [if_pos hi, if_pos hi, if_pos (by omega), Nat.add_assoc]
  · rw [if_neg hi, if_neg hi]

/-- Overwriting a slice keeps the buffer's length. -/
theorem length_write? {b v b' : List α} {pos : Nat} (h : write? b pos v = some b') :
    b'.length = b.length := by
  unfold write? at h
  split at h
  · obtain rfl := Option.some.inj h
    simp only [List.length_append, List.length_take, List.length_drop]
    omega
  · cases h

/-- A write that succeeds was inside the buffer. -/
theorem write?_in_range {b v b' : List α} {pos : Nat} (h : write? b pos v = some b') :
    pos + v.length ≤ b.length := by
  unfold write? at h
  by_contra beyond
  rw [if_neg beyond] at h
  cases h

/-- A write inside the buffer succeeds. -/
theorem write?_isSome (b v : List α) (pos : Nat) (h : pos + v.length ≤ b.length) :
    ∃ b', write? b pos v = some b' := ⟨_, if_pos h⟩

/-- Overwriting a slice changes its own elements and no other. -/
theorem getElem?_write? {b v b' : List α} {pos : Nat} (h : write? b pos v = some b')
    (i : Nat) :
    b'[i]? = if pos ≤ i ∧ i < pos + v.length then v[i - pos]? else b[i]? := by
  unfold write? at h
  split at h
  · rename_i hlen
    obtain rfl := Option.some.inj h
    have hpos : (b.take pos).length = pos := by simp; omega
    by_cases h₁ : i < pos
    · rw [List.append_assoc, List.getElem?_append_left (by omega), List.getElem?_take]
      simp [h₁]
    · by_cases h₂ : i < pos + v.length
      · rw [List.append_assoc, List.getElem?_append_right (by omega), hpos,
          List.getElem?_append_left (by omega)]
        simp [h₂]
        omega
      · rw [List.getElem?_append_right (by simp; omega), List.getElem?_drop]
        simp only [List.length_append, hpos]
        rw [if_neg (by omega)]
        congr 1
        omega
  · cases h

/-- What was written is read back. -/
theorem slice_at_write?_self {b v b' : List α} {pos : Nat} (h : write? b pos v = some b') :
    slice_at b' pos v.length = v := by
  apply List.ext_getElem?
  intro i
  rw [getElem?_slice_at, getElem?_write? h]
  by_cases hi : i < v.length
  · simp [hi]
  · simp [hi]

/-- A stretch that a write does not meet is as it was. -/
theorem slice_at_write?_disjoint {b v b' : List α} {pos pos' n : Nat}
    (h : write? b pos v = some b') (hd : pos' + n ≤ pos ∨ pos + v.length ≤ pos') :
    slice_at b' pos' n = slice_at b pos' n := by
  apply List.ext_getElem?
  intro i
  rw [getElem?_slice_at, getElem?_slice_at, getElem?_write? h]
  by_cases hi : i < n
  · rw [if_pos hi, if_pos hi, if_neg (by omega)]
  · simp [hi]

/-! ## Rows of cells -/

/-- Where cell `(x, y)` starts, in rows `stride` apart of cells `size` wide. -/
def cell_at (stride size : Nat) (x y : Nat) : Nat := y * stride + x * size

/-- Distinct cells that lie inside their rows do not overlap. -/
theorem cell_at_disjoint {stride size x y x' y' : Nat} (hx : (x + 1) * size ≤ stride)
    (hx' : (x' + 1) * size ≤ stride) (hne : (x, y) ≠ (x', y')) :
    cell_at stride size x' y' + size ≤ cell_at stride size x y ∨
      cell_at stride size x y + size ≤ cell_at stride size x' y' := by
  simp only [cell_at]
  have hrow : ∀ {a b u v : Nat}, a < b → (u + 1) * size ≤ stride →
      a * stride + u * size + size ≤ b * stride + v * size := by
    intro a b u v hab hu
    have h₁ : (a + 1) * stride ≤ b * stride := Nat.mul_le_mul_right _ hab
    have h₂ : (u + 1) * size = u * size + size := Nat.succ_mul _ _
    have h₃ : (a + 1) * stride = a * stride + stride := Nat.succ_mul _ _
    omega
  have hcol : ∀ {u v : Nat}, u < v → u * size + size ≤ v * size := by
    intro u v huv
    have h₁ : (u + 1) * size ≤ v * size := Nat.mul_le_mul_right _ huv
    have h₂ : (u + 1) * size = u * size + size := Nat.succ_mul _ _
    omega
  rcases Nat.lt_trichotomy y y' with h | h | h
  · exact Or.inr (hrow h hx)
  · subst h
    rcases Nat.lt_trichotomy x x' with h | h | h
    · have := hcol h
      omega
    · exact absurd (by rw [h]) hne
    · have := hcol h
      omega
  · exact Or.inl (hrow h hx')

/-- A cell inside its row and inside the rows of the buffer is in range. -/
theorem cell_at_le {stride size x y height : Nat} (hx : (x + 1) * size ≤ stride)
    (hy : y < height) : cell_at stride size x y + size ≤ height * stride := by
  have h₁ : (y + 1) * stride ≤ height * stride := Nat.mul_le_mul_right _ hy
  have h₂ : (x + 1) * size = x * size + size := Nat.succ_mul _ _
  have h₃ : (y + 1) * stride = y * stride + stride := Nat.succ_mul _ _
  simp only [cell_at]
  omega

/-- A cell that ends before the last row's unpadded end is in range even when the
last row is stored without its padding. -/
theorem succ_mul_le_of_lt (x width size : Nat) {stride : Nat} (hx : x < width)
    (hw : width * size ≤ stride) : (x + 1) * size ≤ stride :=
  (Nat.mul_le_mul_right _ hx).trans hw

/-- The cell `(x, y)` of a buffer of rows `width` cells long. -/
def cell_of (width size : Nat) (b : List α) (x y : Nat) : List α :=
  slice_at b (cell_at (width * size) size x y) size

/-- **Writing a cell**: it succeeds, keeps the buffer's length, and changes that cell and
no other. -/
theorem write_cell {width height size x y : Nat} {b v : List α}
    (hb : b.length = height * (width * size)) (hx : x < width) (hy : y < height)
    (hv : v.length = size) :
    ∃ b', write? b (cell_at (width * size) size x y) v = some b' ∧
      b'.length = height * (width * size) ∧ cell_of width size b' x y = v ∧
      ∀ x' y', x' < width → (x', y') ≠ (x, y) →
        cell_of width size b' x' y' = cell_of width size b x' y' := by
  subst hv
  have hrow : (x + 1) * v.length ≤ width * v.length := Nat.mul_le_mul_right _ hx
  obtain ⟨b', h⟩ := write?_isSome b v (cell_at (width * v.length) v.length x y) (by
    rw [hb]
    exact cell_at_le hrow hy)
  refine ⟨b', h, (length_write? h).trans hb, slice_at_write?_self h, fun x' y' hx' hne => ?_⟩
  exact slice_at_write?_disjoint h
    (cell_at_disjoint hrow (Nat.mul_le_mul_right _ hx') fun h => hne h.symm)

/-- **Painting cells**: a loop over the rows `top..` and columns `left..` of a buffer whose
body sends the cell it visits through `g` and leaves the others alone sends each cell of
that box through `g` once. -/
theorem paint_cells (width height size left n top m : Nat)
    (hx : ∀ x, left ≤ x → x < left + n → x < width)
    (hy : ∀ y, top ≤ y → y < top + m → y < height)
    (step : List α → Nat → Nat → Option (List α)) (g : Nat → Nat → List α → List α)
    (hstep : ∀ b x y, (left ≤ x ∧ x < left + n) → (top ≤ y ∧ y < top + m) →
      b.length = height * (width * size) → ∃ b', step b x y = some b' ∧
        b'.length = height * (width * size) ∧
        cell_of width size b' x y = g x y (cell_of width size b x y) ∧
        ∀ x' y', x' < width → (x', y') ≠ (x, y) →
          cell_of width size b' x' y' = cell_of width size b x' y')
    (b : List α) (hb : b.length = height * (width * size)) :
    ∃ b', (List.range' top m).foldlM
        (fun b y => (List.range' left n).foldlM (fun b x => step b x y) b) b = some b' ∧
      b'.length = height * (width * size) ∧
      ∀ x y, x < width → y < height → cell_of width size b' x y =
        if (left ≤ x ∧ x < left + n) ∧ top ≤ y ∧ y < top + m then
          g x y (cell_of width size b x y)
        else cell_of width size b x y := by
  have hmem : ∀ p : Nat × Nat, p ∈ cells (List.range' top m) (List.range' left n) ↔
      (left ≤ p.1 ∧ p.1 < left + n) ∧ top ≤ p.2 ∧ p.2 < top + m := by
    intro p
    rw [mem_cells, List.mem_range'_1, List.mem_range'_1]
  obtain ⟨b', h, hlen, hget⟩ := foldlM_pointwise
    (fun b : List α => b.length = height * (width * size))
    (fun p : Nat × Nat => p.1 < width ∧ p.2 < height)
    (fun b p => cell_of width size b p.1 p.2) (fun b p => step b p.1 p.2)
    (fun p => g p.1 p.2) (cells (List.range' top m) (List.range' left n))
    (nodup_cells List.nodup_range' List.nodup_range')
    (fun p hp => by
      obtain ⟨⟨h₁, h₂⟩, h₃, h₄⟩ := (hmem p).mp hp
      exact ⟨hx _ h₁ h₂, hy _ h₃ h₄⟩)
    (fun b p hp hb => by
      obtain ⟨hpx, hpy⟩ := (hmem p).mp hp
      obtain ⟨b', h, hlen, hself, hother⟩ := hstep b p.1 p.2 hpx hpy hb
      exact ⟨b', h, hlen, hself, fun q hq hne => hother q.1 q.2 hq.1 hne⟩) b hb
  refine ⟨b', ?_, hlen, fun x y hxw hyh => ?_⟩
  · rw [← h]
    exact foldlM_nested (fun b (p : Nat × Nat) => step b p.1 p.2) _ _ b
  · rw [hget (x, y) ⟨hxw, hyh⟩]
    simp only [hmem]

/-- **Writing a row**: cells next to each other are written at once, and no other cell
changes. -/
theorem write_row {width height size left n y : Nat} {b v : List α}
    (hb : b.length = height * (width * size)) (hx : left + n ≤ width) (hy : y < height)
    (hv : v.length = n * size) :
    ∃ b', write? b (cell_at (width * size) size left y) v = some b' ∧
      b'.length = height * (width * size) ∧
      (∀ x, left ≤ x → x < left + n →
        cell_of width size b' x y = slice_at v ((x - left) * size) size) ∧
      ∀ x y', x < width → ¬ ((left ≤ x ∧ x < left + n) ∧ y' = y) →
        cell_of width size b' x y' = cell_of width size b x y' := by
  have row_end : (left + n) * size ≤ width * size := Nat.mul_le_mul_right _ hx
  have line : y * (width * size) + width * size ≤ height * (width * size) := by
    rw [← Nat.succ_mul]
    exact Nat.mul_le_mul_right _ hy
  rw [Nat.add_mul] at row_end
  obtain ⟨b', written⟩ := write?_isSome b v (cell_at (width * size) size left y) (by
    rw [hb, hv, cell_at]
    omega)
  refine ⟨b', written, (length_write? written).trans hb, ?_, ?_⟩
  · intro x left_le x_lt
    have inside : (x - left) * size + size ≤ v.length := by
      rw [hv, ← Nat.succ_mul]
      exact Nat.mul_le_mul_right _ (by omega)
    have start : left * size + (x - left) * size = x * size := by
      rw [← Nat.add_mul, Nat.add_sub_cancel' left_le]
    rw [← slice_at_write?_self written, slice_at_slice_at _ inside, cell_of, cell_at, cell_at,
      Nat.add_assoc, start]
  · intro x y' x_lt other
    have cell_end : (x + 1) * size ≤ width * size := Nat.mul_le_mul_right _ x_lt
    rw [Nat.succ_mul] at cell_end
    refine slice_at_write?_disjoint written ?_
    rw [hv, cell_at, cell_at]
    rcases Nat.lt_trichotomy y' y with before | same | after
    · have rows : (y' + 1) * (width * size) ≤ y * (width * size) := Nat.mul_le_mul_right _ before
      rw [Nat.succ_mul] at rows
      omega
    · subst same
      have beside : x + 1 ≤ left ∨ left + n ≤ x := by omega
      rcases beside with to_left | to_right
      · have cells : (x + 1) * size ≤ left * size := Nat.mul_le_mul_right _ to_left
        rw [Nat.succ_mul] at cells
        omega
      · have cells : (left + n) * size ≤ x * size := Nat.mul_le_mul_right _ to_right
        rw [Nat.add_mul] at cells
        omega
    · have rows : (y + 1) * (width * size) ≤ y' * (width * size) := Nat.mul_le_mul_right _ after
      rw [Nat.succ_mul] at rows
      omega

/-- **Painting rows**: a loop that writes the cells `left..` of each row `top..` at once sends
the cells of that box to those of the rows it writes, and keeps the others. -/
theorem paint_rows (width height size left n top m : Nat) (hx : left + n ≤ width)
    (hy : top + m ≤ height) (row : Nat → List α) (hrow : ∀ i, i < m → (row i).length = n * size)
    (b : List α) (hb : b.length = height * (width * size)) :
    ∃ b', (List.range m).foldlM
        (fun b i => write? b (cell_at (width * size) size left (top + i)) (row i)) b = some b' ∧
      b'.length = height * (width * size) ∧
      ∀ x y, x < width → y < height → cell_of width size b' x y =
        if (left ≤ x ∧ x < left + n) ∧ top ≤ y ∧ y < top + m then
          slice_at (row (y - top)) ((x - left) * size) size
        else cell_of width size b x y := by
  induction m with
  | zero =>
    refine ⟨b, rfl, hb, ?_⟩
    intro x y _ _
    rw [if_neg (by omega)]
  | succ m ih =>
    obtain ⟨b₁, ran, length, painted⟩ := ih (by omega) fun i hi => hrow i (by omega)
    obtain ⟨b₂, written, length', own, others⟩ :=
      write_row length hx (by omega : top + m < height) (hrow m (by omega))
    refine ⟨b₂, ?_, length', ?_⟩
    · rw [List.range_succ, List.foldlM_append, ran]
      simpa using written
    · intro x y x_lt y_lt
      by_cases last : (left ≤ x ∧ x < left + n) ∧ y = top + m
      · obtain ⟨⟨left_le, lt_right⟩, rfl⟩ := last
        rw [own x left_le lt_right, if_pos ⟨⟨left_le, lt_right⟩, by omega, by omega⟩,
          Nat.add_sub_cancel_left]
      · rw [others x y x_lt last, painted x y x_lt y_lt]
        congr 1
        rw [eq_iff_iff]
        omega

/-- Two tightly packed buffers of one length whose cells agree are equal. -/
theorem eq_of_cells {width height size : Nat} {a b : List α}
    (ha : a.length = height * (width * size)) (hb : b.length = height * (width * size))
    (h : ∀ x y, x < width → y < height → cell_of width size a x y = cell_of width size b x y) :
    a = b := by
  apply List.ext_getElem?
  intro i
  by_cases hi : i < height * (width * size)
  · have hpos : 0 < width * size := Nat.pos_of_ne_zero fun h0 => by simp [h0] at hi
    have hsize : 0 < size := Nat.pos_of_ne_zero fun h0 => by simp [h0] at hpos
    have hy : i / (width * size) < height := (Nat.div_lt_iff_lt_mul hpos).mpr hi
    have hr : i % (width * size) < width * size := Nat.mod_lt _ hpos
    have hx : i % (width * size) / size < width :=
      (Nat.div_lt_iff_lt_mul hsize).mpr hr
    have hm : i % (width * size) % size < size := Nat.mod_lt _ hsize
    have hsplit : cell_at (width * size) size (i % (width * size) / size) (i / (width * size)) +
        i % (width * size) % size = i := by
      have e₁ := Nat.div_add_mod i (width * size)
      have e₂ := Nat.div_add_mod (i % (width * size)) size
      simp only [cell_at]
      rw [Nat.mul_comm (i / (width * size)), Nat.mul_comm (i % (width * size) / size)]
      omega
    have := congrArg (fun l => l[i % (width * size) % size]?) (h _ _ hx hy)
    simpa only [cell_of, getElem?_slice_at, hm, if_true, hsplit] using this
  · rw [List.getElem?_eq_none (by omega), List.getElem?_eq_none (by omega)]

/-! ## Buffers built cell by cell -/

/-- Pieces of one length, joined, have the length of so many of them. -/
theorem length_flatMap_of_length {ι : Type} {l : List ι} {f : ι → List α} {m : Nat}
    (hf : ∀ i ∈ l, (f i).length = m) : (l.flatMap f).length = l.length * m := by
  rw [List.length_flatMap, List.map_congr_left hf]
  simp

/-- A buffer joined from blocks of one length has each block where it belongs. -/
theorem slice_at_flatMap {ι : Type} {l : List ι} {f : ι → List α} {m k : Nat} {i : ι}
    (hf : ∀ i ∈ l, (f i).length = m) (hk : l[k]? = some i) :
    slice_at (l.flatMap f) (k * m) m = f i := by
  induction l generalizing k with
  | nil => simp at hk
  | cons a l ih =>
      have ha := hf a (by simp)
      cases k with
      | zero =>
          obtain rfl : a = i := by simpa using hk
          rw [List.flatMap_cons, Nat.zero_mul, slice_at, List.drop_zero, ← ha, List.take_left]
      | succ k =>
          rw [List.getElem?_cons_succ] at hk
          rw [← ih (fun i hi => hf i (List.mem_cons_of_mem _ hi)) hk, slice_at, slice_at,
            List.flatMap_cons, Nat.succ_mul, Nat.add_comm, ← ha, ← List.drop_drop, List.drop_left]

/-- **A picture built cell by cell** has the cells it was built from. -/
theorem build_cells (left top width height : Nat) {size : Nat} {pixel : Nat → Nat → List α}
    (hpixel : ∀ x y, (pixel x y).length = size) :
    ((List.range' top height).flatMap fun y =>
        (List.range' left width).flatMap fun x => pixel x y).length =
      height * (width * size) ∧
    ∀ x y, x < width → y < height →
      cell_of width size ((List.range' top height).flatMap fun y =>
        (List.range' left width).flatMap fun x => pixel x y) x y = pixel (left + x) (top + y) := by
  have hrow : ∀ y ∈ List.range' top height,
      ((List.range' left width).flatMap fun x => pixel x y).length = width * size := by
    intro y _
    rw [length_flatMap_of_length fun x _ => hpixel x y, List.length_range']
  refine ⟨by rw [length_flatMap_of_length hrow, List.length_range'], fun x y hx hy => ?_⟩
  have hy' : (List.range' top height)[y]? = some (top + y) := by
    rw [List.getElem?_range' hy, Nat.one_mul]
  have hx' : (List.range' left width)[x]? = some (left + x) := by
    rw [List.getElem?_range' hx, Nat.one_mul]
  have hcell := congrArg (fun row => slice_at row (x * size) size) (slice_at_flatMap hrow hy')
  have hle : x * size + size ≤ width * size := by
    rw [← Nat.succ_mul]
    exact Nat.mul_le_mul_right _ hx
  simp only [slice_at_slice_at _ hle] at hcell
  rw [cell_of, cell_at, hcell]
  exact slice_at_flatMap (fun x _ => hpixel x _) hx'

/-- **A buffer overwritten block by block**, from its start to its end, holds the blocks. -/
theorem write_blocks {f : Nat → List α} {m n : Nat} (lengths : ∀ y, (f y).length = m)
    {b : List α} (length : b.length = n * m) :
    (List.range n).foldlM (fun b y => write? b (y * m) (f y)) b =
      some ((List.range n).flatMap f) := by
  have written : ∀ k ≤ n, (List.range k).foldlM (fun b y => write? b (y * m) (f y)) b =
      some ((List.range k).flatMap f ++ b.drop (k * m)) := by
    intro k k_le
    induction k with
    | zero => simp
    | succ k ih =>
      have front : ((List.range k).flatMap f).length = k * m := by
        rw [length_flatMap_of_length fun y _ => lengths y, List.length_range]
      have room : k * m + m ≤ b.length := by
        rw [length, ← Nat.succ_mul]
        exact Nat.mul_le_mul_right m k_le
      rw [List.range_succ, List.foldlM_append, ih (by omega), List.flatMap_append]
      have fits : k * m + (f k).length ≤ ((List.range k).flatMap f ++ b.drop (k * m)).length := by
        rw [List.length_append, front, List.length_drop, lengths]
        omega
      rw [Option.bind_eq_bind, Option.bind_some, List.foldlM_cons, write?, if_pos fits, lengths,
        List.take_left' front, ← front, ← List.drop_drop, List.drop_left, front, List.drop_drop,
        ← Nat.succ_mul]
      simp
  rw [written n (Nat.le_refl n), List.drop_of_length_le (by omega), List.append_nil]

end Captastic.Library
