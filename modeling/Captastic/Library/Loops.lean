import Mathlib.Data.List.Basic
import Mathlib.Data.List.Range
import Mathlib.Data.List.Nodup
import Mathlib.Tactic.Cases

/-!
# Bounded loops that may stop with a failure

A `for` loop whose body can fail is `List.foldlM` in `Option`, where `none` is the
failure.  This file gives the two rules the loops of a verified program are proved
by: an invariant rule (`foldlM_inv`), and a rule for loops that visit the cells of
some indexed store and change exactly the cell they visit (`foldlM_pointwise`),
which turns a whole loop into one equation per cell.
-/

set_option autoImplicit false

namespace Captastic.Library

section Invariant

variable {β ι : Type}

/-- A loop whose body succeeds and keeps `I` on every element it visits succeeds
and keeps `I`. -/
theorem foldlM_inv (I : β → Prop) (step : β → ι → Option β) (l : List ι)
    (hstep : ∀ s i, i ∈ l → I s → ∃ s', step s i = some s' ∧ I s') (s : β) (hs : I s) :
    ∃ s', l.foldlM step s = some s' ∧ I s' := by
  induction l generalizing s with
  | nil => exact ⟨s, rfl, hs⟩
  | cons a l ih =>
      obtain ⟨s₁, h₁, hI₁⟩ := hstep s a (by simp) hs
      obtain ⟨s₂, h₂, hI₂⟩ :=
        ih (fun s i hi => hstep s i (List.mem_cons_of_mem _ hi)) s₁ hI₁
      exact ⟨s₂, by simp [h₁, h₂], hI₂⟩

/-- A nested loop is the flat loop over the pairs in row-major order. -/
theorem foldlM_nested {κ : Type} (step : β → ι × κ → Option β) (rows : List κ)
    (cols : List ι) (s : β) :
    rows.foldlM (fun s y => cols.foldlM (fun s x => step s (x, y)) s) s =
      (rows.flatMap fun y => cols.map fun x => (x, y)).foldlM step s := by
  induction rows generalizing s with
  | nil => rfl
  | cons y rows ih =>
      simp only [List.foldlM_cons, List.flatMap_cons, List.foldlM_append, List.foldlM_map]
      exact bind_congr fun s' => ih s'

/-- Two bodies that agree wherever an invariant of the loop holds make the same loop. -/
theorem foldlM_congr_of_inv (I : β → Prop) (f g : β → ι → Option β) (l : List ι)
    (heq : ∀ s i, i ∈ l → I s → f s i = g s i)
    (hinv : ∀ s i s', i ∈ l → I s → g s i = some s' → I s') (s : β) (hs : I s) :
    l.foldlM f s = l.foldlM g s := by
  induction l generalizing s with
  | nil => rfl
  | cons a l ih =>
      rw [List.foldlM_cons, List.foldlM_cons, heq s a (by simp) hs]
      cases hg : g s a with
      | none => rfl
      | some s₁ =>
          exact ih (fun s i hi => heq s i (List.mem_cons_of_mem _ hi))
            (fun s i s' hi => hinv s i s' (List.mem_cons_of_mem _ hi)) s₁
            (hinv s a s₁ (by simp) hs hg)

/-- A loop keeps an invariant that each of its iterations keeps. -/
theorem foldlM_keeps (I : β → Prop) (f : β → ι → Option β) (l : List ι)
    (hinv : ∀ s i s', i ∈ l → I s → f s i = some s' → I s') {s s' : β} (hs : I s)
    (h : l.foldlM f s = some s') : I s' := by
  induction l generalizing s with
  | nil =>
      obtain rfl : s = s' := Option.some.inj h
      exact hs
  | cons a l ih =>
      rw [List.foldlM_cons] at h
      cases hf : f s a with
      | none => simp [hf] at h
      | some s₁ =>
          exact ih (fun s i s' hi => hinv s i s' (List.mem_cons_of_mem _ hi))
            (hinv s a s₁ (by simp) hs hf) (by simpa [hf] using h)

end Invariant

section Pointwise

variable {β P V : Type} [DecidableEq P]

/-- **The pointwise rule.**  If each iteration on `p` succeeds, keeps `I`, sends the
value at `p` through `g p` and leaves every other cell of `Dom` alone, then a loop
over distinct cells sends each cell it visits through `g` once and leaves the rest. -/
theorem foldlM_pointwise (I : β → Prop) (Dom : P → Prop) (get : β → P → V)
    (step : β → P → Option β) (g : P → V → V) (l : List P) (hl : l.Nodup)
    (hdom : ∀ p ∈ l, Dom p)
    (hstep : ∀ s p, p ∈ l → I s → ∃ s', step s p = some s' ∧ I s' ∧
      get s' p = g p (get s p) ∧ ∀ q, Dom q → q ≠ p → get s' q = get s q)
    (s : β) (hs : I s) :
    ∃ s', l.foldlM step s = some s' ∧ I s' ∧
      ∀ q, Dom q → get s' q = if q ∈ l then g q (get s q) else get s q := by
  induction l generalizing s with
  | nil => exact ⟨s, rfl, hs, by simp⟩
  | cons p l ih =>
      obtain ⟨hp, hl'⟩ := List.nodup_cons.mp hl
      obtain ⟨s₁, h₁, hI₁, hself, hother⟩ := hstep s p (by simp) hs
      obtain ⟨s₂, h₂, hI₂, hget⟩ :=
        ih hl' (fun q hq => hdom q (List.mem_cons_of_mem _ hq))
          (fun s q hq => hstep s q (List.mem_cons_of_mem _ hq)) s₁ hI₁
      refine ⟨s₂, by simp [h₁, h₂], hI₂, ?_⟩
      intro q hq
      rw [hget q hq]
      by_cases hqp : q = p
      · subst hqp
        simp [hp, hself]
      · simp [hqp, hother q hq hqp]

end Pointwise

/-! ## Half-open ranges of integers -/

/-- The integers of `lo..hi`, in order. -/
def int_range (lo hi : Int) : List Int :=
  (List.range (hi - lo).toNat).map fun k : Nat => lo + (k : Int)

/-- The members of a range are the numbers between its ends. -/
@[simp] theorem mem_int_range {lo hi i : Int} : i ∈ int_range lo hi ↔ lo ≤ i ∧ i < hi := by
  simp only [int_range, List.mem_map, List.mem_range]
  constructor
  · rintro ⟨k, hk, rfl⟩
    omega
  · rintro ⟨h₁, h₂⟩
    exact ⟨(i - lo).toNat, by omega, by omega⟩

/-- A range visits no number twice. -/
theorem nodup_int_range (lo hi : Int) : (int_range lo hi).Nodup :=
  List.Nodup.map (fun a b h => by omega) List.nodup_range

/-- A loop that counts up from zero, as a loop over a range of integers. -/
theorem foldlM_range {β : Type} (f : β → Int → Option β) (lo : Int) (n : Nat) (s : β) :
    (List.range n).foldlM (fun s (k : Nat) => f s (lo + k)) s =
      (int_range lo (lo + n)).foldlM f s := by
  rw [int_range, show (lo + (n : Int) - lo).toNat = n by omega, List.foldlM_map]

/-- A loop over `0..n` that breaks once `lo + k` reaches `hi`, as a range. -/
theorem takeWhile_range (n lo hi : Nat) :
    (List.range n).takeWhile (fun k => decide (lo + k < hi)) =
      List.range (min n (hi - lo)) := by
  induction n with
  | zero => simp
  | succ n ih =>
      rw [List.range_succ]
      by_cases h : n ≤ hi - lo
      · have hall : ∀ k ∈ List.range n, decide (lo + k < hi) = true := by
          intro k hk
          rw [List.mem_range] at hk
          simp only [decide_eq_true_eq]
          omega
        rw [List.takeWhile_append_of_pos hall]
        by_cases hn : lo + n < hi
        · rw [List.takeWhile_cons_of_pos (by simpa using hn), List.takeWhile_nil,
            Nat.min_eq_left (by omega), List.range_succ]
        · rw [List.takeWhile_cons_of_neg (by simpa using hn), List.append_nil,
            Nat.min_eq_right (by omega), show hi - lo = n by omega]
      · rw [List.takeWhile_append, if_neg, ih, Nat.min_eq_right (by omega),
          Nat.min_eq_right (by omega)]
        rw [ih, List.length_range]
        simp only [List.length_range]
        omega

/-- A loop over `0..n` with a break, as a loop over the indices `lo..` it reaches. -/
theorem foldlM_takeWhile {β : Type} (f : β → Nat → Option β) (n lo hi : Nat) (s : β) :
    ((List.range n).takeWhile fun k => decide (lo + k < hi)).foldlM (fun s k => f s (lo + k)) s =
      (List.range' lo (min n (hi - lo))).foldlM f s := by
  rw [takeWhile_range, List.range'_eq_map_range, List.foldlM_map]

/-- The pairs of a nested loop, in the order they are visited. -/
def cells {ι κ : Type} (rows : List κ) (cols : List ι) : List (ι × κ) :=
  rows.flatMap fun y => cols.map fun x => (x, y)

/-- The cells are those of some column in some row. -/
@[simp] theorem mem_cells {ι κ : Type} {rows : List κ} {cols : List ι} {p : ι × κ} :
    p ∈ cells rows cols ↔ p.1 ∈ cols ∧ p.2 ∈ rows := by
  obtain ⟨x, y⟩ := p
  simp only [cells, List.mem_flatMap, List.mem_map, Prod.mk.injEq]
  constructor
  · rintro ⟨y', hy, x', hx, rfl, rfl⟩
    exact ⟨hx, hy⟩
  · rintro ⟨hx, hy⟩
    exact ⟨y, hy, x, hx, rfl, rfl⟩

/-- Where no row and no column is visited twice, no cell is. -/
theorem nodup_cells {ι κ : Type} {rows : List κ} {cols : List ι} (hr : rows.Nodup)
    (hc : cols.Nodup) : (cells rows cols).Nodup := by
  rw [cells, List.nodup_flatMap]
  refine ⟨fun y _ => hc.map fun a b h => (Prod.mk.inj h).1, ?_⟩
  refine hr.imp_of_mem ?_
  intro y z _ _ hyz p hp hp'
  simp only [List.mem_map] at hp hp'
  obtain ⟨x, -, rfl⟩ := hp
  obtain ⟨x', -, h⟩ := hp'
  exact hyz (Prod.mk.inj h).2.symm

/-! ## Loops that cannot fail, and a loop that does -/

/-- A loop that cannot fail. -/
theorem foldlM_some {β ι : Type} (f : β → ι → β) (l : List ι) (s : β) :
    l.foldlM (fun s i => some (f s i)) s = some (l.foldl f s) := List.foldlM_pure

/-- `foldlM_nested`, where nothing fails. -/
theorem foldl_nested {β ι κ : Type} (step : β → ι × κ → β) (rows : List κ) (cols : List ι)
    (s : β) : rows.foldl (fun s y => cols.foldl (fun s x => step s (x, y)) s) s =
      (cells rows cols).foldl step s := by
  apply Option.some.inj
  rw [← foldlM_some, ← foldlM_some]
  rw [cells, ← foldlM_nested]
  congr 1
  funext s y
  exact (foldlM_some _ _ _).symm

/-- `foldlM_pointwise`, where nothing fails. -/
theorem foldl_pointwise {β P V : Type} [DecidableEq P] (I : β → Prop) (get : β → P → V)
    (step : β → P → β) (g : P → V → V) {l : List P} (hl : l.Nodup)
    (hstep : ∀ s p, p ∈ l → I s → I (step s p) ∧
      get (step s p) p = g p (get s p) ∧ ∀ q, q ≠ p → get (step s p) q = get s q)
    (s : β) (hs : I s) :
    I (l.foldl step s) ∧
      ∀ q, get (l.foldl step s) q = if q ∈ l then g q (get s q) else get s q := by
  obtain ⟨s', folded, kept, values⟩ := foldlM_pointwise I (fun _ => True) get
    (fun s p => some (step s p)) g l hl (fun _ _ => trivial)
    (fun s p member held => by
      obtain ⟨kept, self, other⟩ := hstep s p member held
      exact ⟨_, rfl, kept, self, fun q _ => other q⟩) s hs
  rw [foldlM_some] at folded
  cases folded
  exact ⟨kept, fun q => values q trivial⟩

/-- A loop fails that fails at one turn, if the turns before leave what that one looks at. -/
theorem foldlM_fails {β ι : Type} {step : β → ι → Option β} {l : List ι} {i : ι} {s : β}
    (member : i ∈ l) (fails : step s i = none) (others : ∀ j ∈ l, j ≠ i → step s j = some s) :
    l.foldlM step s = none := by
  induction l with
  | nil => cases member
  | cons a rest ih =>
    rw [List.foldlM_cons]
    by_cases here : a = i
    · rw [here, fails]
      rfl
    · rw [others a List.mem_cons_self here, Option.bind_eq_bind, Option.bind_some]
      apply ih
      · exact (List.mem_cons.mp member).resolve_left (Ne.symm here)
      · exact fun j later => others j (List.mem_cons_of_mem a later)

end Captastic.Library
