import Mathlib.Data.List.TakeWhile
import Mathlib.Order.Lattice

/-!
# Lists whose wanted elements come first

A binary search for the first element that misses a condition looks at a list whose elements
that meet it come first.  It counts them, and they are the elements that `List.takeWhile`
takes: `lt_length_takeWhile_iff` says which indices come before the count, and
`getElem?_takeWhile_iff` which elements are taken.
-/

set_option autoImplicit false

namespace Captastic.Library

variable {α : Type} {p : α → Bool} {l : List α}

/-- No element that misses `p` comes before one that meets it. -/
def Partitioned (p : α → Bool) (l : List α) : Prop :=
  l.Pairwise fun a b => p b = true → p a = true

/-- Dropping from the front leaves a list split in two. -/
theorem Partitioned.drop (partitioned : Partitioned p l) (n : Nat) : Partitioned p (l.drop n) :=
  List.Pairwise.sublist (List.drop_sublist n l) partitioned

/-- The elements before the count are those that meet the condition. -/
theorem lt_length_takeWhile_iff (partitioned : Partitioned p l) {i : Nat} {a : α}
    (held : l[i]? = some a) : i < (l.takeWhile p).length ↔ p a = true := by
  induction l generalizing i with
  | nil => cases held
  | cons b l ih =>
    obtain ⟨first, rest⟩ := List.pairwise_cons.mp partitioned
    by_cases meets : p b = true
    · rw [List.takeWhile_cons_of_pos meets]
      cases i with
      | zero =>
        obtain rfl : b = a := Option.some.inj held
        simp [meets]
      | succ i => simpa using ih rest held
    · rw [List.takeWhile_cons_of_neg meets]
      -- What follows an element that misses the condition misses it too.
      have misses : ¬ p a = true := by
        cases i with
        | zero =>
          obtain rfl : b = a := Option.some.inj held
          exact meets
        | succ i => exact fun later => meets (first a (List.mem_of_getElem? held) later)
      simp [misses]

/-- The elements taken are those of the list that meet the condition, where they were. -/
theorem getElem?_takeWhile_iff (partitioned : Partitioned p l) {i : Nat} {a : α} :
    (l.takeWhile p)[i]? = some a ↔ l[i]? = some a ∧ p a = true := by
  have same : ∀ {b : α}, (l.takeWhile p)[i]? = some b → l[i]? = some b := by
    intro b taken
    obtain ⟨rest, rest_eq⟩ := List.takeWhile_prefix (l := l) p
    rw [← rest_eq, List.getElem?_append_left (List.getElem?_eq_some_iff.mp taken).1]
    exact taken
  constructor
  · intro taken
    refine ⟨same taken, ?_⟩
    exact (lt_length_takeWhile_iff partitioned (same taken)).mp
      (List.getElem?_eq_some_iff.mp taken).1
  · rintro ⟨held, meets⟩
    have counted := (lt_length_takeWhile_iff partitioned held).mpr meets
    have taken := List.getElem?_eq_getElem counted
    rw [taken, ← held, ← same taken]

section Sorted

variable {β : Type} [LinearOrder β] {f : α → β}

/-- A list in ascending order is partitioned by every upper bound. -/
theorem partitioned_le (ascending : l.Pairwise fun a b => f a < f b) (x : β) :
    Partitioned (fun a => decide (f a ≤ x)) l := by
  refine List.Pairwise.imp ?_ ascending
  intro a b a_lt b_le
  simp only [decide_eq_true_eq] at b_le ⊢
  exact a_lt.le.trans b_le

/-- A list in ascending order is split by being below a value. -/
theorem partitioned_lt (ascending : l.Pairwise fun a b => f a < f b) (x : β) :
    Partitioned (fun a => decide (f a < x)) l := by
  refine List.Pairwise.imp ?_ ascending
  intro a b a_lt b_lt
  simp only [decide_eq_true_eq] at b_lt ⊢
  exact a_lt.trans b_lt

end Sorted

end Captastic.Library
