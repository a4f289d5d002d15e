import Mathlib.Tactic.Cases
import Mathlib.Algebra.GroupWithZero.Nat

/-!
# Tallies

What the members of a list count for together, as one of them is replaced or another joins.
-/

set_option autoImplicit false

namespace Captastic.Library

variable {α : Type} {f g : α → Nat} {l : List α}

/-- What the members count for together. -/
def tally (f : α → Nat) (l : List α) : Nat := (l.map f).sum

/-- Nobody counts for nothing. -/
theorem tally_nil (f : α → Nat) : tally f [] = 0 := rfl

/-- The first member counts with the others. -/
theorem tally_cons (f : α → Nat) (a : α) (l : List α) : tally f (a :: l) = f a + tally f l := rfl

/-- Two lists count for what each does. -/
theorem tally_append (f : α → Nat) (l r : List α) : tally f (l ++ r) = tally f l + tally f r := by
  unfold tally
  rw [List.map_append, List.sum_append]

/-- One member counts for itself. -/
theorem tally_singleton (f : α → Nat) (a : α) : tally f [a] = f a := Nat.add_zero _

/-- Replacing one member changes the tally by what the two count for. -/
theorem tally_set {i : Nat} {a : α} (held : l[i]? = some a) (f : α → Nat) (b : α) :
    tally f (l.set i b) + f a = tally f l + f b := by
  induction l generalizing i with
  | nil => cases held
  | cons first rest ih =>
    cases i with
    | zero =>
      obtain rfl := Option.some.inj held
      rw [List.set_cons_zero, tally_cons, tally_cons]
      omega
    | succ i =>
      have later := ih (i := i) held
      rw [List.set_cons_succ, tally_cons, tally_cons]
      omega

/-- Where no member counts for less, the list does not either. -/
theorem tally_le_tally (le : ∀ a ∈ l, f a ≤ g a) : tally f l ≤ tally g l := by
  induction l with
  | nil => exact Nat.le_refl 0
  | cons first rest ih =>
    have first_le := le first List.mem_cons_self
    have rest_le := ih fun a member => le a (List.mem_cons_of_mem _ member)
    rw [tally_cons, tally_cons]
    omega

/-- Counting for two things at once is counting for each. -/
theorem tally_add (f g : α → Nat) (l : List α) :
    tally (fun a => f a + g a) l = tally f l + tally g l := by
  induction l with
  | nil => rfl
  | cons first rest ih =>
    rw [tally_cons, tally_cons, tally_cons, ih]
    omega

/-- A tally depends only on what its members count for. -/
theorem tally_congr (same : ∀ a ∈ l, f a = g a) : tally f l = tally g l :=
  congrArg List.sum (List.map_congr_left same)

/-- A tally of nothing is one where no member counts. -/
theorem tally_eq_zero_iff : tally f l = 0 ↔ ∀ a ∈ l, f a = 0 := by
  induction l with
  | nil => simp [tally_nil]
  | cons first rest ih => rw [tally_cons, Nat.add_eq_zero_iff, ih, List.forall_mem_cons]

/-- Members that are filtered out count for nothing. -/
theorem tally_filter (p : α → Bool) (f : α → Nat) (l : List α) :
    tally f (l.filter p) = tally (fun a => if p a then f a else 0) l := by
  induction l with
  | nil => rfl
  | cons first rest ih =>
    rw [tally_cons, List.filter_cons]
    cases chosen : p first with
    | false => rw [if_neg Bool.false_ne_true, if_neg Bool.false_ne_true, ih, Nat.zero_add]
    | true => rw [if_pos rfl, if_pos rfl, tally_cons, ih]

/-- Members that count once, or not at all. -/
theorem tally_toNat (p : α → Bool) (l : List α) : tally (fun a => (p a).toNat) l = l.countP p := by
  induction l with
  | nil => rfl
  | cons first rest ih =>
    rw [tally_cons, ih, List.countP_cons, Nat.add_comm]
    cases p first <;> rfl

/-- A member that counts shows in the tally. -/
theorem le_tally {a : α} (member : a ∈ l) : f a ≤ tally f l := by
  induction l with
  | nil => cases member
  | cons first rest ih =>
    rw [tally_cons]
    rcases List.mem_cons.mp member with rfl | later
    · exact Nat.le_add_right _ _
    · exact Nat.le_add_left_of_le (ih later)

/-- A list of lists counts for what its lists do. -/
theorem tally_flatMap {β : Type} (f : β → Nat) (g : α → List β) (l : List α) :
    tally f (l.flatMap g) = tally (fun a => tally f (g a)) l := by
  induction l with
  | nil => rfl
  | cons first rest ih => rw [List.flatMap_cons, tally_append, tally_cons, ih]

/-- A mapped list counts for what its images do. -/
theorem tally_map {β : Type} (f : β → Nat) (g : α → β) (l : List α) :
    tally f (l.map g) = tally (fun a => f (g a)) l := by
  unfold tally
  rw [List.map_map]
  rfl

/-- Two lists have the same members, each as often, where they count for the same whatever the
members count for. -/
theorem perm_iff_tally {l r : List α} : l.Perm r ↔ ∀ f : α → Nat, tally f l = tally f r := by
  classical
  constructor
  · intro perm f
    exact (perm.map f).sum_nat
  · intro same
    rw [List.perm_iff_count]
    intro a
    have counted := same fun b => (decide (b = a)).toNat
    rw [tally_toNat, tally_toNat] at counted
    simpa [List.count, Bool.beq_eq_decide_eq] using counted

end Captastic.Library
