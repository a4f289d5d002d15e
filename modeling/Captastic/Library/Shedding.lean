import Mathlib.Data.List.Basic
import Mathlib.Data.List.Infix

/-!
# Queues that shed, and times that are spread

A queue that is full gives up its oldest item for a new one, so what is taken from it is in the
order it was offered, with gaps (`KeptInOrder`).  The first item offered is kept as long as nothing
is shed before something has been taken (`KeepsFirst`).

Times are spread when a stretch of them that holds four lasts a given while (`Spread`), which
any of their sublists inherits.
-/

set_option autoImplicit false

namespace Captastic.Library

variable {α : Type}

/-! ## Queues -/

/-- What was taken and what waits are in the order offered. -/
def KeptInOrder (offered taken waiting : List α) : Prop := (taken ++ waiting).Sublist offered

namespace KeptInOrder

variable {offered taken waiting : List α}

/-- An item that is offered waits behind the others. -/
theorem offer (order : KeptInOrder offered taken waiting) (a : α) :
    KeptInOrder (offered ++ [a]) taken (waiting ++ [a]) := by
  unfold KeptInOrder
  rw [← List.append_assoc]
  exact order.append_right [a]

/-- An item that is offered and not kept. -/
theorem refuse (order : KeptInOrder offered taken waiting) (a : α) :
    KeptInOrder (offered ++ [a]) taken waiting :=
  order.trans (List.sublist_append_left offered [a])

/-- Giving up the oldest item leaves the others in order. -/
theorem shed (order : KeptInOrder offered taken waiting) : KeptInOrder offered taken waiting.tail :=
  ((List.tail_sublist waiting).append_left taken).trans order

/-- The oldest item is taken next. -/
theorem take {a : α} {rest : List α} (order : KeptInOrder offered taken (a :: rest)) :
    KeptInOrder offered (taken ++ [a]) rest := by
  unfold KeptInOrder
  rw [List.append_assoc]
  exact order

/-- A queue that is emptied leaves what was taken in order. -/
theorem clear (order : KeptInOrder offered taken waiting) : KeptInOrder offered taken [] := by
  unfold KeptInOrder
  rw [List.append_nil]
  exact (List.sublist_append_left taken waiting).trans order

end KeptInOrder

/-- The first item offered is the first taken, or waits to be. -/
def KeepsFirst (offered taken waiting : List α) : Prop :=
  (taken ++ waiting).head? = offered.head?

namespace KeepsFirst

variable {offered taken waiting : List α}

/-- An item that is offered comes after the first one. -/
theorem offer (first : KeepsFirst offered taken waiting) (a : α) :
    KeepsFirst (offered ++ [a]) taken (waiting ++ [a]) := by
  unfold KeepsFirst at first ⊢
  rw [← List.append_assoc]
  simp only [List.head?_append] at first ⊢
  rw [first]

/-- Once something has been taken, the oldest item waiting is not the first. -/
theorem shed (first : KeepsFirst offered taken waiting) (some_taken : taken ≠ []) :
    KeepsFirst offered taken waiting.tail := by
  unfold KeepsFirst at first ⊢
  rw [List.head?_append_of_ne_nil taken some_taken] at first ⊢
  exact first

/-- The first item stays the first when it is taken. -/
theorem take {a : α} {rest : List α} (first : KeepsFirst offered taken (a :: rest)) :
    KeepsFirst offered (taken ++ [a]) rest := by
  unfold KeepsFirst at first ⊢
  rw [List.append_assoc]
  exact first

end KeepsFirst

/-! ## Times -/

/-- A stretch that holds four of the times lasts at least `gap`. -/
def Spread (gap : Nat) (times : List Nat) : Prop :=
  ∀ a b c d, [a, b, c, d].Sublist times → a + gap ≤ d

namespace Spread

variable {gap : Nat} {times : List Nat}

/-- Times that are left out bring no two others closer. -/
theorem sublist {fewer : List Nat} (spread : Spread gap times) (sub : fewer.Sublist times) :
    Spread gap fewer :=
  fun a b c d four => spread a b c d (four.trans sub)

/-- Times spread for a while are spread for a shorter one. -/
theorem of_le {less : Nat} (spread : Spread gap times) (le : less ≤ gap) : Spread less times :=
  fun a b c d four => (Nat.add_le_add_left le a).trans (spread a b c d four)

/-- A single time is spread. -/
theorem singleton (gap a : Nat) : Spread gap [a] := by
  intro a' b c d four
  have longer := four.length_le
  simp only [List.length_cons, List.length_nil] at longer
  omega

/-- The fourth of the times comes the gap after the first. -/
theorem after_head {d g : Nat} {rest : List Nat} (spread : Spread gap (d :: rest))
    (at_two : rest[2]? = some g) : d + gap ≤ g := by
  obtain ⟨e, f, later, rfl⟩ : ∃ e f later, rest = e :: f :: g :: later := by
    match rest, at_two with
    | e :: f :: g' :: later, at_two =>
      cases at_two
      exact ⟨e, f, later, rfl⟩
  exact spread d e f g (List.sublist_append_left [d, e, f, g] later)

/-- A last time that comes `gap` after all but the two before it. -/
theorem snoc (spread : Spread gap times) {last : Nat}
    (later : ∀ t ∈ times.dropLast.dropLast, t + gap ≤ last) : Spread gap (times ++ [last]) := by
  intro a b c d four
  have of_three : [a, b, c].Sublist times → a ∈ times.dropLast.dropLast := by
    intro three
    have shorter : [a].Sublist times.reverse.tail.tail := three.reverse.tail.tail
    rw [List.tail_reverse, List.tail_reverse] at shorter
    exact List.mem_reverse.mp (shorter.subset (List.mem_singleton.mpr rfl))
  rw [List.sublist_append_iff] at four
  obtain ⟨front, back, split, front_sub, back_sub⟩ := four
  rcases List.sublist_singleton.mp back_sub with rfl | rfl
  · rw [List.append_nil] at split
    rw [← split] at front_sub
    exact spread a b c d front_sub
  · have same : [a, b, c] ++ [d] = front ++ [last] := split
    obtain ⟨rfl, last_eq⟩ := List.append_inj' same rfl
    obtain rfl := (List.cons.inj last_eq).1
    exact later a (of_three front_sub)

end Spread

end Captastic.Library
