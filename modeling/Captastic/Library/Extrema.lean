import Mathlib.Data.List.Basic
import Mathlib.Data.List.Perm.Basic
import Mathlib.Order.Lattice
import Mathlib.Tactic.Cases

/-!
# Greatest and least elements by a comparison

`max_by` keeps the last of several greatest elements and `min_by` the first of several least
ones.  Where no two elements of the list compare equal there is only one of either, so the
order the list is in does not matter (`max_by_perm`, `min_by_perm`).

A scan that replaces its best only by something strictly lower finds the first of the least
(`FirstLeast`), which is one element of the list.
-/

set_option autoImplicit false

namespace Captastic.Library

variable {α : Type}

/-- The element left when each next one is kept out by the best so far, or replaces it. -/
def pick (keeps : α → α → Bool) : List α → Option α
  | [] => none
  | first :: rest => some (rest.foldl (fun best next => if keeps best next then best else next) first)

/-- The greatest element, the last of them if several are. -/
def max_by (cmp : α → α → Ordering) : List α → Option α :=
  pick fun best next => cmp best next == .gt

/-- The least element, the first of them if several are. -/
def min_by (cmp : α → α → Ordering) : List α → Option α :=
  pick fun best next => cmp best next != .gt

section Perm

variable [LE α] [Std.IsLinearOrder α] {l l' : List α}

/-- The least element does not depend on the order of the list. -/
theorem min?_of_perm [Min α] [Std.LawfulOrderMin α] (perm : l.Perm l') : l.min? = l'.min? := by
  cases least : l'.min? with
  | none =>
    rw [List.min?_eq_none_iff] at least ⊢
    subst least
    exact perm.eq_nil
  | some a =>
    rw [List.min?_eq_some_iff] at least ⊢
    exact ⟨perm.mem_iff.mpr least.1, fun b h => least.2 b (perm.mem_iff.mp h)⟩

/-- The greatest element does not depend on the order of the list. -/
theorem max?_of_perm [Max α] [Std.LawfulOrderMax α] (perm : l.Perm l') : l.max? = l'.max? := by
  cases greatest : l'.max? with
  | none =>
    rw [List.max?_eq_none_iff] at greatest ⊢
    subst greatest
    exact perm.eq_nil
  | some a =>
    rw [List.max?_eq_some_iff] at greatest ⊢
    exact ⟨perm.mem_iff.mpr greatest.1, fun b h => greatest.2 b (perm.mem_iff.mp h)⟩

end Perm

/-- An element of the list that none is above. -/
def IsTop (le : α → α → Prop) (l : List α) (top : α) : Prop := top ∈ l ∧ ∀ a ∈ l, le a top

/-- Two tops of the same elements are one, where `le` separates them. -/
theorem IsTop.unique {le : α → α → Prop} {l l' : List α} {a b : α} (ha : IsTop le l a)
    (hb : IsTop le l' b) (perm : l.Perm l')
    (separates : ∀ x ∈ l, ∀ y ∈ l, le x y → le y x → x = y) : a = b :=
  separates a ha.1 b (perm.mem_iff.mpr hb.1) (hb.2 a (perm.mem_iff.mp ha.1))
    (ha.2 b (perm.mem_iff.mpr hb.1))

section Pick

variable {le : α → α → Prop} {keeps : α → α → Bool} (refl : ∀ a, le a a)
  (trans : ∀ a b c, le a b → le b c → le a c) (kept : ∀ a b, keeps a b = true → le b a)
  (replaced : ∀ a b, keeps a b = false → le a b)

include refl trans kept replaced

/-- The loop's best is a top of what it has seen. -/
theorem foldl_pick_top (rest : List α) (first : α) :
    IsTop le (first :: rest)
      (rest.foldl (fun best next => if keeps best next then best else next) first) := by
  induction rest generalizing first with
  | nil => exact ⟨by simp, by simpa using refl first⟩
  | cons next rest ih =>
    rw [List.foldl_cons]
    cases better : keeps first next with
    | true =>
      obtain ⟨member, above⟩ := ih first
      refine ⟨?_, ?_⟩
      · rw [if_pos rfl]
        rcases List.mem_cons.mp member with same | later
        · rw [same]
          exact List.mem_cons_self
        · exact List.mem_cons_of_mem _ (List.mem_cons_of_mem _ later)
      · intro a a_member
        rw [if_pos rfl]
        have first_le := above first List.mem_cons_self
        rcases List.mem_cons.mp a_member with rfl | a_member
        · exact first_le
        · rcases List.mem_cons.mp a_member with rfl | a_member
          · exact trans _ _ _ (kept _ _ better) first_le
          · exact above a (List.mem_cons_of_mem _ a_member)
    | false =>
      obtain ⟨member, above⟩ := ih next
      refine ⟨List.mem_cons_of_mem _ (by simpa using member), ?_⟩
      intro a a_member
      have next_le := above next List.mem_cons_self
      rcases List.mem_cons.mp a_member with rfl | a_member
      · exact trans _ _ _ (replaced _ _ better) (by simpa using next_le)
      · simpa using above a a_member

/-- What is picked is a top of the list. -/
theorem pick_top {l : List α} {best : α} (picked : pick keeps l = some best) : IsTop le l best := by
  cases l with
  | nil => cases picked
  | cons first rest =>
    obtain rfl := Option.some.inj picked
    exact foldl_pick_top refl trans kept replaced rest first

end Pick

/-- Nothing is picked exactly from an empty list. -/
theorem pick_eq_none_iff {keeps : α → α → Bool} {l : List α} : pick keeps l = none ↔ l = [] := by
  cases l <;> simp [pick]

/-- A choice of tops does not depend on the order of the elements. -/
theorem pick_perm {le : α → α → Prop} {keeps : α → α → Bool}
    (top : ∀ l best, pick keeps l = some best → IsTop le l best) {l l' : List α}
    (perm : l.Perm l') (separates : ∀ x ∈ l, ∀ y ∈ l, le x y → le y x → x = y) :
    pick keeps l = pick keeps l' := by
  cases found : pick keeps l with
  | none =>
    have nil := pick_eq_none_iff.mp found
    subst nil
    rw [List.nil_perm.mp perm]
    rfl
  | some best =>
    cases found' : pick keeps l' with
    | none =>
      have nil := pick_eq_none_iff.mp found'
      subst nil
      rw [List.perm_nil.mp perm] at found
      cases found
    | some best' => rw [(top l best found).unique (top l' best' found') perm separates]

section Compare

variable {cmp : α → α → Ordering} [Std.TransCmp cmp]

/-- Every element compares at most itself. -/
theorem isLE_self (a : α) : (cmp a a).isLE = true := by
  have self : cmp a a = .eq := Std.ReflCmp.compare_self
  rw [self]
  rfl

/-- Of two elements that compare greater one way, the other way is at most. -/
theorem isLE_of_gt {a b : α} (gt : cmp a b = .gt) : (cmp b a).isLE = true := by
  have swap : cmp b a = (cmp a b).swap := Std.OrientedCmp.eq_swap
  rw [swap, gt]
  rfl

/-- Elements at most each other compare equal. -/
theorem eq_of_isLE {a b : α} (le : (cmp a b).isLE = true) (ge : (cmp b a).isLE = true) :
    cmp a b = .eq := by
  have swap : cmp b a = (cmp a b).swap := Std.OrientedCmp.eq_swap
  rw [swap] at ge
  revert le ge
  cases cmp a b <;> decide

/-- What `max_by` finds is greatest. -/
theorem max_by_top (l : List α) (best : α) (found : max_by cmp l = some best) :
    IsTop (fun a b => (cmp a b).isLE = true) l best := by
  refine pick_top isLE_self ?_ ?_ ?_ found
  · intro a b c
    exact Std.TransCmp.isLE_trans
  · intro a b keeps
    exact isLE_of_gt (beq_iff_eq.mp keeps)
  · intro a b replaced
    rw [Ordering.isLE_iff_ne_gt]
    simpa using replaced

/-- What `min_by` finds is least. -/
theorem min_by_top (l : List α) (best : α) (found : min_by cmp l = some best) :
    IsTop (fun a b => (cmp b a).isLE = true) l best := by
  refine pick_top isLE_self ?_ ?_ ?_ found
  · intro a b c le_ba le_cb
    exact Std.TransCmp.isLE_trans le_cb le_ba
  · intro a b keeps
    rw [Ordering.isLE_iff_ne_gt]
    simpa using keeps
  · intro a b replaced
    exact isLE_of_gt (by simpa using replaced)

/-- Elements that compare equal are one. -/
def Separates (cmp : α → α → Ordering) (l : List α) : Prop :=
  ∀ a ∈ l, ∀ b ∈ l, cmp a b = .eq → a = b

/-- The greatest element does not depend on the order, where equal elements are one. -/
theorem max_by_perm {l l' : List α} (perm : l.Perm l') (separates : Separates cmp l) :
    max_by cmp l = max_by cmp l' :=
  pick_perm max_by_top perm fun a ha b hb le ge => separates a ha b hb (eq_of_isLE le ge)

/-- The least element does not depend on the order, where equal elements are one. -/
theorem min_by_perm {l l' : List α} (perm : l.Perm l') (separates : Separates cmp l) :
    min_by cmp l = min_by cmp l' :=
  pick_perm min_by_top perm fun a ha b hb le ge => separates a ha b hb (eq_of_isLE ge le)

end Compare

/-! ## The first of the least -/

section FirstLeast

variable {D : Type} [LinearOrder D] {f : α → D} {l : List α} {a b : α}

/-- An element that none before it is as low as, and none after it below. -/
def FirstLeast (f : α → D) (l : List α) (a : α) : Prop :=
  ∃ before after, l = before ++ a :: after ∧ (∀ b ∈ before, f a < f b) ∧ ∀ b ∈ after, f a ≤ f b

/-- The first least element is in the list. -/
theorem FirstLeast.mem (least : FirstLeast f l a) : a ∈ l := by
  obtain ⟨before, after, rfl, -, -⟩ := least
  exact List.mem_append_right _ List.mem_cons_self

/-- No element is below the first least one. -/
theorem FirstLeast.le (least : FirstLeast f l a) (member : b ∈ l) : f a ≤ f b := by
  obtain ⟨before, after, rfl, below, above⟩ := least
  rcases List.mem_append.mp member with earlier | later
  · exact le_of_lt (below b earlier)
  · rcases List.mem_cons.mp later with rfl | later
    · exact le_refl _
    · exact above b later

/-- One more element that is not lower. -/
theorem FirstLeast.keep (least : FirstLeast f l a) (above : f a ≤ f b) :
    FirstLeast f (l ++ [b]) a := by
  obtain ⟨before, after, rfl, below, above_after⟩ := least
  refine ⟨before, after ++ [b], ?_, below, ?_⟩
  · rw [List.append_assoc, List.cons_append]
  · intro c member
    rcases List.mem_append.mp member with member | member
    · exact above_after c member
    · rw [List.mem_singleton.mp member]
      exact above

/-- One more element that is lower than all. -/
theorem FirstLeast.replace (below : ∀ c ∈ l, f b < f c) : FirstLeast f (l ++ [b]) b :=
  ⟨l, [], rfl, below, fun _ member => absurd member List.not_mem_nil⟩

/-- The first of the least is one element. -/
theorem FirstLeast.unique (first : FirstLeast f l a) (second : FirstLeast f l b) : a = b := by
  have a_le := first.le second.mem
  have b_le := second.le first.mem
  obtain ⟨before, after, rfl, below, -⟩ := first
  obtain ⟨before', after', same, below', -⟩ := second
  rcases List.append_eq_append_iff.mp same with ⟨rest, rfl, ends⟩ | ⟨rest, rfl, ends⟩
  · cases rest with
    | nil => exact (List.cons.inj ends).1
    | cons c rest =>
      obtain ⟨rfl, -⟩ := List.cons.inj ends
      have lower := below' a (List.mem_append_right _ List.mem_cons_self)
      exact absurd lower (not_lt_of_ge a_le)
  · cases rest with
    | nil => exact (List.cons.inj ends).1.symm
    | cons c rest =>
      obtain ⟨rfl, -⟩ := List.cons.inj ends
      have lower := below b (List.mem_append_right _ List.mem_cons_self)
      exact absurd lower (not_lt_of_ge b_le)

/-- A measure that is least there, and larger wherever the first one is, keeps the element. -/
theorem FirstLeast.of_lt {g : α → D} (first : FirstLeast f l a)
    (larger : ∀ b, f a < f b → g a < g b) (least : ∀ b, g a ≤ g b) : FirstLeast g l a := by
  obtain ⟨before, after, split, below, -⟩ := first
  exact ⟨before, after, split, fun b member => larger b (below b member), fun b _ => least b⟩

end FirstLeast

end Captastic.Library
