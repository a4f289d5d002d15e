import Mathlib.Data.List.Basic
import Mathlib.Data.List.Count
import Mathlib.Data.List.Nodup
import Mathlib.Logic.Function.Basic

/-!
# Buffers lent out of slots

A store keeps buffers under identities that are never used again.  Slots, each under its key,
hold buffers; a buffer of a slot may be lent, and a loan notes the value its buffer had then,
which nothing but the notes reads.  A buffer is written only while no loan shares it, so a
loan's buffer keeps its value (`Sound.kept`).  Whether a buffer is shared is read off the count
of its owners (`owners_eq_one_iff`).

A search that starts at a cursor and wraps around visits every index (`mem_from_cursor`).
-/

set_option autoImplicit false

namespace Captastic.Library

/-! ## Searching from a cursor -/

/-- The indices below `n`, from the cursor on and then from the start. -/
def from_cursor (n cursor : Nat) : List Nat :=
  (List.range n).map fun offset => (cursor + offset) % n

/-- Searching from a cursor visits every index once around. -/
theorem mem_from_cursor {n cursor i : Nat} : i ∈ from_cursor n cursor ↔ i < n := by
  unfold from_cursor
  rw [List.mem_map]
  constructor
  · rintro ⟨offset, member, rfl⟩
    have n_pos := List.mem_range.mp member
    exact Nat.mod_lt _ (by omega)
  · intro i_lt
    have cursor_lt : cursor % n < n := Nat.mod_lt _ (by omega)
    refine ⟨(i + n - cursor % n) % n, List.mem_range.mpr (Nat.mod_lt _ (by omega)), ?_⟩
    have turns : cursor + (i + n - cursor % n) = i + n * (cursor / n + 1) := by
      have whole := Nat.div_add_mod cursor n
      rw [Nat.mul_succ]
      omega
    rw [Nat.add_mod_mod, turns, Nat.add_mul_mod_self_left, Nat.mod_eq_of_lt i_lt]

/-! ## Stores -/

/-- Buffers by identity, the slots that hold some, and the loans, each with the value its
buffer had when it was lent. -/
structure Store (K V : Type) where
  heap : List V
  slots : K → Option Nat
  loans : List (Nat × V)

namespace Store

variable {K V : Type} (s : Store K V)

/-- How many own a buffer: the slots under these keys, and the loans. -/
def owners [DecidableEq K] (keys : List K) (b : Nat) : Nat :=
  keys.countP (fun k => s.slots k == some b) + s.loans.countP fun loan => loan.1 == b

/-- No loan shares the buffer. -/
def Unshared (b : Nat) : Prop := ∀ loan ∈ s.loans, loan.1 ≠ b

/-- Slots hold buffers of their own, and lent buffers have the values they were lent with. -/
structure Sound : Prop where
  in_heap : ∀ k b, s.slots k = some b → b < s.heap.length
  distinct : ∀ k k' b, s.slots k = some b → s.slots k' = some b → k = k'
  kept : ∀ loan ∈ s.loans, s.heap[loan.1]? = some loan.2

/-- A slot is given a new buffer. -/
def refill [DecidableEq K] (k : K) (v : V) : Store K V :=
  { s with heap := s.heap ++ [v], slots := Function.update s.slots k (some s.heap.length) }

/-- A buffer is overwritten. -/
def write (b : Nat) (v : V) : Store K V := { s with heap := s.heap.set b v }

/-- A buffer is lent. -/
def lend (b : Nat) : Store K V :=
  { s with loans := s.loans ++ (s.heap[b]?.map fun v => (b, v)).toList }

/-- A loan is shared once more. -/
def lend_again (i : Nat) : Store K V := { s with loans := s.loans ++ s.loans[i]?.toList }

/-- A loan ends. -/
def give_back (i : Nat) : Store K V := { s with loans := s.loans.eraseIdx i }

/-- Slots give up their buffers. -/
def clear (cleared : K → Bool) : Store K V :=
  { s with slots := fun k => if cleared k then none else s.slots k }

variable {s}

section Refill

variable [DecidableEq K] (s)

/-- The slot that is refilled holds the new buffer. -/
theorem refill_slots_self (k : K) (v : V) : (s.refill k v).slots k = some s.heap.length :=
  Function.update_self _ _ _

/-- The other slots hold what they held. -/
theorem refill_slots_of_ne {k k' : K} (other : k' ≠ k) (v : V) :
    (s.refill k v).slots k' = s.slots k' :=
  Function.update_of_ne other _ _

/-- The new buffer has the value it was made with. -/
theorem refill_heap_new (k : K) (v : V) : (s.refill k v).heap[s.heap.length]? = some v :=
  List.getElem?_concat_length

/-- No other buffer's value changes. -/
theorem refill_heap_of_lt {b : Nat} (lt : b < s.heap.length) (k : K) (v : V) :
    (s.refill k v).heap[b]? = s.heap[b]? :=
  List.getElem?_append_left lt

end Refill

namespace Sound

/-- A buffer on loan has been made. -/
theorem loan_lt (sound : s.Sound) {loan : Nat × V} (member : loan ∈ s.loans) :
    loan.1 < s.heap.length :=
  (List.getElem?_eq_some_iff.mp (sound.kept loan member)).1

/-- **Reference counts.**  The buffer of a slot has one owner exactly if no loan shares it. -/
theorem owners_eq_one_iff [DecidableEq K] (sound : s.Sound) {keys : List K} (nodup : keys.Nodup)
    {k : K} (member : k ∈ keys) {b : Nat} (held : s.slots k = some b) :
    s.owners keys b = 1 ↔ s.Unshared b := by
  have own_slot : keys.countP (fun k' => s.slots k' == some b) = 1 := by
    rw [← List.count_eq_one_of_mem nodup member, List.count]
    apply List.countP_congr
    intro k' _
    rw [beq_iff_eq, beq_iff_eq]
    constructor
    · intro also
      exact sound.distinct _ _ _ also held
    · rintro rfl
      exact held
  unfold owners Unshared
  rw [own_slot, Nat.add_eq_left, List.countP_eq_zero]
  simp only [beq_iff_eq]

/-- Filling a slot with a new buffer keeps the store sound: no loan notes that buffer yet. -/
theorem refill [DecidableEq K] (sound : s.Sound) (k : K) (v : V) : (s.refill k v).Sound := by
  constructor
  · intro k' b held
    have longer : (s.refill k v).heap.length = s.heap.length + 1 := List.length_append
    by_cases refilled : k' = k
    · rw [refilled, refill_slots_self] at held
      obtain rfl := Option.some.inj held
      omega
    · rw [refill_slots_of_ne s refilled] at held
      have b_lt := sound.in_heap k' b held
      omega
  · intro k₁ k₂ b held₁ held₂
    by_cases first : k₁ = k
    · by_cases second : k₂ = k
      · rw [first, second]
      · rw [first, refill_slots_self] at held₁
        rw [refill_slots_of_ne s second] at held₂
        obtain rfl := Option.some.inj held₁
        exact absurd (sound.in_heap _ _ held₂) (Nat.lt_irrefl _)
    · rw [refill_slots_of_ne s first] at held₁
      by_cases second : k₂ = k
      · rw [second, refill_slots_self] at held₂
        obtain rfl := Option.some.inj held₂
        exact absurd (sound.in_heap _ _ held₁) (Nat.lt_irrefl _)
      · rw [refill_slots_of_ne s second] at held₂
        exact sound.distinct _ _ _ held₁ held₂
  · intro loan member
    rw [refill_heap_of_lt s (sound.loan_lt member)]
    exact sound.kept loan member

/-- **Writing** a buffer that no loan shares changes the value of no loan. -/
theorem write (sound : s.Sound) {b : Nat} (unshared : s.Unshared b) (v : V) :
    (s.write b v).Sound := by
  constructor
  · intro k b' held
    unfold Store.write
    rw [List.length_set]
    exact sound.in_heap k b' held
  · exact sound.distinct
  · intro loan member
    unfold Store.write
    rw [List.getElem?_set_ne (unshared loan member).symm]
    exact sound.kept loan member

/-- Lending a buffer notes the value it has, if there is one. -/
theorem lend (sound : s.Sound) (b : Nat) : (s.lend b).Sound := by
  refine ⟨sound.in_heap, sound.distinct, ?_⟩
  intro loan member
  rcases List.mem_append.mp member with old | new
  · exact sound.kept loan old
  · obtain ⟨v, held, rfl⟩ := Option.map_eq_some_iff.mp (Option.mem_toList.mp new)
    exact held

/-- A loan that is copied notes what the first one noted. -/
theorem lend_again (sound : s.Sound) (i : Nat) : (s.lend_again i).Sound := by
  refine ⟨sound.in_heap, sound.distinct, ?_⟩
  intro loan member
  rcases List.mem_append.mp member with old | again
  · exact sound.kept loan old
  · exact sound.kept loan (List.mem_of_getElem? (Option.mem_toList.mp again))

/-- A loan that ends takes its note with it. -/
theorem give_back (sound : s.Sound) (i : Nat) : (s.give_back i).Sound :=
  ⟨sound.in_heap, sound.distinct, fun loan member =>
    sound.kept loan ((List.eraseIdx_sublist _ _).subset member)⟩

/-- Clearing slots changes no buffer, so the notes still hold. -/
theorem clear (sound : s.Sound) (cleared : K → Bool) : (s.clear cleared).Sound := by
  have was_held : ∀ k b, (s.clear cleared).slots k = some b → s.slots k = some b := by
    intro k b held
    simp only [Store.clear] at held
    split at held
    · cases held
    · exact held
  exact ⟨fun k b held => sound.in_heap k b (was_held k b held),
    fun k k' b held held' => sound.distinct k k' b (was_held k b held) (was_held k' b held'),
    sound.kept⟩

end Sound

/-! ## What is still unshared -/

/-- Lending another buffer does not make this one shared. -/
theorem Unshared.lend {b b' : Nat} (unshared : s.Unshared b) (other : b' ≠ b) :
    (s.lend b').Unshared b := by
  intro loan member
  rcases List.mem_append.mp member with old | new
  · exact unshared loan old
  · obtain ⟨v, -, rfl⟩ := Option.map_eq_some_iff.mp (Option.mem_toList.mp new)
    exact other

/-- Copying a loan shares no buffer that was not on loan. -/
theorem Unshared.lend_again {b : Nat} (unshared : s.Unshared b) (i : Nat) :
    (s.lend_again i).Unshared b := by
  intro loan member
  rcases List.mem_append.mp member with old | again
  · exact unshared loan old
  · exact unshared loan (List.mem_of_getElem? (Option.mem_toList.mp again))

/-- A loan that ends shares nothing more. -/
theorem Unshared.give_back {b : Nat} (unshared : s.Unshared b) (i : Nat) :
    (s.give_back i).Unshared b :=
  fun loan member => unshared loan ((List.eraseIdx_sublist _ _).subset member)

/-- A new buffer is shared by no loan. -/
theorem unshared_new (sound : s.Sound) : s.Unshared s.heap.length :=
  fun _ member => Nat.ne_of_lt (sound.loan_lt member)

end Store

end Captastic.Library
