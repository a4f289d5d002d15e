import Mathlib.Order.Lattice
import Mathlib.Data.List.Chain

/-!
# Signals that hold their values

A signal is a list of values, each with the time it was set.  `value_at` is the value a signal
holds at a time: the last one set at or before it.  Setting the value a signal already holds
changes nothing, so the signal's `changes` hold the same values at every time, and where the
times of a signal are strictly increasing, the value between two of them is the first one's.
-/

set_option autoImplicit false

namespace Captastic.Library

variable {V T : Type}

section Changes

variable [DecidableEq V]

/-- The items that change the value after one that is held already. -/
def changes_after (held : V) : List (V × T) → List (V × T)
  | [] => []
  | item :: rest =>
    if item.1 = held then changes_after held rest else item :: changes_after item.1 rest

/-- The items of a signal that set another value than the one before. -/
def changes : List (V × T) → List (V × T)
  | [] => []
  | item :: rest => item :: changes_after item.1 rest

/-- A last item is a change exactly where it differs from the value held before it. -/
theorem changes_after_append (held : V) (signal : List (V × T)) (item : V × T) :
    changes_after held (signal ++ [item]) =
      if item.1 = ((changes_after held signal).getLast?.map Prod.fst).getD held then
        changes_after held signal
      else changes_after held signal ++ [item] := by
  induction signal generalizing held with
  | nil => rfl
  | cons first rest ih =>
    rw [List.cons_append]
    unfold changes_after
    split
    · exact ih held
    · rw [ih first.1, List.getLast?_cons]
      cases (changes_after first.1 rest).getLast? with
      | none =>
        show first :: (if item.1 = first.1 then _ else _) = if item.1 = first.1 then _ else _
        split <;> rfl
      | some last =>
        show first :: (if item.1 = last.1 then _ else _) = if item.1 = last.1 then _ else _
        split <;> rfl

/-- An item set after a signal is a change unless it sets the value of the last change. -/
theorem changes_append {signal : List (V × T)} {last : V × T}
    (ends : (changes signal).getLast? = some last) (item : V × T) :
    changes (signal ++ [item]) =
      if item.1 = last.1 then changes signal else changes signal ++ [item] := by
  cases signal with
  | nil => cases ends
  | cons first rest =>
    unfold changes at ends ⊢
    rw [List.getLast?_cons] at ends
    have held : ((changes_after first.1 rest).getLast?.map Prod.fst).getD first.1 = last.1 := by
      cases after : (changes_after first.1 rest).getLast? with
      | none =>
        rw [after] at ends
        exact congrArg Prod.fst (Option.some.inj ends)
      | some found =>
        rw [after] at ends
        exact congrArg Prod.fst (Option.some.inj ends)
    show first :: changes_after first.1 (rest ++ [item]) = _
    rw [changes_after_append, held]
    split <;> rfl

/-- The changes are items of the signal, in its order. -/
theorem changes_after_sublist (held : V) (signal : List (V × T)) :
    (changes_after held signal).Sublist signal := by
  induction signal generalizing held with
  | nil => exact List.Sublist.refl _
  | cons item rest ih =>
    unfold changes_after
    split
    · exact (ih held).cons item
    · exact (ih item.1).cons_cons item

/-- So they are from the start of the signal. -/
theorem changes_sublist (signal : List (V × T)) : (changes signal).Sublist signal := by
  cases signal with
  | nil => exact List.Sublist.refl _
  | cons item rest => exact (changes_after_sublist item.1 rest).cons_cons item

end Changes

section Values

variable [LinearOrder T]

/-- The last value set at or before a time. -/
def value_at (time : T) (signal : List (V × T)) : Option V :=
  (signal.filter fun item => decide (item.2 ≤ time)).getLast?.map Prod.fst

/-- The first item holds from its time on, until a later one does. -/
theorem value_at_cons (time : T) (item : V × T) (rest : List (V × T)) :
    value_at time (item :: rest) =
      if item.2 ≤ time then some ((value_at time rest).getD item.1) else value_at time rest := by
  unfold value_at
  rw [List.filter_cons]
  by_cases set : item.2 ≤ time
  · rw [if_pos (decide_eq_true set), if_pos set, List.getLast?_cons]
    cases (rest.filter fun item => decide (item.2 ≤ time)).getLast? with
    | none => rfl
    | some last => rfl
  · rw [if_neg (by simpa using set), if_neg set]

/-- Nothing is set before the first time. -/
theorem value_at_eq_none {time : T} {signal : List (V × T)}
    (later : ∀ item ∈ signal, time < item.2) : value_at time signal = none := by
  unfold value_at
  rw [List.filter_eq_nil_iff.mpr]
  · rfl
  · intro item member
    simpa using later item member

/-- Between the time an item is set and the times set after it, its value is held. -/
theorem value_at_between {time : T} {earlier later : List (V × T)} {item : V × T}
    (set : item.2 ≤ time) (unset : ∀ next ∈ later, time < next.2) :
    value_at time (earlier ++ item :: later) = some item.1 := by
  unfold value_at
  have none_later : later.filter (fun item => decide (item.2 ≤ time)) = [] := by
    apply List.filter_eq_nil_iff.mpr
    intro next member
    simpa using unset next member
  rw [List.filter_append, List.filter_cons, if_pos (decide_eq_true set), none_later,
    List.getLast?_concat]
  rfl

/-- Times in order of which no two neighbours are equal are strictly increasing. -/
theorem increasing_of_apart {times : List T} (sorted : times.Pairwise (· ≤ ·))
    (apart : times.IsChain (· ≠ ·)) : times.Pairwise (· < ·) := by
  induction times with
  | nil => exact .nil
  | cons first rest ih =>
    have strict := ih sorted.of_cons apart.tail
    refine List.pairwise_cons.mpr ⟨?_, strict⟩
    intro later member
    cases rest with
    | nil => cases member
    | cons second rest =>
      have below := List.rel_of_pairwise_cons sorted List.mem_cons_self
      have first_lt := lt_of_le_of_ne below (List.isChain_cons_cons.mp apart).1
      rcases List.mem_cons.mp member with rfl | member
      · exact first_lt
      · exact first_lt.trans (List.rel_of_pairwise_cons strict member)

variable [DecidableEq V]

/-- The changes of a signal in order have its value at every time. -/
theorem value_at_changes_after (time : T) (held : V) {signal : List (V × T)}
    (sorted : (signal.map Prod.snd).Pairwise (· ≤ ·)) :
    (value_at time (changes_after held signal)).getD held = (value_at time signal).getD held := by
  induction signal generalizing held with
  | nil => rfl
  | cons item rest ih =>
    rw [List.map_cons, List.pairwise_cons] at sorted
    unfold changes_after
    rw [value_at_cons]
    by_cases same : item.1 = held
    · rw [if_pos same, ih held sorted.2, same]
      split
      · rfl
      · rfl
    · rw [if_neg same, value_at_cons]
      by_cases set : item.2 ≤ time
      · rw [if_pos set, if_pos set]
        exact ih item.1 sorted.2
      · -- Nothing after an item that is not yet set is set.
        have later : ∀ next ∈ rest, time < next.2 := fun next member =>
          (not_le.mp set).trans_le (sorted.1 next.2 (List.mem_map_of_mem member))
        rw [if_neg set, if_neg set, value_at_eq_none later,
          value_at_eq_none fun next member =>
            later next ((changes_after_sublist item.1 rest).subset member)]

/-- The changes of a signal hold what the signal holds. -/
theorem value_at_changes (time : T) {signal : List (V × T)}
    (sorted : (signal.map Prod.snd).Pairwise (· ≤ ·)) :
    value_at time (changes signal) = value_at time signal := by
  cases signal with
  | nil => rfl
  | cons item rest =>
    rw [List.map_cons, List.pairwise_cons] at sorted
    unfold changes
    rw [value_at_cons, value_at_cons]
    by_cases set : item.2 ≤ time
    · rw [if_pos set, if_pos set]
      exact congrArg some (value_at_changes_after time item.1 sorted.2)
    · have later : ∀ next ∈ rest, time < next.2 := fun next member =>
        (not_le.mp set).trans_le (sorted.1 next.2 (List.mem_map_of_mem member))
      rw [if_neg set, if_neg set, value_at_eq_none later,
        value_at_eq_none fun next member =>
          later next ((changes_after_sublist item.1 rest).subset member)]

end Values

end Captastic.Library
