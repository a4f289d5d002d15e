import Mathlib.Tactic.Common

/-!
# Entries with names

An ordered map as a list of keys and values, where a key says more than its name.  `lookup` finds
the value of a name, `assign` changes it and leaves its key, and `put` also adds an entry at the
end.  One value of a list that is split at its entry is all that changes (`assign_split`).
-/

set_option autoImplicit false

namespace Captastic.Library

namespace Entries

variable {K A N : Type} [DecidableEq N] (name_of : K → N)

/-- The value of a name. -/
def lookup (name : N) : List (K × A) → Option A
  | [] => none
  | (key, value) :: rest => if name_of key = name then some value else lookup name rest

/-- The value of a name changed, where it has one. -/
def assign (name : N) (value : A) : List (K × A) → List (K × A)
  | [] => []
  | (key, old) :: rest =>
    if name_of key = name then (key, value) :: rest else (key, old) :: assign name value rest

/-- The value of a name changed, or an entry added at the end. -/
def put (key : K) (value : A) (entries : List (K × A)) : List (K × A) :=
  if (lookup name_of (name_of key) entries).isSome then assign name_of (name_of key) value entries
  else entries ++ [(key, value)]

variable {name_of} {name other : N} {value old : A} {entries : List (K × A)}

/-- The first entry of the name is the one found. -/
theorem lookup_cons (key : K) (rest : List (K × A)) :
    lookup name_of name ((key, value) :: rest) =
      if name_of key = name then some value else lookup name_of name rest := rfl

/-- The first entry of the name is the one changed. -/
theorem assign_cons (key : K) (rest : List (K × A)) :
    assign name_of name value ((key, old) :: rest) =
      if name_of key = name then (key, value) :: rest
      else (key, old) :: assign name_of name value rest := rfl

/-- Where the value of a name is. -/
theorem assign_split (value : A) (found : lookup name_of name entries = some old) :
    ∃ earlier key later, entries = earlier ++ (key, old) :: later ∧
      assign name_of name value entries = earlier ++ (key, value) :: later := by
  induction entries with
  | nil => cases found
  | cons entry rest ih =>
    obtain ⟨key, first⟩ := entry
    rw [lookup_cons] at found
    rw [assign_cons]
    by_cases named : name_of key = name
    · rw [if_pos named] at found ⊢
      cases found
      exact ⟨[], key, rest, rfl, rfl⟩
    · rw [if_neg named] at found ⊢
      obtain ⟨earlier, key', later, split, changed⟩ := ih found
      exact ⟨(key, first) :: earlier, key', later, by rw [split, List.cons_append],
        by rw [changed, List.cons_append]⟩

/-- Assigning changes no key. -/
theorem keys_assign (name : N) (value : A) (entries : List (K × A)) :
    (assign name_of name value entries).map Prod.fst = entries.map Prod.fst := by
  induction entries with
  | nil => rfl
  | cons entry rest ih =>
    obtain ⟨key, first⟩ := entry
    rw [assign_cons]
    by_cases named : name_of key = name
    · rw [if_pos named]
      rfl
    · rw [if_neg named, List.map_cons, List.map_cons, ih]

/-- What was assigned is found, where the name had an entry. -/
theorem lookup_assign_self (found : lookup name_of name entries = some old) :
    lookup name_of name (assign name_of name value entries) = some value := by
  induction entries with
  | nil => cases found
  | cons entry rest ih =>
    obtain ⟨key, first⟩ := entry
    rw [lookup_cons] at found
    rw [assign_cons]
    by_cases named : name_of key = name
    · rw [if_pos named, lookup_cons, if_pos named]
    · rw [if_neg named] at found ⊢
      rw [lookup_cons, if_neg named, ih found]

/-- Assigning to a name changes no other. -/
theorem lookup_assign_of_ne (ne : other ≠ name) :
    lookup name_of other (assign name_of name value entries) = lookup name_of other entries := by
  induction entries with
  | nil => rfl
  | cons entry rest ih =>
    obtain ⟨key, first⟩ := entry
    rw [assign_cons]
    by_cases named : name_of key = name
    · have not_other : name_of key ≠ other := fun same => ne (same.symm.trans named)
      rw [if_pos named, lookup_cons, lookup_cons, if_neg not_other, if_neg not_other]
    · rw [if_neg named, lookup_cons, lookup_cons, ih]

/-- Entries that are added are found where none of the name came before. -/
theorem lookup_append (entries added : List (K × A)) :
    lookup name_of name (entries ++ added) =
      (lookup name_of name entries).or (lookup name_of name added) := by
  induction entries with
  | nil => rfl
  | cons entry rest ih =>
    obtain ⟨key, first⟩ := entry
    rw [List.cons_append, lookup_cons, lookup_cons]
    by_cases named : name_of key = name
    · rw [if_pos named, if_pos named, Option.some_or]
    · rw [if_neg named, if_neg named, ih]

/-! ## Changed or added -/

variable {key : K}

/-- What was put is found. -/
theorem lookup_put_self (named : name_of key = name) :
    lookup name_of name (put name_of key value entries) = some value := by
  subst named
  unfold put
  cases found : lookup name_of (name_of key) entries with
  | some old =>
    rw [Option.isSome_some, if_pos rfl]
    exact lookup_assign_self found
  | none =>
    rw [Option.isSome_none, if_neg Bool.false_ne_true, lookup_append, found, Option.none_or,
      lookup_cons, if_pos rfl]

/-- Putting under a name changes no other. -/
theorem lookup_put_of_ne (ne : other ≠ name_of key) :
    lookup name_of other (put name_of key value entries) = lookup name_of other entries := by
  unfold put
  split
  · exact lookup_assign_of_ne ne
  · rw [lookup_append, lookup_cons, if_neg ne.symm]
    exact Option.or_none

/-- The keys are the same, with the new one at the end where it is new. -/
theorem keys_put : (put name_of key value entries).map Prod.fst =
    entries.map Prod.fst ++
      (if (lookup name_of (name_of key) entries).isSome then [] else [key]) := by
  unfold put
  split
  · rw [keys_assign, List.append_nil]
  · rw [List.map_append]
    rfl

end Entries

end Captastic.Library
