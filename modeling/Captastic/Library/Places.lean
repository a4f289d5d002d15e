import Mathlib.Data.Finset.Card
import Mathlib.Logic.Function.Basic

/-!
# Numbered places and their shift

Places are numbered from 0 and hold a value or nothing.  `shifted_places n d` moves what is at
the places from `d` on one place further, up to the last place `n`, as a loop does that goes down
from `n` and moves one value at a time (`shifted_skip`, `shifted_move`).  Values that come in
descending order of a measure still do afterwards (`Descending.shifted`), and are at one place
each.
-/

set_option autoImplicit false

namespace Captastic.Library

variable {α : Type} {n d : Nat} {at_place : Nat → Option α}

/-! ## The shift -/

/-- The places once those past `d` are done: what was from `d` on is one place further, and what
was at the last place stays if nothing came there. -/
def shifted_places (n d : Nat) (at_place : Nat → Option α) (place : Nat) : Option α :=
  if place < d then at_place place
  else if place = d then if d = n then at_place place else none
  else if place < n then at_place (place - 1)
  else if place = n then (at_place (place - 1)).or (at_place place)
  else at_place place

/-- Taking the last place from behind the list moves nothing. -/
theorem shifted_last (n : Nat) (at_place : Nat → Option α) :
    shifted_places n n at_place = at_place := by
  funext place
  unfold shifted_places
  by_cases before : place < n
  · rw [if_pos before]
  · by_cases same : place = n
    · rw [if_neg before, if_pos same, if_pos rfl]
    · rw [if_neg before, if_neg same, if_neg before, if_neg same]

/-- One place further down, where nothing is to be moved. -/
theorem shifted_skip (d_lt : d < n) (missing : at_place d = none) :
    shifted_places n (d + 1) at_place = shifted_places n d at_place := by
  funext place
  unfold shifted_places
  rcases Nat.lt_trichotomy place d with before | same | after
  · rw [if_pos (by omega), if_pos before]
  · subst same
    rw [if_pos (by omega), if_neg (by omega), if_pos rfl, if_neg (by omega), missing]
  · rw [if_neg (by omega : ¬ place < d), if_neg (by omega : ¬ place = d)]
    by_cases next : place = d + 1
    · subst next
      rw [if_neg (by omega), if_pos rfl, Nat.add_sub_cancel, missing]
      by_cases last : d + 1 = n
      · rw [if_pos last, if_neg (by omega), if_pos last, Option.none_or]
      · rw [if_neg last, if_pos (by omega)]
    · rw [if_neg (by omega), if_neg next]

/-- One place further down, where a value is moved. -/
theorem shifted_move (d_lt : d < n) {source : α} (found : at_place d = some source) :
    Function.update (Function.update
      (Function.update (shifted_places n (d + 1) at_place) (d + 1) none)
      (d + 1) (some source)) d none = shifted_places n d at_place := by
  funext place
  unfold shifted_places
  rcases Nat.lt_trichotomy place d with before | same | after
  · rw [Function.update_of_ne (by omega), Function.update_of_ne (by omega),
      Function.update_of_ne (by omega), if_pos (by omega), if_pos before]
  · subst same
    rw [Function.update_self, if_neg (by omega), if_pos rfl, if_neg (by omega)]
  · rw [if_neg (by omega : ¬ place < d), if_neg (by omega : ¬ place = d),
      Function.update_of_ne (by omega)]
    by_cases next : place = d + 1
    · subst next
      rw [Function.update_self, Nat.add_sub_cancel, found]
      by_cases last : d + 1 = n
      · rw [if_neg (by omega), if_pos last, Option.some_or]
      · rw [if_pos (by omega)]
    · rw [Function.update_of_ne next, Function.update_of_ne next, if_neg (by omega),
        if_neg next]

/-- What is still to be moved is where it was. -/
theorem shifted_before {place : Nat} (before : place < d) :
    shifted_places n d at_place place = at_place place := by
  unfold shifted_places
  rw [if_pos before]

/-- The place that was cleared last. -/
theorem shifted_here (d_lt : d < n) : shifted_places n d at_place d = none := by
  unfold shifted_places
  rw [if_neg (Nat.lt_irrefl d), if_pos rfl, if_neg (Nat.ne_of_lt d_lt)]

/-- What was moved is one place further. -/
theorem shifted_next {place : Nat} (from_here : d ≤ place) (place_lt : place < n)
    (held : (at_place place).isSome = true) :
    shifted_places n d at_place (place + 1) = at_place place := by
  obtain ⟨value, found⟩ := Option.isSome_iff_exists.mp held
  unfold shifted_places
  rw [if_neg (by omega), if_neg (by omega), Nat.add_sub_cancel]
  by_cases last : place + 1 = n
  · rw [if_neg (by omega), if_pos last, found, Option.some_or]
  · rw [if_pos (by omega)]

/-- Where there was nothing, there is nothing one place further. -/
theorem shifted_gap {place : Nat} (from_here : d ≤ place) (next_lt : place + 1 < n)
    (missing : at_place place = none) : shifted_places n d at_place (place + 1) = none := by
  unfold shifted_places
  rw [if_neg (by omega), if_neg (by omega), if_pos next_lt, Nat.add_sub_cancel, missing]

/-- What was at the last place stays there if nothing came. -/
theorem shifted_kept (d_lt : d < n) (missing : at_place (n - 1) = none) :
    shifted_places n d at_place n = at_place n := by
  unfold shifted_places
  rw [if_neg (by omega), if_neg (by omega), if_neg (Nat.lt_irrefl n), if_pos rfl, missing,
    Option.none_or]

/-- Past the last place nothing is moved. -/
theorem shifted_past {place : Nat} (d_le : d ≤ n) (past : n < place) :
    shifted_places n d at_place place = at_place place := by
  unfold shifted_places
  rw [if_neg (by omega), if_neg (by omega), if_neg (by omega), if_neg (by omega)]

/-- Where a value comes from: it was not moved, or it was one place before. -/
theorem shifted_some {place : Nat} {value : α} (d_le : d ≤ n)
    (found : shifted_places n d at_place place = some value) :
    (at_place place = some value ∧ (place < d ∨ n ≤ place) ∧
      (place = n → d < n → at_place (n - 1) = none)) ∨
    (at_place (place - 1) = some value ∧ d < place ∧ place ≤ n) := by
  by_cases before : place < d
  · rw [shifted_before before] at found
    exact .inl ⟨found, .inl before, fun _ _ => by omega⟩
  · by_cases past : n < place
    · rw [shifted_past d_le past] at found
      exact .inl ⟨found, .inr (Nat.le_of_lt past), fun same => by omega⟩
    · by_cases same : place = d
      · subst same
        by_cases last : place = n
        · subst last
          rw [shifted_last] at found
          exact .inl ⟨found, .inr (Nat.le_refl _), fun _ d_lt => by omega⟩
        · rw [shifted_here (by omega)] at found
          cases found
      · cases held : at_place (place - 1) with
        | some moved =>
          have next : shifted_places n d at_place (place - 1 + 1) = at_place (place - 1) :=
            shifted_next (by omega) (by omega) (by rw [held]; rfl)
          rw [Nat.sub_add_cancel (by omega), found, held] at next
          exact .inr ⟨next.symm, by omega, by omega⟩
        | none =>
          by_cases last : place = n
          · subst last
            rw [shifted_kept (by omega) held] at found
            exact .inl ⟨found, .inr (Nat.le_refl _), fun _ _ => held⟩
          · have gap : shifted_places n d at_place (place - 1 + 1) = none :=
              shifted_gap (by omega) (by omega) held
            rw [Nat.sub_add_cancel (by omega), found] at gap
            cases gap

/-! ## Descending values -/

/-- The values at earlier places have a larger measure. -/
def Descending (measure : α → Nat) (at_place : Nat → Option α) : Prop :=
  ∀ i j a b, i < j → at_place i = some a → at_place j = some b → measure b < measure a

namespace Descending

variable {measure : α → Nat}

/-- A value with a larger measure is at an earlier place. -/
theorem earlier (descending : Descending measure at_place) {i j : Nat} {a b : α}
    (at_i : at_place i = some a) (at_j : at_place j = some b) (larger : measure b < measure a) :
    i < j := by
  rcases Nat.lt_trichotomy i j with before | same | after
  · exact before
  · subst same
    rw [at_i] at at_j
    cases at_j
    exact absurd larger (Nat.lt_irrefl _)
  · have smaller := descending j i b a after at_j at_i
    omega

/-- A value is at one place. -/
theorem same_place (descending : Descending measure at_place) {i j : Nat} {a : α}
    (at_i : at_place i = some a) (at_j : at_place j = some a) : i = j := by
  rcases Nat.lt_trichotomy i j with before | same | after
  · exact absurd (descending i j a a before at_i at_j) (Nat.lt_irrefl _)
  · exact same
  · exact absurd (descending j i a a after at_j at_i) (Nat.lt_irrefl _)

/-- A place that is cleared. -/
theorem cleared (descending : Descending measure at_place) (place : Nat) :
    Descending measure (Function.update at_place place none) := by
  intro i j a b before at_i at_j
  have not_i : i ≠ place := by
    rintro rfl
    rw [Function.update_self] at at_i
    cases at_i
  have not_j : j ≠ place := by
    rintro rfl
    rw [Function.update_self] at at_j
    cases at_j
  rw [Function.update_of_ne not_i] at at_i
  rw [Function.update_of_ne not_j] at at_j
  exact descending i j a b before at_i at_j

/-- The values that are shifted. -/
theorem shifted (descending : Descending measure at_place) (d_le : d ≤ n) :
    Descending measure (shifted_places n d at_place) := by
  intro i j a b before at_i at_j
  rcases shifted_some d_le at_i with ⟨at_i, place_i, -⟩ | ⟨at_i, d_lt_i, i_le⟩
  · rcases shifted_some d_le at_j with ⟨at_j, -, -⟩ | ⟨at_j, d_lt_j, j_le⟩
    · exact descending i j a b before at_i at_j
    · exact descending i (j - 1) a b (by omega) at_i at_j
  · rcases shifted_some d_le at_j with ⟨at_j, place_j, -⟩ | ⟨at_j, d_lt_j, j_le⟩
    · exact descending (i - 1) j a b (by omega) at_i at_j
    · exact descending (i - 1) (j - 1) a b (by omega) at_i at_j

/-- Where every place before `m` is taken, there are `m` values. -/
theorem values_before (descending : Descending measure at_place) (m : Nat)
    (taken : ∀ place < m, (at_place place).isSome = true) :
    ∃ values : Finset α, values.card = m ∧
      ∀ value ∈ values, ∃ place < m, at_place place = some value := by
  classical
  induction m with
  | zero => exact ⟨∅, Finset.card_empty, fun value member => by cases member⟩
  | succ m ih =>
    obtain ⟨values, card, placed⟩ := ih fun place before => taken place (by omega)
    obtain ⟨value, found⟩ := Option.isSome_iff_exists.mp (taken m (Nat.lt_succ_self m))
    have new : value ∉ values := by
      intro member
      obtain ⟨place, before, there⟩ := placed value member
      have same := descending.same_place there found
      omega
    refine ⟨insert value values, by rw [Finset.card_insert_of_notMem new, card], ?_⟩
    intro other member
    rcases Finset.mem_insert.mp member with rfl | member
    · exact ⟨m, Nat.lt_succ_self m, found⟩
    · obtain ⟨place, before, there⟩ := placed other member
      exact ⟨place, by omega, there⟩

end Descending

/-- There are no more values than places that hold them. -/
theorem card_le_places {values : Finset α} {places : Finset Nat}
    (placed : ∀ value ∈ values, ∃ place ∈ places, at_place place = some value) :
    values.card ≤ places.card := by
  classical
  have sub : values.image some ⊆ places.image at_place := by
    intro value member
    obtain ⟨held, in_values, rfl⟩ := Finset.mem_image.mp member
    obtain ⟨place, in_places, found⟩ := placed held in_values
    exact Finset.mem_image.mpr ⟨place, in_places, found⟩
  calc values.card
      = (values.image some).card :=
        (Finset.card_image_of_injective values (Option.some_injective α)).symm
    _ ≤ (places.image at_place).card := Finset.card_le_card sub
    _ ≤ places.card := Finset.card_image_le

end Captastic.Library
