import Mathlib.Data.List.Induction
import Mathlib.Data.List.Nodup
import Mathlib.Data.List.Perm.Basic
import Std.Data.ExtTreeMap

/-!
# Updates that coalesce

A queue of keyed updates may be cut down to one update a key before it is applied: a later
update takes the earlier one of its key in (`collect`).  What is left is applied in the order
of the keys.  That comes to the same as applying every update in the order it arrived where
updates of different keys commute and one that takes another in does what both do, one after
the other (`foldl_collected`).
-/

set_option autoImplicit false

namespace Captastic.Library

variable {K U S : Type} {cmp : K → K → Ordering} [Std.TransCmp cmp] [Std.LawfulEqCmp cmp]

/-! ## The entries of a map -/

section Entries

variable (m : Std.ExtTreeMap K U cmp)

/-- A map lists no key twice. -/
theorem toList_keys_nodup : (m.toList.map Prod.fst).Nodup := by
  rw [List.Nodup, List.pairwise_map]
  have distinct := Std.ExtTreeMap.distinct_keys_toList (t := m)
  refine distinct.imp ?_
  intro a b apart same
  apply apart
  rw [same]
  exact Std.ReflCmp.compare_self

/-- So it lists no entry twice. -/
theorem toList_nodup : m.toList.Nodup := (toList_keys_nodup m).of_map

variable {m}

/-- The entries of a map are one of them and those of the map without it. -/
theorem toList_perm_erase {k : K} {u : U} (found : m[k]? = some u) :
    m.toList.Perm ((k, u) :: (m.erase k).toList) := by
  apply (List.perm_ext_iff_of_nodup (toList_nodup m) ?_).mpr
  · rintro ⟨k', u'⟩
    rw [List.mem_cons, Std.ExtTreeMap.mem_toList_iff_getElem?_eq_some,
      Std.ExtTreeMap.mem_toList_iff_getElem?_eq_some, Std.ExtTreeMap.getElem?_erase]
    by_cases same : k = k'
    · subst same
      rw [if_pos Std.ReflCmp.compare_self, found]
      simp [eq_comm]
    · rw [if_neg fun equal => same (Std.LawfulEqCmp.eq_of_compare equal)]
      simp [Ne.symm same]
  · refine List.nodup_cons.mpr ⟨?_, toList_nodup _⟩
    rw [Std.ExtTreeMap.mem_toList_iff_getElem?_eq_some, Std.ExtTreeMap.getElem?_erase_self]
    intro absent
    cases absent

end Entries

/-! ## Collecting -/

/-- One update more: it takes in the one its key has. -/
def collect (key : U → K) (merge : U → U → U) (latest : Std.ExtTreeMap K U cmp) (update : U) :
    Std.ExtTreeMap K U cmp :=
  latest.insert (key update) (match latest[key update]? with
    | some previous => merge previous update
    | none => update)

/-- Every entry is a valid update under its key. -/
def Entered (key : U → K) (Valid : U → Prop) (m : Std.ExtTreeMap K U cmp) : Prop :=
  ∀ k u, m[k]? = some u → key u = k ∧ Valid u

/-- Updates of different keys commute, and one takes in the one of its key before it, as far as
they are valid and met by a good state. -/
structure Coalesces (apply : S → U → S) (key : U → K) (merge : U → U → U) (Good : S → Prop)
    (Valid : U → Prop) : Prop where
  keeps : ∀ {s u}, Good s → Valid u → Good (apply s u)
  commutes : ∀ {s u v}, Good s → Valid u → Valid v → key u ≠ key v →
    apply (apply s u) v = apply (apply s v) u
  takes_in : ∀ {s u v}, Good s → Valid u → Valid v → key u = key v →
    apply (apply s u) v = apply s (merge u v)
  merged : ∀ {u v}, Valid u → Valid v → key u = key v → Valid (merge u v) ∧
    key (merge u v) = key v

namespace Coalesces

variable {apply : S → U → S} {key : U → K} {merge : U → U → U} {Good : S → Prop}
  {Valid : U → Prop} (coalesces : Coalesces apply key merge Good Valid)

include coalesces

/-- Valid updates, applied one after the other, keep a state good. -/
theorem foldl_good {updates : List U} (valid : ∀ u ∈ updates, Valid u) {s : S} (good : Good s) :
    Good (updates.foldl apply s) := by
  induction updates generalizing s with
  | nil => exact good
  | cons u rest ih =>
    apply ih (fun v member => valid v (List.mem_cons_of_mem u member))
    exact coalesces.keeps good (valid u List.mem_cons_self)

/-- Updates of different keys may be applied in any order. -/
theorem foldl_perm {updates updates' : List U} (perm : updates.Perm updates')
    (valid : ∀ u ∈ updates, Valid u) (distinct : (updates.map key).Nodup) {s : S}
    (good : Good s) : updates.foldl apply s = updates'.foldl apply s := by
  induction perm generalizing s with
  | nil => rfl
  | cons u perm ih =>
    apply ih
    · exact fun v member => valid v (List.mem_cons_of_mem u member)
    · exact (List.nodup_cons.mp distinct).2
    · exact coalesces.keeps good (valid u List.mem_cons_self)
  | swap u v rest =>
    have apart : key v ≠ key u := by
      intro same
      apply (List.nodup_cons.mp distinct).1
      rw [same]
      exact List.mem_cons_self
    rw [List.foldl_cons, List.foldl_cons, List.foldl_cons, List.foldl_cons,
      coalesces.commutes good (valid v List.mem_cons_self)
        (valid u (List.mem_cons_of_mem _ List.mem_cons_self)) apart]
  | trans first second ih ih' =>
    rw [ih valid distinct good]
    apply ih'
    · exact fun u member => valid u (first.mem_iff.mpr member)
    · exact ((first.map key).nodup_iff).mp distinct
    · exact good

omit coalesces in
/-- An update more leaves the other keys as they are. -/
theorem erase_collect (latest : Std.ExtTreeMap K U cmp) (u : U) :
    (collect key merge latest u).erase (key u) = latest.erase (key u) := by
  apply Std.ExtTreeMap.ext_getElem?
  intro k
  unfold collect
  rw [Std.ExtTreeMap.getElem?_erase, Std.ExtTreeMap.getElem?_erase,
    Std.ExtTreeMap.getElem?_insert]
  by_cases same : cmp (key u) k = .eq
  · rw [if_pos same, if_pos same]
  · rw [if_neg same, if_neg same, if_neg same]

/-- The updates of all keys but one are applied before that one's. -/
theorem foldl_entries {m : Std.ExtTreeMap K U cmp} (entered : Entered key Valid m) {k : K} {u : U}
    (found : m[k]? = some u) {s : S} (good : Good s) :
    (m.toList.map Prod.snd).foldl apply s =
      apply (((m.erase k).toList.map Prod.snd).foldl apply s) u := by
  have entry : ∀ e ∈ m.toList, key e.2 = e.1 ∧ Valid e.2 := by
    rintro ⟨k', u'⟩ member
    exact entered k' u' (Std.ExtTreeMap.mem_toList_iff_getElem?_eq_some.mp member)
  have keys : (m.toList.map Prod.snd).map key = m.toList.map Prod.fst := by
    rw [List.map_map]
    apply List.map_congr_left
    intro e member
    exact (entry e member).1
  have perm : (m.toList.map Prod.snd).Perm ((m.erase k).toList.map Prod.snd ++ [u]) := by
    refine ((toList_perm_erase found).map Prod.snd).trans ?_
    rw [List.map_cons]
    exact (List.perm_append_singleton u _).symm
  rw [coalesces.foldl_perm perm ?_ ?_ good, List.foldl_append]
  · rfl
  · intro v member
    obtain ⟨e, listed, rfl⟩ := List.mem_map.mp member
    exact (entry e listed).2
  · rw [keys]
    exact toList_keys_nodup m

omit coalesces [Std.LawfulEqCmp cmp] in
/-- What one update more is collected to. -/
theorem collect_self (latest : Std.ExtTreeMap K U cmp) (u : U) :
    (collect key merge latest u)[key u]? = some (match latest[key u]? with
      | some previous => merge previous u
      | none => u) :=
  Std.ExtTreeMap.getElem?_insert_self

/-- Collecting a valid update leaves every entry under its own key, and valid. -/
theorem entered_collect {latest : Std.ExtTreeMap K U cmp} (entered : Entered key Valid latest)
    {u : U} (valid : Valid u) : Entered key Valid (collect key merge latest u) := by
  intro k v found
  by_cases same : key u = k
  · subst same
    rw [collect_self] at found
    cases found
    cases previous : latest[key u]? with
    | none => exact ⟨rfl, valid⟩
    | some p =>
      obtain ⟨same, valid'⟩ := entered _ _ previous
      exact (coalesces.merged valid' valid same).symm
  · apply entered k v
    rwa [collect, Std.ExtTreeMap.getElem?_insert,
      if_neg fun equal => same (Std.LawfulEqCmp.eq_of_compare equal)] at found

/-- What is collected, applied in the order of the keys, is what arrived, applied as it
arrived. -/
theorem foldl_collected {updates : List U} (valid : ∀ u ∈ updates, Valid u) {s : S}
    (good : Good s) :
    let latest := updates.foldl (collect key merge) (∅ : Std.ExtTreeMap K U cmp)
    Entered key Valid latest ∧
      (latest.toList.map Prod.snd).foldl apply s = updates.foldl apply s := by
  intro latest
  unfold latest
  induction updates using List.reverseRecOn with
  | nil =>
    constructor
    · intro k u found
      rw [List.foldl_nil, Std.ExtTreeMap.getElem?_empty] at found
      cases found
    · have empty : (∅ : Std.ExtTreeMap K U cmp).toList = [] := by
        rw [← List.isEmpty_iff, Std.ExtTreeMap.isEmpty_toList]
        rfl
      rw [List.foldl_nil, empty]
      rfl
  | append_singleton updates u ih =>
    have valid_u : Valid u := valid u (by simp)
    obtain ⟨entered, same⟩ := ih fun v member => valid v (List.mem_append_left _ member)
    rw [List.foldl_append, List.foldl_append, List.foldl_cons, List.foldl_nil, List.foldl_cons,
      List.foldl_nil, ← same]
    generalize updates.foldl (collect key merge) (∅ : Std.ExtTreeMap K U cmp) = latest at entered ⊢
    have entered' := coalesces.entered_collect entered valid_u
    refine ⟨entered', ?_⟩
    rw [coalesces.foldl_entries entered' (collect_self latest u) good, erase_collect]
    have rest_good : Good (((latest.erase (key u)).toList.map Prod.snd).foldl apply s) := by
      apply coalesces.foldl_good ?_ good
      intro v member
      obtain ⟨⟨k, v⟩, listed, rfl⟩ := List.mem_map.mp member
      have found := Std.ExtTreeMap.mem_toList_iff_getElem?_eq_some.mp listed
      rw [Std.ExtTreeMap.getElem?_erase] at found
      split at found
      · cases found
      · exact (entered k v found).2
    cases previous : latest[key u]? with
    | none =>
      have absent : latest.erase (key u) = latest := by
        apply Std.ExtTreeMap.ext_getElem?
        intro k
        rw [Std.ExtTreeMap.getElem?_erase]
        split
        · rename_i equal
          rw [← Std.LawfulEqCmp.eq_of_compare equal, previous]
        · rfl
      rw [absent]
    | some p =>
      obtain ⟨same_key, valid_p⟩ := entered _ _ previous
      rw [coalesces.foldl_entries entered previous good]
      exact (coalesces.takes_in rest_good valid_p valid_u same_key).symm

end Coalesces

end Captastic.Library
