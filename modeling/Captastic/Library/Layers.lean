import Mathlib.Order.Lattice
import Mathlib.Data.List.Basic
import Mathlib.Tactic.Cases

/-!
# Layers painted over each other

Painting a list of layers in order leaves, at each point, the value of the last layer that
covers it, and the base where none does.  Where the layers are painted by falling keys that
are all different, the last one is the one of least key (`layered_of_shown`), so what shows
does not depend on the order the layers were listed in.
-/

set_option autoImplicit false

namespace Captastic.Library

variable {ι P V K : Type} (covers : ι → P → Prop) [∀ i p, Decidable (covers i p)]
  (value : ι → P → V)

/-- What a point shows after the layers of a list are painted over `base`, in order. -/
def layered (layers : List ι) (base : V) (p : P) : V :=
  layers.foldl (fun below layer => if covers layer p then value layer p else below) base

/-- The layer of least key among those that cover a point. -/
def Shown [LE K] (key : ι → K) (layers : List ι) (p : P) (layer : ι) : Prop :=
  layer ∈ layers ∧ covers layer p ∧ ∀ other ∈ layers, covers other p → key layer ≤ key other

variable {covers value}

/-- Where no layer covers the point, the base shows. -/
theorem layered_of_uncovered {layers : List ι} {p : P}
    (uncovered : ∀ layer ∈ layers, ¬ covers layer p) (base : V) :
    layered covers value layers base p = base := by
  induction layers with
  | nil => rfl
  | cons first rest ih =>
    unfold layered
    rw [List.foldl_cons, if_neg (uncovered first (by simp))]
    exact ih fun layer member => uncovered layer (by simp [member])

/-- **Painter's order**: of layers painted by falling keys, the least covering one shows. -/
theorem layered_of_shown [PartialOrder K] {key : ι → K} {layers : List ι}
    (falling : layers.Pairwise fun a b => key b < key a) {p : P} {layer : ι}
    (shown : Shown covers key layers p layer) (base : V) :
    layered covers value layers base p = value layer p := by
  induction layers generalizing base with
  | nil => cases shown.1
  | cons first rest ih =>
    obtain ⟨member, covered, least⟩ := shown
    rw [List.pairwise_cons] at falling
    unfold layered
    rw [List.foldl_cons]
    rcases List.mem_cons.mp member with rfl | later
    · rw [if_pos covered]
      apply layered_of_uncovered
      intro other other_later other_covers
      have below := falling.1 other other_later
      exact absurd below (least other (by simp [other_later]) other_covers).not_gt
    · exact ih falling.2 ⟨later, covered, fun other h => least other (by simp [h])⟩ _

/-- Where a layer covers the point, one shows. -/
theorem exists_shown [LinearOrder K] (key : ι → K) {layers : List ι} {p : P}
    (covered : ∃ layer ∈ layers, covers layer p) : ∃ layer, Shown covers key layers p layer := by
  induction layers with
  | nil =>
    obtain ⟨layer, member, -⟩ := covered
    cases member
  | cons first rest ih =>
    by_cases later : ∃ layer ∈ rest, covers layer p
    · obtain ⟨least, member, covers_p, below⟩ := ih later
      by_cases first_shows : covers first p ∧ key first ≤ key least
      · refine ⟨first, by simp, first_shows.1, ?_⟩
        intro other other_member other_covers
        rcases List.mem_cons.mp other_member with rfl | in_rest
        · exact le_rfl
        · exact first_shows.2.trans (below other in_rest other_covers)
      · refine ⟨least, by simp [member], covers_p, ?_⟩
        intro other other_member other_covers
        rcases List.mem_cons.mp other_member with rfl | in_rest
        · exact (not_le.mp fun first_le => first_shows ⟨other_covers, first_le⟩).le
        · exact below other in_rest other_covers
    · obtain ⟨layer, member, covers_p⟩ := covered
      rcases List.mem_cons.mp member with rfl | in_rest
      · refine ⟨layer, by simp, covers_p, ?_⟩
        intro other other_member other_covers
        rcases List.mem_cons.mp other_member with rfl | other_in_rest
        · exact le_rfl
        · exact absurd ⟨other, other_in_rest, other_covers⟩ later
      · exact absurd ⟨layer, in_rest, covers_p⟩ later

omit [∀ i p, Decidable (covers i p)] in
/-- What shows is a matter of which layers there are, not of their order. -/
theorem Shown.of_perm [LE K] {key : ι → K} {layers layers' : List ι} (perm : layers.Perm layers')
    {p : P} {layer : ι} (shown : Shown covers key layers p layer) :
    Shown covers key layers' p layer :=
  ⟨perm.mem_iff.mp shown.1, shown.2.1, fun other h => shown.2.2 other (perm.mem_iff.mpr h)⟩

end Captastic.Library
