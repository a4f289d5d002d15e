import Captastic.Model.Display
import Mathlib.Data.List.Nodup

/-!
# The questions asked of a topology

What a valid topology answers about a point, a rectangle and the desktop depends on its
displays only, not on their order (`display_queries`): displays are told apart by their
identifiers, so each choice has one top; the union of all bounds is the least box that covers
them, whatever order it is built in.

A `DesktopBox` is a rectangle of any integer edges, so the least cover always exists, and the code's
answer is that box exactly when a `Rect` can hold it.
-/

set_option autoImplicit false

namespace Captastic.Analysis

open Captastic.Library Captastic.Model

/-! ## Valid topologies -/

section Valid

variable {S : Type} [ScaleFactor S]

/-- What the checks ask of each display on its own.
SRC: display.rs:183-216 -/
structure Attachable (display : DisplayInfo S) : Prop where
  named : is_blank display.id = false
  bounds : display.bounds.NonEmpty
  rotation : is_quarter_turn display.rotation_degrees = true
  finite : ScaleFactor.is_finite display.scale_factor = true
  positive : ScaleFactor.at_most_zero display.scale_factor = false

/-- The checks of one display, one after the other. -/
theorem check_displays_cons_ok {ids : List DisplayId} {display : DisplayInfo S}
    {displays : List (DisplayInfo S)} :
    check_displays ids (display :: displays) = .ok () ↔
      (display.id ∉ ids ∧ Attachable display) ∧
        check_displays (display.id :: ids) displays = .ok () := by
  constructor
  · intro valid
    unfold check_displays at valid
    split at valid
    · cases valid
    · rename_i named
      split at valid
      · cases valid
      · rename_i fresh
        split at valid
        · cases valid
        · rename_i sides
          split at valid
          · cases valid
          · rename_i rotation
            split at valid
            · cases valid
            · rename_i scale
              rw [Bool.or_eq_true, not_or] at scale
              refine ⟨⟨fresh, ?_⟩, valid⟩
              refine ⟨by simpa using named, ?_, by simpa using rotation, by simpa using scale.1,
                by simpa using scale.2⟩
              unfold Rect.NonEmpty
              omega
  · rintro ⟨⟨fresh, ⟨named, bounds, rotation, finite, positive⟩⟩, valid⟩
    unfold Rect.NonEmpty at bounds
    unfold check_displays
    rw [if_neg (by simp [named]), if_neg fresh, if_neg (by omega), if_neg (by simp [rotation]),
      if_neg (by simp [finite, positive])]
    exact valid

/-- The checks pass exactly where the identifiers differ and each display can be attached.
SRC: display.rs:182-218 -/
theorem check_displays_ok_iff {ids : List DisplayId} {displays : List (DisplayInfo S)} :
    check_displays ids displays = .ok () ↔
      (displays.map DisplayInfo.id).Nodup ∧ (∀ display ∈ displays, display.id ∉ ids) ∧
        ∀ display ∈ displays, Attachable display := by
  induction displays generalizing ids with
  | nil => simp [check_displays]
  | cons display displays ih =>
    rw [check_displays_cons_ok, ih, List.map_cons, List.nodup_cons]
    constructor
    · rintro ⟨⟨fresh, attachable⟩, nodup, others, rest⟩
      refine ⟨⟨?_, nodup⟩, ?_, List.forall_mem_cons.mpr ⟨attachable, rest⟩⟩
      · intro member
        obtain ⟨other, other_member, id_eq⟩ := List.mem_map.mp member
        exact others other other_member (by rw [id_eq]; exact List.mem_cons_self)
      · refine List.forall_mem_cons.mpr ⟨fresh, ?_⟩
        exact fun other member seen => others other member (List.mem_cons_of_mem _ seen)
    · rintro ⟨⟨first, nodup⟩, fresh, attachable⟩
      obtain ⟨fresh, others⟩ := List.forall_mem_cons.mp fresh
      obtain ⟨attachable, rest⟩ := List.forall_mem_cons.mp attachable
      refine ⟨⟨fresh, attachable⟩, nodup, ?_, rest⟩
      intro other member seen
      rcases List.mem_cons.mp seen with same | seen
      · exact first (List.mem_map.mpr ⟨other, member, same⟩)
      · exact others other member seen

/-- A topology has the displays it is made of, as they are. -/
theorem new_keeps {generation : Nat} {displays : List (DisplayInfo S)}
    {topology : DisplayTopology S} (made : DisplayTopology.new generation displays = .ok topology) :
    topology.generation = generation ∧ topology.displays = displays := by
  unfold DisplayTopology.new at made
  split at made
  · cases made
  · cases made
    exact ⟨rfl, rfl⟩

/-- A topology is made exactly where the identifiers differ and each display can be attached.
SRC: display.rs:181-223 -/
theorem new_ok_iff {generation : Nat} {displays : List (DisplayInfo S)} :
    (∃ topology, DisplayTopology.new generation displays = .ok topology) ↔
      (displays.map DisplayInfo.id).Nodup ∧ ∀ display ∈ displays, Attachable display := by
  have checks : check_displays [] displays = .ok () ↔ _ := check_displays_ok_iff
  simp only [List.not_mem_nil, not_false_eq_true, implies_true, true_and] at checks
  rw [← checks]
  constructor
  · rintro ⟨topology, made⟩
    exact (new_keeps made).2 ▸ topology.valid
  · intro valid
    refine ⟨⟨generation, displays, valid⟩, ?_⟩
    unfold DisplayTopology.new
    split
    · rename_i refused
      cases valid.symm.trans refused
    · rfl

/-- The displays make a topology in every order or in none. -/
theorem new_ok_perm {generation : Nat} {displays displays' : List (DisplayInfo S)}
    (perm : displays.Perm displays') :
    (∃ topology, DisplayTopology.new generation displays = .ok topology) ↔
      ∃ topology, DisplayTopology.new generation displays' = .ok topology := by
  rw [new_ok_iff, new_ok_iff, (perm.map DisplayInfo.id).nodup_iff]
  exact and_congr_right fun _ => forall_congr' fun display => by rw [perm.mem_iff]

/-- Displays of a topology with one identifier are one display. -/
theorem eq_of_id_eq (topology : DisplayTopology S) {a b : DisplayInfo S}
    (ha : a ∈ topology.displays) (hb : b ∈ topology.displays) (id_eq : a.id = b.id) : a = b :=
  List.inj_on_of_nodup_map (check_displays_ok_iff.mp topology.valid).1 ha hb id_eq

end Valid

/-! ## Intersections -/

/-- Two rectangles share a pixel. -/
def SharePixel (r s : Rect) : Prop := ∃ x y, r.contains x y ∧ s.contains x y

/-- How many pixels two rectangles share, as the code counts them. -/
def overlap (r s : Rect) : Nat := ((r.intersection s).map Rect.area).getD 0

/-- **Intersections exist** exactly where a pixel is shared: none is lost to the ranges of
the fields. -/
theorem intersection_isSome_iff_share_pixel (r s : Rect) : (∃ t, r.intersection s = some t) ↔ SharePixel r s := by
  constructor
  · rintro ⟨t, found⟩
    have pixel := (Rect.intersection_eq_some found).2.2.2.2
    have inside := (Rect.contains_intersection found t.x t.y).mp (by
      simp only [Rect.contains, Rect.right, Rect.bottom, Rect.NonEmpty] at *
      omega)
    exact ⟨t.x, t.y, inside⟩
  · rintro ⟨x, y, in_r, in_s⟩
    cases found : r.intersection s with
    | some t => exact ⟨t, rfl⟩
    | none => exact absurd in_s (Rect.not_contains_of_intersection_eq_none found x y in_r)

/-- The area of an intersection, where there is one, is not zero. -/
theorem overlap_of_intersection {r s t : Rect} (found : r.intersection s = some t) :
    overlap r s = t.area ∧ 0 < t.area := by
  have pixel := (Rect.intersection_eq_some found).2.2.2.2
  unfold overlap Rect.area
  rw [found]
  exact ⟨rfl, Nat.mul_pos pixel.1 pixel.2⟩

/-- Rectangles that do not meet have no pixel in common. -/
theorem overlap_eq_zero {r s : Rect} (found : r.intersection s = none) : overlap r s = 0 := by
  unfold overlap
  rw [found]
  rfl

section Choices

variable {S : Type}

/-- The candidates are the displays that the rectangle meets, with what they share. -/
theorem mem_candidates {displays : List (DisplayInfo S)} {bounds : Rect} {display : DisplayInfo S}
    {area : Nat} : (display, area) ∈ DisplayTopology.candidates displays bounds ↔
      display ∈ displays ∧ SharePixel display.bounds bounds ∧ area = overlap display.bounds bounds := by
  unfold DisplayTopology.candidates
  rw [List.mem_filterMap]
  constructor
  · rintro ⟨other, member, found⟩
    obtain ⟨t, intersection, pair⟩ := Option.map_eq_some_iff.mp found
    cases pair
    exact ⟨member, (intersection_isSome_iff_share_pixel _ _).mp ⟨t, intersection⟩,
      (overlap_of_intersection intersection).1.symm⟩
  · rintro ⟨member, meets, rfl⟩
    obtain ⟨t, intersection⟩ := (intersection_isSome_iff_share_pixel _ _).mpr meets
    refine ⟨display, member, ?_⟩
    rw [intersection, (overlap_of_intersection intersection).1]
    rfl

/-! ## Choices among displays -/

instance : Std.TransCmp fun left right : DisplayInfo S => compare left.id right.id :=
  inferInstanceAs (Std.TransCmp (compareOn DisplayInfo.id))

instance : Std.TransCmp fun left right : DisplayInfo S × Nat => compare left.1.id right.1.id :=
  inferInstanceAs (Std.TransCmp (compareOn fun candidate : DisplayInfo S × Nat => candidate.1.id))

instance : Std.TransCmp (DisplayTopology.compare_candidates (S := S)) :=
  inferInstanceAs (Std.TransCmp (compareLex (compareOn Prod.snd)
    fun left right => compareOn (fun candidate : DisplayInfo S × Nat => candidate.1.id) right left))

/-- A candidate is below one that shares more, or as much under an identifier that comes first. -/
theorem isLE_compare_candidates {left right : DisplayInfo S × Nat} :
    (DisplayTopology.compare_candidates left right).isLE = true ↔
      left.2 < right.2 ∨ left.2 = right.2 ∧ (compare right.1.id left.1.id).isLE = true := by
  unfold DisplayTopology.compare_candidates
  rcases Nat.lt_trichotomy left.2 right.2 with lt | eq | gt
  · rw [Nat.compare_eq_lt.mpr lt]
    simp [lt]
  · rw [eq, Nat.compare_eq_eq.mpr rfl]
    simp
  · rw [Nat.compare_eq_gt.mpr gt]
    simp only [Ordering.gt_then]
    constructor
    · intro le
      cases le
    · omega

/-- A display of largest intersection, the smallest identifier among those tied. -/
structure Largest (displays : List (DisplayInfo S)) (bounds : Rect) (display : DisplayInfo S) :
    Prop where
  member : display ∈ displays
  meets : SharePixel display.bounds bounds
  most : ∀ other ∈ displays, overlap other.bounds bounds ≤ overlap display.bounds bounds
  first : ∀ other ∈ displays, overlap other.bounds bounds = overlap display.bounds bounds →
    (compare display.id other.id).isLE = true

/-- SRC: display.rs:256-274 -/
theorem largest_of_top {displays : List (DisplayInfo S)} {bounds : Rect} {display : DisplayInfo S}
    {area : Nat}
    (top : IsTop (fun a b => (DisplayTopology.compare_candidates a b).isLE = true)
      (DisplayTopology.candidates displays bounds) (display, area)) :
    Largest displays bounds display := by
  obtain ⟨member, meets, rfl⟩ := mem_candidates.mp top.1
  obtain ⟨t, intersection⟩ := (intersection_isSome_iff_share_pixel _ _).mpr meets
  have positive := overlap_of_intersection intersection
  have compared : ∀ other ∈ displays, SharePixel other.bounds bounds →
      overlap other.bounds bounds < overlap display.bounds bounds ∨
        overlap other.bounds bounds = overlap display.bounds bounds ∧
          (compare display.id other.id).isLE = true := by
    intro other other_member other_meets
    exact isLE_compare_candidates.mp
      (top.2 (other, _) (mem_candidates.mpr ⟨other_member, other_meets, rfl⟩))
  have apart : ∀ other : DisplayInfo S, ¬ SharePixel other.bounds bounds →
      overlap other.bounds bounds = 0 := by
    intro other other_apart
    refine overlap_eq_zero ?_
    cases found : other.bounds.intersection bounds with
    | none => rfl
    | some t => exact absurd ((intersection_isSome_iff_share_pixel _ _).mp ⟨t, found⟩) other_apart
  refine ⟨member, meets, ?_, ?_⟩
  · intro other other_member
    by_cases other_meets : SharePixel other.bounds bounds
    · have := compared other other_member other_meets
      omega
    · rw [apart other other_meets]
      exact Nat.zero_le _
  · intro other other_member tied
    by_cases other_meets : SharePixel other.bounds bounds
    · rcases compared other other_member other_meets with less | ⟨-, le⟩
      · omega
      · exact le
    · have := apart other other_meets
      omega

/-- The candidates of the greatest area, of which the overlay picks one.
SRC: window_enumeration.rs:194-195 -/
theorem retained_top {displays : List (DisplayInfo S)} {bounds : Rect} {maximum_area : Nat}
    {best : DisplayInfo S × Nat}
    (greatest : ((DisplayTopology.candidates displays bounds).map Prod.snd).max? = some maximum_area)
    (top : IsTop (fun a b : DisplayInfo S × Nat => (compare b.1.id a.1.id).isLE = true)
      ((DisplayTopology.candidates displays bounds).filter fun candidate =>
        candidate.2 = maximum_area) best) :
    IsTop (fun a b => (DisplayTopology.compare_candidates a b).isLE = true)
      (DisplayTopology.candidates displays bounds) best := by
  obtain ⟨member, area_eq⟩ := List.mem_filter.mp top.1
  have area_eq : best.2 = maximum_area := by simpa using area_eq
  refine ⟨member, ?_⟩
  intro other other_member
  rw [isLE_compare_candidates]
  have le : other.2 ≤ maximum_area :=
    (List.max?_eq_some_iff.mp greatest).2 _ (List.mem_map_of_mem other_member)
  by_cases tied : other.2 = maximum_area
  · refine .inr ⟨tied.trans area_eq.symm, ?_⟩
    exact top.2 other (List.mem_filter.mpr ⟨other_member, by simpa using tied⟩)
  · refine .inl ?_
    omega

/-- Whatever the native answer is, the owner is a display of the topology.
SRC: window_enumeration.rs:181-209 -/
theorem owning_display_id_mem {bounds : Rect} {native : Option DisplayId}
    {displays : List (DisplayInfo S)} {owner : DisplayId}
    (owned : owning_display_id bounds native displays = some owner) :
    ∃ display ∈ displays, display.id = owner := by
  unfold owning_display_id at owned
  simp only at owned
  split at owned
  · cases owned
  · rename_i maximum_area greatest
    split at owned
    · rename_i display area found
      obtain ⟨native_id, -, found⟩ := Option.bind_eq_some_iff.mp found
      have member := (List.mem_filter.mp (List.mem_of_find?_eq_some found)).1
      exact ⟨display, (mem_candidates.mp member).1, Option.some.inj owned⟩
    · obtain ⟨⟨display, area⟩, found, id_eq⟩ := Option.map_eq_some_iff.mp owned
      have member := (List.mem_filter.mp (min_by_top _ _ found).1).1
      exact ⟨display, (mem_candidates.mp member).1, id_eq⟩

end Choices

/-! ## What a topology answers -/

section Answers

variable {S : Type} [ScaleFactor S] (topology : DisplayTopology S)

/-- No two displays of a topology have one identifier. -/
theorem separates_displays {displays : List (DisplayInfo S)}
    (from_topology : ∀ display ∈ displays, display ∈ topology.displays) :
    Separates (fun left right => compare left.id right.id) displays := by
  intro a ha b hb same
  exact eq_of_id_eq topology (from_topology a ha) (from_topology b hb)
    (Std.LawfulEqCmp.compare_eq_iff_eq.mp same)

/-- So no two candidates compare equal. -/
theorem separates_candidates (bounds : Rect) :
    Separates DisplayTopology.compare_candidates
      (DisplayTopology.candidates topology.displays bounds) := by
  rintro ⟨a, area_a⟩ ha ⟨b, area_b⟩ hb same
  unfold DisplayTopology.compare_candidates at same
  obtain ⟨area_eq, id_eq⟩ := Ordering.then_eq_eq.mp same
  have area_eq := Nat.compare_eq_eq.mp area_eq
  have id_eq := Std.LawfulEqCmp.compare_eq_iff_eq.mp id_eq
  rw [eq_of_id_eq topology (mem_candidates.mp ha).1 (mem_candidates.mp hb).1 id_eq.symm]
  simp only at area_eq
  rw [area_eq]

/-- The display of largest intersection is the only one. -/
theorem Largest.unique {bounds : Rect} {a b : DisplayInfo S}
    (ha : Largest topology.displays bounds a) (hb : Largest topology.displays bounds b) : a = b := by
  have tied : overlap a.bounds bounds = overlap b.bounds bounds :=
    Nat.le_antisymm (hb.most a ha.member) (ha.most b hb.member)
  have same := eq_of_isLE (ha.first b hb.member tied.symm) (hb.first a ha.member tied)
  exact eq_of_id_eq topology ha.member hb.member (Std.LawfulEqCmp.compare_eq_iff_eq.mp same)

/-- **The largest intersection**: some display exactly when one meets the rectangle, and then
the largest, first by identifier.
SRC: display.rs:256-274 -/
theorem largest_intersection_spec (bounds : Rect) :
    ((∃ display, topology.largest_intersection bounds = some display) ↔
      ∃ display ∈ topology.displays, SharePixel display.bounds bounds) ∧
    ∀ display, topology.largest_intersection bounds = some display ↔
      Largest topology.displays bounds display := by
  have spec : ∀ display, topology.largest_intersection bounds = some display →
      Largest topology.displays bounds display := by
    intro display found
    obtain ⟨⟨other, area⟩, top, rfl⟩ := Option.map_eq_some_iff.mp found
    exact largest_of_top (max_by_top _ _ top)
  have exist : (∃ display ∈ topology.displays, SharePixel display.bounds bounds) →
      ∃ display, topology.largest_intersection bounds = some display := by
    rintro ⟨display, member, meets⟩
    have listed : (display, _) ∈ DisplayTopology.candidates topology.displays bounds :=
      mem_candidates.mpr ⟨member, meets, rfl⟩
    cases found : topology.largest_intersection bounds with
    | some other => exact ⟨other, rfl⟩
    | none =>
      have none_eq := Option.map_eq_none_iff.mp found
      have nil := pick_eq_none_iff.mp none_eq
      rw [nil] at listed
      cases listed
  refine ⟨⟨?_, exist⟩, ?_⟩
  · rintro ⟨display, found⟩
    exact ⟨display, (spec display found).member, (spec display found).meets⟩
  · intro display
    refine ⟨spec display, ?_⟩
    intro largest
    obtain ⟨other, found⟩ := exist ⟨display, largest.member, largest.meets⟩
    rw [found, largest.unique topology (spec other found)]

/-- **The owner of a window**, without a native answer, is the display of largest
intersection.
SRC: window_enumeration.rs:181-209 -/
theorem owning_display_id_eq (bounds : Rect) :
    owning_display_id bounds none topology.displays =
      (topology.largest_intersection bounds).map DisplayInfo.id := by
  unfold owning_display_id
  simp only [Option.bind_none]
  cases greatest : ((DisplayTopology.candidates topology.displays bounds).map Prod.snd).max? with
  | none =>
    have nil := List.map_eq_nil_iff.mp (List.max?_eq_none_iff.mp greatest)
    unfold DisplayTopology.largest_intersection
    rw [nil]
    rfl
  | some maximum_area =>
    simp only
    obtain ⟨some_eq, -⟩ := List.max?_eq_some_iff.mp greatest
    obtain ⟨listed, listed_member, listed_area⟩ := List.mem_map.mp some_eq
    cases picked : min_by (fun left right : DisplayInfo S × Nat => compare left.1.id right.1.id)
      ((DisplayTopology.candidates topology.displays bounds).filter fun candidate =>
        candidate.2 = maximum_area) with
    | none =>
      have nil := pick_eq_none_iff.mp picked
      have retained : listed ∈ (DisplayTopology.candidates topology.displays bounds).filter
          fun candidate => candidate.2 = maximum_area :=
        List.mem_filter.mpr ⟨listed_member, by simpa using listed_area⟩
      rw [nil] at retained
      cases retained
    | some best =>
      have top := retained_top greatest (min_by_top _ _ picked)
      rw [((largest_intersection_spec topology bounds).2 best.1).mpr (largest_of_top top)]
      rfl

/-- A window that meets a display has an owner. -/
theorem owning_display_id_isSome {bounds : Rect} (native : Option DisplayId)
    (shares : ∃ display ∈ topology.displays, SharePixel display.bounds bounds) :
    ∃ owner, owning_display_id bounds native topology.displays = some owner := by
  obtain ⟨display, found⟩ := (largest_intersection_spec topology bounds).1.mpr shares
  have unaided := owning_display_id_eq topology bounds
  rw [found] at unaided
  unfold owning_display_id at unaided ⊢
  simp only at unaided ⊢
  cases greatest : ((DisplayTopology.candidates topology.displays bounds).map Prod.snd).max? with
  | none =>
    rw [greatest] at unaided
    cases unaided
  | some maximum_area =>
    rw [greatest] at unaided
    simp only [Option.bind_none] at unaided ⊢
    split
    · exact ⟨_, rfl⟩
    · exact ⟨_, unaided⟩

/-- **One display offers a window**: exactly one of those attached owns it, if it meets any. -/
theorem owned_by_one (bounds : Rect) (native : Option DisplayId)
    (shares : ∃ display ∈ topology.displays, SharePixel display.bounds bounds) :
    ∃! display, display ∈ topology.displays ∧
      owning_display_id bounds native topology.displays = some display.id := by
  obtain ⟨owner, owned⟩ := owning_display_id_isSome topology native shares
  obtain ⟨display, member, rfl⟩ := owning_display_id_mem owned
  refine ⟨display, ⟨member, owned⟩, ?_⟩
  rintro other ⟨other_member, other_owned⟩
  rw [owned] at other_owned
  exact eq_of_id_eq topology other_member member (Option.some.inj other_owned).symm

/-- **The display under a point**: some exactly when one contains it, and then one that does.
SRC: display.rs:249-254 -/
theorem containing_point_spec (x y : Int) :
    ((∃ display, topology.containing_point x y = some display) ↔
      ∃ display ∈ topology.displays, display.bounds.contains x y) ∧
    ∀ display, topology.containing_point x y = some display →
      display ∈ topology.displays ∧ display.bounds.contains x y := by
  have spec : ∀ display, topology.containing_point x y = some display →
      display ∈ topology.displays ∧ display.bounds.contains x y := by
    intro display found
    obtain ⟨member, contains⟩ := List.mem_filter.mp (min_by_top _ _ found).1
    exact ⟨member, by simpa using contains⟩
  refine ⟨⟨?_, ?_⟩, spec⟩
  · rintro ⟨display, found⟩
    exact ⟨display, (spec display found).1, (spec display found).2⟩
  · rintro ⟨display, member, contains⟩
    cases found : topology.containing_point x y with
    | some other => exact ⟨other, rfl⟩
    | none =>
      have nil := pick_eq_none_iff.mp found
      have listed : display ∈ topology.displays.filter fun display =>
          decide (display.bounds.contains x y) := List.mem_filter.mpr ⟨member, by simpa using contains⟩
      rw [nil] at listed
      cases listed

end Answers

/-! ## The desktop's bounds -/

/-- A rectangle of any integer edges. -/
structure DesktopBox where
  left : Int
  top : Int
  right : Int
  bottom : Int

/-- A box has these pixels among its own. -/
def DesktopBox.Covers (box : DesktopBox) (r : Rect) : Prop :=
  box.left ≤ r.x ∧ box.top ≤ r.y ∧ r.right ≤ box.right ∧ r.bottom ≤ box.bottom

/-- The least of the boxes that cover all of these rectangles. -/
structure LeastCover (rects : List Rect) (box : DesktopBox) : Prop where
  covers : ∀ r ∈ rects, box.Covers r
  least : ∀ other : DesktopBox, (∀ r ∈ rects, other.Covers r) →
    other.left ≤ box.left ∧ other.top ≤ box.top ∧ box.right ≤ other.right ∧
      box.bottom ≤ other.bottom

/-- A rectangle with the edges of a box. -/
def DesktopBox.IsRect (box : DesktopBox) (r : Rect) : Prop :=
  r.x = box.left ∧ r.y = box.top ∧ r.right = box.right ∧ r.bottom = box.bottom

/-- Replacing two rectangles by their union changes no cover. -/
theorem covers_union {r s t : Rect} (found : r.union s = some t) (box : DesktopBox) :
    box.Covers t ↔ box.Covers r ∧ box.Covers s := by
  obtain ⟨x_eq, y_eq, width_eq, height_eq⟩ := Rect.try_new_eq_some found
  simp only [DesktopBox.Covers, Rect.right, Rect.bottom] at *
  omega

/-- Two rectangles have a union, unless no rectangle covers both. -/
theorem union_of_covers {r s t : Rect} {box : DesktopBox} (is_rect : box.IsRect t)
    (covers : box.Covers r ∧ box.Covers s) : ∃ u, r.union s = some u := by
  have r_ranges := r.ranges
  have s_ranges := s.ranges
  have t_ranges := t.ranges
  simp only [DesktopBox.IsRect, DesktopBox.Covers, Rect.right, Rect.bottom] at *
  unfold Rect.union
  simp only [Rect.right, Rect.bottom]
  rw [Rect.try_new_of_range (by omega) (by omega)]
  exact ⟨_, rfl⟩

/-- **The union of all bounds** is the least cover, wherever a `Rect` can hold it.
SRC: display.rs:276-280 -/
theorem foldlM_union_eq_some_iff (first : Rect) (rest : List Rect) {box : DesktopBox}
    (least : LeastCover (first :: rest) box) (r : Rect) :
    rest.foldlM Rect.union first = some r ↔ box.IsRect r := by
  induction rest generalizing first with
  | nil =>
    have covers := least.covers first (by simp)
    have tight := least.least ⟨first.x, first.y, first.right, first.bottom⟩ (by
      intro s member
      rw [List.mem_singleton.mp member]
      simp only [DesktopBox.Covers, Int.le_refl, and_self])
    simp only [DesktopBox.Covers] at covers
    simp only at tight
    constructor
    · intro same
      obtain rfl : first = r := Option.some.inj same
      simp only [DesktopBox.IsRect]
      omega
    · intro is_rect
      refine congrArg some (Rect.ext_fields ?_ ?_ ?_ ?_) <;>
        (simp only [DesktopBox.IsRect, Rect.right, Rect.bottom] at *; omega)
  | cons second rest ih =>
    rw [List.foldlM_cons]
    cases joined : first.union second with
    | none =>
      constructor
      · intro found
        cases found
      · intro is_rect
        obtain ⟨u, found⟩ := union_of_covers is_rect
          ⟨least.covers first (by simp), least.covers second (by simp)⟩
        rw [joined] at found
        cases found
    | some u =>
      refine ih u ⟨?_, ?_⟩
      · intro s member
        rcases List.mem_cons.mp member with rfl | member
        · exact (covers_union joined box).mpr
            ⟨least.covers first (by simp), least.covers second (by simp)⟩
        · exact least.covers s (by simp [member])
      · intro other covers
        refine least.least other ?_
        have both := (covers_union joined other).mp (covers u (by simp))
        intro s member
        rcases List.mem_cons.mp member with rfl | member
        · exact both.1
        · rcases List.mem_cons.mp member with rfl | member
          · exact both.2
          · exact covers s (by simp [member])

/-- Some rectangles have a least cover. -/
theorem least_cover_exists (first : Rect) (rest : List Rect) :
    ∃ box, LeastCover (first :: rest) box := by
  induction rest with
  | nil =>
    refine ⟨⟨first.x, first.y, first.right, first.bottom⟩, ?_, ?_⟩
    · intro r member
      rw [List.mem_singleton.mp member]
      simp only [DesktopBox.Covers, Int.le_refl, and_self]
    · intro other covers
      exact covers first (by simp)
  | cons second rest ih =>
    obtain ⟨box, covers, least⟩ := ih
    refine ⟨⟨min box.left second.x, min box.top second.y, max box.right second.right,
      max box.bottom second.bottom⟩, ?_, ?_⟩
    · intro r member
      have cases : r = second ∨ r ∈ first :: rest := by
        simp only [List.mem_cons] at member ⊢
        tauto
      rcases cases with rfl | member
      · simp only [DesktopBox.Covers]
        omega
      · have := covers r member
        simp only [DesktopBox.Covers] at *
        omega
    · intro other covers_all
      have before := least other fun r member => covers_all r (by
        simp only [List.mem_cons] at member ⊢
        tauto)
      have own := covers_all second (by simp)
      simp only [DesktopBox.Covers] at own ⊢
      omega

/-! ## All answers -/

section Queries

variable {S : Type} [ScaleFactor S]

/-- SRC: display.rs:276-280 -/
theorem virtual_bounds_spec (topology : DisplayTopology S) :
    (topology.displays = [] → topology.virtual_bounds = none) ∧
    (topology.displays ≠ [] →
      ∃ box, LeastCover (topology.displays.map DisplayInfo.bounds) box ∧
        ∀ r, topology.virtual_bounds = some r ↔ box.IsRect r) := by
  unfold DisplayTopology.virtual_bounds
  cases displays : topology.displays with
  | nil => exact ⟨fun _ => rfl, fun ne => absurd rfl ne⟩
  | cons first rest =>
    refine ⟨nofun, fun _ => ?_⟩
    obtain ⟨box, least⟩ := least_cover_exists first.bounds (rest.map DisplayInfo.bounds)
    exact ⟨box, least, foldlM_union_eq_some_iff first.bounds (rest.map DisplayInfo.bounds) least⟩

/-- Two least covers of the same rectangles, in whatever order, are one box. -/
theorem LeastCover.same_rect {rects rects' : List Rect} {box box' : DesktopBox}
    (least : LeastCover rects box) (least' : LeastCover rects' box') (perm : rects.Perm rects')
    (r : Rect) : box.IsRect r ↔ box'.IsRect r := by
  have one := least.least box' fun s member => least'.covers s (perm.mem_iff.mp member)
  have other := least'.least box fun s member => least.covers s (perm.mem_iff.mpr member)
  simp only [DesktopBox.IsRect]
  omega

/-- It does not depend on their order. -/
theorem virtual_bounds_perm {topology topology' : DisplayTopology S}
    (perm : topology.displays.Perm topology'.displays) :
    topology.virtual_bounds = topology'.virtual_bounds := by
  obtain ⟨empty, some_box⟩ := virtual_bounds_spec topology
  obtain ⟨empty', some_box'⟩ := virtual_bounds_spec topology'
  by_cases nil : topology.displays = []
  · have nil' : topology'.displays = [] := List.nil_perm.mp (nil ▸ perm)
    rw [empty nil, empty' nil']
  · have ne' : topology'.displays ≠ [] := by
      intro nil'
      exact nil (List.perm_nil.mp (nil' ▸ perm))
    obtain ⟨box, least, found⟩ := some_box nil
    obtain ⟨box', least', found'⟩ := some_box' ne'
    refine Option.ext fun r => ?_
    rw [found, found', least.same_rect least' (perm.map _)]

/-- Nor does the display of largest intersection. -/
theorem largest_intersection_perm {topology topology' : DisplayTopology S}
    (perm : topology.displays.Perm topology'.displays) (bounds : Rect) :
    topology.largest_intersection bounds = topology'.largest_intersection bounds := by
  have same : (DisplayTopology.candidates topology.displays bounds).Perm
      (DisplayTopology.candidates topology'.displays bounds) := perm.filterMap _
  unfold DisplayTopology.largest_intersection
  rw [max_by_perm same (separates_candidates topology bounds)]

/-- Nor does the display that contains a point. -/
theorem containing_point_perm {topology topology' : DisplayTopology S}
    (perm : topology.displays.Perm topology'.displays) (x y : Int) :
    topology.containing_point x y = topology'.containing_point x y := by
  unfold DisplayTopology.containing_point
  exact min_by_perm (perm.filter _)
    (separates_displays topology fun display member => (List.mem_filter.mp member).1)

/-- The values of an `i64`. -/
def InI64 (v : Int) : Prop := -9223372036854775808 ≤ v ∧ v ≤ 9223372036854775807

/-- The values of a `u64`. -/
def InU64 (v : Nat) : Prop := v ≤ 18446744073709551615

/-- Every `i64` and `u64` the questions compute, of one rectangle or of two. -/
structure NoOverflow (r s : Rect) : Prop where
  edges : InI64 r.right ∧ InI64 r.bottom
  common_sides : InI64 (min r.right s.right - max r.x s.x) ∧
    InI64 (min r.bottom s.bottom - max r.y s.y)
  union_sides : InI64 (max r.right s.right - min r.x s.x) ∧
    InI64 (max r.bottom s.bottom - min r.y s.y)
  area : InU64 r.area

/-- SRC: display.rs:37-131 -/
theorem no_overflow (r s : Rect) : NoOverflow r s := by
  have r_ranges := r.ranges
  have s_ranges := s.ranges
  refine ⟨?_, ?_, ?_, ?_⟩
  · simp only [InI64, Rect.right, Rect.bottom]
    omega
  · simp only [InI64, Rect.right, Rect.bottom]
    omega
  · simp only [InI64, Rect.right, Rect.bottom]
    omega
  · exact Nat.le_trans (Nat.mul_le_mul r_ranges.2.2.1 r_ranges.2.2.2) (by decide)

/-- What a topology answers about a rectangle, a point and its desktop. -/
structure AnswersWell (topology : DisplayTopology S) (bounds : Rect) (x y : Int) : Prop where
  /-- Some display is the largest exactly when one meets the rectangle. -/
  largest_isSome : (∃ display, topology.largest_intersection bounds = some display) ↔
    ∃ display ∈ topology.displays, SharePixel display.bounds bounds
  /-- It has the largest intersection, and the smallest identifier of those tied. -/
  largest : ∀ display, topology.largest_intersection bounds = some display ↔
    Largest topology.displays bounds display
  /-- Some display is under the point exactly when one contains it, and it contains it. -/
  point_isSome : (∃ display, topology.containing_point x y = some display) ↔
    ∃ display ∈ topology.displays, display.bounds.contains x y
  point : ∀ display, topology.containing_point x y = some display →
    display ∈ topology.displays ∧ display.bounds.contains x y
  /-- The virtual bounds are the least box that covers all displays, if a `Rect` can hold it. -/
  no_bounds : topology.displays = [] → topology.virtual_bounds = none
  virtual_bounds : topology.displays ≠ [] →
    ∃ box, LeastCover (topology.displays.map DisplayInfo.bounds) box ∧
      ∀ r, topology.virtual_bounds = some r ↔ box.IsRect r
  /-- Without a native answer, a window's owner is the display of largest intersection. -/
  owner : owning_display_id bounds none topology.displays =
    (topology.largest_intersection bounds).map DisplayInfo.id
  /-- A window that meets a display is owned by exactly one. -/
  one_owner : ∀ native, (∃ display ∈ topology.displays, SharePixel display.bounds bounds) →
    ∃! display, display ∈ topology.displays ∧
      owning_display_id bounds native topology.displays = some display.id

/-- **The questions asked of a topology**: its answers are the same in every order of its
displays, they are the right ones, and nothing overflows on the way.
SRC: display.rs:36-280, window_enumeration.rs:181-209 -/
theorem display_queries (topology topology' : DisplayTopology S)
    (perm : topology.displays.Perm topology'.displays) (bounds : Rect) (x y : Int) :
    (topology.largest_intersection bounds = topology'.largest_intersection bounds ∧
      topology.containing_point x y = topology'.containing_point x y ∧
      topology.virtual_bounds = topology'.virtual_bounds) ∧
    AnswersWell topology bounds x y ∧ ∀ r s : Rect, NoOverflow r s := by
  refine ⟨⟨largest_intersection_perm perm bounds, containing_point_perm perm x y,
    virtual_bounds_perm perm⟩, ?_, no_overflow⟩
  obtain ⟨largest_isSome, largest⟩ := largest_intersection_spec topology bounds
  obtain ⟨point_isSome, point⟩ := containing_point_spec topology x y
  obtain ⟨no_bounds, virtual_bounds⟩ := virtual_bounds_spec topology
  exact ⟨largest_isSome, largest, point_isSome, point, no_bounds, virtual_bounds,
    owning_display_id_eq topology bounds, owned_by_one topology bounds⟩

end Queries

/-! ## Two displays -/

/-- Scale factors in hundredths. -/
instance : ScaleFactor Nat where
  is_finite _ := true
  at_most_zero scale := scale == 0
  to_string scale := toString scale

def left_display : DisplayInfo Nat :=
  ⟨"left", "left", { x := -1920, y := 0, width := 1920, height := 1080, y_i32 := in_i32_zero },
    100, 0, false⟩

def right_display : DisplayInfo Nat :=
  ⟨"right", "right", ⟨0, 0, 2560, 1440, in_i32_zero, in_i32_zero, by decide, by decide⟩, 150, 0,
    true⟩

/-- A window across both displays, and a point on one, asked about in either order. -/
theorem two_displays_answer :
    (DisplayTopology.mk 1 [left_display, right_display] rfl).largest_intersection
        { x := -100, y := 10, width := 400, height := 300 } =
      (DisplayTopology.mk 1 [right_display, left_display] rfl).largest_intersection
        { x := -100, y := 10, width := 400, height := 300 } :=
  (display_queries ⟨1, [left_display, right_display], rfl⟩ ⟨1, [right_display, left_display], rfl⟩
    (List.Perm.swap _ _ _) { x := -100, y := 10, width := 400, height := 300 } 5 5).1.1

end Captastic.Analysis
