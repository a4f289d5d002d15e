import Captastic.Model.Edit

/-!
# How much of a pixel a stroke covers

`stroke_coverage` of `captastic-core/src/edit.rs`: the loop over a stroke's segments, each
visiting the pixels near it inside the painted area and keeping the largest cover a pixel has
been given.  What one segment covers of one pixel, and how far around a segment there are
pixels to visit, is `f32` arithmetic and the parameter `Pen`.
-/

set_option autoImplicit false

namespace Captastic.Model

open Captastic.Library

/-- A segment of a stroke, from its start to its end. -/
abbrev Segment (F : Type) := (F × F) × (F × F)

/-- The `f32` arithmetic of `stroke_coverage`, on absolute positions. -/
structure Pen (F : Type) where
  /-- `(0.0, 0.0)` -/
  default_point : F × F
  /-- `0.0_f32` -/
  zero : F
  /-- `cover > coverage[index]` -/
  exceeds : F → F → Bool
  /-- The edges of the pixels near a segment, before they are clipped to the area. -/
  segment_edges : F → Segment F → Int × Int × Int × Int
  /-- `(radius + 0.5 - distance_to_segment(..)).clamp(0.0, 1.0)` at a pixel -/
  segment_cover : F → Segment F → Int × Int → F

section Coverage

variable {F : Type} (pen : Pen F)

/-- SRC: edit.rs:714-718 -/
def segments (points : List (F × F)) : List (Segment F) :=
  let first := points.head?.getD pen.default_point
  points.zip points.tail ++ (if points.length = 1 then [(first, first)] else [])

/-- The index of a pixel in the coverage of an area.
SRC: edit.rs:728-729 -/
def coverage_index (area : Rect) (p : Int × Int) : Nat :=
  as_usize (p.2 - area.y) * area.width + as_usize (p.1 - area.x)

/-- SRC: edit.rs:726-732 -/
def cover_pixel (width : F) (area : Rect) (segment : Segment F) (coverage : List F)
    (p : Int × Int) : Option (List F) := do
  let cover := pen.segment_cover width segment p
  let held ← coverage[coverage_index area p]?
  if pen.exceeds cover held then some (coverage.set (coverage_index area p) cover)
  else some coverage

/-- SRC: edit.rs:720-734 -/
def cover_segment (width : F) (area : Rect) (coverage : List F) (segment : Segment F) :
    Option (List F) :=
  let edges := pen.segment_edges width segment
  let left := max edges.1 area.x
  let top := max edges.2.1 area.y
  let right := min edges.2.2.1 area.right
  let bottom := min edges.2.2.2 area.bottom
  (int_range top bottom).foldlM (fun coverage y =>
    (int_range left right).foldlM (fun coverage x =>
      cover_pixel pen width area segment coverage (x, y)) coverage) coverage

/-- How much of each pixel of `area` a stroke covers, row by row.
SRC: edit.rs:710-737 -/
def stroke_coverage (points : List (F × F)) (width : F) (area : Rect) : Option (List F) :=
  (segments pen points).foldlM (cover_segment pen width area)
    (List.replicate (area.width * area.height) pen.zero)

/-! ## The coverage of one pixel -/

/-- The pixel is among those near the segment. -/
def Near (width : F) (segment : Segment F) (p : Int × Int) : Prop :=
  let edges := pen.segment_edges width segment
  (edges.1 ≤ p.1 ∧ p.1 < edges.2.2.1) ∧ edges.2.1 ≤ p.2 ∧ p.2 < edges.2.2.2

instance (width : F) (segment : Segment F) (p : Int × Int) : Decidable (Near pen width segment p) :=
  inferInstanceAs (Decidable ((_ ∧ _) ∧ _))

/-- What a segment makes of the cover that a pixel has been given. -/
def raised (width : F) (p : Int × Int) (held : F) (segment : Segment F) : F :=
  if Near pen width segment p ∧ pen.exceeds (pen.segment_cover width segment p) held then
    pen.segment_cover width segment p
  else held

/-- The largest cover that a segment near the pixel gives it. -/
def stroke_cover (points : List (F × F)) (width : F) (p : Int × Int) : F :=
  (segments pen points).foldl (raised pen width p) pen.zero

variable {pen} {area : Rect} {p q : Int × Int}

/-- The index of a pixel inside the area, row by row. -/
theorem coverage_index_eq (inside : area.contains p.1 p.2) :
    coverage_index area p = (p.2 - area.y).toNat * area.width + (p.1 - area.x).toNat := by
  have ranges := area.ranges
  unfold coverage_index as_usize
  unfold Rect.contains Rect.right Rect.bottom at inside
  rw [Int.emod_eq_of_lt (by omega) (by omega), Int.emod_eq_of_lt (by omega) (by omega)]

/-- It is inside the buffer of the area. -/
theorem coverage_index_lt (inside : area.contains p.1 p.2) :
    coverage_index area p < area.width * area.height := by
  rw [coverage_index_eq inside]
  unfold Rect.contains Rect.right Rect.bottom at inside
  have row := succ_mul_le_of_lt (p.2 - area.y).toNat area.height area.width (by omega)
    (Nat.le_refl _)
  rw [Nat.add_mul, Nat.one_mul, Nat.mul_comm area.height] at row
  omega

/-- Two pixels of an area have different indices. -/
theorem coverage_index_inj (p_inside : area.contains p.1 p.2) (q_inside : area.contains q.1 q.2)
    (same : coverage_index area p = coverage_index area q) : p = q := by
  rw [coverage_index_eq p_inside, coverage_index_eq q_inside] at same
  unfold Rect.contains Rect.right Rect.bottom at p_inside q_inside
  have p_column : (p.1 - area.x).toNat < area.width := by omega
  have q_column : (q.1 - area.x).toNat < area.width := by omega
  have rows := congrArg (· / area.width) same
  have columns := congrArg (· % area.width) same
  simp only [Nat.mul_comm _ area.width, Nat.mul_add_div (show 0 < area.width by omega),
    Nat.div_eq_of_lt p_column, Nat.div_eq_of_lt q_column] at rows
  simp only [Nat.mul_add_mod_of_lt p_column, Nat.mul_add_mod_of_lt q_column] at columns
  apply Prod.ext
  · omega
  · omega

/-- **One segment** raises the cover of the pixels near it, and leaves the others alone.
SRC: edit.rs:720-734 -/
theorem cover_segment_spec (width : F) (segment : Segment F) {coverage : List F}
    (length : coverage.length = area.width * area.height) :
    ∃ coverage', cover_segment pen width area coverage segment = some coverage' ∧
      coverage'.length = area.width * area.height ∧
      ∀ q, area.contains q.1 q.2 → coverage'[coverage_index area q]? =
        (coverage[coverage_index area q]?).map fun held => raised pen width q held segment := by
  have visited : ∀ p : Int × Int,
      p ∈ cells (int_range (max (pen.segment_edges width segment).2.1 area.y)
            (min (pen.segment_edges width segment).2.2.2 area.bottom))
          (int_range (max (pen.segment_edges width segment).1 area.x)
            (min (pen.segment_edges width segment).2.2.1 area.right)) ↔
        Near pen width segment p ∧ area.contains p.1 p.2 := by
    intro p
    rw [mem_cells, mem_int_range, mem_int_range]
    unfold Near Rect.contains
    simp only
    omega
  obtain ⟨coverage', ran, length', cover⟩ := foldlM_pointwise
    (fun coverage : List F => coverage.length = area.width * area.height)
    (fun q => area.contains q.1 q.2) (fun coverage q => coverage[coverage_index area q]?)
    (cover_pixel pen width area segment)
    (fun q cover => cover.map fun held => raised pen width q held segment) _
    (nodup_cells (nodup_int_range _ _) (nodup_int_range _ _))
    (fun p member => ((visited p).mp member).2)
    (fun coverage p member length => by
      obtain ⟨near, inside⟩ := (visited p).mp member
      have in_range : coverage_index area p < coverage.length := by
        rw [length]
        exact coverage_index_lt inside
      unfold cover_pixel
      simp only [List.getElem?_eq_getElem in_range, Option.bind_eq_bind, Option.bind_some]
      by_cases exceeds : pen.exceeds (pen.segment_cover width segment p)
          coverage[coverage_index area p]
      · refine ⟨_, if_pos exceeds, by rw [List.length_set, length], ?_, ?_⟩
        · rw [List.getElem?_set_self in_range, Option.map_some]
          unfold raised
          rw [if_pos ⟨near, exceeds⟩]
        · intro q q_inside differs
          refine List.getElem?_set_ne ?_
          exact fun same => differs (coverage_index_inj q_inside inside same.symm)
      · refine ⟨_, if_neg exceeds, length, ?_, fun _ _ _ => rfl⟩
        rw [List.getElem?_eq_getElem in_range, Option.map_some]
        unfold raised
        rw [if_neg (fun both => exceeds both.2)]) coverage length
  refine ⟨coverage', ?_, length', ?_⟩
  · unfold cover_segment
    rw [← ran]
    exact foldlM_nested (cover_pixel pen width area segment) _ _ coverage
  · intro q inside
    rw [cover q inside]
    by_cases near : Near pen width segment q
    · rw [if_pos ((visited q).mpr ⟨near, inside⟩)]
    · rw [if_neg (fun member => near ((visited q).mp member).1)]
      have kept : ∀ held, raised pen width q held segment = held :=
        fun held => if_neg (fun both => near both.1)
      simp only [kept, Option.map_id']

/-- **A stroke's coverage** is the same at a pixel whatever the area it is asked about.
SRC: edit.rs:710-737 -/
theorem stroke_coverage_spec (pen : Pen F) (points : List (F × F)) (width : F) (area : Rect) :
    ∃ coverage, stroke_coverage pen points width area = some coverage ∧
      coverage.length = area.width * area.height ∧
      ∀ q, area.contains q.1 q.2 →
        coverage[coverage_index area q]? = some (stroke_cover pen points width q) := by
  unfold stroke_coverage stroke_cover
  have covered : ∀ (left : List (Segment F)) (coverage : List F) (held : Int × Int → F),
      coverage.length = area.width * area.height →
      (∀ q, area.contains q.1 q.2 → coverage[coverage_index area q]? = some (held q)) →
      ∃ coverage', left.foldlM (cover_segment pen width area) coverage = some coverage' ∧
        coverage'.length = area.width * area.height ∧
        ∀ q, area.contains q.1 q.2 → coverage'[coverage_index area q]? =
          some (left.foldl (raised pen width q) (held q)) := by
    intro left
    induction left with
    | nil => exact fun coverage held length cover => ⟨coverage, rfl, length, cover⟩
    | cons segment left ih =>
      intro coverage held length cover
      have covers : ∃ next, cover_segment pen width area coverage segment = some next ∧ _ :=
        cover_segment_spec width segment length
      obtain ⟨next, step, next_length, next_cover⟩ := covers
      obtain ⟨coverage', ran, length', cover'⟩ := ih next
        (fun q => raised pen width q (held q) segment) next_length (by
          intro q inside
          rw [next_cover q inside, cover q inside, Option.map_some])
      refine ⟨coverage', ?_, length', cover'⟩
      rw [List.foldlM_cons, step]
      exact ran
  refine covered _ _ (fun _ => pen.zero) List.length_replicate ?_
  intro q inside
  rw [List.getElem?_replicate, if_pos (coverage_index_lt inside)]

/-- Covering a stroke stays inside the buffer of its area. -/
theorem stroke_coverage_isSome (pen : Pen F) (points : List (F × F)) (width : F) (area : Rect) :
    (stroke_coverage pen points width area).isSome = true := by
  obtain ⟨coverage, ran, -⟩ := stroke_coverage_spec pen points width area
  rw [ran]
  rfl

/-- The drawing whose strokes are traced by this pen. -/
def traced (D : Drawing F) (pen : Pen F) : Drawing F :=
  { D with
    stroke_coverage := fun points width area =>
      (stroke_coverage pen points width area).get (stroke_coverage_isSome pen points width area)
    stroke_coverage_length := by
      intro points width area
      obtain ⟨coverage, ran, length, -⟩ := stroke_coverage_spec pen points width area
      simp only [ran, Option.get_some]
      exact length }

/-- The coverage of a traced stroke at a pixel of the area it is asked about. -/
theorem traced_stroke_coverage (D : Drawing F) (points : List (F × F)) (width : F)
    (inside : area.contains p.1 p.2) :
    ((traced D pen).stroke_coverage points width area)[
      (p.2 - area.y).toNat * area.width + (p.1 - area.x).toNat]? =
        some (stroke_cover pen points width p) := by
  obtain ⟨coverage, ran, -, cover⟩ := stroke_coverage_spec pen points width area
  rw [← cover p inside, coverage_index_eq inside]
  simp only [traced, ran, Option.get_some]

end Coverage

end Captastic.Model
