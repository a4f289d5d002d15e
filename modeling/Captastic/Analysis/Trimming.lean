import Captastic.Library.Partition
import Captastic.Model.Playback

/-!
# Trimming a recording

The frames of a timeline start in ascending order, so the frame on screen at a position is the
last one that has started by then (`index_at_spec`).  Trimming keeps the frames that are on
screen during a span, in order, the first of them moved to the span's start
(`getElem?_kept_frames`); what is shown at a position of the result is what the recording
shows that long after the start of the span (`trimming_keeps_the_span`).
-/

set_option autoImplicit false

namespace Captastic.Analysis

open Captastic.Library Captastic.Model

/-! ## Frames in ascending order -/

/-- Starts that are not out of order ascend. -/
theorem ascending_of_in_order {starts : List Duration} (in_order : out_of_order starts = false) :
    starts.Pairwise (· < ·) := by
  rw [← List.isChain_iff_pairwise]
  induction starts with
  | nil => exact List.isChain_nil
  | cons first rest ih =>
    cases rest with
    | nil => exact List.isChain_singleton first
    | cons second rest =>
      unfold out_of_order at in_order
      rw [Bool.or_eq_false_iff, decide_eq_false_iff_not] at in_order
      exact List.isChain_cons_cons.mpr ⟨Nat.lt_of_not_ge in_order.1, ih in_order.2⟩

section Timeline

variable (t : Timeline)

/-- The starts of a timeline ascend. -/
theorem starts_ascending : t.starts.Pairwise (· < ·) := ascending_of_in_order t.in_order

variable {t}

/-- A frame that comes before another starts before it. -/
theorem start_lt_start {i j : Nat} {s s' : Nat} (i_held : t.starts[i]? = some s)
    (j_held : t.starts[j]? = some s') (before : i < j) : s < s' := by
  obtain ⟨i_lt, rfl⟩ := List.getElem?_eq_some_iff.mp i_held
  obtain ⟨j_lt, rfl⟩ := List.getElem?_eq_some_iff.mp j_held
  exact List.pairwise_iff_getElem.mp (starts_ascending t) i j i_lt j_lt before

/-- Every frame starts before the timeline ends. -/
theorem start_lt_duration {i : Nat} {s : Nat} (held : t.starts[i]? = some s) :
    s < t.duration := by
  obtain ⟨i_lt, -⟩ := List.getElem?_eq_some_iff.mp held
  have last_in_range : t.starts.length - 1 < t.starts.length := by omega
  have last_held : t.starts[t.starts.length - 1]? = some t.starts[t.starts.length - 1] :=
    List.getElem?_eq_getElem last_in_range
  have last_lt := t.ends_after_last _ (by rw [List.getLast?_eq_getElem?]; exact last_held)
  by_cases is_last : i = t.starts.length - 1
  · subst is_last
    obtain rfl := Option.some.inj (held.symm.trans last_held)
    exact last_lt
  · exact (start_lt_start held last_held (by omega)).trans last_lt

variable (t)

/-- The first frame starts at the beginning. -/
theorem first_start : t.starts[0]? = some 0 := by
  rw [← List.head?_eq_getElem?]
  exact t.first_at_zero

/-- **The frame on screen** is the last that has started.
SRC: playback.rs:78-81 -/
theorem index_at_spec (pos : Nat) :
    (∃ start : Nat, t.starts[t.index_at pos]? = some start ∧ start ≤ pos) ∧
      ∀ (j : Nat) (start : Nat), t.starts[j]? = some start →
        (start ≤ pos ↔ j ≤ t.index_at pos) := by
  have partitioned := partitioned_le (f := id) (starts_ascending t) pos
  have zero_counted : 0 < (t.starts.takeWhile fun start => decide (start ≤ pos)).length :=
    (lt_length_takeWhile_iff partitioned (first_start t)).mpr (decide_eq_true (Nat.zero_le pos))
  have counted : t.index_at pos + 1 =
      (t.starts.takeWhile fun start => decide (start ≤ pos)).length := by
    unfold Timeline.index_at
    rw [Nat.max_eq_left zero_counted, Nat.sub_add_cancel zero_counted]
  have shown : ∀ (j start : Nat), t.starts[j]? = some start → (start ≤ pos ↔ j ≤ t.index_at pos) := by
    intro j start held
    have iff := lt_length_takeWhile_iff partitioned held
    simp only [id, ← counted, decide_eq_true_eq] at iff
    rw [← iff, Nat.lt_succ_iff]
  refine ⟨?_, shown⟩
  have in_range : t.index_at pos < t.starts.length := by
    have taken : t.index_at pos + 1 ≤ t.starts.length :=
      counted ▸ (List.takeWhile_prefix fun start => decide (start ≤ pos)).length_le
    exact taken
  have held := List.getElem?_eq_getElem in_range
  exact ⟨_, held, (shown _ _ held).mpr (Nat.le_refl _)⟩

/-- A frame is on screen when it starts. -/
theorem index_at_start_eq {i : Nat} {s : Nat} (held : t.starts[i]? = some s) :
    t.index_at s = i := by
  obtain ⟨⟨start, start_held, start_le⟩, shown⟩ := index_at_spec t s
  have i_le : i ≤ t.index_at s := (shown i s held).mp (Nat.le_refl s)
  by_cases same : i = t.index_at s
  · exact same.symm
  · have before : i < t.index_at s := by omega
    exact absurd (start_lt_start held start_held before) (Nat.not_lt.mpr start_le)

/-! ## Stepping from change to change -/

/-- SRC: playback.rs:94-102 -/
theorem next_change_eq {pos : Nat} (before_end : pos < t.duration) :
    pos < t.next_change pos ∧ t.next_change pos = t.end (t.index_at pos) := by
  have later : pos < t.end (t.index_at pos) := by
    unfold Timeline.end
    cases held : t.starts[t.index_at pos + 1]? with
    | none => exact before_end
    | some start =>
      have not_shown := (index_at_spec t pos).2 _ start held
      rw [Option.getD_some]
      exact Nat.lt_of_not_ge fun started => absurd (not_shown.mp started) (by omega)
  have max_eq : t.next_change pos = t.end (t.index_at pos) := by
    unfold Timeline.next_change
    rw [Nat.min_eq_left (Nat.le_of_lt before_end)]
    exact Nat.max_eq_left (Nat.le_of_lt later)
  exact ⟨max_eq ▸ later, max_eq⟩

/-- SRC: playback.rs:83-92 -/
theorem previous_change_eq (pos : Nat) :
    ∃ (j : Nat) (start : Nat), t.previous_change pos = some start ∧ t.starts[j]? = some start ∧
      (0 < pos → start < pos) ∧
      ∀ (i : Nat) (s : Nat), t.starts[i]? = some s → s < pos → i ≤ j := by
  obtain ⟨⟨start, start_held, start_le⟩, shown⟩ := index_at_spec t pos
  unfold Timeline.previous_change Timeline.start
  simp only [start_held, Option.bind_eq_bind, Option.bind_some]
  by_cases started : start < pos
  · refine ⟨t.index_at pos, start, if_pos started, start_held, fun _ => started, ?_⟩
    intro i s held s_lt
    exact (shown i s held).mp (Nat.le_of_lt s_lt)
  · -- The frame starts at the position itself, so the change before is the frame before.
    have index_lt := (List.getElem?_eq_some_iff.mp start_held).1
    have before_held := List.getElem?_eq_getElem (show t.index_at pos - 1 < t.starts.length by omega)
    refine ⟨t.index_at pos - 1, _, (if_neg started).trans before_held, before_held, ?_, ?_⟩
    · intro pos_pos
      by_cases first : t.index_at pos = 0
      · rw [first, first_start t] at start_held
        obtain rfl := Option.some.inj start_held
        omega
      · have before_lt := start_lt_start before_held start_held (by omega)
        omega
    · intro i s held s_lt
      have i_le := (shown i s held).mp (Nat.le_of_lt s_lt)
      by_cases same : i = t.index_at pos
      · subst same
        obtain rfl := Option.some.inj (held.symm.trans start_held)
        omega
      · omega

/-- Stepping back this often, from change to change. -/
def stepped_back (t : Timeline) : Nat → Duration → Option Duration
  | 0, pos => some pos
  | k + 1, pos => (t.previous_change pos).bind (stepped_back t k)

/-- Stepping forward from a position reaches every later frame start. -/
theorem next_change_visits {pos : Nat} (before_end : pos < t.duration) (d : Nat)
    {start : Nat} (held : t.starts[t.index_at pos + d + 1]? = some start) :
    t.next_change^[d + 1] pos = start := by
  induction d generalizing start with
  | zero =>
    rw [Function.iterate_one, (next_change_eq t before_end).2]
    unfold Timeline.end
    rw [held]
    rfl
  | succ d ih =>
    have in_range := (List.getElem?_eq_some_iff.mp held).1
    have before_held := List.getElem?_eq_getElem
      (show t.index_at pos + d + 1 < t.starts.length by omega)
    rw [Function.iterate_succ_apply', ih before_held,
      (next_change_eq t (start_lt_duration before_held)).2, index_at_start_eq t before_held]
    unfold Timeline.end
    rw [show t.index_at pos + d + 1 + 1 = t.index_at pos + (d + 1) + 1 by omega, held]
    rfl

/-- Stepping back from a frame's start reaches every earlier frame start. -/
theorem previous_change_visits {i : Nat} {s : Nat} (i_held : t.starts[i]? = some s) (j : Nat)
    {start : Nat} (held : t.starts[j]? = some start) (i_le : i ≤ j) :
    ∃ k, stepped_back t k start = some s := by
  induction j generalizing start with
  | zero =>
    obtain rfl : i = 0 := by omega
    exact ⟨0, held.symm.trans i_held⟩
  | succ j ih =>
    by_cases same : i = j + 1
    · subst same
      exact ⟨0, held.symm.trans i_held⟩
    · have in_range := (List.getElem?_eq_some_iff.mp held).1
      have before_held := List.getElem?_eq_getElem (show j < t.starts.length by omega)
      obtain ⟨k, reached⟩ := ih before_held (by omega)
      obtain ⟨j', start', change, held', earlier, shown⟩ := previous_change_eq t start
      have before_lt := start_lt_start before_held held (by omega)
      have j_le := shown j _ before_held before_lt
      have start_lt := earlier (by omega)
      have is_before : j' = j := by
        by_cases at_most : j' ≤ j
        · omega
        · by_cases is_self : j' = j + 1
          · subst is_self
            obtain rfl := Option.some.inj (held.symm.trans held')
            omega
          · have later := start_lt_start held held' (by omega)
            omega
      subst is_before
      obtain rfl := Option.some.inj (held'.symm.trans before_held)
      refine ⟨k + 1, ?_⟩
      unfold stepped_back
      rw [change]
      exact reached

end Timeline

/-! ## The frames kept -/

/-- **The frames kept** are those from the frame on screen at the start of the span that start
before its end.
SRC: playback.rs:170-184 -/
theorem getElem?_kept_frames {t : Timeline} {edit : RecordingEdit}
    (not_empty : edit.start < edit.end) {k : Nat} {frame : KeptFrame} :
    (edit.kept_frames t)[k]? = some frame ↔
      ∃ start : Nat, t.starts[t.index_at edit.start + k]? = some start ∧ start < edit.end ∧
        frame = ⟨t.index_at edit.start + k, max start edit.start - edit.start⟩ := by
  have some_frame : ¬ (edit.end ≤ edit.start ∨ t.starts.isEmpty) := by
    have in_range := (List.getElem?_eq_some_iff.mp (first_start t)).1
    rw [List.isEmpty_iff_length_eq_zero]
    unfold Duration at *
    omega
  have ascending : (t.starts.zipIdx.drop (t.index_at edit.start)).Pairwise
      fun a b => a.1 < b.1 := by
    refine List.Pairwise.sublist (List.drop_sublist _ _) ?_
    rw [← List.pairwise_map, List.zipIdx_map_fst]
    exact starts_ascending t
  unfold RecordingEdit.kept_frames
  rw [if_neg some_frame, List.getElem?_map, Option.map_eq_some_iff]
  constructor
  · rintro ⟨⟨start, index⟩, taken, rfl⟩
    obtain ⟨held, before_end⟩ := (getElem?_takeWhile_iff (partitioned_lt ascending _)).mp taken
    rw [List.getElem?_drop, List.getElem?_zipIdx, Option.map_eq_some_iff] at held
    obtain ⟨start', start_held, pair_eq⟩ := held
    obtain ⟨rfl, rfl⟩ := Prod.mk.inj pair_eq
    exact ⟨start', start_held, by simpa using before_end, by simp⟩
  · rintro ⟨start, held, before_end, rfl⟩
    refine ⟨(start, t.index_at edit.start + k), ?_, rfl⟩
    refine (getElem?_takeWhile_iff (partitioned_lt ascending _)).mpr ⟨?_, by simpa using before_end⟩
    rw [List.getElem?_drop, List.getElem?_zipIdx, held]
    simp

/-- The last of the kept frames that has appeared by a position of the result. -/
def ShownAt (kept : List KeptFrame) (pos : Nat) (frame : KeptFrame) : Prop :=
  ∃ k, kept[k]? = some frame ∧ frame.shown_from ≤ pos ∧
    ∀ (k' : Nat) (later : KeptFrame), kept[k']? = some later → k < k' → pos < later.shown_from

/-- The frames kept are exactly those of the span. -/
structure KeepsSpan (t : Timeline) (edit : RecordingEdit) (kept : List KeptFrame) : Prop where
  consecutive : ∀ k frame, kept[k]? = some frame → frame.index = t.index_at edit.start + k
  starts_at_zero : ∃ first, kept[0]? = some first ∧ first.shown_from = 0
  ascending : kept.Pairwise fun a b => a.shown_from < b.shown_from
  inside : ∀ frame ∈ kept, frame.shown_from < edit.length
  shown : ∀ pos : Nat, pos < edit.length →
    ∃ frame, ShownAt kept pos frame ∧ frame.index = t.index_at (edit.start + pos)

/-- The frames an edit keeps cover its span. -/
theorem kept_frames_keep_span (t : Timeline) {edit : RecordingEdit}
    (not_empty : edit.start < edit.end) : KeepsSpan t edit (edit.kept_frames t) := by
  have kept_iff := fun k frame => @getElem?_kept_frames t edit not_empty k frame
  obtain ⟨⟨first, first_held, first_le⟩, first_shown⟩ := index_at_spec t edit.start
  -- Every kept frame but the first starts inside the span.
  have inside_span : ∀ k start : Nat, 0 < k → t.starts[t.index_at edit.start + k]? = some start →
      edit.start < start := by
    intro k start k_pos held
    have not_shown := first_shown _ start held
    exact Nat.lt_of_not_ge fun started => absurd (not_shown.mp started) (by omega)
  constructor
  · intro k frame held
    obtain ⟨start, -, -, rfl⟩ := (kept_iff k frame).mp held
    rfl
  · refine ⟨_, (kept_iff 0 _).mpr ⟨first, first_held, lt_of_le_of_lt first_le not_empty, rfl⟩, ?_⟩
    rw [Nat.max_eq_right first_le, Nat.sub_self]
  · rw [List.pairwise_iff_getElem]
    intro i j i_lt j_lt before
    obtain ⟨s, s_held, -, s_eq⟩ := (kept_iff i _).mp (List.getElem?_eq_getElem i_lt)
    obtain ⟨s', s'_held, -, s'_eq⟩ := (kept_iff j _).mp (List.getElem?_eq_getElem j_lt)
    have later := start_lt_start s_held s'_held (by omega)
    have after_start := inside_span j s' (by omega) s'_held
    rw [s_eq, s'_eq]
    unfold Duration at *
    simp only
    omega
  · intro frame member
    obtain ⟨k, held⟩ := List.mem_iff_getElem?.mp member
    obtain ⟨start, -, before_end, rfl⟩ := (kept_iff k frame).mp held
    unfold RecordingEdit.length Duration at *
    simp only
    omega
  · intro pos pos_lt
    have before_end : edit.start + pos < edit.end := Nat.add_lt_of_lt_sub' pos_lt
    obtain ⟨⟨start, held, start_le⟩, shown⟩ := index_at_spec t (edit.start + pos)
    have from_first := (shown _ first first_held).mp (Nat.le_add_right_of_le first_le)
    have index_eq : t.index_at edit.start + (t.index_at (edit.start + pos) - t.index_at edit.start) =
        t.index_at (edit.start + pos) := by omega
    rw [← index_eq] at held
    refine ⟨_, ⟨_, (kept_iff _ _).mpr ⟨start, held, lt_of_le_of_lt start_le before_end, rfl⟩, ?_, ?_⟩,
      index_eq⟩
    · unfold Duration at *
      simp only
      omega
    intro k later later_held after
    obtain ⟨s, s_held, -, rfl⟩ := (kept_iff k later).mp later_held
    have not_shown := shown _ s s_held
    unfold Duration at *
    simp only
    omega

/-- Stepping from a position inside the recording changes it, and visits every frame start. -/
structure StepsThrough (t : Timeline) : Prop where
  next_later : ∀ pos : Nat, pos < t.duration → pos < t.next_change pos
  previous_earlier : ∀ pos : Nat, 0 < pos → ∃ change : Nat, t.previous_change pos = some change ∧ change < pos
  visits_later : ∀ pos < t.duration, ∀ start ∈ t.starts, pos < start →
    ∃ k, t.next_change^[k] pos = start
  visits_earlier : ∀ pos, ∀ start ∈ t.starts, start < pos →
    ∃ k, stepped_back t k pos = some start

/-- Stepping goes from a frame's start to the next one's. -/
theorem steps_through (t : Timeline) : StepsThrough t := by
  constructor
  · exact fun pos before_end => (next_change_eq t before_end).1
  · intro pos pos_pos
    obtain ⟨-, change, change_eq, -, earlier, -⟩ := previous_change_eq t pos
    exact ⟨change, change_eq, earlier pos_pos⟩
  · intro pos before_end start member later
    obtain ⟨i, held⟩ := List.mem_iff_getElem?.mp member
    have not_shown : ¬ i ≤ t.index_at pos := fun shown =>
      absurd later (Nat.not_lt.mpr (((index_at_spec t pos).2 i start held).mpr shown))
    refine ⟨i - t.index_at pos - 1 + 1, next_change_visits t before_end _ ?_⟩
    rw [show t.index_at pos + (i - t.index_at pos - 1) + 1 = i by omega]
    exact held
  · intro pos start member earlier
    obtain ⟨i, held⟩ := List.mem_iff_getElem?.mp member
    obtain ⟨j, change, change_eq, change_held, -, before⟩ := previous_change_eq t pos
    obtain ⟨k, reached⟩ := previous_change_visits t held j change_held (before i start held earlier)
    refine ⟨k + 1, ?_⟩
    unfold stepped_back
    rw [change_eq]
    exact reached

/-- **Trimming keeps exactly the span.**  The frames kept are consecutive frames of the
recording, the first at zero and each later one later, all of them inside the result; at every
position of the result the picture is the one that the recording shows that long after the
start of the span.  And stepping from change to change moves on from every position, and
visits every frame start.
SRC: playback.rs:36-103, playback.rs:165-184 -/
theorem trimming_keeps_the_span (t : Timeline) (edit : RecordingEdit)
    (not_empty : edit.start < edit.end) :
    KeepsSpan t edit (edit.kept_frames t) ∧ StepsThrough t :=
  ⟨kept_frames_keep_span t not_empty, steps_through t⟩

/-- Three pictures in four hundred nanoseconds. -/
def three_pictures : Timeline where
  starts := [0, 100, 250]
  duration := 400
  first_at_zero := rfl
  in_order := rfl
  ends_after_last := by
    intro last is_last
    obtain rfl := Option.some.inj is_last
    decide

/-- A span from inside the second picture to the start of the third keeps the second alone. -/
theorem three_pictures_trimmed :
    KeepsSpan three_pictures ⟨120, 250, none⟩ [⟨1, 0⟩] ∧ StepsThrough three_pictures :=
  trimming_keeps_the_span three_pictures ⟨120, 250, none⟩ (by decide)

end Captastic.Analysis
