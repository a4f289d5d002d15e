import Captastic.Library.Signal
import Captastic.Model.Video
import Mathlib.Data.List.Pairwise

/-!
# How long an MP4's frames are shown

`Mp4Writer` holds one sample back until the next change says when it ends, and counts ticks of
100 ns from the first push.  The samples it gives its sink are one for each change of the
picture (`mp4_samples`), each with the tick of its change and the ticks to the next one, one at
the least.  That least tick is given to a sample without moving the next one, so the times are
the capture's exactly when no two changes fall into one tick (`mp4_timing_iff`).

Ticks past the last of `i64` stay there; the end of a sample on that tick is one tick later,
which is what the wrapping sum and the maximum with it leave.
-/

set_option autoImplicit false

namespace Captastic.Analysis

open Captastic.Library Captastic.Model

variable {S F : Type}

/-! ## A sink that keeps its samples -/

/-- A sink, with the samples it has been given. -/
def logged (M : Mp4Sink S F) : Mp4Sink (S × List Mp4Sample) (F × List Mp4Sample) where
  create width height frame_rate :=
    (M.create width height frame_rate).map fun writer => (writer, [])
  write_sample log sample :=
    (M.write_sample log.1 sample).map fun writer => (writer, log.2 ++ [sample])
  finalize log := (M.finalize log.1).map fun file => (file, log.2)
  samples log := M.samples log.1

/-- A writer that is given every push and then finished. -/
def mp4_recorded (M : Mp4Sink S F) (width height frame_rate : Nat)
    (pushes : List (List Byte × Duration)) (end_at : Duration) :
    Except String (F × VideoSummary) := do
  let created ← Mp4Writer.create M width height frame_rate
  let pushed ← pushes.foldlM (fun w push => w.push M push.1 push.2) created
  pushed.finalize M end_at

/-! ## The samples -/

/-- The pushes, with the ticks from the first of them. -/
def ticked : List (List Byte × Duration) → List (List Byte × Int)
  | [] => []
  | first :: rest => (first :: rest).map fun push => (push.1, ticks (push.2 - first.2))

/-- The samples of a list of changes of which the last is still shown. -/
def closed_samples : List (List Byte × Int) → List Mp4Sample
  | change :: next :: rest =>
    ⟨change.1, change.2, max (next.2 - change.2) 1⟩ :: closed_samples (next :: rest)
  | _ => []

/-- The last sample, which is shown until the end. -/
def last_sample (end_tick : Int) (change : List Byte × Int) : Mp4Sample :=
  ⟨change.1, change.2, max (max end_tick (change.2 + 1) - change.2) 1⟩

/-- The samples of a list of changes. -/
def mp4_samples (end_tick : Int) : List (List Byte × Int) → List Mp4Sample
  | [] => []
  | [change] => [last_sample end_tick change]
  | change :: next :: rest =>
    ⟨change.1, change.2, max (next.2 - change.2) 1⟩ :: mp4_samples end_tick (next :: rest)

/-- The last sample but one lasts until the last begins. -/
theorem closed_samples_append (kept : List (List Byte × Int)) (last next : List Byte × Int) :
    closed_samples (kept ++ [last, next]) = closed_samples (kept ++ [last]) ++
      [⟨last.1, last.2, max (next.2 - last.2) 1⟩] := by
  induction kept with
  | nil => rfl
  | cons change rest ih =>
    cases rest with
    | nil => rfl
    | cons second rest => exact congrArg (List.cons _) ih

/-- The last sample lasts until the end. -/
theorem mp4_samples_append (end_tick : Int) (kept : List (List Byte × Int))
    (last : List Byte × Int) :
    mp4_samples end_tick (kept ++ [last]) =
      closed_samples (kept ++ [last]) ++ [last_sample end_tick last] := by
  induction kept with
  | nil => rfl
  | cons change rest ih =>
    cases rest with
    | nil => rfl
    | cons second rest => exact congrArg (List.cons _) ih

/-! ## What the writer holds -/

section Writer

variable {M : Mp4Sink S F} {w w' : Mp4Writer (S × List Mp4Sample)}

/-- A sample that is written is logged. -/
theorem write_logged {pending : Pending} {shown_until : Int}
    (writes : w.write (logged M) pending shown_until = .ok w') :
    w'.writer.2 = w.writer.2 ++
        [⟨pending.sample, pending.pos, max (shown_until - pending.pos) 1⟩] ∧
      w'.first_at = w.first_at := by
  unfold Mp4Writer.write at writes
  simp only [logged] at writes
  cases wrote : M.write_sample w.writer.1
      ⟨pending.sample, pending.pos, max (shown_until - pending.pos) 1⟩ with
  | error message =>
    rw [wrote] at writes
    cases writes
  | ok writer =>
    rw [wrote] at writes
    cases writes
    exact ⟨rfl, rfl⟩

/-- After some pushes: the samples of all changes but the last are written. -/
structure Mp4Holding (first_at : Duration) (pushed : List (List Byte × Duration))
    (w : Mp4Writer (S × List Mp4Sample)) : Prop where
  first : w.first_at = some first_at
  held : ∃ kept last,
    changes (pushed.map fun push => (push.1, ticks (push.2 - first_at))) = kept ++ [last] ∧
      w.pending = some ⟨last.1, last.2⟩ ∧ w.previous = some last.1 ∧
      w.writer.2 = closed_samples (kept ++ [last])

/-- A push of the right length that does not fail. -/
theorem push_first {bgra : List Byte} {pos : Duration} (fresh : w.first_at = none)
    (nothing : w.pending = none) (no_previous : w.previous = none) (empty : w.writer.2 = [])
    (pushes : w.push (logged M) bgra pos = .ok w') : Mp4Holding pos [(bgra, pos)] w' := by
  unfold Mp4Writer.push at pushes
  simp only at pushes
  split at pushes
  · cases pushes
  · simp only [fresh, nothing, no_previous, Option.getD_none] at pushes
    rw [if_neg (by exact fun same => nomatch same)] at pushes
    cases pushes
    exact ⟨rfl, [], (bgra, ticks (pos - pos)), rfl, rfl, rfl, empty⟩

/-- **The step lemma**: a push is held back, or repeats what is held.
SRC: video.rs:239-259 -/
theorem Mp4Holding.push {first_at : Duration} {pushed : List (List Byte × Duration)}
    (holding : Mp4Holding first_at pushed w) {bgra : List Byte} {pos : Duration}
    (pushes : w.push (logged M) bgra pos = .ok w') :
    Mp4Holding first_at (pushed ++ [(bgra, pos)]) w' := by
  obtain ⟨kept, last, ends, pending, previous, log⟩ := holding.held
  have ends_last : (changes (pushed.map fun push => (push.1, ticks (push.2 - first_at)))).getLast? =
      some last := by
    rw [ends]
    exact List.getLast?_concat
  have after := changes_append ends_last (bgra, ticks (pos - first_at))
  unfold Mp4Writer.push at pushes
  simp only at pushes
  split at pushes
  · cases pushes
  · simp only [holding.first, pending, previous, Option.getD_some, Option.some.injEq] at pushes
    by_cases same : last.1 = bgra
    · rw [if_pos same] at pushes
      cases pushes
      refine ⟨rfl, kept, last, ?_, rfl, rfl, log⟩
      rw [List.map_append, List.map_singleton, after, if_pos same.symm, ends]
    · rw [if_neg same] at pushes
      split at pushes
      · cases pushes
      · rename_i written writes
        cases pushes
        obtain ⟨writer, first⟩ := write_logged writes
        refine ⟨first, kept ++ [last], (bgra, ticks (pos - first_at)), ?_, rfl, rfl, ?_⟩
        · rw [List.map_append, List.map_singleton, after, if_neg fun h => same h.symm, ends]
        · rw [List.append_assoc]
          show written.writer.2 = closed_samples (kept ++ [last, (bgra, ticks (pos - first_at))])
          rw [closed_samples_append, writer]
          exact congrArg (· ++ _) log

/-- **The run lemma**. -/
theorem Mp4Holding.pushes {first_at : Duration} {pushed : List (List Byte × Duration)}
    (holding : Mp4Holding first_at pushed w) {more : List (List Byte × Duration)}
    (pushes : more.foldlM (fun w push => w.push (logged M) push.1 push.2) w = .ok w') :
    Mp4Holding first_at (pushed ++ more) w' := by
  induction more generalizing w pushed with
  | nil =>
    cases pushes
    rw [List.append_nil]
    exact holding
  | cons push rest ih =>
    rw [List.foldlM_cons] at pushes
    cases next : w.push (logged M) push.1 push.2 with
    | error message =>
      rw [next] at pushes
      cases pushes
    | ok w₁ =>
      rw [next] at pushes
      have after := ih (holding.push next) pushes
      rw [List.append_assoc] at after
      exact after

/-- SRC: video.rs:284-295 -/
theorem Mp4Holding.finalize {first_at end_at : Duration}
    {pushed : List (List Byte × Duration)} (holding : Mp4Holding first_at pushed w)
    {file : F × List Mp4Sample} {summary : VideoSummary}
    (finishes : w.finalize (logged M) end_at = .ok (file, summary)) :
    file.2 = mp4_samples (ticks (end_at - first_at))
      (changes (pushed.map fun push => (push.1, ticks (push.2 - first_at)))) := by
  obtain ⟨kept, last, ends, pending, -, log⟩ := holding.held
  unfold Mp4Writer.finalize at finishes
  simp only [holding.first, pending, Option.getD_some] at finishes
  split at finishes
  · cases finishes
  · rename_i written writes
    obtain ⟨writer, -⟩ := write_logged writes
    simp only [logged] at finishes
    cases finalizes : M.finalize written.writer.1 with
    | error message =>
      rw [finalizes] at finishes
      cases finishes
    | ok finished =>
      rw [finalizes] at finishes
      cases finishes
      rw [ends, mp4_samples_append, ← log]
      exact writer

end Writer

/-! ## The times of the samples -/

/-- The finish, counted from the first push. -/
def finish_tick (pushes : List (List Byte × Duration)) (end_at : Duration) : Int :=
  ticks (end_at - (pushes.head?.map Prod.snd).getD end_at)

/-- The samples show what was captured: from zero, one after the other, each for as long as it
was the last picture pushed, up to the finish. -/
structure KeepsTiming (pushes : List (List Byte × Duration)) (end_at : Duration)
    (samples : List Mp4Sample) : Prop where
  start : samples.head?.map Mp4Sample.time = pushes.head?.map fun _ => 0
  increasing : (samples.map Mp4Sample.time).Pairwise (· < ·)
  consecutive : samples.IsChain fun sample next => sample.time + sample.duration = next.time
  ends : ∀ last, samples.getLast? = some last →
    last.time + last.duration = max (finish_tick pushes end_at) (last.time + 1)
  covered : ∀ last, samples.getLast? = some last → ∀ tick, 0 ≤ tick →
    tick < last.time + last.duration →
    ∃ sample ∈ samples, sample.time ≤ tick ∧ tick < sample.time + sample.duration
  shown : ∀ sample ∈ samples, ∀ tick, sample.time ≤ tick →
    tick < sample.time + sample.duration → value_at tick (ticked pushes) = some sample.bgra
  pictures : samples.map Mp4Sample.bgra = (changes (ticked pushes)).map Prod.fst

/-- No two successive changes of the picture fall into one tick. -/
def TicksApart (pushes : List (List Byte × Duration)) : Prop :=
  ((changes (ticked pushes)).map Prod.snd).IsChain (· ≠ ·)

instance (pushes : List (List Byte × Duration)) : Decidable (TicksApart pushes) := by
  unfold TicksApart
  infer_instance

/-- A later time has no fewer ticks. -/
theorem ticks_mono {d d' : Duration} (le : d ≤ d') : ticks d ≤ ticks d' := by
  have counted (d : Duration) :
      ticks d = min ((d * TICKS_PER_SECOND / 1000000000 : Nat) : Int) 9223372036854775807 := by
    unfold ticks
    generalize d * TICKS_PER_SECOND / 1000000000 = count
    simp only
    by_cases few : (count : Nat) ≤ 9223372036854775807
    · rw [if_pos few]
      exact (min_eq_left (Int.ofNat_le.mpr few)).symm
    · rw [if_neg few]
      exact (min_eq_right (Int.ofNat_le.mpr (Nat.le_of_not_le few))).symm
  have scaled : d * TICKS_PER_SECOND / 1000000000 ≤ d' * TICKS_PER_SECOND / 1000000000 :=
    Nat.div_le_div_right (Nat.mul_le_mul_right _ le)
  rw [counted d, counted d']
  exact min_le_min_right _ (Int.ofNat_le.mpr scaled)

/-- Frames in order are in order by their ticks. -/
theorem ticked_sorted {pushes : List (List Byte × Duration)}
    (sorted : (pushes.map Prod.snd).Pairwise (· ≤ ·)) :
    ((ticked pushes).map Prod.snd).Pairwise (· ≤ ·) := by
  cases pushes with
  | nil => exact List.Pairwise.nil
  | cons first rest =>
    unfold ticked
    rw [List.pairwise_map, List.pairwise_map]
    rw [List.pairwise_map] at sorted
    apply sorted.imp
    intro push next le
    exact ticks_mono (Nat.sub_le_sub_right le first.2)

section Samples

variable (end_tick : Int)

/-- The samples begin where the picture changes. -/
theorem mp4_samples_times (signal : List (List Byte × Int)) :
    (mp4_samples end_tick signal).map Mp4Sample.time = signal.map Prod.snd := by
  induction signal with
  | nil => rfl
  | cons change rest ih =>
    cases rest with
    | nil => rfl
    | cons next rest => exact congrArg (List.cons change.2) ih

/-- They have the pictures that it changes to. -/
theorem mp4_samples_pictures (signal : List (List Byte × Int)) :
    (mp4_samples end_tick signal).map Mp4Sample.bgra = signal.map Prod.fst := by
  induction signal with
  | nil => rfl
  | cons change rest ih =>
    cases rest with
    | nil => rfl
    | cons next rest => exact congrArg (List.cons change.1) ih

/-- The first change begins the first sample. -/
theorem mp4_samples_cons (change : List Byte × Int) (rest : List (List Byte × Int)) :
    ∃ duration samples, mp4_samples end_tick (change :: rest) =
      ⟨change.1, change.2, duration⟩ :: samples := by
  cases rest with
  | nil => exact ⟨_, _, rfl⟩
  | cons next rest => exact ⟨_, _, rfl⟩

variable {signal : List (List Byte × Int)}

/-- Where the changes are in different ticks, each sample ends where the next begins. -/
theorem mp4_samples_consecutive (increasing : signal.Pairwise fun a b => a.2 < b.2) :
    (mp4_samples end_tick signal).IsChain
      fun sample next => sample.time + sample.duration = next.time := by
  induction signal with
  | nil => exact .nil
  | cons change rest ih =>
    cases rest with
    | nil => exact .singleton _
    | cons next rest =>
      have after := ih increasing.of_cons
      have later : change.2 < next.2 := List.rel_of_pairwise_cons increasing List.mem_cons_self
      obtain ⟨duration, samples, split⟩ := mp4_samples_cons end_tick next rest
      unfold mp4_samples
      rw [split] at after ⊢
      refine .cons_cons ?_ after
      show change.2 + max (next.2 - change.2) 1 = next.2
      omega

/-- Every tick from the first change to the end is one of a sample. -/
theorem mp4_samples_cover (increasing : signal.Pairwise fun a b => a.2 < b.2)
    {first : List Byte × Int} (starts : signal.head? = some first) {last : Mp4Sample}
    (ends : (mp4_samples end_tick signal).getLast? = some last) {tick : Int}
    (least : first.2 ≤ tick) (most : tick < last.time + last.duration) :
    ∃ sample ∈ mp4_samples end_tick signal,
      sample.time ≤ tick ∧ tick < sample.time + sample.duration := by
  induction signal generalizing first with
  | nil => cases starts
  | cons change rest ih =>
    cases starts
    cases rest with
    | nil =>
      cases ends
      exact ⟨_, List.mem_cons_self, least, most⟩
    | cons next rest =>
      by_cases later : next.2 ≤ tick
      · have ends' : (mp4_samples end_tick (next :: rest)).getLast? = some last := by
          obtain ⟨duration, samples, split⟩ := mp4_samples_cons end_tick next rest
          unfold mp4_samples at ends
          rw [split] at ends ⊢
          exact ends
        obtain ⟨sample, member, holds⟩ := ih increasing.of_cons rfl ends' later
        exact ⟨sample, List.mem_cons_of_mem _ member, holds⟩
      · refine ⟨_, List.mem_cons_self, least, ?_⟩
        show tick < change.2 + max (next.2 - change.2) 1
        omega

/-- A sample is of one of the changes, and ends before the next. -/
theorem mem_mp4_samples (increasing : signal.Pairwise fun a b => a.2 < b.2) {sample : Mp4Sample}
    (member : sample ∈ mp4_samples end_tick signal) :
    ∃ earlier later, signal = earlier ++ (sample.bgra, sample.time) :: later ∧
      ∀ next ∈ later, sample.time + sample.duration ≤ next.2 := by
  induction signal with
  | nil => cases member
  | cons change rest ih =>
    cases rest with
    | nil =>
      rw [List.mem_singleton.mp member]
      exact ⟨[], [], rfl, fun next later => absurd later List.not_mem_nil⟩
    | cons next rest =>
      rcases List.mem_cons.mp member with rfl | member
      · refine ⟨[], next :: rest, rfl, ?_⟩
        have later : change.2 < next.2 := List.rel_of_pairwise_cons increasing List.mem_cons_self
        intro other among
        show change.2 + max (next.2 - change.2) 1 ≤ other.2
        rcases List.mem_cons.mp among with rfl | among
        · omega
        · have beyond : next.2 < other.2 := List.rel_of_pairwise_cons increasing.of_cons among
          omega
      · obtain ⟨earlier, later, split, ends⟩ := ih increasing.of_cons member
        exact ⟨change :: earlier, later, congrArg (List.cons change) split, ends⟩

/-- The last sample ends at the end, or a tick after it begins. -/
theorem last_of_mp4_samples {last : Mp4Sample}
    (ends : (mp4_samples end_tick signal).getLast? = some last) :
    last.time + last.duration = max end_tick (last.time + 1) := by
  rcases List.eq_nil_or_concat signal with rfl | ⟨kept, change, rfl⟩
  · cases ends
  · rw [List.concat_eq_append, mp4_samples_append, List.getLast?_concat] at ends
    cases ends
    show change.2 + max (max end_tick (change.2 + 1) - change.2) 1 = max end_tick (change.2 + 1)
    omega

end Samples

/-- A writer just created has been given nothing.
SRC: video.rs:147-231 -/
theorem create_fresh {M : Mp4Sink S F} {width height frame_rate : Nat}
    {w : Mp4Writer (S × List Mp4Sample)}
    (created : Mp4Writer.create (logged M) width height frame_rate = .ok w) :
    w.first_at = none ∧ w.pending = none ∧ w.previous = none ∧ w.writer.2 = [] := by
  unfold Mp4Writer.create at created
  split at created
  · cases created
  · simp only [logged] at created
    cases creates : M.create width height frame_rate with
    | error message =>
      rw [creates] at created
      cases created
    | ok writer =>
      rw [creates] at created
      cases created
      exact ⟨rfl, rfl, rfl, rfl⟩

/-- What the sink of a writer that was given some pushes and finished has been given.
SRC: video.rs:239-295 -/
theorem recorded_samples {M : Mp4Sink S F} {width height frame_rate : Nat}
    {pushes : List (List Byte × Duration)} {end_at : Duration} {file : F × List Mp4Sample}
    {summary : VideoSummary}
    (recorded : mp4_recorded (logged M) width height frame_rate pushes end_at =
      .ok (file, summary)) :
    file.2 = mp4_samples (finish_tick pushes end_at) (changes (ticked pushes)) := by
  unfold mp4_recorded at recorded
  cases created : Mp4Writer.create (logged M) width height frame_rate with
  | error message =>
    rw [created] at recorded
    cases recorded
  | ok w =>
    rw [created] at recorded
    obtain ⟨no_first, nothing, no_previous, empty⟩ := create_fresh created
    cases pushes with
    | nil =>
      change w.finalize (logged M) end_at = .ok (file, summary) at recorded
      unfold Mp4Writer.finalize at recorded
      simp only [nothing, logged] at recorded
      cases finalizes : M.finalize w.writer.1 with
      | error message =>
        rw [finalizes] at recorded
        cases recorded
      | ok finished =>
        rw [finalizes] at recorded
        cases recorded
        exact empty
    | cons first rest =>
      simp only [bind, Except.bind, List.foldlM_cons] at recorded
      cases pushed : w.push (logged M) first.1 first.2 with
      | error message =>
        rw [pushed] at recorded
        cases recorded
      | ok w₁ =>
        rw [pushed] at recorded
        simp only at recorded
        cases more : rest.foldlM (fun w push => w.push (logged M) push.1 push.2) w₁ with
        | error message =>
          rw [more] at recorded
          cases recorded
        | ok w₂ =>
          rw [more] at recorded
          have holding := (push_first no_first nothing no_previous empty pushed).pushes more
          exact holding.finalize recorded

/-- The samples keep the capture's timing exactly when no two successive changes fall into
one tick.
SRC: video.rs:239-342 -/
theorem mp4_timing_iff {M : Mp4Sink S F} {width height frame_rate : Nat}
    {pushes : List (List Byte × Duration)} {end_at : Duration} {file : F × List Mp4Sample}
    {summary : VideoSummary} (sorted : (pushes.map Prod.snd).Pairwise (· ≤ ·))
    (recorded : mp4_recorded (logged M) width height frame_rate pushes end_at =
      .ok (file, summary)) :
    KeepsTiming pushes end_at file.2 ↔ TicksApart pushes := by
  rw [recorded_samples recorded]
  constructor
  · intro keeps
    have increasing := keeps.increasing
    rw [mp4_samples_times] at increasing
    exact increasing.isChain.imp fun _ _ later => ne_of_lt later
  · intro apart
    have ordered := ticked_sorted sorted
    have strict := increasing_of_apart (ordered.sublist ((changes_sublist _).map Prod.snd)) apart
    have increasing := List.pairwise_map.mp strict
    refine ⟨?_, ?_, ?_, ?_, ?_, ?_, ?_⟩
    · cases pushes with
      | nil => rfl
      | cons first rest =>
        obtain ⟨duration, samples, split⟩ := mp4_samples_cons (finish_tick (first :: rest) end_at)
          (first.1, ticks (first.2 - first.2))
          (changes_after first.1 (rest.map fun push => (push.1, ticks (push.2 - first.2))))
        have starts : changes (ticked (first :: rest)) = (first.1, ticks (first.2 - first.2)) ::
          changes_after first.1 (rest.map fun push => (push.1, ticks (push.2 - first.2))) := rfl
        rw [starts, split, Nat.sub_self]
        rfl
    · rw [mp4_samples_times]
      exact strict
    · exact mp4_samples_consecutive _ increasing
    · intro last ends
      exact last_of_mp4_samples _ ends
    · intro last ends tick least most
      cases pushes with
      | nil => cases ends
      | cons first rest =>
        have starts : (changes (ticked (first :: rest))).head? =
          some (first.1, ticks (first.2 - first.2)) := rfl
        refine mp4_samples_cover _ increasing starts ends ?_ most
        rw [Nat.sub_self]
        exact least
    · intro sample member tick least most
      obtain ⟨earlier, later, split, ends⟩ := mem_mp4_samples _ increasing member
      rw [← value_at_changes tick ordered, split]
      apply value_at_between least
      intro next among
      exact lt_of_lt_of_le most (ends next among)
    · exact mp4_samples_pictures _ _

/-- A sink that accepts everything. -/
def accepting_sink : Mp4Sink Unit Unit where
  create _ _ _ := .ok ()
  write_sample _ _ := .ok ()
  finalize _ := .ok ()
  samples _ := []

/-- A picture of two by two pixels whose bytes are all this one. -/
def even_picture (byte : Byte) : List Byte := List.replicate 16 byte

/-- Two pictures, a frame apart. -/
theorem mp4_timing_two_pictures :
    KeepsTiming [(even_picture 1, 0), (even_picture 2, from_millis 66)] (from_millis 100)
      [⟨even_picture 1, 0, 660000⟩, ⟨even_picture 2, 660000, 340000⟩] :=
  (@mp4_timing_iff _ _ accepting_sink 2 2 15
    [(even_picture 1, 0), (even_picture 2, from_millis 66)] (from_millis 100)
    ((), [⟨even_picture 1, 0, 660000⟩, ⟨even_picture 2, 660000, 340000⟩])
    ⟨2, 2, from_millis 100⟩ (by decide) rfl).mpr (by decide)

/-- The second picture comes 50 ns after the first, in the same tick: both samples start at
zero, and the tick the first one lasts is also the second one's. -/
theorem pictures_share_a_tick :
    mp4_recorded (logged accepting_sink) 2 2 15 [(even_picture 1, 0), (even_picture 2, 50)] 1000 =
        .ok (((), [⟨even_picture 1, 0, 1⟩, ⟨even_picture 2, 0, 10⟩]), ⟨2, 2, 1000⟩) ∧
      ¬ KeepsTiming [(even_picture 1, 0), (even_picture 2, 50)] 1000
        [⟨even_picture 1, 0, 1⟩, ⟨even_picture 2, 0, 10⟩] := by
  refine ⟨rfl, ?_⟩
  intro keeps
  have increasing := keeps.increasing
  revert increasing
  decide

end Captastic.Analysis
