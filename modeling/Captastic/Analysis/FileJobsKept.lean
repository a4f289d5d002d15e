import Captastic.Library.Runs
import Captastic.Model.FileJobs
import Mathlib.Data.List.Count

/-!
# What becomes of the jobs of the file destination

Every job that a submit took is, in the order they were taken, counted once with what became of
it, in the thread's hand, queued, or among those the receiver was dropped with; and the totals
count what was counted (`JobsKept`).  The thread looks into the queue for the last time before
it hands its totals back, and the receiver goes with the thread: a job submitted in between is
taken and never counted.  Every job is accounted for in every state of a run exactly when no job
is submitted then and no write panics (`jobs_accounted_iff`).
-/

set_option autoImplicit false

namespace Captastic.Analysis

open Captastic.Library Captastic.Model

variable {J : Type} {s s' : FileOutput J} {event : FileEvent J}

/-! ## What a step can do -/

/-- A stage before the drain has ended. -/
def taking : FileStage J → Bool
  | .polls | .receives | .writes _ | .drains => true
  | _ => false

/-- A step: outside the thread, or of the thread. -/
inductive FileMoves (s : FileOutput J) : FileEvent J → FileOutput J → Prop
  | outside (event : FileEvent J) (sinks : Nat) (stop_requested own_sender : Bool)
      (refused : ∀ job, event = .submits job → s.takes = false) (calm : event ≠ .panics) :
      FileMoves s event { s with sinks, stop_requested, own_sender }
  | takes (job : J) (room : s.takes = true) :
      FileMoves s (.submits job)
        { s with queue := s.queue ++ [job], accepted := s.accepted ++ [job] }
  | goes (event : FileEvent J) (stage : FileStage J) (thread : ∀ job, event ≠ .submits job)
      (calm : event ≠ .panics) (before : taking s.stage = true ∧ s.stage.in_hand = [])
      (after : taking stage = true ∧ stage.in_hand = []) : FileMoves s event { s with stage }
  | receives (job : J) (queue : List J) (stage : s.stage = .receives)
      (queued : s.queue = job :: queue) :
      FileMoves s .receives { s with queue, stage := .writes job }
  | counts (event : FileEvent J) (job : J) (ended : JobEnd) (stage : FileStage J) (queue : List J)
      (thread : ∀ job, event ≠ .submits job) (calm : event ≠ .panics)
      (before : taking s.stage = true) (taken : s.stage.in_hand ++ s.queue = job :: queue)
      (after : taking stage = true ∧ stage.in_hand = []) :
      FileMoves s event ({ s with queue }.counts job ended stage)
  | drained (stage : s.stage = .drains) (empty : s.queue = []) :
      FileMoves s .drains { s with stage := .drained }
  | reports (stage : s.stage = .drained) :
      FileMoves s .reports { s with stage := .finishes, summary := some s.metrics }
  | finishes (stage : s.stage = .finishes) : FileMoves s .finishes { s with stage := .exits }
  | panics (job : J) (stage : s.stage = .writes job) :
      FileMoves s .panics { s with stage := .panicked, lost := job :: s.queue, queue := [] }
  | exits (stage : s.stage = .exits) :
      FileMoves s .exits { s with stage := .gone, lost := s.queue, queue := [] }

/-- What each step does, read from the step function. -/
theorem file_moves (taken : s.step event = some s') : FileMoves s event s' := by
  have idle {stage : FileStage J} (at_stage : s.stage = stage)
      (early : taking stage = true ∧ stage.in_hand = []) :
      taking s.stage = true ∧ s.stage.in_hand = [] := by
    rw [at_stage]
    exact early
  cases event with
  | clones =>
    simp only [FileOutput.step] at taken
    split at taken
    · cases taken
      exact .outside _ (s.sinks + 1) s.stop_requested s.own_sender nofun nofun
    · cases taken
  | releases =>
    simp only [FileOutput.step] at taken
    split at taken
    · cases taken
      exact .outside _ (s.sinks - 1) s.stop_requested s.own_sender nofun nofun
    · cases taken
  | submits job =>
    simp only [FileOutput.step] at taken
    split at taken
    · split at taken
      · rename_i room
        cases taken
        exact .takes job room
      · rename_i full
        cases taken
        refine .outside _ s.sinks s.stop_requested s.own_sender ?_ nofun
        intro _ _
        exact Bool.eq_false_iff.mpr full
    · cases taken
  | request_stop =>
    cases taken
    exact .outside _ s.sinks true false nofun nofun
  | polls =>
    simp only [FileOutput.step] at taken
    split at taken
    · rename_i stage
      cases taken
      refine .goes _ _ nofun nofun (idle stage ⟨rfl, rfl⟩) ?_
      cases s.stop_requested with
      | true => exact ⟨rfl, rfl⟩
      | false => exact ⟨rfl, rfl⟩
    · cases taken
  | receives =>
    simp only [FileOutput.step] at taken
    split at taken
    · rename_i job queue stage queued
      cases taken
      exact .receives job queue stage queued
    · rename_i stage queued
      cases taken
      refine .goes _ _ nofun nofun (idle stage ⟨rfl, rfl⟩) ?_
      split
      · exact ⟨rfl, rfl⟩
      · exact ⟨rfl, rfl⟩
    · cases taken
  | writes written =>
    simp only [FileOutput.step] at taken
    split at taken
    · rename_i job stage
      cases taken
      exact .counts _ job _ .polls s.queue nofun nofun (by rw [stage]; rfl) (by rw [stage]; rfl)
        ⟨rfl, rfl⟩
    · cases taken
  | panics =>
    simp only [FileOutput.step] at taken
    split at taken
    · rename_i job stage
      cases taken
      exact .panics job stage
    · cases taken
  | drains =>
    simp only [FileOutput.step] at taken
    split at taken
    · rename_i job queue stage queued
      cases taken
      exact .counts _ job .Abandoned .drains queue nofun nofun (by rw [stage]; rfl)
        (by rw [stage]; exact queued) ⟨rfl, rfl⟩
    · rename_i stage queued
      cases taken
      exact .drained stage queued
    · cases taken
  | reports =>
    simp only [FileOutput.step] at taken
    split at taken
    · rename_i stage
      cases taken
      exact .reports stage
    · cases taken
  | finishes =>
    simp only [FileOutput.step] at taken
    split at taken
    · rename_i stage
      cases taken
      exact .finishes stage
    · cases taken
  | exits =>
    simp only [FileOutput.step] at taken
    split at taken
    · rename_i stage
      cases taken
      exact .exits stage
    · cases taken

/-! ## The jobs -/

/-- How many of the jobs counted ended so. -/
def ended_so (handled : List (J × JobEnd)) (ended : JobEnd) : Nat :=
  handled.countP fun job => decide (job.2 = ended)

/-- The jobs that were taken, in their order: those counted, the one in the thread's hand, those
queued and those lost with the receiver; the totals count those counted. -/
structure JobsKept (s : FileOutput J) : Prop where
  jobs : s.accepted = s.handled.map Prod.fst ++ (s.stage.in_hand ++ s.queue) ++ s.lost
  found : s.stage.dropped = false → s.lost = []
  empty : s.stage.dropped = true → s.queue = []
  bounded : s.queue.length ≤ s.capacity
  written : s.metrics.written = ended_so s.handled .Written
  failed : s.metrics.failed = ended_so s.handled .Failed
  abandoned : s.metrics.abandoned = ended_so s.handled .Abandoned
  summary : ∀ metrics, s.summary = some metrics → metrics = s.metrics ∧ taking s.stage = false

/-- At the start no job is held or handled. -/
theorem start_jobs_kept (capacity : Nat) : JobsKept (FileOutput.start (J := J) capacity) where
  jobs := rfl
  found := fun _ => rfl
  empty := fun _ => rfl
  bounded := Nat.zero_le capacity
  written := rfl
  failed := rfl
  abandoned := rfl
  summary := nofun

/-- A worker that still takes jobs has neither dropped any nor passed its drain. -/
theorem not_dropped_of_taking {stage : FileStage J} (early : taking stage = true) :
    stage.dropped = false ∧ stage.past_drain = false := by
  cases stage <;> first | exact ⟨rfl, rfl⟩ | cases early

/-- Recording how a job ended keeps each count at the jobs that ended so. -/
theorem record_ended (metrics : OutputMetrics) (handled : List (J × JobEnd)) (job : J)
    (ended : JobEnd) (written : metrics.written = ended_so handled .Written)
    (failed : metrics.failed = ended_so handled .Failed)
    (abandoned : metrics.abandoned = ended_so handled .Abandoned) :
    (metrics.record ended).written = ended_so (handled ++ [(job, ended)]) .Written ∧
      (metrics.record ended).failed = ended_so (handled ++ [(job, ended)]) .Failed ∧
      (metrics.record ended).abandoned = ended_so (handled ++ [(job, ended)]) .Abandoned := by
  unfold ended_so at written failed abandoned ⊢
  simp only [List.countP_append, ← written, ← failed, ← abandoned]
  cases ended <;> simp [OutputMetrics.record]

/-- **One step** of the sinks, of the side that stops the worker or of the thread.
SRC: file_output.rs:145-237; output.rs:103-108 -/
theorem JobsKept.step (kept : JobsKept s) (moves : FileMoves s event s') : JobsKept s' := by
  obtain ⟨jobs, found, empty, bounded, written, failed, abandoned, summary⟩ := kept
  cases moves with
  | outside event sinks stop_requested own_sender refused calm =>
    exact ⟨jobs, found, empty, bounded, written, failed, abandoned, summary⟩
  | takes job room =>
    unfold FileOutput.takes at room
    simp only [Bool.and_eq_true, Bool.not_eq_true', decide_eq_true_eq] at room
    obtain ⟨alive, free⟩ := room
    refine ⟨?_, found, ?_, ?_, written, failed, abandoned, summary⟩
    · show s.accepted ++ [job] =
        s.handled.map Prod.fst ++ (s.stage.in_hand ++ (s.queue ++ [job])) ++ s.lost
      rw [jobs, found alive]
      simp
    · intro dropped
      cases alive.symm.trans dropped
    · show (s.queue ++ [job]).length ≤ s.capacity
      rw [List.length_append]
      exact free
  | goes event stage thread calm before after =>
    refine ⟨?_, fun _ => found (not_dropped_of_taking before.1).1, ?_, bounded, written, failed,
      abandoned, ?_⟩
    · show s.accepted = s.handled.map Prod.fst ++ (stage.in_hand ++ s.queue) ++ s.lost
      rw [after.2, ← before.2]
      exact jobs
    · intro dropped
      cases (not_dropped_of_taking after.1).1.symm.trans dropped
    · intro metrics reported
      cases before.1.symm.trans (summary metrics reported).2
  | receives job queue stage queued =>
    have not_dropped : s.stage.dropped = false := by rw [stage]; rfl
    refine ⟨?_, fun _ => found not_dropped, nofun, ?_, written, failed, abandoned, ?_⟩
    · rw [stage, queued] at jobs
      exact jobs
    · rw [queued] at bounded
      exact Nat.le_of_succ_le bounded
    · intro metrics reported
      have late := (summary metrics reported).2
      rw [stage] at late
      cases late
  | counts event job ended stage queue thread calm before taken after =>
    obtain ⟨written', failed', abandoned'⟩ :=
      record_ended s.metrics s.handled job ended written failed abandoned
    have not_dropped := (not_dropped_of_taking before).1
    refine ⟨?_, fun _ => found not_dropped, ?_, ?_, written', failed', abandoned', ?_⟩
    · show s.accepted =
        (s.handled ++ [(job, ended)]).map Prod.fst ++ (stage.in_hand ++ queue) ++ s.lost
      rw [jobs, taken, after.2]
      simp
    · intro dropped
      cases (not_dropped_of_taking after.1).1.symm.trans dropped
    · show queue.length ≤ s.capacity
      have lengths := congrArg List.length taken
      rw [List.length_append, List.length_cons] at lengths
      have at_most : s.stage.in_hand.length ≤ 1 := by
        cases s.stage <;> simp [FileStage.in_hand]
      omega
    · intro metrics reported
      cases before.symm.trans (summary metrics reported).2
  | drained stage none_left =>
    have not_dropped : s.stage.dropped = false := by rw [stage]; rfl
    refine ⟨?_, fun _ => found not_dropped, nofun, bounded, written, failed, abandoned, ?_⟩
    · rw [stage] at jobs
      exact jobs
    · intro metrics reported
      exact ⟨(summary metrics reported).1, rfl⟩
  | reports stage =>
    have not_dropped : s.stage.dropped = false := by rw [stage]; rfl
    refine ⟨?_, fun _ => found not_dropped, nofun, bounded, written, failed, abandoned, ?_⟩
    · rw [stage] at jobs
      exact jobs
    · intro metrics reported
      cases reported
      exact ⟨rfl, rfl⟩
  | finishes stage =>
    have not_dropped : s.stage.dropped = false := by rw [stage]; rfl
    refine ⟨?_, fun _ => found not_dropped, nofun, bounded, written, failed, abandoned, ?_⟩
    · rw [stage] at jobs
      exact jobs
    · intro metrics reported
      exact ⟨(summary metrics reported).1, rfl⟩
  | panics job stage =>
    have not_dropped : s.stage.dropped = false := by rw [stage]; rfl
    refine ⟨?_, nofun, fun _ => rfl, Nat.zero_le _, written, failed, abandoned, ?_⟩
    · rw [stage, found not_dropped] at jobs
      show s.accepted = s.handled.map Prod.fst ++ ([] ++ []) ++ (job :: s.queue)
      rw [jobs]
      simp [FileStage.in_hand]
    · intro metrics reported
      have late := (summary metrics reported).2
      rw [stage] at late
      cases late
  | exits stage =>
    have not_dropped : s.stage.dropped = false := by rw [stage]; rfl
    refine ⟨?_, nofun, fun _ => rfl, Nat.zero_le _, written, failed, abandoned, ?_⟩
    · rw [stage, found not_dropped] at jobs
      show s.accepted = s.handled.map Prod.fst ++ ([] ++ []) ++ s.queue
      rw [jobs]
      simp [FileStage.in_hand]
    · intro metrics reported
      exact ⟨(summary metrics reported).1, rfl⟩

/-! ## All accounted for -/

/-- No job is lost, and none waits where the thread does not look any more. -/
def AllAccounted (s : FileOutput J) : Prop :=
  s.lost = [] ∧ (s.stage.past_drain = true → s.queue = [])

/-- A job is submitted while the thread still looks into the queue or the receiver is gone, and no
write panics. -/
def reaches_worker (s : FileOutput J) (event : FileEvent J) : Prop :=
  (∀ job, event = .submits job → s.stage.past_drain = false) ∧ event ≠ .panics

/-- **One step** that lets every job reach the worker. -/
theorem AllAccounted.step (all : AllAccounted s)
    (reaches : reaches_worker s event) (moves : FileMoves s event s') : AllAccounted s' := by
  obtain ⟨none_lost, none_late⟩ := all
  cases moves with
  | outside event sinks stop_requested own_sender refused calm => exact ⟨none_lost, none_late⟩
  | takes job room =>
    refine ⟨none_lost, ?_⟩
    intro late
    cases (reaches.1 job rfl).symm.trans late
  | goes event stage thread calm before after =>
    refine ⟨none_lost, ?_⟩
    intro late
    cases (not_dropped_of_taking after.1).2.symm.trans late
  | receives job queue stage queued => exact ⟨none_lost, nofun⟩
  | counts event job ended stage queue thread calm before taken after =>
    refine ⟨none_lost, ?_⟩
    intro late
    cases (not_dropped_of_taking after.1).2.symm.trans late
  | drained stage none_left => exact ⟨none_lost, fun _ => none_left⟩
  | reports stage => exact ⟨none_lost, fun _ => none_late (by rw [stage]; rfl)⟩
  | finishes stage => exact ⟨none_lost, fun _ => none_late (by rw [stage]; rfl)⟩
  | panics job stage => exact absurd rfl reaches.2
  | exits stage => exact ⟨none_late (by rw [stage]; rfl), nofun⟩

/-- A job that misses the worker is not accounted for. -/
theorem unaccounted_after (all : AllAccounted s) (capacity : 1 ≤ s.capacity)
    (misses : ¬ reaches_worker s event) (taken : s.step event = some s') : ¬ AllAccounted s' := by
  rintro ⟨none_lost, none_late⟩
  unfold reaches_worker at misses
  rw [not_and_or] at misses
  rcases misses with late | panics
  · push Not at late
    obtain ⟨job, rfl, past⟩ := late
    have past : s.stage.past_drain = true := by simpa using past
    have empty := all.2 past
    have room : s.takes = true := by
      unfold FileOutput.takes
      have alive : s.stage.dropped = false := by
        cases at_stage : s.stage <;> rw [at_stage] at past <;> first | rfl | cases past
      rw [alive, empty]
      exact decide_eq_true capacity
    simp only [FileOutput.step, room, if_true] at taken
    split at taken
    · cases taken
      have still_queued := none_late past
      rw [List.append_eq_nil_iff] at still_queued
      cases still_queued.2
    · cases taken
  · obtain rfl : event = .panics := by simpa using panics
    cases file_moves taken with
    | outside event sinks stop_requested own_sender refused calm => exact calm rfl
    | goes event stage thread calm before after => exact calm rfl
    | counts event job ended stage queue thread calm before taken after => exact calm rfl
    | panics job stage => cases none_lost

/-- The steps of the sinks, of the side that stops the worker and of its thread. -/
def FileStep (s : FileOutput J) (event : FileEvent J) (s' : FileOutput J) : Prop :=
  s.step event = some s'

/-- The capacity never changes. -/
theorem capacity_step (moves : FileMoves s event s') : s'.capacity = s.capacity := by
  cases moves <;> rfl

/-- The totals count every job handled. -/
theorem JobsKept.totals (kept : JobsKept s) : s.handled.length =
    s.metrics.written + s.metrics.failed + s.metrics.abandoned := by
  rw [kept.written, kept.failed, kept.abandoned]
  unfold ended_so
  generalize s.handled = handled
  induction handled with
  | nil => rfl
  | cons job rest ih =>
    obtain ⟨job, ended⟩ := job
    simp only [List.length_cons, List.countP_cons, ih]
    cases ended <;> simp <;> omega

/-- Once the receiver has been dropped, what was not handled is lost. -/
theorem JobsKept.dropped (kept : JobsKept s) (dropped : s.stage.dropped = true) :
    s.accepted = s.handled.map Prod.fst ++ s.lost := by
  have in_hand : s.stage.in_hand = [] := by
    cases stage : s.stage <;> first | rfl | (rw [stage] at dropped; cases dropped)
  rw [kept.jobs, kept.empty dropped, in_hand, List.append_nil, List.append_nil]

/-- Once the worker is gone and every job reached it, the totals handed back count every job. -/
theorem JobsKept.all_counted (kept : JobsKept s) (all : AllAccounted s)
    (gone : s.stage = .gone) : s.accepted = s.handled.map Prod.fst ∧
      s.accepted.length = s.metrics.written + s.metrics.failed + s.metrics.abandoned := by
  have counted := kept.dropped (by rw [gone]; rfl)
  rw [all.1, List.append_nil] at counted
  refine ⟨counted, ?_⟩
  rw [counted, List.length_map, kept.totals]

/-- In every run the jobs are kept. -/
theorem jobs_kept {capacity : Nat} {steps : List (Taken (FileOutput J) (FileEvent J))}
    (run : Run FileStep (FileOutput.start capacity) steps s) : JobsKept s := by
  apply run.inv _ (start_jobs_kept capacity)
  intro s event s' kept taken
  exact kept.step (file_moves taken)

/-- A step that lets every job reach the worker leaves all accounted for, and the capacity. -/
theorem reaching_kept (s : FileOutput J) (event : FileEvent J) (s' : FileOutput J)
    (kept : AllAccounted s ∧ 1 ≤ s.capacity) (reaches : reaches_worker s event)
    (taken : FileStep s event s') : AllAccounted s' ∧ 1 ≤ s'.capacity := by
  have moves := file_moves taken
  refine ⟨kept.1.step reaches moves, ?_⟩
  rw [capacity_step moves]
  exact kept.2

/-- **What becomes of the jobs.**  In every state of every run each job taken is counted once, in
hand, queued or lost, in the order they were taken; and none is lost, or left where the thread
looks no more, exactly when every job is submitted before the last look or after the receiver is
gone, and no write panics.  The totals then count every job once the worker is gone.
SRC: file_output.rs:145-237, 275-296; output.rs:103-108 -/
theorem jobs_accounted_iff {capacity : Nat} (capacity_pos : 1 ≤ capacity)
    {steps : List (Taken (FileOutput J) (FileEvent J))}
    (run : Run FileStep (FileOutput.start capacity) steps s) :
    JobsKept s ∧
      (AllAccounted s → s.stage = .gone → s.accepted = s.handled.map Prod.fst ∧
        s.accepted.length = s.metrics.written + s.metrics.failed + s.metrics.abandoned) ∧
      ((∀ t ∈ steps, AllAccounted t.after) ↔ ∀ t ∈ steps, reaches_worker t.before t.event) := by
  have kept := jobs_kept run
  refine ⟨kept, kept.all_counted, ?_⟩
  exact run.always_iff reaching_kept (fun _ kept => kept.1)
    (fun _ _ _ kept => unaccounted_after kept.1 kept.2) ⟨⟨rfl, fun _ => rfl⟩, capacity_pos⟩

/-- Two jobs: the first is written, and the second is submitted after the worker's last look. -/
def late_job : List (FileEvent Nat) :=
  [.submits 1, .polls, .receives, .writes true, .request_stop, .polls, .drains, .submits 2,
    .reports, .finishes, .exits]

/-- A job that is queued after the worker's last look is lost, and counted nowhere. -/
theorem jobs_accounted_late_job :
    ∃ steps s, Run FileStep (FileOutput.start 2) steps s ∧ steps.map Taken.event = late_job ∧
      JobsKept s ∧ s.lost = [2] ∧ ¬∀ t ∈ steps, reaches_worker t.before t.event := by
  have computed : (late_job.foldlM FileOutput.step (FileOutput.start 2)).any (fun s =>
      decide (s.lost = [2])) = true := by decide
  obtain ⟨s, computed, lost⟩ := (Option.any_eq_true _ _).mp computed
  have lost := of_decide_eq_true lost
  obtain ⟨steps, same, run⟩ := @Run.of_foldlM _ _ FileStep _ _ FileOutput.step
    (fun _ _ _ taken => taken) _ computed
  obtain ⟨kept, -, accounted⟩ := jobs_accounted_iff (by decide) run
  refine ⟨steps, s, run, same, kept, lost, fun reaches => ?_⟩
  have moves : steps ≠ [] := by
    rintro rfl
    cases same
  have none_lost := (run.at_end moves (accounted.mpr reaches)).1
  rw [lost] at none_lost
  cases none_lost

/-! ## Once the worker is gone -/

/-- A job that is lost, or left where the worker looks no more, stays so. -/
theorem unaccounted_stays (kept : JobsKept s) (missed : ¬ AllAccounted s)
    (moves : FileMoves s event s') : ¬ AllAccounted s' := by
  rintro ⟨none_lost, none_late⟩
  refine missed ⟨?_, fun late => ?_⟩
  · cases moves <;> first | exact none_lost | exact kept.found (by simp [*, FileStage.dropped])
  · cases moves with
    | outside event sinks stop_requested own_sender refused calm => exact none_late late
    | takes job room => exact (List.append_eq_nil_iff.mp (none_late late)).1
    | reports stage => exact none_late rfl
    | finishes stage => exact none_late rfl
    | exits stage => exact none_lost
    | goes event stage thread calm before after =>
      exact absurd late (by rw [(not_dropped_of_taking before.1).2]; decide)
    | counts event job ended stage queue thread calm before taken after =>
      exact absurd late (by rw [(not_dropped_of_taking before).2]; decide)
    | receives job queue stage queued => rw [stage] at late; cases late
    | drained stage empty => rw [stage] at late; cases late
    | panics job stage => rw [stage] at late; cases late

/-- Every job that a submit took is counted once, as written, failed or abandoned. -/
structure AllCounted (s : FileOutput J) : Prop where
  each : s.handled.map Prod.fst = s.accepted
  totals : s.metrics.written + s.metrics.failed + s.metrics.abandoned = s.accepted.length

/-- **Once the worker is gone** every job that a submit took has been counted once, exactly when
each was submitted before the last look into the queue, or after the receiver was dropped, and no
write panicked.
SRC: file_output.rs:145-237, 275-296; output.rs:103-108 -/
theorem jobs_counted_iff {capacity : Nat} (capacity_pos : 1 ≤ capacity)
    {steps : List (Taken (FileOutput J) (FileEvent J))}
    (run : Run FileStep (FileOutput.start capacity) steps s) (gone : s.stage.dropped = true) :
    AllCounted s ↔ ∀ t ∈ steps, reaches_worker t.before t.event := by
  have kept := jobs_kept run
  have jobs := kept.dropped gone
  have at_end := run.at_end_iff reaching_kept (fun _ kept => kept.1)
    (fun _ _ _ kept => unaccounted_after kept.1 kept.2)
    (fun _ _ _ _ earlier missed taken =>
      unaccounted_stays (jobs_kept earlier) missed (file_moves taken))
    ⟨⟨rfl, fun _ => rfl⟩, capacity_pos⟩
  rw [← at_end]
  constructor
  · intro counted
    have same := jobs
    rw [← counted.each] at same
    exact ⟨List.self_eq_append_right.mp same, fun _ => kept.empty gone⟩
  · intro all
    rw [all.1, List.append_nil] at jobs
    refine ⟨jobs.symm, ?_⟩
    rw [jobs, List.length_map, kept.totals]

/-- One job, written before the worker is told to stop. -/
def early_job : List (FileEvent Nat) :=
  [.submits 1, .polls, .receives, .writes true, .request_stop, .polls, .drains, .reports,
    .finishes, .exits]

/-- A step lets every job reach the worker. -/
def reaches_it (s : FileOutput Nat) : FileEvent Nat → Bool
  | .submits _ => !s.stage.past_drain
  | .panics => false
  | _ => true

/-- It is counted. -/
theorem jobs_counted_early_job :
    ∃ steps s, Run FileStep (FileOutput.start 2) steps s ∧ steps.map Taken.event = early_job ∧
      s.accepted = [1] ∧ AllCounted s := by
  have computed : (early_job.foldlM (fun s event =>
      if reaches_it s event then s.step event else none) (FileOutput.start 2)).any (fun s =>
      decide (s.accepted = [1] ∧ s.stage.dropped = true)) = true := by decide
  obtain ⟨s, computed, ended⟩ := (Option.any_eq_true _ _).mp computed
  obtain ⟨accepted, gone⟩ := of_decide_eq_true ended
  obtain ⟨steps, same, run, reaches⟩ := @Run.of_foldlM_checked _ _ FileStep _ _ FileOutput.step
    reaches_it (fun _ _ _ taken => taken) _ computed
  refine ⟨steps, s, run, same, accepted, (jobs_counted_iff (by decide) run gone).mpr ?_⟩
  intro t member
  have passes := reaches t member
  constructor
  · rintro job submits
    rw [submits] at passes
    simpa [reaches_it] using passes
  · intro panics
    rw [panics] at passes
    cases passes

/-- The second of two jobs is taken after the worker's last look, and counted nowhere. -/
theorem late_job_vanishes :
    ∃ steps s, Run FileStep (FileOutput.start 2) steps s ∧ steps.map Taken.event = late_job ∧
      s.stage.dropped = true ∧ s.accepted = [1, 2] ∧ s.handled = [(1, .Written)] ∧
      s.metrics = ⟨1, 0, 0⟩ ∧ ¬ AllCounted s := by
  have computed : (late_job.foldlM FileOutput.step (FileOutput.start 2)).any (fun s =>
      decide (s.stage.dropped = true ∧ s.accepted = [1, 2] ∧ s.handled = [(1, .Written)] ∧
        s.metrics = ⟨1, 0, 0⟩)) = true := by decide
  obtain ⟨s, computed, ended⟩ := (Option.any_eq_true _ _).mp computed
  obtain ⟨gone, accepted, handled, metrics⟩ := of_decide_eq_true ended
  obtain ⟨steps, same, run⟩ := @Run.of_foldlM _ _ FileStep _ _ FileOutput.step
    (fun _ _ _ taken => taken) _ computed
  refine ⟨steps, s, run, same, gone, accepted, handled, metrics, fun counted => ?_⟩
  have totals := counted.totals
  rw [metrics, accepted] at totals
  cases totals

end Captastic.Analysis
