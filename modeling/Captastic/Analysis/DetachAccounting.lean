import Captastic.Library.Runs
import Captastic.Library.Tally
import Captastic.Model.Detach

/-!
# The ledger of detached workers

A worker that finds itself written off gives back what its waiter counts, but the waiter claims the
cell before it counts, so the worker can be first.  The ledger's live count is true in every state
of a run if and only if no return is taken from it before a detach was added (`ledger_true_iff`).
-/

set_option autoImplicit false

namespace Captastic.Analysis

open Captastic.Library Captastic.Model

/-! ## What the ledger is told of one worker -/

/-- The wait has claimed the cell. -/
def claimed : WaitStage → Bool
  | .Claimed | .Counted | .WrittenOff => true
  | .Waiting | .Joining | .Left => false

/-- The wait has told the ledger. -/
def counted : WaitStage → Bool
  | .Counted | .WrittenOff => true
  | .Waiting | .Joining | .Claimed | .Left => false

/-- The thread has found itself written off. -/
def found_off : ThreadStage → Bool
  | .Finished written_off | .Returned written_off | .Gone written_off => written_off
  | .Working => false

/-- The thread has told the ledger. -/
def returned : ThreadStage → Bool
  | .Returned written_off | .Gone written_off => written_off
  | .Working | .Finished _ => false

/-- What holds of a worker at each of its steps. -/
structure WorkerKept (site : DetachSite) (worker : DetachWorker) : Prop where
  detaches : worker.detaches = (counted worker.wait).toNat
  rejoins : worker.rejoins = (returned worker.thread).toNat
  claims : claimed worker.wait = true ↔
    worker.cell = .Detached ∨ found_off worker.thread = true
  working : worker.thread = .Working → worker.cell ≠ .Finished
  swapped : worker.cell = .Finished ∨ worker.thread = .Working ∨
    (site = .file_output ∧ worker.thread = .Gone false)

/-- The worker holds a slot: a window render until its thread is gone, a file worker until the
daemon is through with it and the ledger has it back. -/
def holds_slot (site : DetachSite) (worker : DetachWorker) : Bool :=
  match site with
  | .window_render => !worker.thread.is_gone
  | .file_output => !worker.wait_over || (counted worker.wait && !returned worker.thread)

variable {site : DetachSite} {step : WorkerStep} {worker worker' : DetachWorker}
  {counts counts' : DetachCounts}

/-- A worker that has just begun is not detached. -/
theorem new_kept (site : DetachSite) : WorkerKept site .new where
  detaches := rfl
  rejoins := rfl
  claims := by simp [DetachWorker.new, claimed, found_off]
  working := by simp [DetachWorker.new]
  swapped := .inr (.inl rfl)

/-- A worker that is counted and out holds a slot. -/
theorem holds_slot_of_counted (kept : WorkerKept site worker)
    (told : counted worker.wait = true) (out : returned worker.thread = false) :
    holds_slot site worker = true := by
  cases site with
  | file_output => simp [holds_slot, told, out]
  | window_render =>
    have claims : claimed worker.wait = true := by
      cases stage : worker.wait <;> simp_all [claimed, counted]
    cases stage : worker.thread with
    | Gone written_off =>
      rw [stage] at out
      have off : written_off = false := out
      rcases kept.claims.mp claims with detached | found
      · rcases kept.swapped with finished | working | panicked
        · cases detached.symm.trans finished
        · cases stage.symm.trans working
        · cases panicked.1
      · rw [stage, off] at found
        cases found
    | _ => simp [holds_slot, stage, ThreadStage.is_gone]

/-- What a step does to the ledger's live count, and what it says of it. -/
inductive LedgerMoves (step : WorkerStep) (worker worker' : DetachWorker) :
    DetachCounts → DetachCounts → Prop
  | silent {counts counts' : DetachCounts} (live : counts'.live = counts.live)
      (detaches : worker'.detaches = worker.detaches)
      (rejoins : worker'.rejoins = worker.rejoins) : LedgerMoves step worker worker' counts counts'
  | added {counts counts' : DetachCounts} (live : counts'.live = fetch_add counts.live)
      (detaches : worker'.detaches = worker.detaches + 1)
      (rejoins : worker'.rejoins = worker.rejoins) : LedgerMoves step worker worker' counts counts'
  | taken {counts counts' : DetachCounts} (live : counts'.live = fetch_sub counts.live)
      (detaches : worker'.detaches = worker.detaches)
      (rejoins : worker'.rejoins = worker.rejoins + 1)
      (gives_back : step = .gives_back)
      (off : worker.thread = .Finished true) : LedgerMoves step worker worker' counts counts'

/-- What a step leaves of its worker. -/
structure StepKept (site : DetachSite) (step : WorkerStep) (worker worker' : DetachWorker)
    (counts counts' : DetachCounts) : Prop where
  kept : WorkerKept site worker'
  slots : holds_slot site worker' = true → holds_slot site worker = true
  ledger : LedgerMoves step worker worker' counts counts'

/-- SRC: file_output.rs:54-63, window_capture.rs:296-311 -/
theorem deadline_kept (kept : WorkerKept site worker) (waiting : worker.wait = .Waiting) :
    StepKept site step worker (worker.detach site) counts counts := by
  have detaches : worker.detaches = 0 := by
    rw [kept.detaches, waiting]
    rfl
  have unclaimed : ¬ (worker.cell = .Detached ∨ found_off worker.thread = true) := by
    rw [← kept.claims, waiting]
    exact Bool.false_ne_true
  have slots (left : DetachWorker) (same : left.thread = worker.thread) :
      holds_slot site left = true → holds_slot site worker = true := by
    cases site with
    | window_render => simp [holds_slot, same]
    | file_output => simp [holds_slot, DetachWorker.wait_over, waiting]
  unfold DetachWorker.detach
  split
  · rename_i running
    refine ⟨⟨detaches, kept.rejoins, ?_, by simp, ?_⟩, slots _ rfl, .silent rfl rfl rfl⟩
    · simp [claimed]
    · rcases kept.swapped with finished | stays
      · cases running.symm.trans finished
      · exact .inr stays
  · split
    · refine ⟨⟨detaches, kept.rejoins, ?_, kept.working, kept.swapped⟩, slots _ rfl,
        .silent rfl rfl rfl⟩
      exact ⟨by simp [claimed], fun claims => absurd claims unclaimed⟩
    · refine ⟨⟨detaches, kept.rejoins, ?_, kept.working, kept.swapped⟩, slots _ rfl,
        .silent rfl rfl rfl⟩
      exact ⟨by simp [claimed], fun claims => absurd claims unclaimed⟩

/-- SRC: file_output.rs:303-310, window_capture.rs:230-231, 270-279 -/
theorem leaves_kept (kept : WorkerKept site worker)
    (waiting : worker.wait = .Waiting ∨ worker.wait = .Joining) :
    StepKept site step worker { worker with wait := .Left } counts counts := by
  have idle : claimed worker.wait = false ∧ counted worker.wait = false ∧
      worker.wait_over = false := by
    rcases waiting with stage | stage <;> simp [stage, claimed, counted, DetachWorker.wait_over]
  refine ⟨⟨?_, kept.rejoins, ?_, kept.working, kept.swapped⟩, ?_, .silent rfl rfl rfl⟩
  · rw [kept.detaches, idle.2.1]
    rfl
  · rw [← kept.claims, idle.1]
    rfl
  · cases site with
    | window_render => exact id
    | file_output => simp [holds_slot, idle.2.2]

/-- SRC: detach.rs:121-127 -/
theorem counts_kept {wait : WaitStage} {detaches : Nat} (kept : WorkerKept site worker)
    (claims : claimed worker.wait = true) (claims' : claimed wait = true)
    (told : detaches = (counted wait).toNat) (under_way : worker.wait_over = false)
    (ledger : LedgerMoves step worker { worker with wait, detaches } counts counts') :
    StepKept site step worker { worker with wait, detaches } counts counts' := by
  refine ⟨⟨told, kept.rejoins, ?_, kept.working, kept.swapped⟩, ?_, ledger⟩
  · rw [← kept.claims, claims, claims']
  · cases site with
    | window_render => exact id
    | file_output => simp [holds_slot, under_way]

/-- SRC: file_output.rs:67-69, window_capture.rs:313-317 -/
theorem finishes_kept (kept : WorkerKept site worker) (working : worker.thread = .Working) :
    StepKept site step worker { worker with
      cell := .Finished, thread := .Finished (decide (worker.cell = .Detached)) } counts
      counts := by
  refine ⟨⟨kept.detaches, ?_, ?_, nofun, .inl rfl⟩, ?_, .silent rfl rfl rfl⟩
  · rw [kept.rejoins, working]
    rfl
  · rw [kept.claims, working]
    simp [found_off]
  · cases site with
    | window_render => simp [holds_slot, working, ThreadStage.is_gone]
    | file_output => simp [holds_slot, working, returned, DetachWorker.wait_over]

/-- A step of the thread past its claim of the cell. -/
theorem thread_kept {thread : ThreadStage} {rejoins : Nat} (kept : WorkerKept site worker)
    (past : thread ≠ .Working) (finished : worker.cell = .Finished)
    (off : found_off thread = found_off worker.thread)
    (told : rejoins = (returned thread).toNat)
    (gone : worker.thread.is_gone = false)
    (out : returned worker.thread = true → returned thread = true)
    (ledger : LedgerMoves step worker { worker with thread, rejoins } counts counts') :
    StepKept site step worker { worker with thread, rejoins } counts counts' := by
  refine ⟨⟨kept.detaches, told, ?_, fun working => absurd working past, .inl finished⟩, ?_, ledger⟩
  · rw [kept.claims, off]
  · cases site with
    | window_render => simp [holds_slot, gone]
    | file_output =>
      simp only [holds_slot, Bool.or_eq_true, Bool.and_eq_true, Bool.not_eq_true']
      rintro (under_way | ⟨counts, back⟩)
      · exact .inl under_way
      · refine .inr ⟨counts, Bool.eq_false_iff.mpr fun before => ?_⟩
        rw [out before] at back
        cases back

/-- SRC: file_output.rs:157-237 -/
theorem panics_kept (kept : WorkerKept site worker) (working : worker.thread = .Working)
    (file : site = .file_output) :
    StepKept site step worker { worker with thread := .Gone false } counts counts := by
  subst file
  refine ⟨⟨kept.detaches, ?_, ?_, nofun, .inr (.inr ⟨rfl, rfl⟩)⟩, ?_, .silent rfl rfl rfl⟩
  · rw [kept.rejoins, working]
    rfl
  · rw [kept.claims, working]
    rfl
  · simp [holds_slot, working, returned, DetachWorker.wait_over]

/-- A thread past its work has marked its cell, unless it never ran. -/
theorem WorkerKept.finished_of_past (kept : WorkerKept site worker)
    (past : worker.thread ≠ .Working) (there : worker.thread ≠ .Gone false) :
    worker.cell = .Finished := by
  rcases kept.swapped with finished | working | panicked
  · exact finished
  · exact absurd working past
  · exact absurd panicked.2 there

/-- **A step of a worker** keeps what holds of it. -/
theorem worker_step_kept (kept : WorkerKept site worker)
    (taken : worker.next site counts step = some (worker', counts')) :
    StepKept site step worker worker' counts counts' := by
  unfold DetachWorker.next at taken
  cases step with
  | deadline =>
    simp only at taken
    split at taken
    · rename_i waiting
      cases taken
      exact deadline_kept kept waiting
    · cases taken
  | leaves =>
    simp only at taken
    split at taken
    · rename_i waiting
      cases taken
      exact leaves_kept kept waiting.1
    · cases taken
  | counts_live =>
    simp only at taken
    split at taken
    · rename_i stage
      cases taken
      apply counts_kept kept
      · rw [stage]
        rfl
      · rfl
      · rw [kept.detaches, stage]
        rfl
      · simp [DetachWorker.wait_over, stage]
      · exact .added rfl rfl rfl
    · cases taken
  | counts_total =>
    simp only at taken
    split at taken
    · rename_i stage
      cases taken
      apply counts_kept kept
      · rw [stage]
        rfl
      · rfl
      · rw [kept.detaches, stage]
        rfl
      · simp [DetachWorker.wait_over, stage]
      · exact .silent rfl rfl rfl
    · cases taken
  | answers =>
    simp only at taken
    split at taken
    · cases taken
      exact ⟨⟨kept.detaches, kept.rejoins, kept.claims, kept.working, kept.swapped⟩, id,
        .silent rfl rfl rfl⟩
    · cases taken
  | finishes =>
    simp only at taken
    split at taken
    · rename_i working
      cases taken
      exact finishes_kept kept working
    · cases taken
  | gives_back =>
    simp only at taken
    split at taken
    · rename_i stage
      have finished := kept.finished_of_past (by rw [stage]; nofun) (by rw [stage]; nofun)
      cases taken
      refine thread_kept kept ?_ finished ?_ ?_ ?_ ?_ ?_
      · nofun
      · rw [stage]
        rfl
      · rw [kept.rejoins, stage]
        rfl
      · rw [stage]
        rfl
      · exact fun _ => rfl
      · exact .taken rfl rfl rfl rfl stage
    · rename_i stage
      have finished := kept.finished_of_past (by rw [stage]; nofun) (by rw [stage]; nofun)
      cases taken
      refine thread_kept kept ?_ finished ?_ ?_ ?_ ?_ ?_
      · nofun
      · rw [stage]
        rfl
      · rw [kept.rejoins, stage]
        rfl
      · rw [stage]
        rfl
      · rw [stage]
        exact id
      · exact .silent rfl rfl rfl
    · cases taken
  | exits =>
    simp only at taken
    split at taken
    · rename_i written_off stage
      have finished := kept.finished_of_past (by rw [stage]; nofun) (by rw [stage]; nofun)
      cases taken
      refine thread_kept kept ?_ finished ?_ ?_ ?_ ?_ ?_
      · nofun
      · rw [stage]
        rfl
      · rw [kept.rejoins, stage]
        rfl
      · rw [stage]
        rfl
      · rw [stage]
        exact id
      · exact .silent rfl rfl rfl
    · cases taken
  | panics =>
    simp only at taken
    split at taken
    · rename_i working
      cases taken
      exact panics_kept kept working.1 working.2
    · cases taken

/-! ## All workers -/

/-- How often the ledger was told of a detach. -/
def detaches_counted (system : DetachSystem) : Nat := tally DetachWorker.detaches system.workers

/-- How often the ledger was told of a return. -/
def returns_made (system : DetachSystem) : Nat := tally DetachWorker.rejoins system.workers

/-- Neither the worker's thread nor the side that waits for it is between two steps of one
change. -/
def at_rest (worker : DetachWorker) : Prop :=
  worker.wait ≠ .Claimed ∧ worker.wait ≠ .Counted ∧
    ∀ written_off, worker.thread ≠ .Finished written_off

/-- The worker is detached, and has not returned. -/
def detached_out (worker : DetachWorker) : Bool :=
  claimed worker.wait && !returned worker.thread

/-- What is promised of the ledger in each state. -/
structure LedgerTrue (site : DetachSite) (system : DetachSystem) : Prop where
  balanced : system.counts.live + returns_made system = detaches_counted system
  quiescent : (∀ worker ∈ system.workers, at_rest worker) →
    system.counts.live = system.workers.countP detached_out
  bounded : system.counts.live ≤ site.kind.ceiling
  once : ∀ worker ∈ system.workers, worker.detaches ≤ 1 ∧ worker.rejoins ≤ 1

/-- What every step keeps, while no return is made before a detach is counted. -/
structure SystemKept (site : DetachSite) (system : DetachSystem) : Prop where
  workers : ∀ worker ∈ system.workers, WorkerKept site worker
  balanced : system.counts.live + returns_made system = detaches_counted system
  slots : tally (fun worker => (holds_slot site worker).toNat) system.workers ≤
    site.kind.ceiling

/-- A detached thread that came back had been claimed. -/
theorem returned_le_claimed (kept : WorkerKept site worker) (back : returned worker.thread = true) :
    claimed worker.wait = true := by
  apply kept.claims.mpr
  refine .inr ?_
  cases stage : worker.thread <;> simp_all [returned, found_off]

/-- The live count is at most the number of slots held. -/
theorem SystemKept.live_le {system : DetachSystem} (kept : SystemKept site system) :
    system.counts.live ≤ site.kind.ceiling := by
  have each : detaches_counted system ≤
      tally (fun worker => (holds_slot site worker).toNat) system.workers +
        returns_made system := by
    rw [returns_made, ← tally_add]
    apply tally_le_tally
    intro worker member
    have own := kept.workers worker member
    rw [own.detaches, own.rejoins]
    cases told : counted worker.wait with
    | false => exact Nat.zero_le _
    | true =>
      cases back : returned worker.thread with
      | false => simp [holds_slot_of_counted own told back]
      | true => simp
  have balanced := kept.balanced
  have slots := kept.slots
  omega

/-- **What is kept** is what is promised. -/
theorem SystemKept.ledger_true {system : DetachSystem} (kept : SystemKept site system) :
    LedgerTrue site system where
  balanced := kept.balanced
  quiescent := by
    intro resting
    have each : tally (fun worker => (detached_out worker).toNat) system.workers +
        returns_made system = detaches_counted system := by
      rw [returns_made, ← tally_add]
      apply tally_congr
      intro worker member
      have own := kept.workers worker member
      obtain ⟨not_claimed, not_counted, -⟩ := resting worker member
      have same : claimed worker.wait = counted worker.wait := by
        cases stage : worker.wait <;> simp_all [claimed, counted]
      have back := returned_le_claimed own
      rw [own.detaches, own.rejoins, ← same]
      unfold detached_out
      cases returns : returned worker.thread with
      | false => simp
      | true => simp [back returns]
    have balanced := kept.balanced
    rw [← tally_toNat]
    omega
  bounded := kept.live_le
  once := by
    intro worker member
    have own := kept.workers worker member
    rw [own.detaches, own.rejoins]
    exact ⟨Bool.toNat_le _, Bool.toNat_le _⟩

/-- The worker that takes the step gives back what the ledger has counted: more detaches than
returns. -/
def returns_counted (system : DetachSystem) : DetachEvent → Prop
  | .worker index .gives_back =>
    (∃ worker, system.workers[index]? = some worker ∧ worker.thread = .Finished true) →
      returns_made system < detaches_counted system
  | _ => True

/-- A step of the side. -/
def DetachStep (site : DetachSite) (system : DetachSystem) (event : DetachEvent)
    (system' : DetachSystem) : Prop :=
  system.next site event = some system'

/-- A start takes a slot that is free. -/
theorem start_slots {system : DetachSystem} (kept : SystemKept site system)
    (may : system.may_start site = true) :
    tally (fun worker => (holds_slot site worker).toNat) system.workers < site.kind.ceiling := by
  unfold DetachSystem.may_start at may
  split at may
  · rw [tally_toNat]
    exact of_decide_eq_true may
  · simp only [Bool.and_eq_true, List.all_eq_true, decide_eq_true_eq] at may
    obtain ⟨past, below⟩ := may
    have each : tally (fun worker => (holds_slot .file_output worker).toNat) system.workers +
        returns_made system = detaches_counted system := by
      rw [returns_made, ← tally_add]
      apply tally_congr
      intro worker member
      have own := kept.workers worker member
      have through := past worker member
      have same : claimed worker.wait = counted worker.wait := by
        unfold DetachWorker.wait_over at through
        cases stage : worker.wait <;> simp_all [claimed, counted]
      have back := returned_le_claimed own
      rw [own.detaches, own.rejoins, ← same]
      unfold holds_slot
      simp only [through, Bool.not_true, Bool.false_or, ← same]
      cases returns : returned worker.thread with
      | false => simp
      | true => simp [back returns]
    have balanced := kept.balanced
    omega

/-- **One step** keeps what is kept, where it takes no return before a detach. -/
theorem system_step_kept {system system' : DetachSystem} {event : DetachEvent}
    (kept : SystemKept site system) (counted_first : returns_counted system event)
    (step : DetachStep site system event system') : SystemKept site system' := by
  unfold DetachStep DetachSystem.next at step
  cases event with
  | start =>
    simp only at step
    split at step
    · rename_i may
      cases step
      refine ⟨?_, ?_, ?_⟩
      · intro worker member
        rcases List.mem_append.mp member with member | member
        · exact kept.workers worker member
        · rw [List.mem_singleton.mp member]
          exact new_kept site
      · have balanced := kept.balanced
        unfold returns_made detaches_counted at balanced ⊢
        rw [tally_append, tally_append, tally_singleton, tally_singleton]
        exact balanced
      · have free := start_slots kept may
        rw [tally_append, tally_singleton]
        have one := Bool.toNat_le (holds_slot site .new)
        omega
    · cases step
  | worker index step_of =>
    simp only [Option.bind_eq_bind, Option.bind_eq_some_iff] at step
    obtain ⟨worker, held, ⟨worker', counts'⟩, taken, step⟩ := step
    cases step
    have own := kept.workers worker (List.mem_of_getElem? held)
    have left := worker_step_kept own taken
    refine ⟨?_, ?_, ?_⟩
    · intro other member
      rcases List.mem_or_eq_of_mem_set member with member | rfl
      · exact kept.workers other member
      · exact left.kept
    · have balanced := kept.balanced
      have live := kept.live_le
      have small : site.kind.ceiling ≤ 8 := by cases site <;> decide
      have detaches := tally_set held DetachWorker.detaches worker'
      have rejoins := tally_set held DetachWorker.rejoins worker'
      unfold returns_made detaches_counted at balanced ⊢
      simp only
      cases left.ledger with
      | silent same same_detaches same_rejoins =>
        rw [same]
        omega
      | added live_eq detaches_eq rejoins_eq =>
        rw [live_eq]
        unfold fetch_add
        omega
      | taken live_eq detaches_eq rejoins_eq gives_back off =>
        subst gives_back
        have more := counted_first ⟨worker, held, off⟩
        unfold returns_made detaches_counted at more
        rw [live_eq]
        unfold fetch_sub
        omega
    · have slots := kept.slots
      have changed := tally_set held (fun worker => (holds_slot site worker).toNat) worker'
      have fewer : (holds_slot site worker').toNat ≤ (holds_slot site worker).toNat := by
        cases after : holds_slot site worker' with
        | false => exact Nat.zero_le _
        | true => exact Nat.le_of_eq (congrArg Bool.toNat (left.slots after)).symm
      change tally _ (system.workers.set index worker') ≤ _
      omega

/-- A return that is taken from the ledger before a detach was added leaves it wrong. -/
theorem early_return_breaks {system system' : DetachSystem} {event : DetachEvent}
    (kept : SystemKept site system) (early : ¬ returns_counted system event)
    (step : DetachStep site system event system') : ¬ LedgerTrue site system' := by
  intro promised
  unfold returns_counted at early
  split at early
  · rename_i index
    simp only [Classical.not_imp, Nat.not_lt] at early
    obtain ⟨⟨worker, held, off⟩, none_left⟩ := early
    unfold DetachStep DetachSystem.next at step
    simp only [Option.bind_eq_bind, Option.bind_eq_some_iff] at step
    obtain ⟨other, held', ⟨worker', counts'⟩, taken, step⟩ := step
    obtain rfl := Option.some.inj (held.symm.trans held')
    unfold DetachWorker.next at taken
    simp only [off] at taken
    cases taken
    cases step
    have detaches := tally_set held DetachWorker.detaches
      { worker with thread := .Returned true, rejoins := worker.rejoins + 1 }
    have rejoins := tally_set held DetachWorker.rejoins
      { worker with thread := .Returned true, rejoins := worker.rejoins + 1 }
    have before := kept.balanced
    have after := promised.balanced
    unfold returns_made detaches_counted at before after none_left
    simp only at after detaches rejoins
    unfold fetch_sub at after
    omega
  · exact early trivial

/-- With no workers nothing is counted. -/
theorem empty_kept (site : DetachSite) : SystemKept site .empty where
  workers := nofun
  balanced := rfl
  slots := Nat.zero_le _

/-- **Detached workers are accounted for**: in every run of a side, the ledger is true in every
state reached, if and only if every return it is told of finds more detaches counted than
returns. -/
theorem ledger_true_iff {system : DetachSystem}
    {steps : List (Taken DetachSystem DetachEvent)}
    (runs : Run (DetachStep site) .empty steps system) :
    (∀ step ∈ steps, LedgerTrue site step.after) ↔
      ∀ step ∈ steps, returns_counted step.before step.event := by
  apply runs.always_iff (I := SystemKept site)
  · intro system event system' kept counted_first step
    exact system_step_kept kept counted_first step
  · intro system kept
    exact kept.ledger_true
  · intro system event system' kept early step
    exact early_return_breaks kept early step
  · exact empty_kept site

/-! ## A return that overtakes its detach -/

/-- What the events make of a side, from no worker. -/
def detach_run (site : DetachSite) (events : List DetachEvent) : Option DetachSystem :=
  events.foldlM (DetachSystem.next site) .empty

/-- What is given back is fewer than what is counted. -/
def gives_counted (system : DetachSystem) : DetachEvent → Bool
  | .worker _ .gives_back => decide (returns_made system < detaches_counted system)
  | _ => true

/-- The decidable check is the condition. -/
theorem returns_counted_of_check {system : DetachSystem} {event : DetachEvent}
    (passes : gives_counted system event = true) : returns_counted system event := by
  unfold returns_counted
  split
  · intro _
    exact of_decide_eq_true passes
  · trivial

/-- A render that is detached at its deadline, counted, and then returns: the ledger is true at
every time. -/
theorem ledger_true_of_return :
    ∃ steps system, Run (DetachStep .window_render) .empty steps system ∧
      steps.map Taken.event = [.start, .worker 0 .deadline, .worker 0 .counts_live,
        .worker 0 .counts_total, .worker 0 .finishes, .worker 0 .gives_back,
        .worker 0 .exits] ∧
      ∀ step ∈ steps, LedgerTrue .window_render step.after := by
  have computed : (([.start, .worker 0 .deadline, .worker 0 .counts_live,
      .worker 0 .counts_total, .worker 0 .finishes, .worker 0 .gives_back,
      .worker 0 .exits] : List DetachEvent).foldlM (fun system event =>
        if gives_counted system event then DetachSystem.next .window_render system event else none)
      .empty).isSome = true := by decide
  obtain ⟨system, computed⟩ := Option.isSome_iff_exists.mp computed
  obtain ⟨steps, same, runs, passes⟩ := @Run.of_foldlM_checked _ _ (DetachStep .window_render) _ _ _
    _ (fun _ _ _ taken => taken) _ computed
  exact ⟨steps, system, runs, same, (ledger_true_iff runs).mpr fun step member =>
    returns_counted_of_check (passes step member)⟩

/-- A file worker exits between the claim of its detach and the count of it: the live count wraps,
and all other sides see a ledger that is full. -/
theorem live_wraps :
    ∃ steps system, Run (DetachStep .file_output) .empty steps system ∧
      steps.map Taken.event = [.start, .worker 0 .deadline, .worker 0 .finishes,
        .worker 0 .gives_back] ∧
      system.counts.live = 18446744073709551615 ∧
      ¬ ∀ step ∈ steps, LedgerTrue .file_output step.after := by
  have computed : (detach_run .file_output [.start, .worker 0 .deadline, .worker 0 .finishes,
      .worker 0 .gives_back]).any (fun system =>
        decide (system.counts.live = 18446744073709551615)) = true := by decide
  obtain ⟨system, computed, wrapped⟩ := (Option.any_eq_true _ _).mp computed
  obtain ⟨steps, same, runs⟩ := @Run.of_foldlM _ _ (DetachStep .file_output) .empty _
    (DetachSystem.next .file_output) (fun _ _ _ taken => taken) _ computed
  have live : system.counts.live = 18446744073709551615 := of_decide_eq_true wrapped
  refine ⟨steps, system, runs, same, live, fun promised => ?_⟩
  cases runs with
  | nil => cases same
  | @snoc steps before after event runs taken =>
    have bounded := (promised ⟨before, event, system⟩
      (List.mem_append_right _ (List.mem_singleton.mpr rfl))).bounded
    change system.counts.live ≤ 1 at bounded
    omega

end Captastic.Analysis
