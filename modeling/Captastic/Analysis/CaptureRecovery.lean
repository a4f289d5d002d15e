import Captastic.Analysis.ServingCalls

/-!
# The capture engine and its recovery

The capture worker either has an engine or has scheduled its recovery, never both and never
neither (`Settled`): at every top of its loop, and wherever it ends.  A command that is left
with an error the engine is rebuilt after leaves recovery scheduled, a guarded step makes at most
`CAPTURE_RECOVERY_RETRIES` rebuilds, and the user is told alternately that the engine is gone and
that it is back.

A command begins with the engine in hand (`Working`); in its middle it may have lost the engine
without having scheduled anything yet, but then it holds an error that makes it do so
(`Failing`).
-/

set_option autoImplicit false

namespace Captastic.Analysis

open Captastic.Library Captastic.Model

variable {B W T R S : Type}

/-! ## What the notes say -/

/-- Between the start of a guarded step and whatever is noted after it, its rebuilds. -/
def RebuildsBounded (notes : List Note) : Prop :=
  ∀ before n after, notes = before ++ .guarded :: (List.replicate n .rebuilt ++ after) →
    n ≤ CAPTURE_RECOVERY_RETRIES

/-- What the user was told of the engine, the first notice first. -/
def engine_notices (notes : List Note) : List DaemonNotice :=
  notes.filterMap fun what => match what with
    | .told notice => some notice
    | _ => none

/-- That the engine is gone, then that it is back, and so on. -/
def Alternate (notices : List DaemonNotice) : Prop :=
  ∀ i notice, notices[i]? = some notice →
    notice = if i % 2 = 0 then .CaptureEngineUnavailable else .CaptureEngineRecovered

/-- What the notes say, and that the worker remembers whether the user knows of an outage. -/
structure History (notes : List Note) (recovery_notified : Bool) : Prop where
  rebuilds : RebuildsBounded notes
  alternate : Alternate (engine_notices notes)
  told : recovery_notified = decide ((engine_notices notes).length % 2 = 1)

/-- Later notices come behind earlier ones. -/
theorem engine_notices_append (notes more : List Note) :
    engine_notices (notes ++ more) = engine_notices notes ++ engine_notices more := by
  unfold engine_notices
  exact List.filterMap_append

/-- A note that is no rebuild leaves the rebuilds as they are. -/
theorem RebuildsBounded.concat {notes : List Note} {what : Note} (bounded : RebuildsBounded notes)
    (other : what ≠ .rebuilt) : RebuildsBounded (notes ++ [what]) := by
  intro before n after split
  cases after using List.reverseRecOn with
  | nil =>
    cases n with
    | zero => exact Nat.zero_le _
    | succ n =>
      rw [List.append_nil, List.replicate_succ', ← List.cons_append, ← List.append_assoc] at split
      obtain ⟨-, same⟩ := List.append_inj' split rfl
      exact absurd (List.cons.inj same).1 other
  | append_singleton after last =>
    rw [← List.append_assoc, ← List.cons_append, ← List.append_assoc] at split
    obtain ⟨same, -⟩ := List.append_inj' split rfl
    exact bounded before n after same

/-- The last guarded step of a list of notes has as many rebuilds as follow it. -/
theorem last_rebuilds_eq {notes before : List Note} {n m : Nat}
    (same : notes ++ .guarded :: List.replicate n .rebuilt =
      before ++ .guarded :: List.replicate m .rebuilt) : m = n := by
  induction n generalizing m with
  | zero =>
    cases m with
    | zero => rfl
    | succ m =>
      rw [List.replicate_succ', ← List.cons_append, ← List.append_assoc] at same
      obtain ⟨-, last⟩ := List.append_inj' same rfl
      cases (List.cons.inj last).1
  | succ n ih =>
    rw [List.replicate_succ', ← List.cons_append, ← List.append_assoc] at same
    cases m with
    | zero =>
      obtain ⟨-, last⟩ := List.append_inj' same rfl
      cases (List.cons.inj last).1
    | succ m =>
      rw [List.replicate_succ', ← List.cons_append, ← List.append_assoc] at same
      obtain ⟨earlier, -⟩ := List.append_inj' same rfl
      rw [ih earlier]

/-- The rebuilds of the guarded step that was noted last. -/
theorem RebuildsBounded.rebuilds {notes : List Note} (bounded : RebuildsBounded notes) {n : Nat}
    (few : n ≤ CAPTURE_RECOVERY_RETRIES) :
    RebuildsBounded (notes ++ .guarded :: List.replicate n .rebuilt) := by
  induction n with
  | zero => exact bounded.concat nofun
  | succ n ih =>
    have earlier := ih (Nat.le_of_succ_le few)
    intro before m after split
    cases after using List.reverseRecOn with
    | nil =>
      rw [List.append_nil] at split
      rw [last_rebuilds_eq split]
      exact few
    | append_singleton after last =>
      rw [List.replicate_succ', ← List.append_assoc, ← List.cons_append, ← List.cons_append,
        ← List.append_assoc, ← List.append_assoc] at split
      obtain ⟨same, -⟩ := List.append_inj' split rfl
      exact earlier before m after same

/-! ## History, note by note -/

/-- Before anything is noted nothing has been rebuilt and the user knows of no outage. -/
theorem History.nil : History [] false where
  rebuilds := by
    intro before n after split
    cases before <;> cases split
  alternate := by
    intro i notice found
    cases found
  told := rfl

/-- A note that neither tells the user anything nor is a rebuild. -/
theorem History.concat {notes : List Note} {notified : Bool} {what : Note}
    (history : History notes notified) (other : what ≠ .rebuilt) (silent : engine_notices [what] = []) :
    History (notes ++ [what]) notified := by
  have same : engine_notices (notes ++ [what]) = engine_notices notes := by
    rw [engine_notices_append, silent, List.append_nil]
  exact ⟨history.rebuilds.concat other, same ▸ history.alternate, same ▸ history.told⟩

/-- The next notice is the other one. -/
theorem Alternate.concat {notices : List DaemonNotice} {notice : DaemonNotice}
    (alternate : Alternate notices)
    (next : notice = if notices.length % 2 = 0 then .CaptureEngineUnavailable
      else .CaptureEngineRecovered) : Alternate (notices ++ [notice]) := by
  intro i other found
  rcases Nat.lt_trichotomy i notices.length with earlier | rfl | later
  · rw [List.getElem?_append_left earlier] at found
    exact alternate i other found
  · rw [List.getElem?_concat_length] at found
    rw [← Option.some.inj found]
    exact next
  · rw [List.getElem?_eq_none (by rw [List.length_append]; exact later)] at found
    cases found

/-- Telling the user the other notice keeps the history. -/
theorem History.tell {notes : List Note} {notified : Bool} (history : History notes notified) :
    History (notes ++ [.told (if notified then .CaptureEngineRecovered
      else .CaptureEngineUnavailable)]) (!notified) := by
  have told := history.told
  refine ⟨history.rebuilds.concat nofun, ?_, ?_⟩
  · rw [engine_notices_append]
    apply history.alternate.concat
    cases notified with
    | false =>
      have even : (engine_notices notes).length % 2 ≠ 1 := of_decide_eq_false told.symm
      exact (if_pos (by omega)).symm
    | true =>
      have odd : (engine_notices notes).length % 2 = 1 := of_decide_eq_true told.symm
      exact (if_neg (by omega)).symm
  · rw [engine_notices_append, List.length_append, told]
    change (!decide _) = decide ((_ + 1) % 2 = 1)
    rw [← decide_not]
    apply decide_eq_decide.mpr
    omega

/-- A guarded step and its rebuilds. -/
theorem History.guarded {notes : List Note} {notified : Bool} (history : History notes notified)
    {n : Nat} (few : n ≤ CAPTURE_RECOVERY_RETRIES) :
    History (notes ++ .guarded :: List.replicate n .rebuilt) notified := by
  have silent : engine_notices (.guarded :: List.replicate n .rebuilt) = [] := by
    apply List.filterMap_eq_nil_iff.mpr
    intro what member
    rcases List.mem_cons.mp member with rfl | member
    · rfl
    · rw [List.eq_of_mem_replicate member]
  have same : engine_notices (notes ++ .guarded :: List.replicate n .rebuilt) =
      engine_notices notes := by
    rw [engine_notices_append, silent, List.append_nil]
  exact ⟨history.rebuilds.rebuilds few, same ▸ history.alternate, same ▸ history.told⟩

/-! ## States of the worker -/

/-- What recovery reads and changes of the worker, and the notes of it. -/
structure EngineState (B : Type) where
  backend : Option B
  recovery : Option BackendRecovery
  recovery_notified : Bool
  notes : List Note
  unserved : Option CaptureError

def engine (s : CaptureWorker B W) : EngineState B :=
  ⟨s.backend, s.recovery, s.recovery_notified, s.notes, s.unserved⟩

variable {e : EngineState B}

/-- What a command leaves, and what the next one starts from. -/
structure Settled (e : EngineState B) : Prop where
  one : e.backend.isSome = !e.recovery.isSome
  quiet : e.recovery = none → e.recovery_notified = false
  history : History e.notes e.recovery_notified
  scheduled : ∀ error, e.unserved = some error → requires_backend_recovery error = true →
    e.recovery.isSome = true

/-- The engine is in hand. -/
structure Working (e : EngineState B) : Prop where
  backend : e.backend.isSome = true
  recovery : e.recovery = none
  notified : e.recovery_notified = false
  history : History e.notes false
  served : e.unserved = none

/-- The step at hand has failed.  Either the recovery is scheduled, or the engine is still there
or was lost with an error that will schedule it. -/
structure Failing (error : CaptureError) (e : EngineState B) : Prop where
  quiet : e.recovery = none → e.recovery_notified = false
  history : History e.notes e.recovery_notified
  left : e.unserved = some error
  stands : (e.recovery.isSome = true ∧ e.backend = none) ∨
    (e.recovery = none ∧ (e.backend = none → requires_backend_recovery error = true))

/-- A worker with its engine in hand is settled. -/
theorem Working.settled (working : Working e) : Settled e where
  one := by rw [working.backend, working.recovery]; rfl
  quiet := fun _ => working.notified
  history := working.notified ▸ working.history
  scheduled := by
    intro error left
    rw [working.served] at left
    cases left

/-- A step that fails with the engine in hand leaves it there. -/
theorem Working.failing (working : Working e) (error : CaptureError) :
    Failing error { e with unserved := some error } where
  quiet := fun _ => working.notified
  history := by
    change History e.notes e.recovery_notified
    rw [working.notified]
    exact working.history
  left := rfl
  stands := by
    refine .inr ⟨working.recovery, fun gone => ?_⟩
    have there := working.backend
    change e.backend = none at gone
    rw [gone] at there
    cases there

/-- Without an engine, recovery is scheduled. -/
theorem Settled.failing (settled : Settled e) (gone : e.backend = none) (error : CaptureError) :
    Failing error { e with unserved := some error } where
  quiet := settled.quiet
  history := settled.history
  left := rfl
  stands := by
    refine .inl ⟨?_, gone⟩
    have one := settled.one
    rw [gone] at one
    simpa using one.symm

/-- A settled worker whose engine is there works with it. -/
theorem Settled.working (settled : Settled e) (there : e.backend.isSome = true)
    (served : e.unserved = none) : Working e := by
  have recovery : e.recovery = none := by
    have one := settled.one
    rw [there] at one
    cases scheduled : e.recovery with
    | none => rfl
    | some state =>
      rw [scheduled] at one
      cases one
  have notified := settled.quiet recovery
  exact ⟨there, recovery, notified, notified ▸ settled.history, served⟩

/-! ## The seam -/

/-- What a guarded step leaves of the engine, besides its notes. -/
def Tried (g : GuardedResult T R S) (backend : Option B) : Prop :=
  match g.result with
  | .ok _ => backend.isSome = true ∧ g.reinitialize_error = none
  | .error error => (backend = none → requires_backend_recovery error = true) ∧
      (g.reinitialize_error.isSome = true → backend = none)

/-- The variables that a guarded step does not touch, and the rebuilds it has made. -/
structure Between (notes : List Note) (rebuilds : Nat) (e : EngineState B) : Prop where
  recovery : e.recovery = none
  notified : e.recovery_notified = false
  served : e.unserved = none
  notes_eq : e.notes = notes ++ .guarded :: List.replicate rebuilds .rebuilt

/-- What a guarded step leaves. -/
def Guarded (notes : List Note) :
    Except WorkerEnd (GuardedResult T R S) → CaptureWorker B W → Prop :=
  Post (fun g s => Tried g s.backend ∧ ∃ rebuilds ≤ CAPTURE_RECOVERY_RETRIES,
    Between notes rebuilds (engine s)) fun _ _ => False

/-- A guarded step in its middle: so many rebuilds made, and the engine there or not. -/
def Trying (notes : List Note) (rebuilds : Nat) (there : Bool) (s : CaptureWorker B W) : Prop :=
  s.backend.isSome = there ∧ Between notes rebuilds (engine s)

/-- What becomes of the engine does not change the notes of a step in its middle. -/
theorem Trying.keeps_backend {notes : List Note} {rebuilds : Nat} {there : Bool}
    {s : CaptureWorker B W} (trying : Trying notes rebuilds there s) (backend : Option B) :
    Trying notes rebuilds backend.isSome { s with backend } :=
  ⟨rfl, trying.2.recovery, trying.2.notified, trying.2.served, trying.2.notes_eq⟩

/-- Noting one more rebuild. -/
theorem Trying.rebuilt {notes : List Note} {rebuilds : Nat} {there : Bool}
    {s : CaptureWorker B W} (trying : Trying notes rebuilds there s) :
    Trying notes (rebuilds + 1) there { s with notes := s.notes ++ [.rebuilt] } := by
  refine ⟨trying.1, trying.2.recovery, trying.2.notified, trying.2.served, ?_⟩
  have noted : s.notes = _ := trying.2.notes_eq
  change s.notes ++ [.rebuilt] = _
  rw [noted, List.replicate_succ']
  simp

/-- A call of the host in the middle of a guarded step. -/
theorem triple_trying {α : Type} {notes : List Note} {rebuilds : Nat} {there : Bool}
    (call : W → α × W) :
    Triple (Trying notes rebuilds there) (host_call call : Serving B W α)
      (Post (fun _ => Trying notes rebuilds there) fun _ _ => False) :=
  triple_host_call fun _ trying => trying

/-- A step that failed no rebuild and has its engine may end with any result. -/
theorem tried_of_kept {g : GuardedResult T R S} (no_rebuild_failed : g.reinitialize_error = none)
    (backend : Option B) (there : backend.isSome = true) : Tried g backend := by
  unfold Tried
  split
  · exact ⟨there, no_rebuild_failed⟩
  · refine ⟨fun gone => ?_, fun failed => ?_⟩
    · rw [gone] at there
      cases there
    · rw [no_rebuild_failed] at failed
      cases failed

/-- A step may end without its engine with an error that schedules the recovery. -/
theorem tried_of_lost {g : GuardedResult T R S} {error : CaptureError}
    (failed : g.result = .error error) (lost : requires_backend_recovery error = true)
    (backend : Option B) (gone : backend.isSome = false) : Tried g backend := by
  unfold Tried
  rw [failed]
  exact ⟨fun _ => lost, fun _ => Option.isNone_iff_eq_none.mp (by simpa using gone)⟩

/-- A guarded step returns a result. -/
theorem triple_returns {notes : List Note} {rebuilds : Nat} {there : Bool}
    (few : rebuilds ≤ CAPTURE_RECOVERY_RETRIES) (g : GuardedResult T R S)
    (tried : ∀ backend : Option B, backend.isSome = there → Tried g backend) :
    Triple (Trying notes rebuilds there) (pure g : Serving B W _) (Guarded notes) :=
  Triple.pure fun s trying => ⟨tried s.backend trying.1, rebuilds, few, trying.2⟩

/-- One try of a guarded step, which finds the engine there. -/
theorem one_try_spec {notes : List Note} {rebuilds : Nat}
    (attempt_capture : B → S → W → (Except CaptureError T × R × S × B) × W) (captured : S) :
    Triple (Trying notes rebuilds true) (one_try attempt_capture captured)
      (Post (fun _ => Trying notes rebuilds true) fun _ _ => False) := by
  refine Triple.bind_read fun worker => ?_
  cases active : worker.backend with
  | none =>
    rintro s result s' ⟨⟨there, -⟩, rfl⟩ -
    rw [active] at there
    cases there
  | some backend =>
    refine Triple.bind ((triple_trying _).pre fun s holds => holds.1) ?_ fun _ _ holds => holds
    intro tried
    refine Triple.bind_update
      (fun s trying => Trying.keeps_backend trying (some tried.2.2.2)) ?_
    exact Triple.pure fun s trying => trying

/-- The rebuild of a guarded step leaves the engine there exactly where it succeeds. -/
theorem rebuild_for_retry_spec (host : Host B W) (recovery_attempts : Nat) {notes : List Note}
    {rebuilds : Nat} :
    Triple (Trying notes rebuilds true) (rebuild_for_retry host recovery_attempts)
      (Post (fun rebuilt s => match rebuilt with
        | .ok _ => Trying notes (rebuilds + 1) true s
        | .error _ => ∃ made ≤ rebuilds + 1, Trying notes made false s) fun _ _ => False) := by
  refine Triple.bind_update (fun s trying => Trying.keeps_backend trying none) ?_
  refine Triple.bind (triple_trying _) ?_ fun _ _ holds => holds
  intro waited
  cases waited with
  | Stopping => exact Triple.pure fun s trying => ⟨rebuilds, Nat.le_succ _, trying⟩
  | Elapsed =>
    refine Triple.bind_update (fun s trying => Trying.rebuilt trying) ?_
    refine Triple.bind (triple_trying _) ?_ fun _ _ holds => holds
    intro rebuilt
    cases rebuilt with
    | ok replacement =>
      refine Triple.bind_update
        (fun s trying => Trying.keeps_backend trying (some replacement)) ?_
      exact Triple.pure fun s trying => trying
    | error error => exact Triple.pure fun s trying => ⟨rebuilds + 1, Nat.le_refl _, trying⟩

/-- **The seam**: it makes no more rebuilds than are left, keeps recovery as it was, and only
returns without an engine after an error that requires one. -/
theorem guarded_tries_spec (host : Host B W)
    (attempt_capture : B → S → W → (Except CaptureError T × R × S × B) × W) (notes : List Note)
    (retries_left : Nat) (few : retries_left ≤ CAPTURE_RECOVERY_RETRIES) (captured : S) :
    Triple (Trying notes (CAPTURE_RECOVERY_RETRIES - retries_left) true)
      (guarded_tries host attempt_capture retries_left captured) (Guarded notes) := by
  induction retries_left generalizing captured with
  | zero =>
    refine Triple.bind (one_try_spec attempt_capture captured) ?_ fun _ _ holds => holds
    rintro ⟨result, recorder, captured'⟩
    exact triple_returns (Nat.sub_le _ _) _ (tried_of_kept rfl)
  | succ retries_left ih =>
    have before : CAPTURE_RECOVERY_RETRIES - (retries_left + 1) + 1 =
        CAPTURE_RECOVERY_RETRIES - retries_left := by omega
    refine Triple.bind (one_try_spec attempt_capture captured) ?_ fun _ _ holds => holds
    rintro ⟨result, recorder, captured'⟩
    cases result with
    | ok value => exact triple_returns (Nat.sub_le _ _) _ (tried_of_kept rfl)
    | error error =>
      apply Triple.ite
      · intro lost
        refine Triple.bind (rebuild_for_retry_spec host _) ?_ fun _ _ holds => holds
        intro rebuilt
        cases rebuilt with
        | ok _ =>
          rw [before]
          exact ih (Nat.le_of_succ_le few) captured'
        | error reinitialize_error =>
          rw [before]
          refine Triple.of_exists fun made => ?_
          rintro s result s' ⟨few_made, trying⟩ ran
          exact triple_returns (few_made.trans (Nat.sub_le _ _)) _ (tried_of_lost rfl lost)
            s result s' trying ran
      · intro _
        exact triple_returns (Nat.sub_le _ _) _ (tried_of_kept rfl)

/-- The error of a step that has failed. -/
def failure {V : Type} : Except CaptureError V → Option CaptureError
  | .error error => some error
  | .ok _ => none

/-- After a guarded step, before anything of it is scheduled. -/
structure Returned (g : GuardedResult T R S) (e : EngineState B) : Prop where
  tried : Tried g e.backend
  recovery : e.recovery = none
  notified : e.recovery_notified = false
  left : e.unserved = failure g.result
  history : History e.notes false

/-- A guarded step tells the user nothing itself. -/
theorem Returned.history_told {g : GuardedResult T R S} (returned : Returned g e) :
    History e.notes e.recovery_notified := by
  rw [returned.notified]
  exact returned.history

/-- A step has succeeded with the engine in hand, or failed. -/
def Stepped {V : Type} (result : Except CaptureError V) (s : CaptureWorker B W) : Prop :=
  match result with
  | .ok _ => Working (engine s)
  | .error error => Failing error (engine s)

/-- **A guarded step** returns, with its engine or with an error that schedules the recovery. -/
theorem capture_with_backend_recovery_spec (host : Host B W)
    (attempt_capture : B → S → W → (Except CaptureError T × R × S × B) × W) (captured : S) :
    Triple (fun s => Working (engine s)) (capture_with_backend_recovery host attempt_capture captured)
      (Post (fun g s => Returned g (engine s)) fun _ _ => False) := by
  refine Triple.pre (P := fun s => ∃ notes, History notes false ∧ s.backend.isSome = true ∧
    s.recovery = none ∧ s.recovery_notified = false ∧ s.unserved = none ∧ s.notes = notes) ?_
    fun s working => ⟨s.notes, working.history, working.backend, working.recovery,
      working.notified, working.served, rfl⟩
  refine Triple.of_exists fun notes => ?_
  refine Triple.bind_update (S := fun s => Trying notes 0 true s ∧ History notes false) ?_ ?_
  · rintro s ⟨history, there, recovery, notified, served, rfl⟩
    exact ⟨⟨there, recovery, notified, served, rfl⟩, history⟩
  refine Triple.of_fact fun history => ?_
  refine Triple.bind (guarded_tries_spec host attempt_capture notes CAPTURE_RECOVERY_RETRIES
    (Nat.le_refl _) captured) ?_ fun _ _ holds => holds
  intro g
  refine Triple.bind (Q := Returns fun s => Returned g (engine s)) ?_ ?_ fun _ _ never => never.elim
  · have history_of {s : CaptureWorker B W} {n : Nat} (few : n ≤ CAPTURE_RECOVERY_RETRIES)
        (between : Between notes n (engine s)) : History s.notes false := by
      have same : s.notes = _ := between.notes_eq
      rw [same]
      exact history.guarded few
    cases result : g.result with
    | ok value =>
      refine Triple.pure ?_
      rintro s ⟨tried, n, few, between⟩
      refine ⟨tried, between.recovery, between.notified, ?_, history_of few between⟩
      rw [result]
      exact between.served
    | error error =>
      refine triple_assign ?_
      rintro s ⟨tried, n, few, between⟩
      refine ⟨tried, between.recovery, between.notified, ?_, history_of few between⟩
      rw [result]
      rfl
  · intro _
    exact Triple.pure fun s returned => returned

/-- Where a rebuild failed the recovery is scheduled. -/
theorem schedule_after_rebuild_spec (host : Host B W) (g : GuardedResult T R S) :
    Triple (fun s => Returned g (engine s))
      (schedule_after_rebuild host g.recovery_attempts g.reinitialize_error)
      (Returns (Stepped g.result)) := by
  cases rebuilt : g.reinitialize_error with
  | none =>
    refine Triple.pure fun s returned => ?_
    have tried := returned.tried
    unfold Tried at tried
    unfold Stepped
    split
    · rename_i value succeeded
      have left := returned.left
      rw [succeeded] at tried left
      exact ⟨tried.1, returned.recovery, returned.notified, returned.history, left⟩
    · rename_i error failed
      have left := returned.left
      rw [failed] at tried left
      exact ⟨fun _ => returned.notified, returned.history_told, left,
        .inr ⟨returned.recovery, tried.1⟩⟩
  | some error' =>
    refine Triple.bind (Q := Post (fun _ s => Returned g (engine s)) fun _ _ => False) ?_ ?_
      fun _ _ never => never.elim
    · exact triple_host_call fun s returned => returned
    intro now
    refine triple_assign fun s returned => ?_
    have tried := returned.tried
    unfold Tried at tried
    change Stepped _ _
    unfold Stepped
    split
    · rename_i value succeeded
      rw [succeeded, rebuilt] at tried
      cases tried.2
    · rename_i error failed
      have left := returned.left
      rw [failed] at left
      rw [failed, rebuilt] at tried
      exact ⟨nofun, returned.history_told, left, .inl ⟨rfl, tried.2 rfl⟩⟩

/-- Where the error says that the engine is lost the recovery is scheduled, so the worker is
settled. -/
theorem schedule_if_lost_spec (host : Host B W) (error : CaptureError) :
    Triple (fun s => Failing error (engine s)) (schedule_if_lost host error)
      (Returns fun s => Settled (engine s)) := by
  refine Triple.bind_read fun worker => ?_
  apply Triple.ite
  · intro lost
    refine Triple.bind (Q := Returns fun s => Failing error (engine s)) ?_ ?_
      fun _ _ never => never.elim
    · exact triple_host_call fun s holds => holds.1
    intro now
    refine triple_assign fun s failing => ?_
    exact ⟨rfl, nofun, failing.history, fun _ _ _ => rfl⟩
  · intro kept
    refine Triple.pure ?_
    rintro s ⟨failing, rfl⟩
    have scheduled : requires_backend_recovery error = true → worker.recovery.isSome = true := by
      intro requires
      apply Option.isSome_iff_ne_none.mpr
      simpa [requires] using kept
    have one : worker.backend.isSome = !worker.recovery.isSome := by
      obtain ⟨there, gone⟩ | ⟨nothing, lost⟩ := failing.stands
      · change worker.recovery.isSome = true at there
        change worker.backend = none at gone
        rw [there, gone]
        rfl
      · change worker.recovery = none at nothing
        change worker.backend = none → _ at lost
        rw [nothing] at scheduled ⊢
        cases engine_there : worker.backend with
        | some backend => rfl
        | none => cases scheduled (lost engine_there)
    refine ⟨one, failing.quiet, failing.history, ?_⟩
    intro error' left' requires
    have same : error = error' := Option.some.inj (failing.left.symm.trans left')
    exact scheduled (same ▸ requires)

/-! ## Commands -/

/-- The two expectations that the worker has of its engine and its recovery. -/
def Proper (ending : WorkerEnd) : Prop :=
  ending ≠ .expect_failed .backend_outside_recovery ∧
    ending ≠ .expect_failed .recovery_while_retrying

/-- A part of the loop ends settled, whether the loop goes on or ends. -/
def Settles {α : Type} : Except WorkerEnd α → CaptureWorker B W → Prop :=
  Post (fun _ s => Settled (engine s)) fun ending s => Proper ending ∧ Settled (engine s)

/-- A part that returns settled settles. -/
theorem settles_of_returns (result : Except WorkerEnd Unit) (s : CaptureWorker B W)
    (holds : Returns (fun s => Settled (engine s)) result s) : Settles result s := by
  cases result with
  | ok _ => exact holds
  | error _ => exact holds.elim

/-- A note that says nothing of the engine. -/
theorem Settled.noted {what : Note} (settled : Settled e) (other : what ≠ .rebuilt)
    (silent : engine_notices [what] = []) : Settled { e with notes := e.notes ++ [what] } :=
  ⟨settled.one, settled.quiet, settled.history.concat other silent, settled.scheduled⟩

/-- A note of neither a rebuild nor a notice changes nothing for a worker that works. -/
theorem Working.noted {what : Note} (working : Working e) (other : what ≠ .rebuilt)
    (silent : engine_notices [what] = []) : Working { e with notes := e.notes ++ [what] } :=
  ⟨working.backend, working.recovery, working.notified, working.history.concat other silent,
    working.served⟩

/-- Nor for one that fails. -/
theorem Failing.noted {what : Note} {error : CaptureError} (failing : Failing error e)
    (other : what ≠ .rebuilt) (silent : engine_notices [what] = []) :
    Failing error { e with notes := e.notes ++ [what] } :=
  ⟨failing.quiet, failing.history.concat other silent, failing.left, failing.stands⟩

/-- Delivering a capture leaves the engine in hand. -/
theorem working_undisturbed (host : Host B W) :
    Undisturbed host fun s => Working (engine s) where
  closed := fun _ _ working => working.noted nofun rfl
  gpu := fun _ working => working
  confirmed_region := fun _ _ working => working
  offer := fun _ _ _ working => working

/-- A capture is delivered with the engine in hand, and the worker settled after it. -/
theorem deliver_capture_spec (context : CaptureWorkerContext) (host : Host B W)
    (capture_id : CaptureId) (trigger : TriggerEvent) (outcome : CaptureOutcome)
    (recorder : EventRecorder) :
    Triple (fun s => Working (engine s))
      (deliver_capture context host capture_id trigger outcome recorder) Settles := by
  refine Triple.bind (Q := Returns fun s => Working (engine s)) ?_ ?_ fun _ _ never => never.elim
  · exact triple_host_call fun s working => working
  intro sinks
  refine Triple.bind (Q := dispatched (fun s => Working (engine s)) fun s => Working (engine s))
    ?_ ?_ ?_
  · apply triple_dispatch_output context (working_undisturbed host) sinks
    · exact fun s job tool made working submitted => working
    · exact fun s job reason working submitted => working
  · intro status
    have kept : ∀ s : CaptureWorker B W, dispatched (fun s => Working (engine s))
        (fun s => Working (engine s)) (.ok status) s → Working (engine s) := by
      rintro s (⟨-, -, -, working⟩ | ⟨working, -⟩)
      · exact working
      · exact working
    refine Triple.pre (P := fun s => Working (engine s)) ?_ kept
    cases output_status_or_fatal status with
    | error error =>
      refine triple_end_worker fun s working => ⟨⟨nofun, nofun⟩, working.settled⟩
    | ok text =>
      apply Triple.ite
      · intro _
        refine Triple.bind_update (S := fun s => Working (engine s)) ?_ ?_
        · exact fun s working => working.noted nofun rfl
        · exact triple_assign fun s working => Working.settled working
      · intro _
        exact Triple.pure fun s working => Working.settled working
  · rintro ending s ⟨rfl, working⟩
    exact ⟨⟨nofun, nofun⟩, working.settled⟩

/-- Telling the user of a dropped capture changes only the world. -/
theorem notify_dropped_spec {P : CaptureWorker B W → Prop} (host : Host B W)
    (capture_id : CaptureId) (reason : Option String)
    (world : ∀ s w, P s → P { s with world := w }) :
    Triple P (notify_dropped host capture_id reason) (Returns P) := by
  cases reason with
  | none => exact Triple.pure fun s holds => holds
  | some reason => exact triple_notify fun s holds => world s _ holds

/-- A capture that fails settles, with the recovery scheduled where the engine was lost. -/
theorem capture_failed_spec (context : CaptureWorkerContext) (host : Host B W)
    (capture_id : CaptureId) (trigger : TriggerEvent) (error : CaptureError)
    (recorder : EventRecorder) :
    Triple (fun s => Failing error (engine s))
      (capture_failed context host capture_id trigger error recorder) Settles := by
  refine Triple.bind (Q := Returns fun s => Failing error (engine s)) ?_ ?_
    fun _ _ never => never.elim
  · refine Triple.bind_update (S := fun s => Failing error (engine s)) ?_ ?_
    · exact fun s failing => failing.noted nofun rfl
    · exact Triple.pure fun s failing => failing
  intro _
  refine Triple.bind (notify_dropped_spec host capture_id _ fun s w failing => failing) ?_
    fun _ _ never => never.elim
  intro _
  exact (schedule_if_lost_spec host error).post settles_of_returns

/-- Taking a capture settles. -/
theorem take_capture_spec (context : CaptureWorkerContext) (host : Host B W)
    (capture_id : CaptureId) (trigger : TriggerEvent) :
    Triple (fun s => Working (engine s)) (take_capture context host capture_id trigger)
      Settles := by
  refine Triple.bind (capture_with_backend_recovery_spec host _ _) ?_ fun _ _ never => never.elim
  intro captured
  refine Triple.bind (schedule_after_rebuild_spec host captured) ?_ fun _ _ never => never.elim
  intro _
  unfold Stepped
  cases captured.result with
  | ok outcome => exact deliver_capture_spec context host capture_id trigger outcome _
  | error error => exact capture_failed_spec context host capture_id trigger error _

/-- So does a trigger, whether the displays have changed or not. -/
theorem check_displays_then_capture_spec (context : CaptureWorkerContext) (host : Host B W)
    (capture_id : CaptureId) (trigger : TriggerEvent) :
    Triple (fun s => Working (engine s))
      (check_displays_then_capture context host capture_id trigger) Settles := by
  refine Triple.bind (capture_with_backend_recovery_spec host _ _) ?_ fun _ _ never => never.elim
  intro validated
  refine Triple.bind (schedule_after_rebuild_spec host validated) ?_ fun _ _ never => never.elim
  intro _
  unfold Stepped
  cases validated.result with
  | ok _ => exact take_capture_spec context host capture_id trigger
  | error error =>
    refine Triple.bind (schedule_if_lost_spec host error) ?_ fun _ _ never => never.elim
    intro _
    exact triple_notify fun s settled => settled

/-- The worker between two commands, before anything has failed. -/
def Resting (s : CaptureWorker B W) : Prop := Settled (engine s) ∧ s.unserved = none

/-- A trigger finds the engine or waits for it to come back, and settles. -/
theorem serve_trigger_spec (context : CaptureWorkerContext) (host : Host B W)
    (trigger : TriggerEvent) :
    Triple (Resting (B := B) (W := W)) (serve_trigger context host trigger) Settles := by
  refine Triple.bind_read fun worker => ?_
  apply Triple.ite
  · intro _
    exact Triple.pure fun s holds => holds.1.1
  · intro _
    refine Triple.bind_update
      (S := fun s => Resting s ∧ s.backend = worker.backend) ?_ ?_
    · rintro s ⟨idle, rfl⟩
      exact ⟨idle, rfl⟩
    apply Triple.ite
    · intro _
      exact Triple.pure fun s holds => holds.1.1
    · intro there
      have working : ∀ s : CaptureWorker B W, (Resting s ∧ s.backend = worker.backend) →
          Working (engine s) := by
        rintro s ⟨⟨settled, served⟩, same⟩
        refine settled.working ?_ served
        change s.backend.isSome = true
        rw [same]
        exact Option.isSome_iff_ne_none.mpr fun gone => there (by rw [gone]; rfl)
      apply Triple.ite
      · intro _
        exact (check_displays_then_capture_spec context host _ trigger).pre working
      · intro _
        exact (take_capture_spec context host _ trigger).pre working

/-- A selection that is resumed settles. -/
theorem resume_spec (context : CaptureWorkerContext) (host : Host B W) (job : SelectionJob)
    (reason : String) :
    Triple (fun s => Settled (engine s)) (resume context host job reason) Settles := by
  apply Triple.ite
  · intro _
    refine Triple.bind (Q := Returns fun s => Settled (engine s)) ?_ ?_
      fun _ _ never => never.elim
    · exact triple_host_call fun s settled => settled
    intro submitted
    cases submitted with
    | ok _ => exact Triple.pure fun s settled => settled
    | error _ =>
      refine Triple.bind (Q := Returns fun s => Settled (engine s)) ?_ ?_
        fun _ _ never => never.elim
      · refine Triple.bind_update (S := fun s => Settled (engine s)) ?_ ?_
        · exact fun s settled => settled.noted nofun rfl
        · exact triple_assign fun s settled => settled
      intro _
      refine Triple.bind (Q := Returns fun s => Settled (engine s)) ?_ ?_
        fun _ _ never => never.elim
      · refine Triple.bind_update (S := fun s => Settled (engine s)) ?_ ?_
        · exact fun s settled => settled.noted nofun rfl
        · exact Triple.pure fun s settled => settled
      intro _
      exact triple_notify fun s settled => settled
  · intro _
    exact triple_end_worker fun s settled => ⟨⟨nofun, nofun⟩, settled⟩

/-- So does one whose confirmed region is captured. -/
theorem resume_confirmed_spec (context : CaptureWorkerContext) (host : Host B W)
    (job : SelectionJob) (selection : OverlaySelection)
    (result : Except CaptureError CaptureOutcome) :
    Triple (Stepped result) (resume_confirmed context host job selection result) Settles := by
  cases result with
  | error error =>
    refine Triple.bind (schedule_if_lost_spec host error) ?_ fun _ _ never => never.elim
    intro _
    refine Triple.bind (notify_dropped_spec host _ _ fun s w settled => settled) ?_
      fun _ _ never => never.elim
    intro _
    exact resume_spec context host _ _
  | ok outcome =>
    refine Triple.pre (P := fun s => Settled (engine s)) ?_ fun s working => Working.settled working
    unfold resume_confirmed
    dsimp only
    split
    · rename_i mismatch differs
      refine Triple.bind (Q := Returns fun s => Settled (engine s)) ?_ ?_
        fun _ _ never => never.elim
      · exact triple_notify fun s settled => settled
      intro _
      exact resume_spec context host _ _
    · refine Triple.bind (Q := Returns fun s => Settled (engine s)) ?_ ?_
        fun _ _ never => never.elim
      · exact triple_host_call fun s settled => settled
      intro now
      exact resume_spec context host _ _

/-- A job that the selection worker hands back settles. -/
theorem serve_live_selection_spec (context : CaptureWorkerContext) (host : Host B W)
    (request : LiveSelectionRequest) :
    Triple (Resting (B := B) (W := W)) (serve_live_selection context host request) Settles := by
  refine Triple.bind_read fun worker => ?_
  apply Triple.ite
  · intro _
    exact (resume_spec context host _ _).pre fun s holds => holds.1.1
  · intro there
    refine Triple.pre (P := fun s => Working (engine s)) ?_ ?_
    · refine Triple.bind (capture_with_backend_recovery_spec host _ _) ?_
        fun _ _ never => never.elim
      intro captured
      refine Triple.bind (schedule_after_rebuild_spec host captured) ?_ fun _ _ never => never.elim
      intro _
      exact resume_confirmed_spec context host _ _ _
    · rintro s ⟨⟨settled, served⟩, rfl⟩
      refine settled.working ?_ served
      exact Option.isSome_iff_ne_none.mpr fun gone => there (Option.isNone_iff_eq_none.mpr gone)

/-- A result that the worker has not noted yet. -/
def Answering (result : Except CaptureError CpuFrame) (s : CaptureWorker B W) : Prop :=
  match result with
  | .ok _ => Working (engine s)
  | .error error => Failing error { engine s with unserved := some error }

/-- Answering with a frame, or with the error of one, settles. -/
theorem answer_frame_spec (host : Host B W) (result : Except CaptureError CpuFrame) :
    Triple (Answering result) (answer_frame host result) Settles := by
  refine Triple.bind (Q := Returns (Stepped result)) ?_ ?_ fun _ _ never => never.elim
  · cases result with
    | error error => exact triple_assign fun s failing => failing
    | ok frame => exact Triple.pure fun s working => working
  intro _
  refine Triple.bind (Q := Returns fun s => Settled (engine s)) ?_ ?_ fun _ _ never => never.elim
  · cases result with
    | error error => exact schedule_if_lost_spec host error
    | ok frame => exact Triple.pure fun s working => Working.settled working
  intro _
  exact triple_host_call fun s settled => settled

/-- A frame for a recording settles. -/
theorem record_frame_spec (context : CaptureWorkerContext) (host : Host B W)
    (request : RecordFrameRequest) :
    Triple (Resting (B := B) (W := W)) (record_frame context host request) Settles := by
  refine Triple.bind_read fun worker => ?_
  cases there : worker.backend with
  | none =>
    refine (answer_frame_spec host _).pre ?_
    rintro s ⟨⟨settled, -⟩, rfl⟩
    exact settled.failing there _
  | some active_backend =>
    refine Triple.bind_update (S := fun s => Working (engine s)) ?_ ?_
    · rintro s ⟨⟨settled, served⟩, rfl⟩
      refine settled.working ?_ served
      change worker.backend.isSome = true
      rw [there]
      rfl
    refine Triple.bind (Q := Returns fun s => Working (engine s)) ?_ ?_ fun _ _ never => never.elim
    · exact triple_host_call fun s working => working
    rintro ⟨captured, recorder, active_backend⟩
    refine Triple.bind_update (S := fun s => Working (engine s)) ?_ ?_
    · exact fun s working =>
        ⟨rfl, working.recovery, working.notified, working.history, working.served⟩
    refine (answer_frame_spec host _).pre fun s working => ?_
    unfold Answering
    split
    · exact working
    · exact working.failing _

/-- Counting an attempt out settles. -/
theorem count_out_spec (capture_id : CaptureId) :
    Triple (fun s : CaptureWorker B W => Settled (engine s)) (count_out capture_id) Settles := by
  refine Triple.bind_update (S := fun s => Settled (engine s)) ?_ ?_
  · exact fun s settled => settled.noted nofun rfl
  · exact triple_assign fun s settled => settled

/-- **Every command** leaves the engine settled. -/
theorem serve_spec (context : CaptureWorkerContext) (host : Host B W) (command : CaptureCommand) :
    Triple (Resting (B := B) (W := W)) (serve context host command) Settles := by
  cases command with
  | Trigger trigger =>
    refine Triple.bind (Q := Returns Resting) ?_ ?_ fun _ _ never => never.elim
    · exact triple_host_call fun s idle => idle
    intro recording
    apply Triple.ite
    · intro _
      exact triple_notify fun s idle => idle.1
    · intro _
      exact serve_trigger_spec context host trigger
  | RecordFrame request => exact record_frame_spec context host request
  | LiveSelection request => exact serve_live_selection_spec context host request
  | SelectionFinished capture_id => exact (count_out_spec capture_id).pre fun s idle => idle.1
  | Shutdown => exact triple_end_worker fun s idle => ⟨⟨nofun, nofun⟩, idle.1⟩

/-! ## The timed retry -/

/-- The engine is gone and its recovery is scheduled. -/
structure Retrying (e : EngineState B) : Prop where
  gone : e.backend = none
  scheduled : e.recovery.isSome = true
  history : History e.notes e.recovery_notified
  served : e.unserved = none

/-- A worker whose retry is scheduled is settled. -/
theorem Retrying.settled (retrying : Retrying e) : Settled e where
  one := by rw [retrying.gone, retrying.scheduled]; rfl
  quiet := by
    intro nothing
    have scheduled := retrying.scheduled
    rw [nothing] at scheduled
    cases scheduled
  history := retrying.history
  scheduled := fun _ _ _ => retrying.scheduled

/-- Telling the user a notice notes it and changes the world, and nothing else. -/
theorem tell_spec {P : CaptureWorker B W → Prop} (host : Host B W) (notice : DaemonNotice) :
    Triple (fun s => ∀ w, P { s with notes := s.notes ++ [.told notice], world := w })
      (tell host notice) (Returns P) := by
  refine Triple.bind_update
    (S := fun s => ∀ w, P { s with world := w }) (fun s holds => holds) ?_
  exact triple_notify fun s holds => holds _

/-- The user is told of an outage when they do not know of it yet. -/
theorem retry_failed_spec (host : Host B W) (state : BackendRecovery) (error : AppError) :
    Triple (fun s => Retrying (engine s)) (retry_failed host state error) (Returns Resting) := by
  refine Triple.bind (Q := Returns fun s => Retrying (engine s)) ?_ ?_ fun _ _ never => never.elim
  · exact triple_host_call fun s retrying => retrying
  intro now
  refine Triple.bind_update (S := fun s => Retrying (engine s)) ?_ ?_
  · exact fun s retrying => ⟨retrying.gone, rfl, retrying.history, retrying.served⟩
  refine Triple.bind_read fun worker => ?_
  apply Triple.ite
  · intro due
    have unknown : worker.recovery_notified = false := by
      cases told : worker.recovery_notified with
      | false => rfl
      | true =>
        rw [told] at due
        simp [backend_outage_needs_notice] at due
    refine Triple.bind_update (S := fun s => ∀ w : W, Resting
      { s with notes := s.notes ++ [.told .CaptureEngineUnavailable], world := w }) ?_ ?_
    · rintro s ⟨retrying, rfl⟩ w
      have history : History worker.notes worker.recovery_notified := retrying.history
      rw [unknown] at history
      exact ⟨Retrying.settled ⟨retrying.gone, retrying.scheduled, history.tell, retrying.served⟩,
        retrying.served⟩
    · exact tell_spec host .CaptureEngineUnavailable
  · intro _
    exact Triple.pure fun s holds => ⟨holds.1.settled, holds.1.served⟩

/-- An engine that is back is told of to a user who knows that it was gone. -/
theorem rebuild_spec (host : Host B W) :
    Triple (fun s : CaptureWorker B W => Resting s ∧ s.recovery.isSome = true) (rebuild host)
      (Returns Resting) := by
  refine Triple.bind_update (S := fun s => Retrying (engine s)) ?_ ?_
  · rintro s ⟨⟨settled, served⟩, scheduled⟩
    exact ⟨rfl, scheduled, settled.history, served⟩
  refine Triple.bind (Q := Returns fun s => Retrying (engine s)) ?_ ?_ fun _ _ never => never.elim
  · exact triple_host_call fun s retrying => retrying
  intro built
  refine Triple.bind_read fun worker => ?_
  cases built with
  | ok replacement =>
    refine Triple.bind_update (S := fun s => s.backend.isSome = true ∧ s.recovery = none ∧
      s.recovery_notified = false ∧ s.unserved = none ∧
      History s.notes worker.recovery_notified) ?_ ?_
    · rintro s ⟨retrying, rfl⟩
      exact ⟨rfl, rfl, rfl, retrying.served, retrying.history⟩
    apply Triple.ite
    · intro known
      refine (tell_spec host .CaptureEngineRecovered).pre ?_
      rintro s ⟨there, recovery, notified, served, history⟩ w
      rw [known] at history
      refine ⟨Working.settled ⟨there, recovery, notified, ?_, served⟩, served⟩
      exact history.tell
    · intro unknown
      refine Triple.pure ?_
      rintro s ⟨there, recovery, notified, served, history⟩
      rw [Bool.not_eq_true] at unknown
      rw [unknown] at history
      exact ⟨Working.settled ⟨there, recovery, notified, history, served⟩, served⟩
  | error error =>
    cases scheduled : worker.recovery with
    | none =>
      rintro s result s' ⟨retrying, rfl⟩ -
      have there : worker.recovery.isSome = true := retrying.scheduled
      rw [scheduled] at there
      cases there
    | some state => exact (retry_failed_spec host state error).pre fun s holds => holds.1

/-- Polling for a source to come back leaves the worker at rest. -/
theorem poll_source_spec (host : Host B W) (state : BackendRecovery) :
    Triple (fun s : CaptureWorker B W => Resting s ∧ s.recovery.isSome = true)
      (poll_source host state) (Returns Resting) := by
  have reschedules : ∀ (s : CaptureWorker B W) (state : BackendRecovery),
      Resting s ∧ s.recovery.isSome = true →
        Resting { s with recovery := some state } ∧ (some state).isSome = true := by
    rintro s state ⟨⟨settled, served⟩, scheduled⟩
    refine ⟨⟨⟨?_, nofun, settled.history, fun _ _ _ => rfl⟩, served⟩, rfl⟩
    exact settled.one.trans (congrArg not scheduled)
  refine Triple.bind (Q := Returns fun s => Resting s ∧ s.recovery.isSome = true) ?_ ?_
    fun _ _ never => never.elim
  · exact triple_host_call fun s holds => holds
  intro wait
  refine Triple.bind (Q := Returns fun s => Resting s ∧ s.recovery.isSome = true) ?_ ?_
    fun _ _ never => never.elim
  · exact triple_host_call fun s holds => holds
  intro now
  refine Triple.bind_update (S := fun s => Resting s ∧ s.recovery.isSome = true)
    (fun s holds => reschedules s _ holds) ?_
  have polls_again : Triple (fun s : CaptureWorker B W => Resting s ∧ s.recovery.isSome = true)
      (do
        let later ← host_call host.now
        assign fun worker => { worker with
          recovery := some { state with
            wait := state.wait.record wait now, next_attempt := later + wait.poll_interval } })
      (Returns Resting) := by
    refine Triple.bind (Q := Returns fun s => Resting s ∧ s.recovery.isSome = true) ?_ ?_
      fun _ _ never => never.elim
    · exact triple_host_call fun s holds => holds
    intro later
    exact triple_assign fun s holds => (reschedules s _ holds).1
  cases wait with
  | Ready => exact rebuild_spec host
  | Session => exact polls_again
  | Displays => exact polls_again

/-- So does the timed retry, whether it builds the engine or fails. -/
theorem retry_backend_spec (host : Host B W) :
    Triple (Resting (B := B) (W := W)) (retry_backend host) (Returns Resting) := by
  refine Triple.bind_read fun worker => ?_
  cases scheduled : worker.recovery with
  | none => exact Triple.pure fun s holds => holds.1
  | some state =>
    have waiting : ∀ s : CaptureWorker B W, (Resting s ∧ worker = s) →
        Resting s ∧ s.recovery.isSome = true := by
      rintro s ⟨idle, rfl⟩
      exact ⟨idle, by rw [scheduled]; rfl⟩
    refine Triple.bind (Q := Returns fun s => Resting s ∧ s.recovery.isSome = true) ?_ ?_
      fun _ _ never => never.elim
    · exact triple_host_call fun s holds => waiting s holds
    intro now
    apply Triple.ite
    · intro _
      apply Triple.ite
      · intro _
        exact poll_source_spec host state
      · intro _
        exact rebuild_spec host
    · intro _
      exact Triple.pure fun s holds => holds.1

/-! ## The loop -/

/-- As `Settles`, but for what the part returns. -/
def Waits {α : Type} : Except WorkerEnd α → CaptureWorker B W → Prop :=
  Post (fun _ s => Resting s) fun ending s => Proper ending ∧ Settled (engine s)

/-- Waiting for a command leaves the worker at rest, or ends it properly. -/
theorem next_command_spec (host : Host B W) :
    Triple (Resting (B := B) (W := W)) (next_command host) Waits := by
  have disconnects : Triple (Resting (B := B) (W := W))
      (end_worker .disconnected : Serving B W (Option CaptureCommand)) Waits :=
    triple_end_worker fun s idle => ⟨⟨nofun, nofun⟩, idle.1⟩
  refine Triple.bind_read fun worker => ?_
  refine Triple.pre (P := Resting) ?_ fun s holds => holds.1
  cases worker.recovery with
  | some state =>
    refine Triple.bind (Q := Returns Resting) ?_ ?_ fun _ _ never => never.elim
    · exact triple_host_call fun s idle => idle
    intro now
    refine Triple.bind (Q := Returns Resting) ?_ ?_ fun _ _ never => never.elim
    · exact triple_host_call fun s idle => idle
    intro received
    cases received with
    | ok command => exact Triple.pure fun s idle => idle
    | error reason =>
      cases reason with
      | Timeout => exact Triple.pure fun s idle => idle
      | Disconnected => exact disconnects
  | none =>
    refine Triple.bind (Q := Returns Resting) ?_ ?_ fun _ _ never => never.elim
    · exact triple_recv_call fun s received world idle _ => idle
    intro received
    cases received with
    | some command => exact Triple.pure fun s idle => idle
    | none => exact disconnects

/-- The loop goes on at rest, or ends properly. -/
theorem check_end_spec (context : CaptureWorkerContext) (host : Host B W) :
    Triple (fun s => Settled (engine s)) (check_end context host) Waits := by
  refine Triple.bind_update (S := Resting) ?_ ?_
  · exact fun s settled => ⟨⟨settled.one, settled.quiet, settled.history, nofun⟩, rfl⟩
  refine Triple.bind (Q := Returns Resting) ?_ ?_ fun _ _ never => never.elim
  · exact triple_host_call fun s idle => idle
  intro stop
  refine Triple.bind_read fun worker => ?_
  refine Triple.pre (P := Resting) ?_ fun s holds => holds.1
  apply Triple.ite
  · intro _
    exact triple_end_worker fun s idle => ⟨⟨nofun, nofun⟩, idle.1⟩
  · intro _
    apply Triple.ite
    · intro _
      exact triple_end_worker fun s idle => ⟨⟨nofun, nofun⟩, idle.1⟩
    · intro _
      exact Triple.pure fun s idle => idle

/-- **Step lemma**: from one top of the loop to the next, or to an end. -/
theorem iteration_spec (context : CaptureWorkerContext) (host : Host B W) :
    Triple (fun s => Settled (engine s)) (iteration context host) Settles := by
  refine Triple.bind (check_end_spec context host) ?_ fun _ _ holds => holds
  intro _
  refine Triple.bind (retry_backend_spec host) ?_ fun _ _ never => never.elim
  intro _
  refine Triple.bind (next_command_spec host) ?_ fun _ _ holds => holds
  intro command
  cases command with
  | some command => exact serve_spec context host command
  | none => exact Triple.pure fun s idle => idle.1

/-- **Run lemma**: at every top of the loop, and wherever it ends. -/
theorem iterations_spec (context : CaptureWorkerContext) (host : Host B W) (n : Nat) :
    Triple (fun s => Settled (engine s)) (iterations context host n) Settles := by
  induction n with
  | zero => exact Triple.pure fun s settled => settled
  | succ n ih =>
    refine Triple.bind ih ?_ fun _ _ holds => holds
    intro _
    exact iteration_spec context host

/-- The worker starts with an engine or with its recovery scheduled. -/
theorem start_settled {host : Host B W} {world : W} {s : CaptureWorker B W}
    (started : start_capture_worker host world = some s) : Settled (engine s) := by
  unfold start_capture_worker at started
  dsimp only at started
  split at started
  · rename_i backend recovery built
    split at started
    · obtain rfl := Option.some.inj started
      refine ⟨?_, fun _ => rfl, History.nil, nofun⟩
      change backend.isSome = !recovery.isSome
      split at built
      · obtain ⟨rfl, rfl⟩ := Prod.mk.inj (Option.some.inj built)
        rfl
      · split at built
        · obtain ⟨rfl, rfl⟩ := Prod.mk.inj (Option.some.inj built)
          rfl
        · cases built
    · cases started
  · cases started

/-- **The worker and its engine.**  Whatever the host answers: after any number of rounds, at
the top of the loop or where it ended, exactly one of engine and recovery is there, no
expectation of the two has failed, no guarded step has made more than
`CAPTURE_RECOVERY_RETRIES` rebuilds, a command that was left with an error that requires
recovery has it scheduled, and the user was told alternately of an outage and of its end.
SRC: daemon.rs:302-940 -/
theorem capture_worker_recovers (context : CaptureWorkerContext) (host : Host B W) (world : W)
    (n : Nat) (result : Except WorkerEnd Unit) (s : CaptureWorker B W)
    (ran : run_capture_worker context host world n = some (result, s)) :
    (s.backend.isSome = true ∧ s.recovery = none ∨ s.backend = none ∧ s.recovery.isSome = true) ∧
    (∀ ending, result = .error ending → ending ≠ .expect_failed .backend_outside_recovery ∧
      ending ≠ .expect_failed .recovery_while_retrying) ∧
    RebuildsBounded s.notes ∧
    (∀ error, s.unserved = some error → requires_backend_recovery error = true →
      s.recovery.isSome = true) ∧
    Alternate (engine_notices s.notes) := by
  obtain ⟨first, started, rounds⟩ := Option.bind_eq_some_iff.mp ran
  have settles := iterations_spec context host n first result s (start_settled started) rounds
  have settled : Settled (engine s) := by
    cases result with
    | ok _ => exact settles
    | error ending => exact settles.2
  refine ⟨?_, ?_, settled.history.rebuilds, settled.scheduled, settled.history.alternate⟩
  · have one : s.backend.isSome = !s.recovery.isSome := settled.one
    cases there : s.backend with
    | some backend =>
      rw [there] at one
      refine .inl ⟨rfl, ?_⟩
      cases scheduled : s.recovery with
      | none => rfl
      | some state =>
        rw [scheduled] at one
        cases one
    | none =>
      rw [there] at one
      exact .inr ⟨rfl, by simpa using one.symm⟩
  · rintro ending rfl
    exact settles.1

/-- A host whose every capture loses the engine, which can be built again; its world is the
commands to come. -/
def losing_host : Host Unit (List CaptureCommand) where
  ready := fun w => (true, w)
  stop_requested := fun w => (false, w)
  now := fun w => (0, w)
  capture_source_wait := fun w => (.Ready, w)
  create_backend := fun w => (.ok (), w)
  wait_for_backoff := fun _ w => (.Elapsed, w)
  recv := fun w => some (w.head?, w.tail)
  recv_timeout := fun _ w => (match w with | command :: _ => .ok command | [] => .error .Timeout, w.tail)
  recording_active := fun w => (false, w)
  validate_display_configuration := fun _ w => (.ok (), w)
  resolve_capture_source := fun _ w => (.ok .VirtualDesktop, w)
  capture := fun _ _ recorder w =>
    ((.error (capture_error .AccessLost "capture" "the desktop switched" true none), recorder, ()), w)
  reply := fun _ w => w
  notify := fun _ w => w
  confirmed_region := fun _ w => (none, w)
  gpu := fun w => (⟨fun _ => .error (.synthetic "no texture")⟩, w)
  try_submit := fun _ w => (.error .Full, w)
  destinations := fun w => ([], w)
  offer := fun _ _ w => (.error .QueueFull, w)

def plain_context : CaptureWorkerContext where
  mode := .Latest none
  cursor := .Exclude
  cpu_frame := true
  selection_enabled := true
  selection_preview := .Auto
  max_captures := none
  has_selection_sender := true

/-- A recording's frame loses the engine: the command is left with the error, and recovery is
scheduled. -/
theorem capture_worker_recovers_frame :
    ∃ s : CaptureWorker Unit (List CaptureCommand),
      run_capture_worker plain_context losing_host [.RecordFrame ⟨.VirtualDesktop⟩] 1 =
        some (.ok (), s) ∧
      s.unserved.isSome = true ∧ s.backend = none ∧ s.recovery.isSome = true := by
  refine ⟨_, rfl, rfl, rfl, ?_⟩
  exact (capture_worker_recovers plain_context losing_host [.RecordFrame ⟨.VirtualDesktop⟩] 1 _ _
    rfl).2.2.2.1 _ rfl rfl

end Captastic.Analysis
