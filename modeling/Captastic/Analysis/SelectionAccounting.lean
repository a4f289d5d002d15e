import Captastic.Analysis.FrameCrop
import Captastic.Analysis.ServingCalls
import Captastic.Library.Circulation
import Captastic.Model.SelectionSide
import Mathlib.Tactic.Abel

/-!
# Attempts in flight

An attempt that the capture worker hands to the selection worker is a token: it is queued, worked
on, handed back as a live selection and resumed, until its end is reported and counted.  Whatever
turns the two workers and the other threads take, and whatever the queues refuse or lose, the
tokens circulate (`Circulation`): each is counted in once and counted out at most once, and as
many attempts are in flight as the selection side holds, or more.
-/

set_option autoImplicit false

namespace Captastic.Analysis

open Captastic.Library Captastic.Model

variable {B V α : Type}

/-! ## What the selection side holds -/

/-- The attempt that a command of the selection worker brings back. -/
def returning : CaptureCommand → List CaptureId
  | .LiveSelection request => [request.job.capture_id]
  | .SelectionFinished capture_id => [capture_id]
  | .Trigger _ | .RecordFrame _ | .Shutdown => []

/-- The attempt that the selection worker's thread has in hand. -/
def in_hand : SelectionThread → List CaptureId
  | .working job _ => [job.capture_id]
  | .dropping attempt _ => if attempt.report then [attempt.capture_id] else []
  | .waiting | .gone => []

/-- The attempts between being handed over and being counted out. -/
def circulating (w : SideWorld V) : Multiset CaptureId :=
  ↑(w.jobs.map SelectionJob.capture_id) + ↑(in_hand w.thread) + ↑(w.commands.flatMap returning)

/-- The completion of a job in hand is that of the job, and still to be reported. -/
def Honest : SelectionThread → Prop
  | .working job attempt => attempt = .new job.capture_id
  | .waiting | .dropping _ _ | .gone => True

/-- Commands that are sent to the capture worker bring back what they carry. -/
theorem circulating_sent (w : SideWorld V) (commands : List CaptureCommand) :
    circulating (w.sent commands) = circulating w + ↑(commands.flatMap returning) := by
  unfold circulating SideWorld.sent
  rw [List.flatMap_append, ← Multiset.coe_add, ← add_assoc]

/-- A job that is queued puts its attempt in circulation. -/
theorem circulating_queue (w : SideWorld V) (job : SelectionJob) :
    circulating (w.queue job) = circulating w + {job.capture_id} := by
  unfold circulating SideWorld.queue
  dsimp only
  rw [List.map_append, ← Multiset.coe_add]
  change _ + {job.capture_id} + _ + _ = _
  abel

/-- A command that is taken off its queue takes what it carries out of circulation. -/
theorem circulating_with_commands {w : SideWorld V} {command : CaptureCommand}
    {commands : List CaptureCommand} (queued : w.commands = command :: commands) :
    circulating (w.with_commands commands) + ↑(returning command) = circulating w := by
  unfold circulating SideWorld.with_commands
  dsimp only
  rw [queued, List.flatMap_cons, ← Multiset.coe_add]
  abel

/-- Publishing or closing a job hands nothing back. -/
theorem materialize_not_handed_back {answers : SelectionAnswers} {job : SelectionJob}
    {selection : OverlaySelection} {request : LiveSelectionRequest}
    (ended : job.materialize answers selection = .handed_back request) : False := by
  unfold SelectionJob.materialize at ended
  split at ended
  · cases ended
  · split at ended
    · cases ended
    · cases ended
    · dsimp only at ended
      split at ended <;> cases ended

/-- The request that hands a job back is for the job's own attempt. -/
theorem selected_handed_back {answers : SelectionAnswers} {job : SelectionJob} {resumed : Bool}
    {selection : OverlaySelection} {request : LiveSelectionRequest}
    (ended : job.selected answers resumed selection = .handed_back request) :
    request.job.capture_id = job.capture_id := by
  unfold SelectionJob.selected at ended
  dsimp only at ended
  split at ended
  · exact (materialize_not_handed_back ended).elim
  · split at ended
    · cases ended
    · exact (materialize_not_handed_back ended).elim
  · exact (materialize_not_handed_back ended).elim
  · split at ended
    · cases ended
      rfl
    · cases ended

/-- A job that is handed back is the one that was worked on. -/
theorem run_handed_back {answers : SelectionAnswers} {job : SelectionJob}
    {request : LiveSelectionRequest} (ended : job.run answers = .handed_back request) :
    request.job.capture_id = job.capture_id := by
  unfold SelectionJob.run at ended
  split at ended
  · cases ended
  · split at ended
    · have same := selected_handed_back ended
      exact same
    · split at ended
      · cases ended
      · dsimp only at ended
        split at ended
        · have same := selected_handed_back ended
          exact same
        · cases ended
        · cases ended
        · cases ended

/-! ## Turns of the other threads -/

/-- What turns do: attempts change hands or are lost, and a job keeps its completion. -/
structure Moves (w w' : SideWorld V) : Prop where
  fewer : circulating w' ≤ circulating w
  honest : Honest w.thread → Honest w'.thread

/-- No turn moves nothing. -/
theorem Moves.refl (w : SideWorld V) : Moves w w := ⟨le_refl _, id⟩

/-- Turns one after the other move what each of them does. -/
theorem Moves.trans {w w' w'' : SideWorld V} (first : Moves w w') (second : Moves w' w'') :
    Moves w w'' :=
  ⟨second.fewer.trans first.fewer, fun honest => second.honest (first.honest honest)⟩

/-- Commands that bring no attempt back. -/
theorem Moves.sent (w : SideWorld V) {commands : List CaptureCommand}
    (others : commands.flatMap returning = []) : Moves w (w.sent commands) := by
  refine ⟨?_, id⟩
  rw [circulating_sent, others, Multiset.coe_nil, add_zero]

/-- A queue that is found empty. -/
theorem Moves.nothing_queued {w : SideWorld V} (queued : w.commands = []) (rest : V) :
    Moves w ⟨rest, w.jobs, [], w.thread, w.schedule⟩ := by
  refine ⟨le_of_eq ?_, id⟩
  unfold circulating
  rw [queued]

/-- The end of an attempt is reported at most once, and only where it was not handed back. -/
theorem dropped_le (attempt : AttemptCompletion) (accepted unwinding : Bool) :
    ((attempt.dropped accepted).flatMap returning).Subperm
      (in_hand (.dropping attempt unwinding)) := by
  unfold AttemptCompletion.dropped in_hand
  by_cases report : attempt.report = true
  · cases accepted with
    | false => simp
    | true => simp [report, returning]
  · simp [report]

/-- The thread is done with its job. -/
theorem Moves.worked (w : SideWorld V) {job : SelectionJob}
    (working : w.thread = .working job (.new job.capture_id)) (answers : SelectionAnswers) :
    Moves w (w.worked (.new job.capture_id) (job.run answers)) := by
  have drops (unwinding : Bool) :
      Moves w { w with thread := .dropping (.new job.capture_id) unwinding } := by
    refine ⟨?_, fun _ => trivial⟩
    unfold circulating
    rw [working]
    exact le_refl _
  cases ended : job.run answers with
  | handed_back request =>
    refine ⟨?_, fun _ => trivial⟩
    have same := run_handed_back ended
    unfold circulating SideWorld.worked SideWorld.sent
    rw [working, List.flatMap_append, ← Multiset.coe_add]
    simp only [in_hand, AttemptCompletion.silenced, returning, List.flatMap_cons,
      List.flatMap_nil, List.append_nil, same]
    exact le_of_eq (by simp [add_assoc, add_comm])
  | stopped_in_a_crop => exact drops true
  | closed recorder => exact drops false
  | recorded publication => exact drops false
  | editing publication => exact drops false
  | published offered => exact drops false

/-- A turn loses attempts at most, and the job in hand keeps its completion. -/
theorem Moves.turn (w : SideWorld V) (turn : Turn) (honest : Honest w.thread) :
    Moves w (w.turn turn) := by
  cases turn with
  | trigger trigger => exact Moves.sent w rfl
  | record_frame request => exact Moves.sent w rfl
  | shutdown => exact Moves.sent w rfl
  | receive =>
    unfold SideWorld.turn
    dsimp only
    split
    · rename_i job jobs waiting queued
      refine ⟨le_of_eq ?_, fun _ => rfl⟩
      unfold circulating
      rw [waiting, queued]
      simp [in_hand, add_comm]
    · exact Moves.refl w
  | work answers =>
    unfold SideWorld.turn
    dsimp only
    split
    · rename_i job attempt working
      rw [working] at honest
      obtain rfl : attempt = .new job.capture_id := honest
      exact Moves.worked w working answers
    · exact Moves.refl w
  | panic =>
    unfold SideWorld.turn
    dsimp only
    split
    · rename_i job attempt working
      rw [working] at honest
      obtain rfl : attempt = .new job.capture_id := honest
      refine ⟨le_of_eq ?_, fun _ => trivial⟩
      unfold circulating
      rw [working]
      rfl
    · exact Moves.refl w
  | drop accepted =>
    unfold SideWorld.turn
    dsimp only
    split
    · rename_i attempt unwinding dropping
      have reported : (↑((attempt.dropped accepted).flatMap returning) : Multiset CaptureId) ≤
          ↑(in_hand w.thread) := by
        rw [dropping]
        exact dropped_le attempt accepted unwinding
      have idle_le (jobs : List SelectionJob) (fewer : (↑(jobs.map SelectionJob.capture_id) :
          Multiset CaptureId) ≤ ↑(w.jobs.map SelectionJob.capture_id)) {thread : SelectionThread}
          (empty : in_hand thread = []) :
          circulating { w.sent (attempt.dropped accepted) with thread, jobs } ≤ circulating w := by
        unfold circulating SideWorld.sent
        rw [empty, List.flatMap_append, ← Multiset.coe_add, Multiset.coe_nil, add_zero,
          add_comm (↑(w.commands.flatMap returning) : Multiset CaptureId), ← add_assoc]
        exact add_le_add (add_le_add fewer reported) (le_refl _)
      split
      · exact ⟨idle_le [] (Multiset.zero_le _) rfl, fun _ => trivial⟩
      · exact ⟨idle_le w.jobs (le_refl _) rfl, fun _ => trivial⟩
    · exact Moves.refl w
  | stop =>
    unfold SideWorld.turn
    dsimp only
    split
    · rename_i waiting
      refine ⟨?_, fun _ => trivial⟩
      unfold circulating
      rw [waiting]
      simp only [in_hand, List.map_nil, Multiset.coe_nil, zero_add, add_zero]
      exact Multiset.le_add_left _ _
    · exact Moves.refl w

/-- So do any number of turns. -/
theorem Moves.turns (turns : List Turn) (w : SideWorld V) (honest : Honest w.thread) :
    Moves w (turns.foldl SideWorld.turn w) := by
  induction turns generalizing w with
  | nil => exact Moves.refl w
  | cons turn turns ih =>
    have first := Moves.turn w turn honest
    exact first.trans (ih (w.turn turn) (first.honest honest))

/-- Whatever the other threads do before a call. -/
theorem Moves.take_turns (w : SideWorld V) (honest : Honest w.thread) : Moves w w.take_turns := by
  have scheduled : Moves w { w with schedule := w.schedule.tail } := ⟨le_refl _, id⟩
  exact scheduled.trans (Moves.turns _ _ honest)

/-- A host call lets other threads take their turns, and does nothing else to them. -/
theorem Moves.aside (call : V → α × V) (w : SideWorld V) (honest : Honest w.thread) :
    Moves w (aside call w).2 := by
  have turns := Moves.take_turns w honest
  exact ⟨turns.fewer, turns.honest⟩

/-! ## The books -/

/-- The attempts that were counted in. -/
def counted_in (notes : List Note) : Multiset CaptureId :=
  ↑(notes.filterMap fun what => match what with
    | .counted_in capture_id => some capture_id
    | _ => none)

/-- The attempts that were counted out. -/
def counted_out (notes : List Note) : Multiset CaptureId :=
  ↑(notes.filterMap fun what => match what with
    | .counted_out capture_id => some capture_id
    | _ => none)

/-- What the books are about. -/
structure Ledger (V : Type) where
  world : SideWorld V
  notes : List Note
  selections_in_flight : Nat
  next_capture_id : CaptureId
  attempts : Nat

def ledger (s : CaptureWorker B (SideWorld V)) : Ledger V :=
  ⟨s.world, s.notes, s.selections_in_flight, s.next_capture_id, s.attempts⟩

/-- The books of the two workers.  `handing` are the attempts the capture worker has in hand
itself; `submitted` is the one it has submitted in this command and not yet counted. -/
structure Books (max_captures : Option Nat) (handing submitted : Multiset CaptureId)
    (l : Ledger V) : Prop where
  circulation : Circulation (submitted + counted_in l.notes) (counted_out l.notes)
    (circulating l.world + handing)
  in_flight : l.selections_in_flight + (counted_out l.notes).card = (counted_in l.notes).card
  fresh : ∀ capture_id ∈ submitted + counted_in l.notes, capture_id < l.next_capture_id
  within_limit : ∀ maximum, max_captures = some maximum → l.attempts ≤ maximum
  honest : Honest l.world.thread

variable {max_captures : Option Nat} {handing submitted : Multiset CaptureId} {l : Ledger V}

/-- Turns of the other threads keep the books. -/
theorem Books.moves {w : SideWorld V} (books : Books max_captures handing submitted l)
    (moves : Moves l.world w) : Books max_captures handing submitted { l with world := w } where
  circulation := books.circulation.lose (add_le_add moves.fewer (le_refl _))
  in_flight := books.in_flight
  fresh := books.fresh
  within_limit := books.within_limit
  honest := moves.honest books.honest

/-- A note that counts nothing. -/
theorem Books.noted {what : Note} (books : Books max_captures handing submitted l)
    (no_in : counted_in [what] = 0) (no_out : counted_out [what] = 0) :
    Books max_captures handing submitted { l with notes := l.notes ++ [what] } := by
  have same_in : counted_in (l.notes ++ [what]) = counted_in l.notes := by
    unfold counted_in at *
    rw [List.filterMap_append, ← Multiset.coe_add, no_in, add_zero]
  have same_out : counted_out (l.notes ++ [what]) = counted_out l.notes := by
    unfold counted_out at *
    rw [List.filterMap_append, ← Multiset.coe_add, no_out, add_zero]
  exact ⟨same_in ▸ same_out ▸ books.circulation, same_in ▸ same_out ▸ books.in_flight,
    same_in ▸ books.fresh, books.within_limit, books.honest⟩

/-! ## Entries -/

/-- Counting an attempt in is in the books. -/
theorem counted_in_concat (notes : List Note) (capture_id : CaptureId) :
    counted_in (notes ++ [.counted_in capture_id]) = capture_id ::ₘ counted_in notes := by
  unfold counted_in
  rw [List.filterMap_append, ← Multiset.coe_add, add_comm]
  rfl

/-- Counting an attempt out is in the books. -/
theorem counted_out_concat (notes : List Note) (capture_id : CaptureId) :
    counted_out (notes ++ [.counted_out capture_id]) = capture_id ::ₘ counted_out notes := by
  unfold counted_out
  rw [List.filterMap_append, ← Multiset.coe_add, add_comm]
  rfl

/-- Counting out counts nothing in. -/
theorem counted_in_concat_out (notes : List Note) (capture_id : CaptureId) :
    counted_in (notes ++ [.counted_out capture_id]) = counted_in notes := by
  unfold counted_in
  rw [List.filterMap_append]
  exact congrArg _ (List.append_nil _)

/-- Counting in counts nothing out. -/
theorem counted_out_concat_in (notes : List Note) (capture_id : CaptureId) :
    counted_out (notes ++ [.counted_in capture_id]) = counted_out notes := by
  unfold counted_out
  rw [List.filterMap_append]
  exact congrArg _ (List.append_nil _)

/-- A new attempt's job is queued. -/
theorem Books.submit {job : SelectionJob} (books : Books max_captures 0 0 l)
    (fresh : job.capture_id ∉ counted_in l.notes) (known : job.capture_id < l.next_capture_id) :
    Books max_captures 0 {job.capture_id} { l with world := l.world.queue job } where
  circulation := by
    have issued : Circulation (job.capture_id ::ₘ (0 + counted_in l.notes)) (counted_out l.notes)
        (job.capture_id ::ₘ (circulating l.world + 0)) :=
      books.circulation.issue (by rwa [zero_add])
    rw [← Multiset.singleton_add, zero_add, add_zero, ← Multiset.singleton_add,
      add_comm {job.capture_id} (circulating l.world), ← circulating_queue,
      ← add_zero (circulating (l.world.queue job))] at issued
    exact issued
  in_flight := books.in_flight
  fresh := by
    intro other member
    rcases Multiset.mem_add.mp member with member | member
    · rw [Multiset.mem_singleton.mp member]
      exact known
    · exact books.fresh other (Multiset.mem_add.mpr (.inr member))
  within_limit := books.within_limit
  honest := books.honest

/-- The attempt that was submitted is counted in. -/
theorem Books.count_in {capture_id : CaptureId}
    (books : Books max_captures handing {capture_id} l) :
    Books max_captures handing 0
      { l with
        notes := l.notes ++ [.counted_in capture_id]
        selections_in_flight := l.selections_in_flight + 1 } where
  circulation := by
    rw [counted_in_concat, counted_out_concat_in, zero_add, ← Multiset.singleton_add]
    exact books.circulation
  in_flight := by
    have in_flight := books.in_flight
    rw [counted_in_concat, counted_out_concat_in, Multiset.card_cons]
    dsimp only
    omega
  fresh := by
    rw [counted_in_concat, zero_add, ← Multiset.singleton_add]
    exact books.fresh
  within_limit := books.within_limit
  honest := books.honest

/-- An attempt in hand is counted out. -/
theorem Books.count_out {capture_id : CaptureId} (books : Books max_captures {capture_id} 0 l) :
    Books max_captures 0 0
      { l with
        notes := l.notes ++ [.counted_out capture_id]
        selections_in_flight := l.selections_in_flight - 1 } := by
  have circulation := books.circulation
  rw [add_comm (circulating l.world), Multiset.singleton_add] at circulation
  refine ⟨?_, ?_, ?_, books.within_limit, books.honest⟩
  · rw [counted_in_concat_out, counted_out_concat, add_zero]
    exact circulation.retire
  · have fewer := circulation.card_held_le
    have in_flight := books.in_flight
    rw [Multiset.card_cons, zero_add] at fewer
    rw [counted_in_concat_out, counted_out_concat, Multiset.card_cons]
    dsimp only
    omega
  · rw [counted_in_concat_out]
    exact books.fresh

/-- A job in hand is queued again. -/
theorem Books.resubmit {job : SelectionJob} (books : Books max_captures {job.capture_id} 0 l) :
    Books max_captures 0 0 { l with world := l.world.queue job } where
  circulation := by
    rw [circulating_queue, add_zero]
    exact books.circulation
  in_flight := books.in_flight
  fresh := books.fresh
  within_limit := books.within_limit
  honest := books.honest

/-- The next command is taken off its queue. -/
theorem Books.receive {command : CaptureCommand} {commands : List CaptureCommand}
    (books : Books max_captures 0 0 l) (queued : l.world.commands = command :: commands) :
    Books max_captures ↑(returning command) 0
      { l with world := l.world.with_commands commands } where
  circulation := by
    rw [circulating_with_commands queued, ← add_zero (circulating l.world)]
    exact books.circulation
  in_flight := books.in_flight
  fresh := books.fresh
  within_limit := books.within_limit
  honest := books.honest

/-! ## Steps that count nothing -/

/-- A property that the turns of the other threads, the engine's variables and a note that counts
nothing leave alone. -/
structure Steady (P : CaptureWorker B (SideWorld V) → Prop) : Prop where
  honest : ∀ s, P s → Honest s.world.thread
  world : ∀ s w, P s → Moves s.world w → P { s with world := w }
  engine : ∀ s backend recovery recovery_notified unserved, P s →
    P { s with backend, recovery, recovery_notified, unserved }
  noted : ∀ s what, counted_in [what] = 0 → counted_out [what] = 0 → P s →
    P { s with notes := s.notes ++ [what] }

/-- A step keeps the property, and does not end the worker for its limit. -/
def Stays (P : CaptureWorker B (SideWorld V) → Prop) :
    Except WorkerEnd α → CaptureWorker B (SideWorld V) → Prop :=
  Post (fun _ s => P s) fun ending s => ending ≠ .capture_limit ∧ P s

section Steps

variable {T R S β : Type} {rest : Host B V} {P : CaptureWorker B (SideWorld V) → Prop}

/-- Two steps that keep the property keep it one after the other. -/
theorem holds_bind {x : Serving B (SideWorld V) α} {f : α → Serving B (SideWorld V) β}
    (first : Triple P x (Stays P)) (second : ∀ a, Triple P (f a) (Stays P)) :
    Triple P (x >>= f) (Stays P) :=
  Triple.bind first second fun _ _ holds => holds

/-- Returning a value keeps it. -/
theorem holds_pure {a : α} : Triple P (pure a : Serving B (SideWorld V) α) (Stays P) :=
  Triple.pure fun _ holds => holds

/-- Reading the worker's variables keeps it. -/
theorem holds_read {f : CaptureWorker B (SideWorld V) → Serving B (SideWorld V) α}
    (second : ∀ s, Triple P (f s) (Stays P)) : Triple P (Session.read >>= f) (Stays P) :=
  Triple.bind_read fun s => (second s).pre fun _ holds => holds.1

/-- A call that the other threads take turns before, and that changes nothing they share. -/
theorem holds_call (steady : Steady P) (call : SideWorld V → α × SideWorld V)
    (moves : ∀ w, Honest w.thread → Moves w (call w).2) :
    Triple P (host_call call) (Stays P) :=
  triple_host_call fun s holds =>
    steady.world s _ holds (moves s.world (steady.honest s holds))

/-- A call of the host keeps it. -/
theorem holds_aside (steady : Steady P) (call : V → α × V) :
    Triple P (host_call (aside call)) (Stays P) :=
  holds_call steady (aside call) (Moves.aside call)

/-- Telling the daemon of something keeps it. -/
theorem holds_notify (steady : Steady P) (notice : DaemonNotice) :
    Triple P (notify (side_host rest) notice) (Stays P) :=
  holds_call steady (fun w => ((), (side_host rest).notify notice w))
    (Moves.aside fun r => ((), rest.notify notice r))

/-- A note that counts nothing keeps it. -/
theorem holds_note (steady : Steady P) {what : Note} (no_in : counted_in [what] = 0)
    (no_out : counted_out [what] = 0) : Triple P (note what) (Stays P) :=
  triple_note fun s holds => steady.noted s what no_in no_out holds

/-- Closing an attempt's record counts nothing. -/
theorem holds_close_attempt (steady : Steady P)
    (closed : EventRecorder × Except AppError CaptureId) :
    Triple P (close_attempt closed) (Stays P) :=
  holds_bind (holds_note steady rfl rfl) fun _ => holds_pure

/-- A steady property is not disturbed by delivering a capture. -/
theorem steady_undisturbed (steady : Steady P) : Undisturbed (side_host rest) P where
  closed := fun s recorder holds => steady.noted s (.closed recorder) rfl rfl holds
  gpu := fun s holds => steady.world s _ holds (Moves.aside _ _ (steady.honest s holds))
  confirmed_region := fun s _ holds =>
    steady.world s _ holds (Moves.aside _ _ (steady.honest s holds))
  offer := fun s _ _ holds => steady.world s _ holds (Moves.aside _ _ (steady.honest s holds))

/-- Telling the user of a dropped capture counts nothing. -/
theorem holds_notify_dropped (steady : Steady P) (capture_id : CaptureId)
    (reason : Option String) :
    Triple P (notify_dropped (side_host rest) capture_id reason) (Stays P) := by
  cases reason with
  | none => exact holds_pure
  | some reason => exact holds_notify steady _

/-! ### The seam and the recovery -/

/-- One try at a capture counts nothing, whatever it returns. -/
theorem holds_one_try (steady : Steady P)
    {attempt_capture : B → S → SideWorld V →
      (Except CaptureError T × R × S × B) × SideWorld V}
    (moves : ∀ backend captured w, Honest w.thread →
      Moves w (attempt_capture backend captured w).2) (captured : S) :
    Triple P (one_try attempt_capture captured) (Stays P) := by
  apply holds_read
  intro worker
  cases worker.backend with
  | none => exact triple_end_worker fun s holds => ⟨nofun, holds⟩
  | some backend =>
    apply holds_bind (holds_call steady _ (moves backend captured))
    intro tried
    apply holds_bind
    · exact triple_assign fun s holds => steady.engine s _ _ _ _ holds
    · intro _
      exact holds_pure

/-- Neither does building the engine again before the next try. -/
theorem holds_rebuild_for_retry (steady : Steady P) (recovery_attempts : Nat) :
    Triple P (rebuild_for_retry (side_host rest) recovery_attempts) (Stays P) := by
  apply holds_bind
  · exact triple_assign fun s holds => steady.engine s _ _ _ _ holds
  intro _
  apply holds_bind (holds_aside steady _)
  intro waited
  cases waited with
  | Stopping => exact holds_pure
  | Elapsed =>
    apply holds_bind (holds_note steady rfl rfl)
    intro _
    apply holds_bind (holds_aside steady _)
    intro rebuilt
    cases rebuilt with
    | error error => exact holds_pure
    | ok replacement =>
      apply holds_bind
      · exact triple_assign fun s holds => steady.engine s _ _ _ _ holds
      · intro _
        exact holds_pure

/-- Nor do all the tries together, by induction on those that are left. -/
theorem holds_guarded_tries (steady : Steady P)
    {attempt_capture : B → S → SideWorld V →
      (Except CaptureError T × R × S × B) × SideWorld V}
    (moves : ∀ backend captured w, Honest w.thread →
      Moves w (attempt_capture backend captured w).2) (retries_left : Nat) (captured : S) :
    Triple P (guarded_tries (side_host rest) attempt_capture retries_left captured) (Stays P) := by
  induction retries_left generalizing captured with
  | zero => exact holds_bind (holds_one_try steady moves captured) fun _ => holds_pure
  | succ retries_left ih =>
    apply holds_bind (holds_one_try steady moves captured)
    rintro ⟨result, recorder, captured'⟩
    cases result with
    | ok value => exact holds_pure
    | error error =>
      apply Triple.ite
      · intro _
        apply holds_bind (holds_rebuild_for_retry steady _)
        intro rebuilt
        cases rebuilt with
        | ok _ => exact ih captured'
        | error _ => exact holds_pure
      · intro _
        exact holds_pure

/-- Nor does remembering the error. -/
theorem holds_note_failure (steady : Steady P) {U : Type} (result : Except CaptureError U) :
    Triple P (note_failure result) (Stays P) := by
  cases result with
  | ok _ => exact holds_pure
  | error error => exact triple_assign fun s holds => steady.engine s _ _ _ _ holds

/-- A guarded capture counts nothing. -/
theorem holds_guarded (steady : Steady P)
    (attempt_capture : B → S → SideWorld V →
      (Except CaptureError T × R × S × B) × SideWorld V)
    (moves : ∀ backend captured w, Honest w.thread →
      Moves w (attempt_capture backend captured w).2) (captured : S) :
    Triple P (capture_with_backend_recovery (side_host rest) attempt_capture captured)
      (Stays P) := by
  apply holds_bind (holds_note steady rfl rfl)
  intro _
  apply holds_bind (holds_guarded_tries steady moves _ captured)
  intro guarded
  exact holds_bind (holds_note_failure steady guarded.result) fun _ => holds_pure

/-- Scheduling the recovery after a rebuild that failed counts nothing. -/
theorem holds_schedule_after_rebuild (steady : Steady P) (recovery_attempts : Nat)
    (error : Option AppError) :
    Triple P (schedule_after_rebuild (side_host rest) recovery_attempts error) (Stays P) := by
  cases error with
  | none => exact holds_pure
  | some error =>
    apply holds_bind (holds_aside steady _)
    intro now
    exact triple_assign fun s holds => steady.engine s _ _ _ _ holds

/-- Scheduling it after an error that says the engine is lost counts nothing. -/
theorem holds_schedule_if_lost (steady : Steady P) (error : CaptureError) :
    Triple P (schedule_if_lost (side_host rest) error) (Stays P) := by
  apply holds_read
  intro worker
  apply Triple.ite
  · intro _
    apply holds_bind (holds_aside steady _)
    intro now
    exact triple_assign fun s holds => steady.engine s _ _ _ _ holds
  · intro _
    exact holds_pure

/-- Telling the user of the engine counts nothing. -/
theorem holds_tell (steady : Steady P) (notice : DaemonNotice) :
    Triple P (tell (side_host rest) notice) (Stays P) :=
  holds_bind (holds_note steady rfl rfl) fun _ => holds_notify steady notice

/-- A timed retry that fails counts nothing. -/
theorem holds_retry_failed (steady : Steady P) (state : BackendRecovery) (error : AppError) :
    Triple P (retry_failed (side_host rest) state error) (Stays P) := by
  apply holds_bind (holds_aside steady _)
  intro now
  apply holds_bind
  · exact triple_assign fun s holds => steady.engine s _ _ _ _ holds
  intro _
  apply holds_read
  intro worker
  apply Triple.ite
  · intro _
    apply holds_bind
    · exact triple_assign fun s holds => steady.engine s _ _ _ _ holds
    · intro _
      exact holds_tell steady _
  · intro _
    exact holds_pure

/-- Building the engine counts nothing. -/
theorem holds_rebuild (steady : Steady P) : Triple P (rebuild (side_host rest)) (Stays P) := by
  apply holds_bind
  · exact triple_assign fun s holds => steady.engine s _ _ _ _ holds
  intro _
  apply holds_bind (holds_aside steady _)
  intro built
  apply holds_read
  intro worker
  cases built with
  | ok replacement =>
    apply holds_bind
    · exact triple_assign fun s holds => steady.engine s _ _ _ _ holds
    intro _
    apply Triple.ite
    · intro _
      exact holds_tell steady _
    · intro _
      exact holds_pure
  | error error =>
    cases worker.recovery with
    | none => exact triple_end_worker fun s holds => ⟨nofun, holds⟩
    | some state => exact holds_retry_failed steady state error

/-- Polling for a source to come back counts nothing. -/
theorem holds_poll_source (steady : Steady P) (state : BackendRecovery) :
    Triple P (poll_source (side_host rest) state) (Stays P) := by
  apply holds_bind (holds_aside steady _)
  intro wait
  apply holds_bind (holds_aside steady _)
  intro now
  apply holds_bind
  · exact triple_assign fun s holds => steady.engine s _ _ _ _ holds
  intro _
  have polls_again : Triple P
      (do
        let later ← host_call (side_host rest).now
        assign fun worker => { worker with
          recovery := some { state with
            wait := state.wait.record wait now, next_attempt := later + wait.poll_interval } })
      (Stays P) := by
    apply holds_bind (holds_aside steady _)
    intro later
    exact triple_assign fun s holds => steady.engine s _ _ _ _ holds
  cases wait with
  | Ready => exact holds_rebuild steady
  | Session => exact polls_again
  | Displays => exact polls_again

/-- The timed retry counts nothing. -/
theorem holds_retry_backend (steady : Steady P) :
    Triple P (retry_backend (side_host rest)) (Stays P) := by
  apply holds_read
  intro worker
  cases worker.recovery with
  | none => exact holds_pure
  | some state =>
    apply holds_bind (holds_aside steady _)
    intro now
    apply Triple.ite
    · intro _
      apply Triple.ite
      · intro _
        exact holds_poll_source steady state
      · intro _
        exact holds_rebuild steady
    · intro _
      exact holds_pure

end Steps

/-! ## Handing attempts over -/

/-- The books of a capture worker. -/
def Balanced (max_captures : Option Nat) (handing submitted : Multiset CaptureId)
    (s : CaptureWorker B (SideWorld V)) : Prop :=
  Books max_captures handing submitted (ledger s)

/-- The books are a steady property. -/
theorem steady_balanced :
    Steady (Balanced (B := B) (V := V) max_captures handing submitted) where
  honest := fun _ books => books.honest
  world := fun _ _ books moves => books.moves moves
  engine := fun _ _ _ _ _ books => books
  noted := fun _ _ no_in no_out books => books.noted no_in no_out

/-- The books, before anything of a new attempt is in them. -/
structure Fresh (max_captures : Option Nat) (capture_id : CaptureId)
    (s : CaptureWorker B (SideWorld V)) : Prop where
  books : Books max_captures 0 0 (ledger s)
  unknown : capture_id ∉ counted_in s.notes
  known : capture_id < s.next_capture_id

/-- So are the books with an attempt that is not in them yet. -/
theorem steady_fresh (capture_id : CaptureId) :
    Steady (Fresh (B := B) (V := V) max_captures capture_id) where
  honest := fun _ fresh => fresh.books.honest
  world := fun _ _ fresh moves => ⟨fresh.books.moves moves, fresh.unknown, fresh.known⟩
  engine := fun _ _ _ _ _ fresh => ⟨fresh.books, fresh.unknown, fresh.known⟩
  noted := by
    intro s what no_in no_out fresh
    refine ⟨fresh.books.noted no_in no_out, ?_, fresh.known⟩
    have same_in : counted_in (s.notes ++ [what]) = counted_in s.notes := by
      unfold counted_in at *
      rw [List.filterMap_append, ← Multiset.coe_add, no_in, add_zero]
    dsimp only
    rw [same_in]
    exact fresh.unknown

/-- How a command ends: with every attempt in the books, or the worker for another reason than
its limit. -/
def Booked (max_captures : Option Nat) :
    Except WorkerEnd α → CaptureWorker B (SideWorld V) → Prop :=
  Post (fun _ => Balanced max_captures 0 0) fun ending s =>
    ending ≠ .capture_limit ∧ ∃ handing, Balanced max_captures handing 0 s

section Commands

variable {rest : Host B V} {context : CaptureWorkerContext}

/-- A command that counts nothing ends with the books as they were. -/
theorem booked_of_stays {result : Except WorkerEnd α} {s : CaptureWorker B (SideWorld V)}
    (stays : Stays (Balanced max_captures 0 0) result s) : Booked max_captures result s := by
  cases result with
  | error ending => exact ⟨stays.1, 0, stays.2⟩
  | ok _ => exact stays

/-- Counting in puts the attempt that was submitted into the books. -/
theorem count_in_accounts (capture_id : CaptureId) :
    Triple (Balanced (B := B) (V := V) max_captures handing {capture_id}) (count_in capture_id)
      (Returns (Balanced max_captures handing 0)) := by
  refine Triple.bind_update (S := fun s => Balanced max_captures handing 0
    { s with selections_in_flight := s.selections_in_flight + 1 }) ?_ ?_
  · exact fun s books => Books.count_in books
  · exact triple_assign fun s books => books

/-- Counting out takes the attempt in hand off them. -/
theorem count_out_accounts (capture_id : CaptureId) :
    Triple (Balanced (B := B) (V := V) max_captures {capture_id} 0) (count_out capture_id)
      (Returns (Balanced max_captures 0 0)) := by
  refine Triple.bind_update (S := fun s => Balanced max_captures 0 0
    { s with selections_in_flight := s.selections_in_flight - 1 }) ?_ ?_
  · exact fun s books => Books.count_out books
  · exact triple_assign fun s books => books

/-- A job that the selection worker's queue takes. -/
theorem try_submit_taken {job : SelectionJob} {w : SideWorld V}
    (taken : ((side_host rest).try_submit job w).1 = .ok ()) :
    ((side_host rest).try_submit job w).2 = (aside (rest.try_submit job) w).2.queue job := by
  unfold side_host SideWorld.submit at *
  dsimp only at *
  split at taken
  · cases taken
  · rfl
  · cases taken

/-- A job that it does not take. -/
theorem try_submit_refused {job : SelectionJob} {w : SideWorld V} {reason : SubmitError}
    (refused : ((side_host rest).try_submit job w).1 = .error reason) :
    ((side_host rest).try_submit job w).2 = (aside (rest.try_submit job) w).2 := by
  unfold side_host SideWorld.submit at *
  dsimp only at *
  split at refused
  · rfl
  · cases refused
  · rfl

/-- A job that is handed back to the selection worker is queued, or counted out. -/
theorem resume_accounts (job : SelectionJob) (reason : String) :
    Triple (Balanced max_captures {job.capture_id} 0) (resume context (side_host rest) job reason)
      (Booked max_captures) := by
  apply Triple.ite
  · intro _
    refine Triple.bind (Q := Post (Post (fun _ => Balanced max_captures 0 0)
      fun _ => Balanced max_captures {job.capture_id} 0) fun _ _ => False) ?_ ?_
      fun _ _ never => never.elim
    · refine triple_host_call fun s books => ?_
      have moves := Moves.aside (rest.try_submit job) s.world books.honest
      cases submitted : ((side_host rest).try_submit job s.world).1 with
      | ok _ =>
        rw [try_submit_taken submitted]
        exact (Books.moves books moves).resubmit
      | error reason =>
        rw [try_submit_refused submitted]
        exact Books.moves books moves
    · intro submitted
      cases submitted with
      | ok _ => exact Triple.pure fun s books => books
      | error _ =>
        refine Triple.bind (count_out_accounts job.capture_id) ?_ fun _ _ never => never.elim
        intro _
        apply Triple.post _ fun _ _ => booked_of_stays
        apply holds_bind (holds_close_attempt steady_balanced _)
        intro _
        exact holds_notify steady_balanced _
  · intro _
    exact triple_end_worker fun s books => ⟨nofun, _, books⟩

/-- The job of a capture is that of its attempt. -/
theorem selection_job_capture_id {capture : FinishedCapture} {initial_tool : InitialSelectionTool}
    {preview_mode : PreviewMode} {job : SelectionJob}
    (made : capture.selection_job initial_tool preview_mode = .ok job) :
    job.capture_id = capture.capture_id := by
  unfold FinishedCapture.selection_job at made
  split at made
  · cases made
  · cases made
  · cases made
    rfl

/-- A dispatch submits the new attempt exactly where its status says so. -/
theorem dispatch_accounts (sinks : List String) (capture : FinishedCapture) :
    Triple (Fresh max_captures capture.capture_id)
      (dispatch_output context (side_host rest) sinks capture)
      (dispatched (Fresh max_captures capture.capture_id)
        (Balanced max_captures 0 {capture.capture_id})) := by
  apply triple_dispatch_output context (steady_undisturbed (steady_fresh capture.capture_id))
  · intro s job initial_tool made fresh taken
    have moves := Moves.aside (rest.try_submit job) s.world fresh.books.honest
    rw [try_submit_taken taken, ← selection_job_capture_id made]
    rw [← selection_job_capture_id made] at fresh
    exact (fresh.books.moves moves).submit fresh.unknown fresh.known
  · intro s job reason fresh refused
    rw [try_submit_refused refused]
    exact (steady_fresh capture.capture_id).world s _ fresh (Moves.aside _ _ fresh.books.honest)

/-! ## A trigger -/

/-- A step of a new attempt that has submitted nothing. -/
theorem booked_of_fresh {capture_id : CaptureId} {result : Except WorkerEnd α}
    {s : CaptureWorker B (SideWorld V)} (stays : Stays (Fresh max_captures capture_id) result s) :
    Booked max_captures result s := by
  cases result with
  | error ending => exact ⟨stays.1, 0, stays.2.books⟩
  | ok _ => exact stays.books

/-- What a trigger captures lets other threads take turns, and counts nothing. -/
theorem trigger_attempt_moves (capture_id : CaptureId) (trigger : TriggerEvent) (backend : B)
    (w : SideWorld V) (honest : Honest w.thread) :
    Moves w (trigger_attempt context (side_host rest) capture_id trigger backend w).2 := by
  unfold trigger_attempt
  have resolved := Moves.aside (rest.resolve_capture_source backend) w honest
  dsimp only
  split
  · exact resolved
  · exact resolved.trans (Moves.aside _ _ (resolved.honest honest))

/-- What is reported of a dispatch that handed nothing over is no status of a queued job. -/
theorem reported_not_queued {status : Except AppError String} {text : String}
    (not_queued : ∀ text, status = .ok text → queued_to_selection_worker text = false)
    (reported : output_status_or_fatal status = .ok text) :
    queued_to_selection_worker text = false := by
  unfold output_status_or_fatal at reported
  split at reported
  · exact not_queued text (congrArg Except.ok (Except.ok.inj reported))
  · cases reported
    rfl
  · cases reported

/-- A capture that is delivered to the selection worker is counted in. -/
theorem deliver_capture_accounts (capture_id : CaptureId) (trigger : TriggerEvent)
    (outcome : CaptureOutcome) (recorder : EventRecorder) :
    Triple (Fresh max_captures capture_id)
      (deliver_capture context (side_host rest) capture_id trigger outcome recorder)
      (Booked max_captures) := by
  refine Triple.bind (Q := Stays (Fresh max_captures capture_id))
    (holds_aside (steady_fresh capture_id) rest.destinations) ?_ fun _ _ => booked_of_fresh
  intro sinks
  refine Triple.bind (dispatch_accounts sinks
    { capture_id
      triggered_at := trigger.received_at
      source := trigger.source
      action := trigger.action
      metadata := outcome.metadata
      frame := outcome.frame
      native_frame := outcome.native_frame
      recorder }) ?_ ?_
  · intro status
    apply Triple.of_or
    · -- The selection worker has the job, and its status is no error.
      rintro s result s' ⟨text, rfl, queued, books⟩
      have counts : Triple (Balanced max_captures 0 {capture_id})
          (if queued_to_selection_worker text = true then count_in capture_id else pure ())
          (Booked (B := B) (V := V) max_captures) := by
        apply Triple.ite
        · intro _
          exact (count_in_accounts capture_id).post fun result s returns => by
            cases result with
            | error _ => exact returns.elim
            | ok _ => exact returns
        · intro not_queued
          exact absurd queued not_queued
      exact counts s result s' books
    · apply Triple.of_fact
      intro not_queued
      refine Triple.post (Q := Stays (Fresh max_captures capture_id)) ?_
        fun _ _ => booked_of_fresh
      cases reported : output_status_or_fatal status with
      | error error => exact triple_end_worker fun s fresh => ⟨nofun, fresh⟩
      | ok text =>
        apply Triple.ite
        · intro queued
          rw [reported_not_queued not_queued reported] at queued
          cases queued
        · intro _
          exact holds_pure
  · rintro ending s ⟨rfl, fresh⟩
    exact ⟨nofun, 0, fresh.books⟩

/-- A capture that fails leaves the books without its attempt. -/
theorem capture_failed_accounts (capture_id : CaptureId) (trigger : TriggerEvent)
    (error : CaptureError) (recorder : EventRecorder) :
    Triple (Fresh max_captures capture_id)
      (capture_failed context (side_host rest) capture_id trigger error recorder)
      (Stays (Fresh max_captures capture_id)) := by
  apply holds_bind (holds_close_attempt (steady_fresh capture_id) _)
  intro _
  apply holds_bind (holds_notify_dropped (steady_fresh capture_id) capture_id _)
  intro _
  exact holds_schedule_if_lost (steady_fresh capture_id) error

/-- A capture that is taken hands its attempt over and counts it in, or never had it in the
books. -/
theorem take_capture_accounts (capture_id : CaptureId) (trigger : TriggerEvent) :
    Triple (Fresh max_captures capture_id)
      (take_capture context (side_host rest) capture_id trigger) (Booked max_captures) := by
  refine Triple.bind (holds_guarded (steady_fresh capture_id) _
    (fun backend _ w => trigger_attempt_moves capture_id trigger backend w) ()) ?_
    fun _ _ => booked_of_fresh
  intro captured
  refine Triple.bind (holds_schedule_after_rebuild (steady_fresh capture_id) _ _) ?_
    fun _ _ => booked_of_fresh
  intro _
  cases captured.result with
  | ok outcome => exact deliver_capture_accounts capture_id trigger outcome _
  | error error =>
    exact (capture_failed_accounts capture_id trigger error _).post fun _ _ => booked_of_fresh

/-- So does a trigger, whether the displays have changed or not. -/
theorem check_displays_then_capture_accounts (capture_id : CaptureId) (trigger : TriggerEvent) :
    Triple (Fresh max_captures capture_id)
      (check_displays_then_capture context (side_host rest) capture_id trigger)
      (Booked max_captures) := by
  refine Triple.bind (holds_guarded (steady_fresh capture_id) _
    (fun backend _ => Moves.aside (rest.validate_display_configuration backend)) ()) ?_
    fun _ _ => booked_of_fresh
  intro validated
  refine Triple.bind (holds_schedule_after_rebuild (steady_fresh capture_id) _ _) ?_
    fun _ _ => booked_of_fresh
  intro _
  cases validated.result with
  | ok _ => exact take_capture_accounts capture_id trigger
  | error error =>
    refine Triple.post (Q := Stays (Fresh max_captures capture_id)) ?_
      fun _ _ => booked_of_fresh
    apply holds_bind (holds_schedule_if_lost (steady_fresh capture_id) error)
    intro _
    exact holds_notify (steady_fresh capture_id) _

/-- A trigger takes the next id, which no attempt has, and stays within the limit. -/
theorem serve_trigger_accounts (trigger : TriggerEvent) :
    Triple (Balanced context.max_captures 0 0) (serve_trigger context (side_host rest) trigger)
      (Booked context.max_captures) := by
  refine Triple.bind_read fun worker => ?_
  apply Triple.ite
  · intro _
    exact Triple.pure fun s holds => holds.1
  · intro within
    refine Triple.bind_update (S := Fresh context.max_captures worker.next_capture_id) ?_ ?_
    · rintro s ⟨books, rfl⟩
      have lower := books.fresh
      rw [zero_add] at lower
      refine ⟨⟨books.circulation, books.in_flight, ?_, ?_, books.honest⟩, ?_,
        Nat.lt_succ_self _⟩
      · intro other member
        exact (books.fresh other member).trans (Nat.lt_succ_self _)
      · intro maximum limited
        unfold capture_budget_exhausted at within
        rw [limited] at within
        have fewer : worker.attempts < maximum := by simpa using within
        exact fewer
      · exact fun member => Nat.lt_irrefl _ (lower _ member)
    · apply Triple.ite
      · intro _
        exact Triple.pure fun s fresh => fresh.books
      · intro _
        apply Triple.ite
        · intro _
          exact check_displays_then_capture_accounts _ trigger
        · intro _
          exact take_capture_accounts _ trigger

/-! ## The other commands -/

/-- A frame for a recording is no attempt. -/
theorem record_frame_accounts (request : RecordFrameRequest) :
    Triple (Balanced max_captures 0 0) (record_frame context (side_host rest) request)
      (Stays (Balanced max_captures 0 0)) := by
  have answers (result : Except CaptureError CpuFrame) :
      Triple (Balanced max_captures 0 0) (answer_frame (side_host rest) result)
        (Stays (B := B) (Balanced max_captures 0 0)) := by
    apply holds_bind (holds_note_failure steady_balanced result)
    intro _
    apply holds_bind
    · cases result with
      | ok _ => exact holds_pure
      | error error => exact holds_schedule_if_lost steady_balanced error
    · intro _
      exact holds_aside steady_balanced fun r => ((), rest.reply result r)
  apply holds_read
  intro worker
  cases worker.backend with
  | none => exact answers _
  | some active_backend =>
    apply holds_bind
    · exact triple_assign fun s books => ⟨books.circulation, books.in_flight,
        fun other member => (books.fresh other member).trans (Nat.lt_succ_self _),
        books.within_limit, books.honest⟩
    intro _
    apply holds_bind (holds_aside steady_balanced _)
    intro captured
    apply holds_bind
    · exact triple_assign fun s books => books
    · intro _
      exact answers _

/-- A live selection comes back with its attempt, which is handed back again or counted out. -/
theorem serve_live_selection_accounts (request : LiveSelectionRequest) :
    Triple (Balanced max_captures {request.job.capture_id} 0)
      (serve_live_selection context (side_host rest) request) (Booked max_captures) := by
  refine Triple.bind_read fun worker => ?_
  refine Triple.pre (P := Balanced max_captures {request.job.capture_id} 0) ?_
    fun s holds => holds.1
  apply Triple.ite
  · intro _
    exact resume_accounts (request.job.failed request.selection _) _
  · intro _
    refine Triple.bind (holds_guarded steady_balanced _
      (fun backend recorder => Moves.aside (rest.capture backend _ recorder)) _) ?_
      fun ending s stays => ⟨stays.1, _, stays.2⟩
    intro captured
    refine Triple.bind (holds_schedule_after_rebuild steady_balanced _ _) ?_
      fun ending s stays => ⟨stays.1, _, stays.2⟩
    intro _
    cases captured.result with
    | ok outcome =>
      unfold resume_confirmed
      dsimp only
      split
      · refine Triple.bind (holds_notify steady_balanced _) ?_
          fun ending s stays => ⟨stays.1, _, stays.2⟩
        intro _
        exact resume_accounts ({ request.job with recorder := captured.captured }.failed
          request.selection _) _
      · refine Triple.bind (holds_aside steady_balanced rest.now) ?_
          fun ending s stays => ⟨stays.1, _, stays.2⟩
        intro now
        exact resume_accounts ({ request.job with recorder := captured.captured }.confirmed
          context.cursor request.selection outcome now) _
    | error error =>
      refine Triple.bind (holds_schedule_if_lost steady_balanced error) ?_
        fun ending s stays => ⟨stays.1, _, stays.2⟩
      intro _
      refine Triple.bind (holds_notify_dropped steady_balanced _ _) ?_
        fun ending s stays => ⟨stays.1, _, stays.2⟩
      intro _
      exact resume_accounts ({ request.job with recorder := captured.captured }.failed
        request.selection error.to_string) _

/-- One lemma a command: what it brings back is in the books when it has been served. -/
theorem serve_accounts (command : CaptureCommand) :
    Triple (Balanced context.max_captures ↑(returning command) 0)
      (serve context (side_host rest) command) (Booked context.max_captures) := by
  cases command with
  | Trigger trigger =>
    refine Triple.bind (holds_aside steady_balanced rest.recording_active) ?_
      fun _ _ => booked_of_stays
    intro recording
    apply Triple.ite
    · intro _
      exact (holds_notify steady_balanced .RecordingInProgress).post fun _ _ => booked_of_stays
    · intro _
      exact serve_trigger_accounts trigger
  | LiveSelection request => exact serve_live_selection_accounts request
  | SelectionFinished capture_id =>
    refine (count_out_accounts capture_id).post fun result s returns => ?_
    cases result with
    | error _ => exact returns.elim
    | ok _ => exact returns
  | RecordFrame request =>
    exact (record_frame_accounts request).post fun _ _ => booked_of_stays
  | Shutdown => exact triple_end_worker fun s books => ⟨nofun, _, books⟩

/-! ## The loop -/

/-- What a command that was taken off its queue brings back. -/
def received (command : Option CaptureCommand) : List CaptureId := command.elim [] returning

/-- Where the worker is before its next command, or where it ended for want of one. -/
def Received (max_captures : Option Nat) :
    Except WorkerEnd (Option CaptureCommand) → CaptureWorker B (SideWorld V) → Prop :=
  Post (fun command => Balanced max_captures ↑(received command) 0) fun ending s =>
    ending ≠ .capture_limit ∧ Balanced max_captures 0 0 s

/-- Waiting for a command brings one back from circulation, or ends with nothing in hand. -/
theorem next_command_accounts :
    Triple (Balanced max_captures 0 0) (next_command (B := B) (side_host rest))
      (Received max_captures) := by
  have disconnects : Triple (Balanced max_captures 0 0)
      (end_worker .disconnected : Serving B (SideWorld V) (Option CaptureCommand))
      (Received max_captures) :=
    triple_end_worker fun s books => ⟨nofun, books⟩
  have turns (s : CaptureWorker B (SideWorld V)) (books : Balanced max_captures 0 0 s) :
      Balanced max_captures 0 0 { s with world := s.world.take_turns } :=
    Books.moves books (Moves.take_turns s.world books.honest)
  refine Triple.bind_read fun worker => ?_
  refine Triple.pre (P := Balanced max_captures 0 0) ?_ fun s holds => holds.1
  cases worker.recovery with
  | some state =>
    refine Triple.bind (holds_aside steady_balanced rest.now) ?_ fun _ _ stays => stays
    intro now
    refine Triple.bind (Q := Post (Post (fun command =>
      Balanced max_captures ↑(returning command) 0) fun _ => Balanced max_captures 0 0)
      fun _ _ => False) ?_ ?_ fun _ _ never => never.elim
    · refine triple_host_call fun s books => ?_
      have books := turns s books
      unfold side_host
      dsimp only
      cases queued : s.world.take_turns.commands with
      | cons command commands => exact Books.receive books queued
      | nil =>
        dsimp only
        split
        · exact Books.moves books (Moves.nothing_queued queued _)
        · exact Books.moves books (Moves.nothing_queued queued _)
    · intro answer
      cases answer with
      | ok command => exact Triple.pure fun s books => books
      | error reason =>
        cases reason with
        | Timeout => exact Triple.pure fun s books => books
        | Disconnected => exact disconnects
  | none =>
    refine Triple.bind (Q := Post (fun command => Balanced max_captures ↑(received command) 0)
      fun _ _ => False) ?_ ?_ fun _ _ never => never.elim
    · refine triple_recv_call fun s command world books answered => ?_
      have books := turns s books
      unfold side_host at answered
      dsimp only at answered
      cases queued : s.world.take_turns.commands with
      | cons command commands =>
        rw [queued] at answered
        obtain ⟨rfl, rfl⟩ := Prod.mk.inj (Option.some.inj answered)
        exact Books.receive books queued
      | nil =>
        rw [queued] at answered
        obtain ⟨answer, _, made⟩ := Option.map_eq_some_iff.mp answered
        obtain ⟨rfl, rfl⟩ := Prod.mk.inj made
        exact Books.moves books (Moves.nothing_queued queued _)
    · intro command
      cases command with
      | some command => exact Triple.pure fun s books => books
      | none => exact disconnects

/-- Where as many attempts were counted out as in, none is held. -/
theorem Books.nothing_held (books : Books max_captures 0 0 l)
    (none_in_flight : l.selections_in_flight = 0) : circulating l.world = 0 := by
  have fewer := books.circulation.card_held_le
  have in_flight := books.in_flight
  rw [add_zero, zero_add] at fewer
  apply Multiset.card_eq_zero.mp
  omega

/-- How the worker goes on: with every attempt in the books; and where it ends for its limit,
no attempt is held. -/
def GoesOn (max_captures : Option Nat) :
    Except WorkerEnd Unit → CaptureWorker B (SideWorld V) → Prop :=
  Post (fun _ => Balanced max_captures 0 0) fun ending s =>
    (∃ handing, Balanced max_captures handing 0 s) ∧
      (ending = .capture_limit → circulating s.world = 0)

/-- A command that ends with the books in order lets the worker go on. -/
theorem goes_on_of_booked {result : Except WorkerEnd Unit} {s : CaptureWorker B (SideWorld V)}
    (booked : Booked max_captures result s) : GoesOn max_captures result s := by
  cases result with
  | error ending => exact ⟨booked.2, fun limit => absurd limit booked.1⟩
  | ok _ => exact booked

/-- Where the worker ends for its limit, no attempt is in circulation. -/
theorem check_end_accounts :
    Triple (Balanced (B := B) context.max_captures 0 0) (check_end context (side_host rest))
      (GoesOn context.max_captures) := by
  refine Triple.bind_update (S := Balanced context.max_captures 0 0) (fun s books => books) ?_
  refine Triple.bind (holds_aside steady_balanced rest.stop_requested) ?_
    fun ending s stays => ⟨⟨0, stays.2⟩, fun limit => absurd limit stays.1⟩
  intro stop
  refine Triple.bind_read fun worker => ?_
  apply Triple.ite
  · intro _
    exact triple_end_worker fun s holds => ⟨⟨0, holds.1⟩, nofun⟩
  · intro _
    apply Triple.ite
    · intro limit
      refine triple_end_worker ?_
      rintro s ⟨books, rfl⟩
      refine ⟨⟨0, books⟩, fun _ => books.nothing_held ?_⟩
      unfold capture_limit_reached at limit
      exact of_decide_eq_true (Bool.and_eq_true_iff.mp limit).1
    · intro _
      exact Triple.pure fun s holds => holds.1

/-- **Step lemma**: from one top of the loop to the next, or to an end. -/
theorem iteration_accounts :
    Triple (Balanced (B := B) context.max_captures 0 0) (iteration context (side_host rest))
      (GoesOn context.max_captures) := by
  refine Triple.bind check_end_accounts ?_ fun _ _ ends => ends
  intro _
  refine Triple.bind (holds_retry_backend steady_balanced) ?_
    fun ending s stays => ⟨⟨0, stays.2⟩, fun limit => absurd limit stays.1⟩
  intro _
  refine Triple.bind next_command_accounts ?_
    fun ending s ends => ⟨⟨0, ends.2⟩, fun limit => absurd limit ends.1⟩
  intro command
  cases command with
  | some command => exact (serve_accounts command).post fun _ _ => goes_on_of_booked
  | none => exact Triple.pure fun s books => books

/-- **Run lemma**: at every top of the loop, and wherever it ends. -/
theorem iterations_account (n : Nat) :
    Triple (Balanced (B := B) context.max_captures 0 0)
      (iterations context (side_host rest) n) (GoesOn context.max_captures) := by
  induction n with
  | zero => exact Triple.pure fun s books => books
  | succ n ih =>
    refine Triple.bind ih ?_ fun _ _ ends => ends
    intro _
    exact iteration_accounts

/-- The worker starts with nothing held and nothing counted. -/
theorem start_balanced {v : V} {schedule : List (List Turn)} {s : CaptureWorker B (SideWorld V)}
    (started : start_capture_worker (side_host rest) (.initial v schedule) = some s) :
    Balanced max_captures 0 0 s := by
  unfold start_capture_worker at started
  dsimp only at started
  split at started
  · split at started
    · obtain rfl := Option.some.inj started
      have initial : Books max_captures 0 0
          (⟨.initial v schedule, [], 0, 1, 0⟩ : Ledger V) :=
        ⟨Circulation.initial, rfl, fun _ member => absurd member (Multiset.notMem_zero _),
          fun _ _ => Nat.zero_le _, trivial⟩
      have built := Moves.aside rest.create_backend _ initial.honest
      have read := Moves.aside rest.now _ (built.honest initial.honest)
      have ready := Moves.aside rest.ready _ (read.honest (built.honest initial.honest))
      exact initial.moves (built.trans (read.trans ready))
    · cases started
  · cases started

end Commands

/-- **Attempts in flight.**  Whatever turns the selection worker and the other threads take
between the capture worker's calls, and whatever the queues refuse or lose: after any number of
rounds, at the top of the loop or where it ended, no more attempts are queued, worked on or on
their way back than are in flight; each attempt was counted in at most once, and out at most once
and only after it was counted in; there were at most `max_captures` attempts; and where the worker
ended for that limit, no attempt is held.
SRC: daemon.rs:358-940, selection.rs:108-144 -/
theorem selections_are_accounted (context : CaptureWorkerContext) (rest : Host B V) (v : V)
    (schedule : List (List Turn)) (n : Nat) (result : Except WorkerEnd Unit)
    (s : CaptureWorker B (SideWorld V))
    (ran : run_capture_worker context (side_host rest) (.initial v schedule) n =
      some (result, s)) :
    (circulating s.world).card ≤ s.selections_in_flight ∧
    (counted_in s.notes).Nodup ∧ (counted_out s.notes).Nodup ∧
    counted_out s.notes ≤ counted_in s.notes ∧
    (∀ maximum, context.max_captures = some maximum → s.attempts ≤ maximum) ∧
    (result = .error .capture_limit → circulating s.world = 0) := by
  obtain ⟨first, started, rounds⟩ := Option.bind_eq_some_iff.mp ran
  have goes_on := iterations_account n first result s (start_balanced started) rounds
  have balanced : ∃ handing, Balanced context.max_captures handing 0 s := by
    cases result with
    | ok _ => exact ⟨0, goes_on⟩
    | error ending => exact goes_on.1
  obtain ⟨handing, books⟩ := balanced
  have circulation : Circulation (0 + counted_in s.notes) (counted_out s.notes)
      (circulating s.world + handing) := books.circulation
  rw [zero_add] at circulation
  refine ⟨?_, circulation.once, circulation.retired_once, circulation.retired_le,
    books.within_limit, ?_⟩
  · have fewer := circulation.card_held_le
    have in_flight : s.selections_in_flight + (counted_out s.notes).card =
      (counted_in s.notes).card := books.in_flight
    rw [Multiset.card_add] at fewer
    omega
  · rintro rfl
    exact goes_on.2 rfl

/-! ## A run -/

/-- A host whose every capture is the padded frame. -/
def padded_host : Host Unit Unit where
  ready := fun w => (true, w)
  stop_requested := fun w => (false, w)
  now := fun w => (0, w)
  capture_source_wait := fun w => (.Ready, w)
  create_backend := fun w => (.ok (), w)
  wait_for_backoff := fun _ w => (.Elapsed, w)
  recv := fun w => some (none, w)
  recv_timeout := fun _ w => (.error .Timeout, w)
  recording_active := fun w => (false, w)
  validate_display_configuration := fun _ w => (.ok (), w)
  resolve_capture_source := fun _ w => (.ok .VirtualDesktop, w)
  capture := fun _ _ recorder w =>
    ((.ok ⟨padded_frame.metadata, some padded_frame, none⟩, recorder, ()), w)
  reply := fun _ w => w
  notify := fun _ w => w
  confirmed_region := fun _ w => (none, w)
  gpu := fun w => (⟨fun _ => .error (.synthetic "no texture")⟩, w)
  try_submit := fun _ w => (.ok (), w)
  destinations := fun w => ([], w)
  offer := fun _ _ w => (.error .QueueFull, w)

/-- One capture at most. -/
def single_capture : CaptureWorkerContext where
  mode := .Latest none
  cursor := .Exclude
  cpu_frame := true
  selection_enabled := true
  selection_preview := .Auto
  max_captures := some 1
  has_selection_sender := true

/-- A trigger before the first round; in the second, the overlay's thread takes the job and
panics, and reports the end of the attempt as it unwinds. -/
def panicking_schedule : List (List Turn) :=
  [[.trigger ⟨0, "hotkey", .Region⟩], [], [],
    [], [], [], [], [], [], [], [],
    [], [.receive, .panic, .drop true]]

def panicking_run (n : Nat) :
    Option (Except WorkerEnd Unit × CaptureWorker Unit (SideWorld Unit)) :=
  run_capture_worker single_capture (side_host padded_host) (.initial () panicking_schedule) n

def for_its_limit : Except WorkerEnd Unit → Bool
  | .error .capture_limit => true
  | _ => false

/-- The attempt is in flight after the first round, and the worker ends for its limit once the
attempt was counted out. -/
theorem selections_are_accounted_panic :
    ((panicking_run 1).any fun (_, s) => s.selections_in_flight == 1 && s.world.jobs.length == 1) =
      true ∧
    ∃ s, panicking_run 3 = some (.error .capture_limit, s) ∧ circulating s.world = 0 := by
  have ends : (panicking_run 3).any (fun run => for_its_limit run.1) = true := rfl
  obtain ⟨⟨result, s⟩, ran, limit⟩ := (Option.any_eq_true _ _).mp ends
  have ended : result = .error .capture_limit := by
    unfold for_its_limit at limit
    dsimp only at limit
    split at limit
    · rfl
    · cases limit
  subst ended
  refine ⟨rfl, s, ran, ?_⟩
  exact (selections_are_accounted single_capture padded_host () panicking_schedule 3 _ s
    ran).2.2.2.2.2 rfl

end Captastic.Analysis
