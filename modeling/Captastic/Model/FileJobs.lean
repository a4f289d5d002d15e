import Mathlib.Tactic.Common

/-!
# The file destination's queue

`captastic-app/src/file_output.rs`, with the sink of `output.rs` and the totals of
`output_metrics.rs`: captures are submitted to a bounded channel from any number of sinks, and
the worker's thread takes them one by one, encodes and writes each, and counts what became of
it.  When it is told to stop it counts what is still queued as abandoned, hands its totals back
and ends, and with its thread the channel's receiver goes.

The sinks submit between any two calls of the worker's thread, so each of its calls is a step.
How a job is encoded and written is not part of it: a write succeeds, fails or panics.  What
follows a count (the log, the history, the messages to the daemon) is taken not to panic.
-/

set_option autoImplicit false

namespace Captastic.Model

/-- What became of a job. -/
inductive JobEnd where
  | Written
  | Failed
  | Abandoned
deriving DecidableEq, Repr

/-- SRC: output_metrics.rs:19-30 -/
structure OutputMetrics where
  written : Nat
  failed : Nat
  abandoned : Nat
deriving DecidableEq, Repr

/-- SRC: output_metrics.rs:46-63 -/
def OutputMetrics.record (metrics : OutputMetrics) : JobEnd → OutputMetrics
  | .Written => { metrics with written := metrics.written + 1 }
  | .Failed => { metrics with failed := metrics.failed + 1 }
  | .Abandoned => { metrics with abandoned := metrics.abandoned + 1 }

/-- Where the worker's thread is.  From `drained` to `exits` it takes no more jobs and its
receiver is still there; its closure drops the receiver last.
SRC: file_output.rs:145-237 -/
inductive FileStage (J : Type) where
  | polls
  | receives
  | writes (job : J)
  | drains
  | drained
  | finishes
  | exits
  | gone
  | panicked

/-- The thread has looked into the queue for the last time, and the receiver is still there. -/
def FileStage.past_drain {J : Type} : FileStage J → Bool
  | .drained | .finishes | .exits => true
  | _ => false

/-- The receiver has been dropped. -/
def FileStage.dropped {J : Type} : FileStage J → Bool
  | .gone | .panicked => true
  | _ => false

/-- The job the thread has taken and not yet counted. -/
def FileStage.in_hand {J : Type} : FileStage J → List J
  | .writes job => [job]
  | _ => []

/-- A step of a sink, of the side that stops the worker, or of the worker's thread. -/
inductive FileEvent (J : Type) where
  | clones
  | releases
  | submits (job : J)
  | request_stop
  | polls
  | receives
  | writes (written : Bool)
  | panics
  | drains
  | reports
  | finishes
  | exits

/-- The channel, the stop flag, the thread with its totals, and the jobs: those that a submit
took, those counted with what became of them, and those the receiver was dropped with. -/
structure FileOutput (J : Type) where
  capacity : Nat
  queue : List J
  stop_requested : Bool
  own_sender : Bool
  sinks : Nat
  stage : FileStage J
  metrics : OutputMetrics
  summary : Option OutputMetrics
  accepted : List J
  handled : List (J × JobEnd)
  lost : List J

namespace FileOutput

variable {J : Type}

/-- A worker that has just been started, with its one sink.
SRC: file_output.rs:132-148, 239-262 -/
def start (capacity : Nat) : FileOutput J where
  capacity := capacity
  queue := []
  stop_requested := false
  own_sender := true
  sinks := 1
  stage := .polls
  metrics := ⟨0, 0, 0⟩
  summary := none
  accepted := []
  handled := []
  lost := []

variable (s : FileOutput J)

/-- `SyncSender::try_send` takes the job.
SRC: output.rs:103-108 -/
def takes : Bool := !s.stage.dropped && decide (s.queue.length < s.capacity)

/-- The job is counted, and the thread goes on. -/
def counts (job : J) (ended : JobEnd) (stage : FileStage J) : FileOutput J :=
  { s with stage, metrics := s.metrics.record ended, handled := s.handled ++ [(job, ended)] }

/-- One step; `none` where it cannot be taken.
SRC: file_output.rs:145-237, 293-296; output.rs:103-108 -/
def step : FileEvent J → Option (FileOutput J)
  | .clones => if 0 < s.sinks ∨ s.own_sender then some { s with sinks := s.sinks + 1 } else none
  | .releases => if 0 < s.sinks then some { s with sinks := s.sinks - 1 } else none
  | .submits job =>
    if 0 < s.sinks then
      if s.takes then some { s with queue := s.queue ++ [job], accepted := s.accepted ++ [job] }
      else some s
    else none
  | .request_stop => some { s with stop_requested := true, own_sender := false }
  | .polls =>
    match s.stage with
    | .polls => some { s with stage := if s.stop_requested then .drains else .receives }
    | _ => none
  | .receives =>
    match s.stage, s.queue with
    | .receives, job :: queue => some { s with queue, stage := .writes job }
    -- Nothing is queued: the channel is disconnected, or the wait times out.
    | .receives, [] =>
      some { s with stage := if s.sinks = 0 ∧ ¬ s.own_sender then .drains else .polls }
    | _, _ => none
  | .writes written =>
    match s.stage with
    | .writes job => some (s.counts job (if written then .Written else .Failed) .polls)
    | _ => none
  | .panics =>
    match s.stage with
    | .writes job => some { s with stage := .panicked, lost := job :: s.queue, queue := [] }
    | _ => none
  | .drains =>
    match s.stage, s.queue with
    | .drains, job :: queue => some ({ s with queue }.counts job .Abandoned .drains)
    | .drains, [] => some { s with stage := .drained }
    | _, _ => none
  | .reports =>
    match s.stage with
    | .drained => some { s with stage := .finishes, summary := some s.metrics }
    | _ => none
  | .finishes =>
    match s.stage with
    | .finishes => some { s with stage := .exits }
    | _ => none
  | .exits =>
    match s.stage with
    | .exits => some { s with stage := .gone, lost := s.queue, queue := [] }
    | _ => none

end FileOutput

end Captastic.Model
