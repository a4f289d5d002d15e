import Captastic.Model.SelectionWorker

/-!
# The capture worker beside the selection worker

The selection worker's thread and the queues between it and the capture worker, as the world of a
capture worker's host (`side_host`).  Before every call that the capture worker makes, the other
threads have taken the turns that the schedule has for them; whether a queue takes what it is
offered is the schedule's or the other host's answer, so a queue may be full or disconnected at any
moment and any notice may be lost.
-/

set_option autoImplicit false

namespace Captastic.Model

open Captastic.Library

/-! ## Reporting the end of an attempt -/

/-- SRC: selection.rs:108-112 -/
structure AttemptCompletion where
  capture_id : CaptureId
  report : Bool
deriving DecidableEq, Repr

namespace AttemptCompletion

/-- SRC: selection.rs:115-124 -/
def new (capture_id : CaptureId) : AttemptCompletion := ⟨capture_id, true⟩

/-- SRC: selection.rs:126-128 -/
def silenced (attempt : AttemptCompletion) : AttemptCompletion := { attempt with report := false }

/-- What `Drop` sends, where the queue takes it.
SRC: selection.rs:131-144 -/
def dropped (attempt : AttemptCompletion) (accepted : Bool) : List CaptureCommand :=
  if attempt.report && accepted then [.SelectionFinished attempt.capture_id] else []

end AttemptCompletion

/-! ## The thread -/

/-- Where the selection worker's thread is: waiting for a job, working on one, about to drop the
completion of one, also when it unwinds from a panic, or gone with its end of the queue. -/
inductive SelectionThread where
  | waiting
  | working (job : SelectionJob) (attempt : AttemptCompletion)
  | dropping (attempt : AttemptCompletion) (unwinding : Bool)
  | gone

/-- A turn of another thread.  Triggers, frames of a recording and the shutdown come from the
threads that the selection worker is not part of. -/
inductive Turn where
  | trigger (trigger : TriggerEvent)
  | record_frame (request : RecordFrameRequest)
  | shutdown
  | receive
  | work (answers : SelectionAnswers)
  | panic
  | drop (accepted : Bool)
  | stop

/-- The queues, the selection worker's thread, the turns to come, and the rest of the world. -/
structure SideWorld (V : Type) where
  rest : V
  jobs : List SelectionJob
  commands : List CaptureCommand
  thread : SelectionThread
  schedule : List (List Turn)

namespace SideWorld

variable {V : Type}

def sent (w : SideWorld V) (commands : List CaptureCommand) : SideWorld V :=
  { w with commands := w.commands ++ commands }

def queue (w : SideWorld V) (job : SelectionJob) : SideWorld V := { w with jobs := w.jobs ++ [job] }

def with_commands (w : SideWorld V) (commands : List CaptureCommand) : SideWorld V :=
  { w with commands }

/-- The worker is done with its job; a live selection it has handed back is on its way.
SRC: selection.rs:262-746 -/
def worked (w : SideWorld V) (attempt : AttemptCompletion) : SelectionEnd → SideWorld V
  | .handed_back request =>
    { w.sent [.LiveSelection request] with thread := .dropping attempt.silenced false }
  | .stopped_in_a_crop => { w with thread := .dropping attempt true }
  | _ => { w with thread := .dropping attempt false }

/-- One turn; a turn that its thread cannot take now changes nothing. -/
def turn (w : SideWorld V) : Turn → SideWorld V
  | .trigger trigger => w.sent [.Trigger trigger]
  | .record_frame request => w.sent [.RecordFrame request]
  | .shutdown => w.sent [.Shutdown]
  | .receive =>
    match w.thread, w.jobs with
    | .waiting, job :: jobs => { w with jobs, thread := .working job (.new job.capture_id) }
    | _, _ => w
  | .work answers =>
    match w.thread with
    | .working job attempt => w.worked attempt (job.run answers)
    | _ => w
  | .panic =>
    match w.thread with
    | .working _ attempt => { w with thread := .dropping attempt true }
    | _ => w
  | .drop accepted =>
    match w.thread with
    | .dropping attempt unwinding =>
      if unwinding then
        { w.sent (attempt.dropped accepted) with thread := .gone, jobs := [] }
      else { w.sent (attempt.dropped accepted) with thread := .waiting }
    | _ => w
  | .stop =>
    match w.thread with
    | .waiting => { w with thread := .gone, jobs := [] }
    | _ => w

/-- The turns that the other threads have before the next call. -/
def take_turns (w : SideWorld V) : SideWorld V :=
  w.schedule.headD [] |>.foldl turn { w with schedule := w.schedule.tail }

/-- A job is offered to the selection worker's queue, which takes none once it is gone. -/
def submit (w : SideWorld V) (job : SelectionJob) (answer : Except SubmitError Unit) :
    Except SubmitError Unit × SideWorld V :=
  match answer, w.thread with
  | .ok _, .gone => (.error .Disconnected, w)
  | .ok _, _ => (.ok (), w.queue job)
  | .error reason, _ => (.error reason, w)

end SideWorld

/-! ## The host -/

section Hosts

variable {B V α : Type}

/-- A call that has nothing to do with the queues. -/
def aside (call : V → α × V) (w : SideWorld V) : α × SideWorld V :=
  let w := w.take_turns
  let (answer, rest) := call w.rest
  (answer, { w with rest })

/-- The capture worker's host, whose queues are those of the selection worker. -/
def side_host (rest : Host B V) : Host B (SideWorld V) where
  ready := aside rest.ready
  stop_requested := aside rest.stop_requested
  now := aside rest.now
  capture_source_wait := aside rest.capture_source_wait
  create_backend := aside rest.create_backend
  wait_for_backoff := fun delay => aside (rest.wait_for_backoff delay)
  recv := fun w =>
    let w := w.take_turns
    match w.commands with
    | command :: commands => some (some command, w.with_commands commands)
    | [] => (rest.recv w.rest).map fun (_, rest) => (none, { w with rest })
  recv_timeout := fun wait w =>
    let w := w.take_turns
    match w.commands with
    | command :: commands => (.ok command, w.with_commands commands)
    | [] =>
      let (answer, rest) := rest.recv_timeout wait w.rest
      (match answer with
        | .ok _ => .error .Timeout
        | .error reason => .error reason, { w with rest })
  recording_active := aside rest.recording_active
  validate_display_configuration := fun backend =>
    aside (rest.validate_display_configuration backend)
  resolve_capture_source := fun backend => aside (rest.resolve_capture_source backend)
  capture := fun backend request recorder => aside (rest.capture backend request recorder)
  reply := fun result w => (aside (fun rest' => ((), rest.reply result rest')) w).2
  notify := fun notice w => (aside (fun rest' => ((), rest.notify notice rest')) w).2
  confirmed_region := fun id => aside (rest.confirmed_region id)
  gpu := aside rest.gpu
  try_submit := fun job w =>
    let (answer, w) := aside (rest.try_submit job) w
    w.submit job answer
  destinations := aside rest.destinations
  offer := fun sink job => aside (rest.offer sink job)

end Hosts

/-- Nothing queued and nothing in hand. -/
def SideWorld.initial {V : Type} (rest : V) (schedule : List (List Turn)) : SideWorld V :=
  ⟨rest, [], [], .waiting, schedule⟩

end Captastic.Model
