import Captastic.Model.Attempts

/-!
# What the capture worker holds and what it calls

`captastic-app/src/daemon.rs`: the commands and notices of the capture worker, the recovery it
schedules when it loses its capture engine, the variables of `run_capture_worker`, and the
calls it makes.

The calls are a parameter, `Host`: the clock, the engine of type `B`, the queues, the other
threads and the desktop are functions of a world of type `W`, so that whatever they answer is
some host's answer.  Instants and delays are nanoseconds.  Counters that saturate at the end of a
64-bit range are natural numbers.
-/

set_option autoImplicit false

namespace Captastic.Model

open Captastic.Library

/-! ## Recovery -/

def CAPTURE_RECOVERY_RETRIES : Nat := 3

def BACKEND_OUTAGE_NOTICE_ATTEMPTS : Nat := 3

/-- SRC: daemon.rs:2234 -/
def DESKTOP_POLL_INTERVAL : Nat := 500000000

/-- SRC: daemon.rs:2243 -/
def DISPLAY_POLL_INTERVAL : Nat := 2000000000

/-- SRC: daemon.rs:2302 -/
def SOURCE_WAIT_REPORT_INTERVAL : Nat := 30000000000

/-- SRC: daemon.rs:2248-2255 -/
inductive CaptureSourceWait where
  | Session
  | Displays
  | Ready
deriving DecidableEq, Repr

namespace CaptureSourceWait

/-- SRC: daemon.rs:2277-2283 -/
def poll_interval : CaptureSourceWait → Nat
  | .Session => DESKTOP_POLL_INTERVAL
  | .Displays => DISPLAY_POLL_INTERVAL
  | .Ready => 0

/-- SRC: daemon.rs:2289-2291 -/
def walks_the_adapter_list : CaptureSourceWait → Bool
  | .Session => false
  | .Displays | .Ready => true

end CaptureSourceWait

/-- SRC: daemon.rs:2314-2319 -/
structure SourceWaitTally where
  since : Nat
  reported_at : Nat
  polls : Nat
  adapter_walks : Nat
deriving DecidableEq, Repr

namespace SourceWaitTally

/-- SRC: daemon.rs:2323-2330 -/
def started (now : Nat) : SourceWaitTally := ⟨now, now, 0, 0⟩

/-- SRC: daemon.rs:2333-2343 -/
def record (tally : SourceWaitTally) (wait : CaptureSourceWait) (now : Nat) : SourceWaitTally :=
  let counted := { tally with
    polls := saturating_add_u32 tally.polls 1
    adapter_walks :=
      if wait.walks_the_adapter_list then saturating_add_u32 tally.adapter_walks 1
      else tally.adapter_walks }
  if now - counted.reported_at < SOURCE_WAIT_REPORT_INTERVAL then counted
  else { counted with reported_at := now }

end SourceWaitTally

/-- The errors the engine is rebuilt after.
SRC: daemon.rs:2432-2439 -/
def requires_backend_recovery (error : CaptureError) : Bool :=
  match error.kind with
  | .AccessLost | .DeviceRemoved | .TopologyChanged => true
  | _ => false

/-- SRC: daemon.rs:2358-2363 -/
def waiting_for_desktop : AppError → Bool
  | .Capture error => error.kind == .DesktopUnavailable
  | _ => false

/-- SRC: daemon.rs:2418-2421 -/
def recovery_delay (failed_attempts : Nat) : Nat :=
  min (50000000 * 2 ^ min (failed_attempts - 1) 5) 2000000000

/-- SRC: daemon.rs:2427-2429 -/
def backend_outage_needs_notice (failed_attempts : Nat) (already_notified : Bool) : Bool :=
  !already_notified && decide (BACKEND_OUTAGE_NOTICE_ATTEMPTS ≤ failed_attempts)

/-- SRC: daemon.rs:2180-2194 -/
structure BackendRecovery where
  failed_attempts : Nat
  next_attempt : Nat
  waiting_for_desktop : Bool
  wait : SourceWaitTally
deriving DecidableEq, Repr

namespace BackendRecovery

/-- SRC: daemon.rs:2217-2223 -/
def delay (failed_attempts : Nat) (waiting_for_desktop : Bool) : Nat :=
  if waiting_for_desktop then DESKTOP_POLL_INTERVAL else recovery_delay failed_attempts

/-- SRC: daemon.rs:2198-2205 -/
def immediate (now : Nat) : BackendRecovery := ⟨0, now, false, .started now⟩

/-- SRC: daemon.rs:2208-2215 -/
def after_failure (failed_attempts : Nat) (waiting_for_desktop : Bool) (now : Nat) :
    BackendRecovery :=
  ⟨failed_attempts, now + delay failed_attempts waiting_for_desktop, waiting_for_desktop,
    .started now⟩

end BackendRecovery

/-- SRC: daemon.rs:2368-2371 -/
inductive BackoffOutcome where
  | Elapsed
  | Stopping
deriving DecidableEq, Repr

/-! ## Commands and notices -/

/-- SRC: daemon.rs:3208-3212 -/
structure RecordFrameRequest where
  source : CaptureSource

/-- SRC: daemon.rs:3194-3205 -/
inductive CaptureCommand where
  | Trigger (trigger : TriggerEvent)
  | LiveSelection (request : LiveSelectionRequest)
  | SelectionFinished (capture_id : CaptureId)
  | RecordFrame (request : RecordFrameRequest)
  | Shutdown

/-- The notices that the capture worker raises.
SRC: daemon.rs:3218-3255 -/
inductive DaemonNotice where
  | DroppedSelection (capture_id : CaptureId) (reason : String)
  | CaptureEngineUnavailable
  | CaptureEngineRecovered
  | RecordingInProgress
deriving DecidableEq, Repr

/-- `mpsc::RecvTimeoutError` -/
inductive RecvTimeoutError where
  | Timeout
  | Disconnected
deriving DecidableEq, Repr

/-! ## The worker -/

/-- SRC: daemon.rs:275-300 -/
structure CaptureWorkerContext where
  mode : CaptureMode
  cursor : CursorMode
  cpu_frame : Bool
  selection_enabled : Bool
  selection_preview : PreviewMode
  max_captures : Option Nat
  has_selection_sender : Bool

/-- The calls of the capture worker.  A queue that gives a job back gives back the job it was
offered; `recv` may wait for ever. -/
structure Host (B W : Type) where
  ready : W → Bool × W
  stop_requested : W → Bool × W
  now : W → Nat × W
  capture_source_wait : W → CaptureSourceWait × W
  create_backend : W → Except AppError B × W
  wait_for_backoff : Nat → W → BackoffOutcome × W
  recv : W → Option (Option CaptureCommand × W)
  recv_timeout : Nat → W → Except RecvTimeoutError CaptureCommand × W
  recording_active : W → Bool × W
  validate_display_configuration : B → W → Except CaptureError Unit × W
  resolve_capture_source : B → W → Except CaptureError CaptureSource × W
  capture : B → CaptureRequest → EventRecorder → W →
    (Except CaptureError CaptureOutcome × EventRecorder × B) × W
  reply : Except CaptureError CpuFrame → W → W
  notify : DaemonNotice → W → W
  confirmed_region : String → W → Option ConfirmedRegion × W
  gpu : W → Gpu × W
  try_submit : SelectionJob → W → Except SubmitError Unit × W
  destinations : W → List String × W
  offer : String → OutputJob → W → Except OutputRejection Unit × W

/-- What is noted of a run: the start of a step that may rebuild the engine, each of its
rebuilds, what the user is told of the engine, the traces that were closed, and the attempts
that were counted in and out.  Nothing reads the notes. -/
inductive Note where
  | guarded
  | rebuilt
  | told (notice : DaemonNotice)
  | closed (recorder : EventRecorder)
  | counted_in (capture_id : CaptureId)
  | counted_out (capture_id : CaptureId)

/-- The variables of `run_capture_worker`, the world, the notes, and the error that the command
at hand was left with.
SRC: daemon.rs:324-358 -/
structure CaptureWorker (B W : Type) where
  backend : Option B
  recovery : Option BackendRecovery
  attempts : Nat
  selections_in_flight : Nat
  next_capture_id : CaptureId
  recovery_notified : Bool
  world : W
  notes : List Note
  unserved : Option CaptureError

/-- What an `expect` of the worker expects. -/
inductive Expected where
  | backend_outside_recovery
  | recovery_while_retrying
  | selection_worker
deriving DecidableEq, Repr

/-- How the worker ends. -/
inductive WorkerEnd where
  | stop_requested
  | capture_limit
  | disconnected
  | shutdown
  | fatal (error : AppError)
  | expect_failed (expected : Expected)
  | stopped_in_a_crop

/-- A step of the capture worker, which may end it. -/
abbrev Serving (B W α : Type) : Type := Session (CaptureWorker B W) WorkerEnd α

variable {B W α : Type}

/-- A call of the host. -/
def host_call (call : W → α × W) : Serving B W α := fun worker =>
  let (answer, world) := call worker.world
  some (.ok answer, { worker with world })

/-- Changes the worker's variables. -/
def assign (change : CaptureWorker B W → CaptureWorker B W) : Serving B W Unit :=
  Session.update change

/-- Ends the worker. -/
def end_worker (ending : WorkerEnd) : Serving B W α := Session.lift (.error ending)

def note (what : Note) : Serving B W Unit :=
  assign fun worker => { worker with notes := worker.notes ++ [what] }

/-- `let _ = notices.try_send(notice)` -/
def notify (host : Host B W) (notice : DaemonNotice) : Serving B W Unit :=
  host_call fun world => ((), host.notify notice world)

end Captastic.Model
