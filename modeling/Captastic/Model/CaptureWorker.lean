import Captastic.Model.Dispatch

/-!
# The capture worker

`run_capture_worker` of `captastic-app/src/daemon.rs`, with the seam through which a step that
loses the capture engine rebuilds it and is tried again.

The worker's loop is one definition an iteration, made of one definition for each command.  The
seam is recursive on the rebuilds that are left; what the closures of its callers keep between
two tries is threaded through it.
-/

set_option autoImplicit false

namespace Captastic.Model

open Captastic.Library

variable {B W T R S : Type}

/-! ## Errors of a capture -/

/-- SRC: error.rs:86-95 -/
def CaptureError.synthetic (message : String) : CaptureError :=
  ⟨.NativeFailure, "fake", "capture", message, false, none⟩

/-- `{kind:?}` -/
def CaptureErrorKind.debug : CaptureErrorKind → String
  | .Unsupported => "Unsupported"
  | .PermissionDenied => "PermissionDenied"
  | .SourceUnavailable => "SourceUnavailable"
  | .DesktopUnavailable => "DesktopUnavailable"
  | .Timeout => "Timeout"
  | .AccessLost => "AccessLost"
  | .DeviceRemoved => "DeviceRemoved"
  | .TopologyChanged => "TopologyChanged"
  | .BufferExhausted => "BufferExhausted"
  | .WorkersExhausted => "WorkersExhausted"
  | .PointerOutsideDisplays => "PointerOutsideDisplays"
  | .InvalidFrame => "InvalidFrame"
  | .NativeFailure => "NativeFailure"
  | .ShuttingDown => "ShuttingDown"

/-- SRC: error.rs:66 -/
def CaptureError.to_string (error : CaptureError) : String :=
  let kind := error.kind.debug
  s!"{kind} in {error.backend}/{error.operation}: {error.message}"

/-- SRC: error.rs:58 -/
def DISPLAY_BINDING_REFUSED : String := "capture_display_binding"

/-- SRC: error.rs:63 -/
def DISPLAY_NOT_ATTACHED : String := "resolve_display"

/-- SRC: daemon.rs:2580-2591 -/
def confirmation_failure_is_a_display_change (error : CaptureError) : Bool :=
  match error.kind with
  | .TopologyChanged => true
  | .SourceUnavailable =>
    error.operation = DISPLAY_BINDING_REFUSED || error.operation = DISPLAY_NOT_ATTACHED
  | _ => false

/-- SRC: daemon.rs:2622-2624 -/
def capture_failure_denies_an_overlay (error : CaptureError) : Bool :=
  error.kind == .BufferExhausted

/-- SRC: daemon.rs:2597-2598 -/
def DISPLAY_LAYOUT_CHANGED_REASON : String :=
  "the display layout changed after the selection was made"

/-- SRC: daemon.rs:2604-2605 -/
def ENGINE_NOT_REBUILT_FOR_LAYOUT_REASON : String :=
  "the capture engine could not be rebuilt for the current display layout"

/-- SRC: daemon.rs:2614-2615 -/
def CAPTURE_BUFFERS_EXHAUSTED_REASON : String :=
  "the capture engine had no free frame buffer; close any open selection and try again"

/-- What the user is told of a confirmation that failed, if anything.
SRC: daemon.rs:891-911 -/
def lost_confirmation_reason (error : CaptureError) : Option String :=
  if confirmation_failure_is_a_display_change error then some DISPLAY_LAYOUT_CHANGED_REASON
  else if capture_failure_denies_an_overlay error then some CAPTURE_BUFFERS_EXHAUSTED_REASON
  else none

/-- `{:+}` -/
def signed (v : Int) : String := if 0 ≤ v then s!"+{v}" else s!"{v}"

/-- A capture's display, bounds and rotation in words. -/
def FrameMetadata.covered (metadata : FrameMetadata) : String :=
  let id := metadata.display_id
  let width := metadata.source_rect.width
  let height := metadata.source_rect.height
  let x := signed metadata.source_rect.x
  let y := signed metadata.source_rect.y
  let degrees := metadata.rotation_degrees
  s!"{id} at {width}x{height}{x}{y} rotated {degrees}°"

/-- SRC: daemon.rs:2531-2554 -/
def confirmation_geometry_mismatch (overlay captured : FrameMetadata) : Option String :=
  if overlay.source_rect = captured.source_rect ∧
      overlay.rotation_degrees = captured.rotation_degrees then none
  else
    let before := overlay.covered
    let after := captured.covered
    some s!"the display layout changed between the selection and its capture: the overlay covered {before}, but the capture describes {after}"

/-! ## The recovery seam -/

/-- What a guarded step returns: its last result, what its closure returns beside it and keeps,
the rebuilds, and the error of a rebuild that failed. -/
structure GuardedResult (T R S : Type) where
  result : Except CaptureError T
  recorder : R
  captured : S
  recovery_attempts : Nat
  reinitialize_error : Option AppError

/-- One try, with the engine there is.
SRC: daemon.rs:2451-2454 -/
def one_try (attempt_capture : B → S → W → (Except CaptureError T × R × S × B) × W)
    (captured : S) : Serving B W (Except CaptureError T × R × S) := do
  let worker ← Session.read
  match worker.backend with
  | none => end_worker (.expect_failed .backend_outside_recovery)
  | some active_backend => do
    let tried ← host_call (attempt_capture active_backend captured)
    assign fun worker => { worker with backend := some tried.2.2.2 }
    pure (tried.1, tried.2.1, tried.2.2.1)

/-- The engine is dropped and built again; an error says that the step ends here, with the error
of the rebuild if there was one.
SRC: daemon.rs:2462-2485 -/
def rebuild_for_retry (host : Host B W) (recovery_attempts : Nat) :
    Serving B W (Except (Option AppError) Unit) := do
  assign fun worker => { worker with backend := none }
  let waited ← host_call (host.wait_for_backoff (recovery_delay recovery_attempts))
  match waited with
  | .Stopping => pure (.error none)
  | .Elapsed => do
    note .rebuilt
    let rebuilt ← host_call host.create_backend
    match rebuilt with
    | .error reinitialize_error => pure (.error (some reinitialize_error))
    | .ok replacement => do
      assign fun worker => { worker with backend := some replacement }
      pure (.ok ())

/-- The seam, with `retries_left` rebuilds left.
SRC: daemon.rs:2442-2486 -/
def guarded_tries (host : Host B W)
    (attempt_capture : B → S → W → (Except CaptureError T × R × S × B) × W) :
    Nat → S → Serving B W (GuardedResult T R S)
  | 0, captured => do
    let (capture_result, recorder, captured) ← one_try attempt_capture captured
    pure ⟨capture_result, recorder, captured, CAPTURE_RECOVERY_RETRIES, none⟩
  | retries_left + 1, captured => do
    let (capture_result, recorder, captured) ← one_try attempt_capture captured
    let recovery_attempts := CAPTURE_RECOVERY_RETRIES - (retries_left + 1)
    match capture_result with
    | .ok value => pure ⟨.ok value, recorder, captured, recovery_attempts, none⟩
    | .error error =>
      if requires_backend_recovery error then do
        let recovery_attempts := recovery_attempts + 1
        let rebuilt ← rebuild_for_retry host recovery_attempts
        match rebuilt with
        | .ok _ => guarded_tries host attempt_capture retries_left captured
        | .error reinitialize_error =>
          pure ⟨.error error, recorder, captured, recovery_attempts, reinitialize_error⟩
      else pure ⟨.error error, recorder, captured, recovery_attempts, none⟩

/-- Keeps the error that a step was left with. -/
def note_failure {V : Type} : Except CaptureError V → Serving B W Unit
  | .error error => assign fun worker => { worker with unserved := some error }
  | .ok _ => pure ()

/-- SRC: daemon.rs:2442-2486 -/
def capture_with_backend_recovery (host : Host B W)
    (attempt_capture : B → S → W → (Except CaptureError T × R × S × B) × W) (captured : S) :
    Serving B W (GuardedResult T R S) := do
  note .guarded
  let guarded ← guarded_tries host attempt_capture CAPTURE_RECOVERY_RETRIES captured
  note_failure guarded.result
  pure guarded

/-- SRC: daemon.rs:2501-2515 -/
def ensure_current_display_configuration (host : Host B W) :
    Serving B W (GuardedResult Unit Unit Unit) :=
  capture_with_backend_recovery host (fun backend _ world =>
    let (validation, world) := host.validate_display_configuration backend world
    ((validation, (), (), backend), world)) ()

/-! ## Recovery between commands -/

/-- The notice of a selection that is lost, where there is a reason to name. -/
def notify_dropped (host : Host B W) (capture_id : CaptureId) : Option String → Serving B W Unit
  | some reason => notify host (.DroppedSelection capture_id reason)
  | none => pure ()

/-- Schedules recovery after a guarded step whose last rebuild failed.
SRC: daemon.rs:586-595, 663-672, 848-857 -/
def schedule_after_rebuild (host : Host B W) (recovery_attempts : Nat) :
    Option AppError → Serving B W Unit
  | none => pure ()
  | some reinitialize_error => do
    let now ← host_call host.now
    assign fun worker => { worker with
      recovery := some (.after_failure recovery_attempts (waiting_for_desktop reinitialize_error)
        now) }

/-- Drops the engine for an error it is rebuilt after, unless recovery is scheduled already.
SRC: daemon.rs:520-525, 597-600, 774-777, 887-890 -/
def schedule_if_lost (host : Host B W) (error : CaptureError) : Serving B W Unit := do
  let worker ← Session.read
  if requires_backend_recovery error && worker.recovery.isNone then do
    let now ← host_call host.now
    assign fun worker => { worker with backend := none, recovery := some (.immediate now) }
  else pure ()

/-- Tells the user what has become of the engine. -/
def tell (host : Host B W) (notice : DaemonNotice) : Serving B W Unit := do
  note (.told notice)
  notify host notice

/-- What a timed retry does with a rebuild that failed.
SRC: daemon.rs:433-464 -/
def retry_failed (host : Host B W) (state : BackendRecovery) (error : AppError) :
    Serving B W Unit := do
  let waiting := waiting_for_desktop error
  let failed_attempts := saturating_add_u32 state.failed_attempts 1
  let now ← host_call host.now
  assign fun worker => { worker with
    recovery := some { state with
      failed_attempts
      waiting_for_desktop := waiting
      next_attempt := now + BackendRecovery.delay failed_attempts waiting } }
  let worker ← Session.read
  if !waiting && backend_outage_needs_notice failed_attempts worker.recovery_notified then do
    assign fun worker => { worker with recovery_notified := true }
    tell host .CaptureEngineUnavailable
  else pure ()

/-- SRC: daemon.rs:410-465 -/
def rebuild (host : Host B W) : Serving B W Unit := do
  assign fun worker => { worker with backend := none }
  let built ← host_call host.create_backend
  let worker ← Session.read
  match built with
  | .ok replacement => do
    assign fun worker => { worker with
      backend := some replacement, recovery := none, recovery_notified := false }
    if worker.recovery_notified then tell host .CaptureEngineRecovered else pure ()
  | .error error =>
    match worker.recovery with
    | none => end_worker (.expect_failed .recovery_while_retrying)
    | some state => retry_failed host state error

/-- One question of a wait for something to capture.
SRC: daemon.rs:394-410 -/
def poll_source (host : Host B W) (state : BackendRecovery) : Serving B W Unit := do
  let wait ← host_call host.capture_source_wait
  let now ← host_call host.now
  let state := { state with wait := state.wait.record wait now }
  assign fun worker => { worker with recovery := some state }
  match wait with
  | .Ready => rebuild host
  | .Session | .Displays => do
    let now ← host_call host.now
    assign fun worker => { worker with
      recovery := some { state with next_attempt := now + wait.poll_interval } }

/-- SRC: daemon.rs:381-467 -/
def retry_backend (host : Host B W) : Serving B W Unit := do
  let worker ← Session.read
  match worker.recovery with
  | none => pure ()
  | some state => do
    let now ← host_call host.now
    if state.next_attempt ≤ now then
      if state.waiting_for_desktop then poll_source host state else rebuild host
    else pure ()

/-! ## Commands -/

/-- `command_receiver.recv()` -/
def recv_call (host : Host B W) : Serving B W (Option CaptureCommand) := fun worker =>
  (host.recv worker.world).map fun (received, world) => (.ok received, { worker with world })

/-- The next command; none when it is time for the next attempt first.
SRC: daemon.rs:469-482 -/
def next_command (host : Host B W) : Serving B W (Option CaptureCommand) := do
  let worker ← Session.read
  match worker.recovery with
  | some state => do
    let now ← host_call host.now
    let received ← host_call (host.recv_timeout (state.next_attempt - now))
    match received with
    | .ok command => pure (some command)
    | .error .Timeout => pure none
    | .error .Disconnected => end_worker .disconnected
  | none => do
    let received ← recv_call host
    match received with
    | some command => pure (some command)
    | none => end_worker .disconnected

/-- SRC: daemon.rs:2722-2724 -/
def capture_budget_exhausted (max_captures : Option Nat) (attempts : Nat) : Bool :=
  match max_captures with
  | some maximum => decide (maximum ≤ attempts)
  | none => false

/-- SRC: daemon.rs:2711-2717 -/
def capture_limit_reached (max_captures : Option Nat) (attempts selections_in_flight : Nat) :
    Bool :=
  selections_in_flight = 0 && capture_budget_exhausted max_captures attempts

def count_in (capture_id : CaptureId) : Serving B W Unit := do
  note (.counted_in capture_id)
  assign fun worker => { worker with selections_in_flight := worker.selections_in_flight + 1 }

def count_out (capture_id : CaptureId) : Serving B W Unit := do
  note (.counted_out capture_id)
  assign fun worker => { worker with selections_in_flight := worker.selections_in_flight - 1 }

/-- `if let Err(error) = &result { .. }` -/
def schedule_after (host : Host B W) : Except CaptureError CpuFrame → Serving B W Unit
  | .error error => schedule_if_lost host error
  | .ok _ => pure ()

/-- SRC: daemon.rs:519-526 -/
def answer_frame (host : Host B W) (result : Except CaptureError CpuFrame) :
    Serving B W Unit := do
  note_failure result
  schedule_after host result
  host_call fun world => ((), host.reply result world)

/-- SRC: daemon.rs:490-526 -/
def record_frame (context : CaptureWorkerContext) (host : Host B W)
    (request : RecordFrameRequest) : Serving B W Unit := do
  let worker ← Session.read
  match worker.backend with
  | none => answer_frame host (.error (.synthetic "the capture engine is recovering"))
  | some active_backend => do
    assign fun worker => { worker with next_capture_id := worker.next_capture_id + 1 }
    let capture_request :=
      { id := worker.next_capture_id
        source := request.source
        mode := .Latest none
        cpu_frame := true
        retain_native_frame := false
        cursor := context.cursor }
    let (captured, _, active_backend) ←
      host_call (host.capture active_backend capture_request (.with_capacity 16))
    assign fun worker => { worker with backend := some active_backend }
    answer_frame host (captured.bind fun outcome =>
      match outcome.frame with
      | some frame => .ok frame
      | none => .error (.synthetic "the capture engine returned no frame"))

/-! ## A trigger -/

/-- One try of a trigger's capture, with a recorder of its own.
SRC: daemon.rs:623-648 -/
def trigger_attempt (context : CaptureWorkerContext) (host : Host B W) (capture_id : CaptureId)
    (trigger : TriggerEvent) (backend : B) (world : W) :
    (Except CaptureError CaptureOutcome × EventRecorder × Unit × B) × W :=
  let recorder := trigger_recorder capture_id
  let (source, world) := host.resolve_capture_source backend world
  match source with
  | .error error => ((.error error, recorder, (), backend), world)
  | .ok source =>
    let request :=
      { id := capture_id
        source
        mode := context.mode
        cpu_frame := context.cpu_frame
        retain_native_frame := context.selection_enabled && trigger.action != .FullDisplay
        cursor := context.cursor }
    let ((result, recorder, backend), world) := host.capture backend request recorder world
    ((result, recorder, (), backend), world)

/-- SRC: daemon.rs:678-745 -/
def deliver_capture (context : CaptureWorkerContext) (host : Host B W) (capture_id : CaptureId)
    (trigger : TriggerEvent) (outcome : CaptureOutcome) (recorder : EventRecorder) :
    Serving B W Unit := do
  let sinks ← host_call host.destinations
  let status ← dispatch_output context host sinks
    { capture_id
      triggered_at := trigger.received_at
      source := trigger.source
      action := trigger.action
      metadata := outcome.metadata
      frame := outcome.frame
      native_frame := outcome.native_frame
      recorder }
  match output_status_or_fatal status with
  | .error error => end_worker (.fatal error)
  | .ok status => if queued_to_selection_worker status then count_in capture_id else pure ()

/-- SRC: daemon.rs:746-778 -/
def capture_failed (context : CaptureWorkerContext) (host : Host B W) (capture_id : CaptureId)
    (trigger : TriggerEvent) (error : CaptureError) (recorder : EventRecorder) :
    Serving B W Unit := do
  let _ ← close_attempt (recorder.finish capture_id)
  notify_dropped host capture_id
    (if capture_failure_denies_an_overlay error &&
        trigger_may_open_an_overlay context.selection_enabled trigger.action then
      some CAPTURE_BUFFERS_EXHAUSTED_REASON
    else none)
  schedule_if_lost host error

/-- SRC: daemon.rs:620-779 -/
def take_capture (context : CaptureWorkerContext) (host : Host B W) (capture_id : CaptureId)
    (trigger : TriggerEvent) : Serving B W Unit := do
  let captured ← capture_with_backend_recovery host
    (fun backend _ => trigger_attempt context host capture_id trigger backend) ()
  schedule_after_rebuild host captured.recovery_attempts captured.reinitialize_error
  match captured.result with
  | .ok outcome => deliver_capture context host capture_id trigger outcome captured.recorder
  | .error error => capture_failed context host capture_id trigger error captured.recorder

/-- The guard of a trigger that may open an overlay.
SRC: daemon.rs:567-618 -/
def check_displays_then_capture (context : CaptureWorkerContext) (host : Host B W)
    (capture_id : CaptureId) (trigger : TriggerEvent) : Serving B W Unit := do
  let validated ← ensure_current_display_configuration host
  schedule_after_rebuild host validated.recovery_attempts validated.reinitialize_error
  match validated.result with
  | .ok _ => take_capture context host capture_id trigger
  | .error error => do
    schedule_if_lost host error
    notify host (.DroppedSelection capture_id ENGINE_NOT_REBUILT_FOR_LAYOUT_REASON)

/-- SRC: daemon.rs:527-780 -/
def serve_trigger (context : CaptureWorkerContext) (host : Host B W) (trigger : TriggerEvent) :
    Serving B W Unit := do
  let worker ← Session.read
  if capture_budget_exhausted context.max_captures worker.attempts then pure ()
  else do
    assign fun worker => { worker with
      attempts := worker.attempts + 1, next_capture_id := worker.next_capture_id + 1 }
    if worker.backend.isNone then pure ()
    else if trigger_may_open_an_overlay context.selection_enabled trigger.action then
      check_displays_then_capture context host worker.next_capture_id trigger
    else take_capture context host worker.next_capture_id trigger

/-! ## A live selection -/

/-- SRC: daemon.rs:3338-3356 -/
def report_dropped_selection (host : Host B W) (job : SelectionJob) (reason : String) :
    Serving B W Unit := do
  let _ ← close_attempt job.finish_rejected
  notify host (.DroppedSelection job.capture_id reason)

/-- Hands a job back to the selection worker; where it is not taken, the attempt ends here.
SRC: daemon.rs:797-813, 906-921 -/
def resume (context : CaptureWorkerContext) (host : Host B W) (job : SelectionJob)
    (reason : String) : Serving B W Unit :=
  if context.has_selection_sender then do
    let submitted ← host_call (host.try_submit job)
    match submitted with
    | .ok _ => pure ()
    | .error _ => do
      count_out job.capture_id
      report_dropped_selection host job reason
  else end_worker (.expect_failed .selection_worker)

/-- SRC: display.rs:14-16 -/
def VIRTUAL_DESKTOP_ID : String := "virtual_desktop"

/-- One try of a confirmation's capture, into the recorder of its job.
SRC: daemon.rs:815-836 -/
def confirmation_attempt (context : CaptureWorkerContext) (host : Host B W)
    (request : LiveSelectionRequest) (backend : B) (recorder : EventRecorder) (world : W) :
    (Except CaptureError CaptureOutcome × Unit × EventRecorder × B) × W :=
  let display_id := request.job.metadata.display_id
  let capture_request :=
    { id := request.job.capture_id
      source := if display_id = VIRTUAL_DESKTOP_ID then .VirtualDesktop else .Display display_id
      mode := context.mode
      cpu_frame := true
      retain_native_frame := request.selection.kind == .Region
      cursor := .Exclude }
  let ((result, recorder, backend), world) := host.capture backend capture_request recorder world
  ((result, (), recorder, backend), world)

/-- The job of a selection whose confirmation was captured.
SRC: daemon.rs:872-885 -/
def SelectionJob.confirmed (job : SelectionJob) (cursor : CursorMode) (selection : OverlaySelection)
    (outcome : CaptureOutcome) (now : Nat) : SelectionJob :=
  { job with
    cpu_ready_offset_ns := some (now - job.triggered_at)
    metadata := { outcome.metadata with
      cursor := match cursor with
        | .Include => some (.Absent .SuppressedForSelection)
        | .Exclude => outcome.metadata.cursor }
    frame := outcome.frame
    native_frame := outcome.native_frame
    confirmed_selection := some selection }

/-- The job of a selection whose confirmation failed. -/
def SelectionJob.failed (job : SelectionJob) (selection : OverlaySelection) (error : String) :
    SelectionJob :=
  { job with terminal_error := some error, confirmed_selection := some selection }

def RECOVERING_AFTER_CONFIRMATION : String :=
  "capture engine is recovering after live selection confirmation"

def NOT_QUEUED_WHILE_RECOVERING : String :=
  "its confirmed selection could not be queued while the capture engine was recovering"

def NOT_RESUMED : String := "it could not resume after its confirmation capture"

/-- SRC: daemon.rs:857-921 -/
def resume_confirmed (context : CaptureWorkerContext) (host : Host B W) (job : SelectionJob)
    (selection : OverlaySelection) : Except CaptureError CaptureOutcome → Serving B W Unit
  | .ok outcome =>
    match confirmation_geometry_mismatch job.metadata outcome.metadata with
    | some mismatch => do
      notify host (.DroppedSelection job.capture_id DISPLAY_LAYOUT_CHANGED_REASON)
      resume context host (job.failed selection mismatch) NOT_RESUMED
    | none => do
      let now ← host_call host.now
      resume context host (job.confirmed context.cursor selection outcome now) NOT_RESUMED
  | .error error => do
    schedule_if_lost host error
    notify_dropped host job.capture_id (lost_confirmation_reason error)
    resume context host (job.failed selection error.to_string) NOT_RESUMED

/-- SRC: daemon.rs:781-922 -/
def serve_live_selection (context : CaptureWorkerContext) (host : Host B W)
    (request : LiveSelectionRequest) : Serving B W Unit := do
  let worker ← Session.read
  if worker.backend.isNone then
    resume context host (request.job.failed request.selection RECOVERING_AFTER_CONFIRMATION)
      NOT_QUEUED_WHILE_RECOVERING
  else do
    let captured ← capture_with_backend_recovery host (confirmation_attempt context host request)
      request.job.recorder
    schedule_after_rebuild host captured.recovery_attempts captured.reinitialize_error
    resume_confirmed context host { request.job with recorder := captured.captured }
      request.selection captured.result

/-! ## The loop -/

/-- SRC: daemon.rs:483-940 -/
def serve (context : CaptureWorkerContext) (host : Host B W) :
    CaptureCommand → Serving B W Unit
  | .Trigger trigger => do
    let recording ← host_call host.recording_active
    if recording then notify host .RecordingInProgress else serve_trigger context host trigger
  | .RecordFrame request => record_frame context host request
  | .LiveSelection request => serve_live_selection context host request
  | .SelectionFinished capture_id => count_out capture_id
  | .Shutdown => end_worker .shutdown

/-- SRC: daemon.rs:359-380 -/
def check_end (context : CaptureWorkerContext) (host : Host B W) : Serving B W Unit := do
  assign fun worker => { worker with unserved := none }
  let stop ← host_call host.stop_requested
  let worker ← Session.read
  if stop then end_worker .stop_requested
  else if capture_limit_reached context.max_captures worker.attempts
      worker.selections_in_flight then
    end_worker .capture_limit
  else pure ()

/-- From the top of the loop to its next top.
SRC: daemon.rs:358-940 -/
def iteration (context : CaptureWorkerContext) (host : Host B W) : Serving B W Unit := do
  check_end context host
  retry_backend host
  let command ← next_command host
  match command with
  | some command => serve context host command
  | none => pure ()

def iterations (context : CaptureWorkerContext) (host : Host B W) : Nat → Serving B W Unit
  | 0 => pure ()
  | n + 1 => do
    iterations context host n
    iteration context host

/-- The worker at the first top of its loop; none when it ends before that.
SRC: daemon.rs:323-357 -/
def start_capture_worker (host : Host B W) (world : W) : Option (CaptureWorker B W) :=
  let (built, world) := host.create_backend world
  let (now, world) := host.now world
  let engine := match built with
    | .ok backend => some (some backend, none)
    | .error error =>
      if waiting_for_desktop error then some (none, some (BackendRecovery.after_failure 0 true now))
      else none
  let (ready, world) := host.ready world
  match engine with
  | some (backend, recovery) =>
    if ready then some ⟨backend, recovery, 0, 0, 1, false, world, [], none⟩ else none
  | none => none

/-- The worker after `n` rounds of its loop: at its next top, or where it ended on the way. -/
def run_capture_worker (context : CaptureWorkerContext) (host : Host B W) (world : W) (n : Nat) :
    Option (Except WorkerEnd Unit × CaptureWorker B W) :=
  (start_capture_worker host world).bind (iterations context host n)

end Captastic.Model
