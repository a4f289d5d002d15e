import Captastic.Model.CaptureHost

/-!
# Where a finished capture is sent

`captastic-app/src/daemon.rs` from `dispatch_output` on: to the selection worker when its
action opens an overlay, or else to every destination, with a fork of the trace for each; an
attempt that nothing takes is closed here.
-/

set_option autoImplicit false

namespace Captastic.Model

open Captastic.Library

variable {B W : Type}

/-- SRC: lib.rs:59-67 -/
def HotkeyAction.as_str : HotkeyAction → String
  | .LastWorkflow => "last_workflow"
  | .Region => "region"
  | .Window => "window"
  | .FullDisplay => "full_display"
  | .RepeatLastRegion => "repeat_last_region"

/-- The arguments of `dispatch_output` that come from the capture. -/
structure FinishedCapture where
  capture_id : CaptureId
  triggered_at : Nat
  source : String
  action : HotkeyAction
  metadata : FrameMetadata
  frame : Option CpuFrame
  native_frame : Option DxgiGpuFrame
  recorder : EventRecorder

/-- Notes the trace of an attempt that ends here. -/
def close_attempt (closed : EventRecorder × Except AppError CaptureId) :
    Serving B W (Except AppError CaptureId) := do
  note (.closed closed.1)
  pure closed.2

/-! ## To the selection worker -/

/-- The job of a capture that opens an overlay.
SRC: daemon.rs:2921-2951 -/
def FinishedCapture.selection_job (capture : FinishedCapture) (initial_tool : InitialSelectionTool)
    (preview_mode : PreviewMode) : Except AppError SelectionJob :=
  match capture.frame, capture.metadata.cpu_ready_offset_ns with
  | none, _ => .error (.BackendUnavailable
      "selection was enabled but the capture backend returned no CPU frame")
  | some _, none => .error (.BackendUnavailable
      "selection was enabled but CPU readiness was not measured")
  | some frame, some cpu_ready_offset_ns => .ok
      { capture_id := capture.capture_id
        triggered_at := capture.triggered_at
        action := capture.action
        initial_tool
        cpu_ready_offset_ns := some cpu_ready_offset_ns
        source := capture.source
        metadata := frame.metadata
        frame := some frame
        native_frame := capture.native_frame
        recorder := capture.recorder
        confirmed_selection := none
        terminal_error := none
        confirmation_anchored := false
        preview_mode }

/-- SRC: daemon.rs:2953-2969 -/
def SubmitError.skipped : SubmitError → String
  | .Full => "selection_queue_full"
  | .Disconnected => "selection_worker_disconnected"

/-- SRC: daemon.rs:2906-2970 -/
def dispatch_selection (host : Host B W) (capture : FinishedCapture)
    (initial_tool : InitialSelectionTool) (preview_mode : PreviewMode) :
    Serving B W (Except AppError String) :=
  match capture.selection_job initial_tool preview_mode with
  | .error error => pure (.error error)
  | .ok job => do
    let submitted ← host_call (host.try_submit job)
    match submitted with
    | .ok _ => pure (.ok "selection_queued")
    | .error reason => do
      let closed ← close_attempt job.finish_rejected
      pure (closed.map fun _ => reason.skipped)

/-! ## To the destinations -/

/-- Offers a job to each sink, counting those that take it.
SRC: daemon.rs:3134-3168 -/
def offer_each (host : Host B W) (job : OutputJob) :
    List String → Nat → Option String → Serving B W (Except AppError (Nat × Option String))
  | [], delivered, last_rejection => pure (.ok (delivered, last_rejection))
  | sink :: sinks, delivered, last_rejection => do
    let offered ← host_call (host.offer sink job)
    match offered with
    | .ok _ => offer_each host job sinks (delivered + 1) last_rejection
    | .error rejection => do
      let closed ← close_attempt job.finish_rejected
      match closed with
      | .error error => pure (.error error)
      | .ok _ => offer_each host job sinks delivered (some rejection.status)

/-- The job that every sink is offered.
SRC: daemon.rs:3124-3155 -/
def FinishedCapture.output_job (capture : FinishedCapture) : Except AppError OutputJob :=
  match capture.frame, capture.metadata.cpu_ready_offset_ns with
  | none, _ => .error (.BackendUnavailable
      "clipboard was enabled but the capture backend returned no CPU frame")
  | some _, none => .error (.BackendUnavailable
      "clipboard was enabled but CPU readiness was not measured")
  | some frame, some cpu_ready_offset_ns => .ok
      { capture_id := capture.capture_id
        action := capture.action
        cpu_ready_offset_ns
        source := capture.source
        frame
        recorder := capture.recorder }

/-- SRC: daemon.rs:3106-3183 -/
def dispatch_destinations (host : Host B W) (sinks : List String) (capture : FinishedCapture) :
    Serving B W (Except AppError String) :=
  if sinks.isEmpty then do
    let closed ← close_attempt (capture.recorder.finish capture.capture_id)
    pure (closed.map fun _ => "disabled")
  else match capture.output_job with
    | .error error => pure (.error error)
    | .ok job => do
      let offered ← offer_each host job sinks 0 none
      match offered with
      | .error error => pure (.error error)
      | .ok (delivered, last_rejection) =>
        if 0 < delivered then pure (.ok "queued")
        else do
          let closed ← close_attempt (capture.recorder.finish capture.capture_id)
          pure (closed.map fun _ => last_rejection.getD "disabled")

/-- The last region again, cut out of the capture.
SRC: daemon.rs:2973-3058 -/
def dispatch_repeat_region (host : Host B W) (sinks : List String) (capture : FinishedCapture)
    (rect : Rect) : Serving B W (Except AppError String) := do
  let gpu ← host_call host.gpu
  match repeat_region gpu capture.native_frame capture.frame rect with
  | .error .stopped => end_worker .stopped_in_a_crop
  | .error (.error error) => pure (.error error)
  | .ok selected_frame =>
    dispatch_destinations host sinks
      { capture with
        frame := some selected_frame
        recorder := capture.recorder.record capture.capture_id .CropFinished }

/-! ## By its action -/

/-- SRC: daemon.rs:2767-2902 -/
def dispatch_output (context : CaptureWorkerContext) (host : Host B W) (sinks : List String)
    (capture : FinishedCapture) : Serving B W (Except AppError String) :=
  match action_route capture.action with
  | .Overlay initial_tool =>
    if context.has_selection_sender then
      dispatch_selection host capture initial_tool context.selection_preview
    else if capture.action ≠ .LastWorkflow then
      let action := capture.action.as_str
      pure (.error (.InvalidArgument s!"hotkey action {action} requires selection.enabled = true"))
    else dispatch_destinations host sinks capture
  | .RepeatLastRegion => do
    let confirmed ← host_call (host.confirmed_region capture.metadata.display_id)
    match repeat_region_rect confirmed capture.metadata with
    | .ok rect => dispatch_repeat_region host sinks capture rect
    | .error _ =>
      if context.has_selection_sender then
        dispatch_selection host capture .Region context.selection_preview
      else
        pure (.error (.InvalidArgument
          "repeat_last_region fallback requires selection.enabled = true"))
  | .FullDisplay => dispatch_destinations host sinks capture

/-- SRC: daemon.rs:2736 -/
def METRICS_VALIDATION_FAILED : String := "metrics_validation_failed"

/-- SRC: daemon.rs:2751-2763 -/
def output_status_or_fatal : Except AppError String → Except AppError String
  | .ok status => .ok status
  | .error (.Metrics _) => .ok METRICS_VALIDATION_FAILED
  | .error error => .error error

/-- SRC: daemon.rs:2729-2731 -/
def queued_to_selection_worker (output_status : String) : Bool :=
  output_status = "selection_queued" || output_status = "live_selection_queued"

end Captastic.Model
