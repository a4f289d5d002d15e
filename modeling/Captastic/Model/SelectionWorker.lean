import Captastic.Model.CaptureWorker

/-!
# The selection worker

`captastic-app/src/selection.rs`: what the selection worker does with a job, from the overlay to
the destinations, and how it reports the end of an attempt to the capture worker.

What it is answered on the way is a `SelectionAnswers`: how the overlay ends, the windows it
renders, whether the capture worker's queue takes a command, and what each destination answers.
Pins, recordings and editors are opened from here; what becomes of them takes no part in the
attempt.
-/

set_option autoImplicit false

namespace Captastic.Model

open Captastic.Library

/-- SRC: overlay.rs:311-326 -/
inductive SelectionOutcome where
  | Selected (selection : OverlaySelection)
  | Cancelled
  | DisplayConfigurationChanged (reason : String)

structure SelectionAnswers where
  now : Nat
  overlay : Except CaptureError SelectionOutcome
  gpu : Gpu
  render_window : NativeWindowHandle → FrameMetadata → Except CaptureError CpuFrame
  handed_back : Bool
  sinks : List (String × Except OutputRejection Unit)

/-- SRC: selection.rs:1195-1205 -/
structure Publication where
  capture_id : CaptureId
  action : HotkeyAction
  cpu_ready_offset_ns : Nat
  source : String
  recorder : EventRecorder

/-- What became of the job that one destination was offered. -/
inductive Offered where
  | delivered (sink : String) (job : OutputJob)
  | closed (recorder : EventRecorder)

/-- How the selection worker is done with a job. -/
inductive SelectionEnd where
  | closed (recorder : EventRecorder)
  | handed_back (request : LiveSelectionRequest)
  | recorded (publication : Publication)
  | editing (publication : Publication)
  | published (offered : List Offered)
  | stopped_in_a_crop

/-! ## Publishing -/

namespace Publication

/-- SRC: selection.rs:1208-1221 -/
def job (publication : Publication) (frame : CpuFrame) : OutputJob :=
  { capture_id := publication.capture_id
    action := publication.action
    cpu_ready_offset_ns := publication.cpu_ready_offset_ns
    source := publication.source
    frame
    recorder := publication.recorder }

/-- SRC: selection.rs:1224-1256 -/
def publish (publication : Publication) (sinks : List (String × Except OutputRejection Unit))
    (frame : CpuFrame) : List Offered :=
  let job := publication.job frame
  if sinks.isEmpty then [.closed job.finish_rejected.1]
  else sinks.map fun (sink, answer) =>
    match answer with
    | .ok _ => .delivered sink job
    | .error _ => .closed job.finish_rejected.1

end Publication

/-! ## A job -/

namespace SelectionJob

def record (job : SelectionJob) (kind : PerfEventKind) : SelectionJob :=
  { job with recorder := job.recorder.record job.capture_id kind }

/-- SRC: selection.rs:1015-1030 -/
def finish_without_clipboard (job : SelectionJob) : EventRecorder :=
  (job.recorder.finish job.capture_id).1

/-- The job of a window that was clicked.
SRC: selection.rs:369-394 -/
def with_window_frame (job : SelectionJob) (frame : CpuFrame) (now : Nat) : SelectionJob :=
  { ((((job.record .SelectionConfirmed).record .CaptureRequested).record .NativeFrameReady).record
      .CpuFrameReady) with
    cpu_ready_offset_ns := some (now - job.triggered_at)
    metadata := frame.metadata
    frame := some frame
    native_frame := none }

/-- SRC: selection.rs:607-620 -/
def publication (job : SelectionJob) (now : Nat) : Publication :=
  { capture_id := job.capture_id
    action := job.action
    cpu_ready_offset_ns := job.cpu_ready_offset_ns.getD (now - job.triggered_at)
    source := job.source
    recorder := job.recorder }

end SelectionJob

/-- SRC: window_capture.rs:91-95 -/
def captured_window_frame (selection : OverlaySelection) : Option CpuFrame :=
  if selection.kind = .Window then selection.window_frame else none

/-- The pixels of a confirmed selection.
SRC: selection.rs:477-529, window_capture.rs:53-89 -/
def selected_pixels (answers : SelectionAnswers) (native_frame : Option DxgiGpuFrame)
    (frame : CpuFrame) (selection : OverlaySelection) : Outcome CaptureError CpuFrame :=
  match selection.kind with
  | .Display => .ok frame
  | .Region => selection_region answers.gpu native_frame frame selection.rect
  | .Window =>
    match selection.window_frame, selection.window with
    | some frame, _ => .ok frame
    | none, none => fail ⟨.SourceUnavailable, "windows-window-capture", "resolve_selected_window",
        "window selection did not retain a native window handle", false, none⟩
    | none, some handle =>
      match answers.render_window handle frame.metadata with
      | .ok frame => .ok frame
      | .error error => fail error

/-- A confirmed job with its pixels, published the way its selection asks for.
SRC: selection.rs:468-681 -/
def SelectionJob.materialize (answers : SelectionAnswers) (job : SelectionJob)
    (selection : OverlaySelection) : SelectionEnd :=
  match job.frame with
  | none => .closed job.finish_without_clipboard
  | some frame =>
    match selected_pixels answers job.native_frame frame selection with
    | .error .stopped => .stopped_in_a_crop
    | .error (.error _) => .closed job.finish_without_clipboard
    | .ok selected_frame =>
      let publication := (job.record .CropFinished).publication answers.now
      match selection.intent with
      | .Record => .recorded publication
      | .Edit => .editing publication
      | .Capture | .Pin => .published (publication.publish answers.sinks selected_frame)

/-- A job whose selection is confirmed, by the route its pixels come.
SRC: selection.rs:348-461 -/
def SelectionJob.selected (answers : SelectionAnswers) (job : SelectionJob) (resumed : Bool)
    (selection : OverlaySelection) : SelectionEnd :=
  let route := ConfirmationRoute.of resumed selection.kind selection.view
  match route with
  | .Resumed =>
    { job with confirmation_anchored := route.confirmation_anchored }.materialize answers selection
  | .WindowFrame =>
    match captured_window_frame selection with
    | none => .closed job.finish_without_clipboard
    | some frame =>
      { job.with_window_frame frame answers.now with
        confirmation_anchored := route.confirmation_anchored }.materialize answers selection
  | .TriggerSnapshot =>
    { job.record .SelectionConfirmed with
      confirmation_anchored := route.confirmation_anchored }.materialize answers selection
  | .ConfirmationCapture =>
    let job := release_snapshot (job.record .SelectionConfirmed)
    if answers.handed_back then .handed_back ⟨job, selection⟩
    else .closed job.finish_without_clipboard

/-- The body of the selection worker's loop.
SRC: selection.rs:262-746 -/
def SelectionJob.run (answers : SelectionAnswers) (job : SelectionJob) : SelectionEnd :=
  match job.terminal_error with
  | some _ => .closed { job with terminal_error := none }.finish_without_clipboard
  | none =>
    match job.confirmed_selection with
    | some selection =>
      { job with confirmed_selection := none }.selected answers true selection
    | none =>
      match job.frame with
      | none => .closed job.finish_without_clipboard
      | some _ =>
        let started := job.record .SelectionStarted
        match answers.overlay with
        | .ok (.Selected selection) => started.selected answers false selection
        | .ok .Cancelled | .ok (.DisplayConfigurationChanged _) | .error _ =>
          .closed started.finish_without_clipboard

end Captastic.Model
