import Captastic.Library.Session
import Captastic.Model.Duplication
import Captastic.Model.Overlay
import Captastic.Model.RegionRoutes

/-!
# A trigger's attempt and where it goes

`captastic-app/src/daemon.rs` and `captastic-app/src/selection.rs`: what a pressed hotkey
becomes on its way, from the trigger to the jobs of the selection worker and of the
destinations, and the functions that close an attempt nothing took.

An event's time and value, the chord that was pressed and the window titles a file is named
after take no part in where an attempt goes and are left out.
-/

set_option autoImplicit false

namespace Captastic.Model

open Captastic.Library

/-! ## Actions -/

/-- SRC: lib.rs:42-48 -/
inductive HotkeyAction where
  | LastWorkflow
  | Region
  | Window
  | FullDisplay
  | RepeatLastRegion
deriving DecidableEq, Repr

/-- SRC: lib.rs:1000-1005 -/
inductive PreviewMode where
  | Auto
  | Live
  | Frozen
deriving DecidableEq, Repr

/-- SRC: overlay.rs:157-161 -/
inductive InitialSelectionTool where
  | Remembered
  | Region
  | Window
deriving DecidableEq, Repr

/-- SRC: daemon.rs:2666-2670 -/
inductive ActionRoute where
  | Overlay (initial_tool : InitialSelectionTool)
  | FullDisplay
  | RepeatLastRegion
deriving DecidableEq, Repr

/-- SRC: daemon.rs:2673-2687 -/
def action_route : HotkeyAction → ActionRoute
  | .LastWorkflow => .Overlay .Remembered
  | .Region => .Overlay .Region
  | .Window => .Overlay .Window
  | .FullDisplay => .FullDisplay
  | .RepeatLastRegion => .RepeatLastRegion

/-- SRC: daemon.rs:2699-2705 -/
def trigger_may_open_an_overlay (selection_enabled : Bool) (action : HotkeyAction) : Bool :=
  selection_enabled && match action_route action with
    | .Overlay _ | .RepeatLastRegion => true
    | .FullDisplay => false

/-! ## Triggers and jobs -/

/-- SRC: daemon.rs:3359-3365 -/
structure TriggerEvent where
  received_at : Nat
  source : String
  action : HotkeyAction
deriving DecidableEq, Repr

/-- SRC: daemon.rs:3368-3382 -/
def trigger_recorder (capture_id : CaptureId) : EventRecorder :=
  ((EventRecorder.with_capacity 16 |>.record capture_id .HotkeyReceived).record capture_id
    .TriggerEnqueued).record capture_id .TriggerDequeued

/-- SRC: overlay.rs:228-257 -/
structure OverlaySelection where
  rect : Rect
  kind : SelectionKind
  intent : ConfirmIntent
  window : Option NativeWindowHandle
  view : PreviewView
  window_frame : Option CpuFrame

/-- SRC: selection.rs:892-910 -/
structure SelectionJob where
  capture_id : CaptureId
  triggered_at : Nat
  action : HotkeyAction
  initial_tool : InitialSelectionTool
  cpu_ready_offset_ns : Option Nat
  source : String
  metadata : FrameMetadata
  frame : Option CpuFrame
  native_frame : Option DxgiGpuFrame
  recorder : EventRecorder
  confirmed_selection : Option OverlaySelection
  terminal_error : Option String
  confirmation_anchored : Bool
  preview_mode : PreviewMode

/-- SRC: selection.rs:912-916 -/
structure LiveSelectionRequest where
  job : SelectionJob
  selection : OverlaySelection

/-- SRC: output.rs:22-38 -/
structure OutputJob where
  capture_id : CaptureId
  action : HotkeyAction
  cpu_ready_offset_ns : Nat
  source : String
  frame : CpuFrame
  recorder : EventRecorder

/-- Why a queue gives a job back: it is full, or nothing reads it any more.
SRC: selection.rs:990-993 -/
inductive SubmitError where
  | Full
  | Disconnected
deriving DecidableEq, Repr

/-- SRC: output.rs:45-50 -/
inductive OutputRejection where
  | QueueFull
  | Disconnected
deriving DecidableEq, Repr

/-- SRC: output.rs:54-59 -/
def OutputRejection.status : OutputRejection → String
  | .QueueFull => "queue_full"
  | .Disconnected => "worker_disconnected"

/-! ## Closing an attempt -/

/-- The recorder of an attempt that ends here.  It is closed whether or not its events are in
an order that the validator accepts. -/
def EventRecorder.finish (recorder : EventRecorder) (capture_id : CaptureId) :
    EventRecorder × Except AppError CaptureId :=
  let recorder := recorder.record capture_id .AttemptFinished
  match validate_event_order recorder.events with
  | .ok _ => (recorder, .ok capture_id)
  | .error error => (recorder, .error (.Metrics error))

/-- SRC: selection.rs:1005-1013 -/
def SelectionJob.finish_rejected (job : SelectionJob) : EventRecorder × Except AppError CaptureId :=
  job.recorder.finish job.capture_id

/-- SRC: clipboard.rs:272-280 -/
def OutputJob.finish_rejected (job : OutputJob) : EventRecorder × Except AppError CaptureId :=
  job.recorder.finish job.capture_id

/-! ## Confirmation routes -/

/-- SRC: selection.rs:924-935 -/
inductive ConfirmationRoute where
  | Resumed
  | WindowFrame
  | TriggerSnapshot
  | ConfirmationCapture
deriving DecidableEq, Repr

namespace ConfirmationRoute

/-- SRC: selection.rs:938-952 -/
def of (resumed : Bool) (kind : SelectionKind) (view : PreviewView) : ConfirmationRoute :=
  if resumed then .Resumed
  else if kind = .Window then .WindowFrame
  else if view = .Frozen then .TriggerSnapshot
  else .ConfirmationCapture

/-- SRC: selection.rs:957-964 -/
def confirmation_anchored : ConfirmationRoute → Bool
  | .Resumed | .WindowFrame | .ConfirmationCapture => true
  | .TriggerSnapshot => false

end ConfirmationRoute

/-- SRC: selection.rs:985-988 -/
def release_snapshot (job : SelectionJob) : SelectionJob :=
  { job with frame := none, native_frame := none }

/-! ## Regions confirmed before -/

/-- SRC: lib.rs:349-353 -/
structure ConfirmedRegion where
  region : CaptureRegion
  source : CaptureRegionSource
deriving DecidableEq

/-- A rectangle moved to a place, where its origin stays an `i32`.
SRC: daemon.rs:3083-3097 -/
def CaptureRegion.placed (region : CaptureRegion) (source : Rect) : Except String Rect :=
  let ⟨width, width_u32⟩ := region.width
  let ⟨height, height_u32⟩ := region.height
  if x_i32 : InI32 (source.x + region.x.val) then
    if y_i32 : InI32 (source.y + region.y.val) then
      .ok ⟨source.x + region.x.val, source.y + region.y.val, width, height, x_i32, y_i32, width_u32,
        height_u32⟩
    else .error "invalid_region_bounds"
  else .error "invalid_region_bounds"

/-- SRC: daemon.rs:3061-3098 -/
def repeat_region_rect (confirmed : Option ConfirmedRegion) (metadata : FrameMetadata) :
    Except String Rect :=
  match confirmed with
  | none => .error "missing_confirmed_region"
  | some confirmed =>
    let source := metadata.source_rect
    let region := confirmed.region
    if confirmed.source.width.val ≠ source.width ∨ confirmed.source.height.val ≠ source.height ∨
        confirmed.source.rotation_degrees.toNat ≠ metadata.rotation_degrees then
      .error "source_geometry_changed"
    else if region.x.val < 0 ∨ region.y.val < 0 ∨ region.width.val = 0 ∨
        region.height.val = 0 then
      .error "invalid_region_bounds"
    else if region.x.val + region.width.val > source.width ∨
        region.y.val + region.height.val > source.height then
      .error "invalid_region_bounds"
    else region.placed source

end Captastic.Model
