import Mathlib.Tactic.Common

/-!
# The order of a capture's events

`captastic-core/src/metrics.rs`: the events a capture records on its way, the two tables that
rank their stages, and the validator that walks a trace.  An event's time and value take no
part in its validation and are left out.
-/

set_option autoImplicit false

namespace Captastic.Model

abbrev CaptureId := Nat

/-- SRC: metrics.rs:8-28 -/
inductive PerfEventKind where
  | HotkeyReceived
  | TriggerEnqueued
  | TriggerDequeued
  | CaptureRequested
  | NativeFrameReady
  | ReadbackStarted
  | CpuFrameReady
  | SelectionStarted
  | SelectionConfirmed
  | CropFinished
  | ClipboardStarted
  | ClipboardCommitted
  | EncodeStarted
  | EncodeFinished
  | FileWriteStarted
  | FileWriteFinished
  | AttemptFinished
deriving DecidableEq, Repr

/-- SRC: metrics.rs:118-122 -/
inductive CaptureOrder where
  | CaptureFirst
  | SelectionFirst
deriving DecidableEq, Repr

namespace PerfEventKind

/-- The stage of an event.
SRC: metrics.rs:31-72 -/
def rank : CaptureOrder → PerfEventKind → Nat
  | .SelectionFirst, .HotkeyReceived => 0
  | .SelectionFirst, .TriggerEnqueued => 1
  | .SelectionFirst, .TriggerDequeued => 2
  | .SelectionFirst, .SelectionStarted => 3
  | .SelectionFirst, .SelectionConfirmed => 4
  | .SelectionFirst, .CaptureRequested => 5
  | .SelectionFirst, .NativeFrameReady => 6
  | .SelectionFirst, .ReadbackStarted => 7
  | .SelectionFirst, .CpuFrameReady => 8
  | .SelectionFirst, .CropFinished => 9
  | .SelectionFirst, .ClipboardStarted => 10
  | .SelectionFirst, .ClipboardCommitted => 11
  | .SelectionFirst, .EncodeStarted => 10
  | .SelectionFirst, .EncodeFinished => 11
  | .SelectionFirst, .FileWriteStarted => 12
  | .SelectionFirst, .FileWriteFinished => 13
  | .SelectionFirst, .AttemptFinished => 16
  | .CaptureFirst, .HotkeyReceived => 0
  | .CaptureFirst, .TriggerEnqueued => 1
  | .CaptureFirst, .TriggerDequeued => 2
  | .CaptureFirst, .CaptureRequested => 3
  | .CaptureFirst, .NativeFrameReady => 4
  | .CaptureFirst, .ReadbackStarted => 5
  | .CaptureFirst, .CpuFrameReady => 6
  | .CaptureFirst, .SelectionStarted => 7
  | .CaptureFirst, .SelectionConfirmed => 8
  | .CaptureFirst, .CropFinished => 9
  | .CaptureFirst, .ClipboardStarted => 10
  | .CaptureFirst, .ClipboardCommitted => 11
  | .CaptureFirst, .EncodeStarted => 10
  | .CaptureFirst, .EncodeFinished => 11
  | .CaptureFirst, .FileWriteStarted => 12
  | .CaptureFirst, .FileWriteFinished => 13
  | .CaptureFirst, .AttemptFinished => 16

/-- SRC: metrics.rs:74-80 -/
def establishes_order : PerfEventKind → Option CaptureOrder
  | .CaptureRequested => some .CaptureFirst
  | .SelectionStarted => some .SelectionFirst
  | _ => none

/-- SRC: metrics.rs:82-92 -/
def is_output : PerfEventKind → Bool
  | .ClipboardStarted | .ClipboardCommitted | .EncodeStarted | .EncodeFinished
  | .FileWriteStarted | .FileWriteFinished => true
  | _ => false

/-- SRC: metrics.rs:94-114 -/
def label : PerfEventKind → String
  | .HotkeyReceived => "hotkey_received"
  | .TriggerEnqueued => "trigger_enqueued"
  | .TriggerDequeued => "trigger_dequeued"
  | .CaptureRequested => "capture_requested"
  | .NativeFrameReady => "native_frame_ready"
  | .ReadbackStarted => "readback_started"
  | .CpuFrameReady => "cpu_frame_ready"
  | .SelectionStarted => "selection_started"
  | .SelectionConfirmed => "selection_confirmed"
  | .CropFinished => "crop_finished"
  | .ClipboardStarted => "clipboard_started"
  | .ClipboardCommitted => "clipboard_committed"
  | .EncodeStarted => "encode_started"
  | .EncodeFinished => "encode_finished"
  | .FileWriteStarted => "file_write_started"
  | .FileWriteFinished => "file_write_finished"
  | .AttemptFinished => "attempt_finished"

end PerfEventKind

/-- SRC: metrics.rs:124-130 -/
structure PerfEvent where
  capture_id : CaptureId
  kind : PerfEventKind
deriving DecidableEq, Repr

/-- Events are recorded until the capacity is reached, and counted from there on.
SRC: metrics.rs:137-143 -/
structure EventRecorder where
  events : List PerfEvent
  capacity : Nat
  lost_events : Nat
deriving DecidableEq, Repr

namespace EventRecorder

/-- SRC: metrics.rs:146-153 -/
def with_capacity (capacity : Nat) : EventRecorder := ⟨[], capacity, 0⟩

/-- SRC: metrics.rs:155-167 -/
def record (recorder : EventRecorder) (capture_id : CaptureId) (kind : PerfEventKind) :
    EventRecorder :=
  if recorder.events.length = recorder.capacity then
    { recorder with lost_events := recorder.lost_events + 1 }
  else { recorder with events := recorder.events ++ [⟨capture_id, kind⟩] }

end EventRecorder

/-- SRC: error.rs:112-127 -/
inductive MetricsError where
  | OutputBeforeCpuFrame (capture_id : CaptureId) (current : String)
  | EventOrderRegression (capture_id : CaptureId) (previous_rank current_rank : Nat)
deriving DecidableEq, Repr

/-- What the validator remembers about one capture while walking its trace.
SRC: metrics.rs:218-229 -/
structure OrderProgress where
  rank : Nat
  cpu_frame_ready : Bool
  order : Option CaptureOrder
  selection_confirmed : Bool
deriving DecidableEq, Repr

/-- `OrderProgress::default()` -/
def OrderProgress.initial : OrderProgress := ⟨0, false, none, false⟩

/-- The table that ranks a trace: until an event has established one, the capture-first. -/
def OrderProgress.table (entry : OrderProgress) : CaptureOrder := entry.order.getD .CaptureFirst

/-- SRC: metrics.rs:240-242 -/
def OrderProgress.anchor (entry : OrderProgress) (kind : PerfEventKind) : OrderProgress :=
  if entry.order.isNone then { entry with order := kind.establishes_order } else entry

/-- The capture request after a confirmation moves the trace to the selection-first table, and
takes back the readiness of the snapshot's frame.
SRC: metrics.rs:265-273 -/
def OrderProgress.reanchor (entry : OrderProgress) (kind : PerfEventKind) : OrderProgress :=
  if kind = .CaptureRequested ∧ entry.order = some .CaptureFirst ∧ entry.selection_confirmed ∧
      entry.rank ≤ PerfEventKind.SelectionConfirmed.rank .CaptureFirst then
    { entry with
      order := some .SelectionFirst
      rank := PerfEventKind.SelectionConfirmed.rank .SelectionFirst
      cpu_frame_ready := false }
  else entry

/-- SRC: metrics.rs:284-290 -/
def OrderProgress.arrive (entry : OrderProgress) (kind : PerfEventKind) (rank : Nat) :
    OrderProgress :=
  { entry with
    rank := rank
    cpu_frame_ready := entry.cpu_frame_ready || kind == .CpuFrameReady
    selection_confirmed := entry.selection_confirmed || kind == .SelectionConfirmed }

/-- The body of the validator's loop, on the entry of the event's capture.
SRC: metrics.rs:233-291 -/
def advance (entry : OrderProgress) (event : PerfEvent) : Except MetricsError OrderProgress :=
  if event.kind.is_output && !entry.cpu_frame_ready then
    .error (.OutputBeforeCpuFrame event.capture_id event.kind.label)
  else
    let entry := (entry.anchor event.kind).reanchor event.kind
    let rank := event.kind.rank entry.table
    if rank < entry.rank then
      .error (.EventOrderRegression event.capture_id entry.rank rank)
    else .ok (entry.arrive event.kind rank)

/-- The captures seen so far. -/
abbrev OrderState := Std.ExtTreeMap CaptureId OrderProgress compare

/-- `state.entry(capture_id).or_default()` -/
def OrderState.entry (state : OrderState) (capture_id : CaptureId) : OrderProgress :=
  state.getD capture_id OrderProgress.initial

/-- SRC: metrics.rs:232-293 -/
def validate_event_order (events : List PerfEvent) : Except MetricsError Unit :=
  (events.foldlM (fun (state : OrderState) event =>
    (advance (OrderState.entry state event.capture_id) event).map
      (Std.ExtTreeMap.insert state event.capture_id)) ∅).map fun _ => ()

end Captastic.Model
