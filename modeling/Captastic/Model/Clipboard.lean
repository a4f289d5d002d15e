import Captastic.Model.Bitmap

/-!
# Publishing to the clipboard

`ClipboardPublisher::publish` of `captastic-windows/src/clipboard.rs`, and the retries around it of
the clipboard worker, `captastic-app/src/clipboard.rs`.

What Windows answers to the calls of an attempt is a record of its own for each attempt.  The PNG
encoder is a parameter, and the times that an attempt measures are left out of its report.
-/

set_option autoImplicit false

namespace Captastic.Model

open Captastic.Library

/-! ## Windows -/

/-- An error of a Windows call. -/
structure WindowsError where
  text : String
  code : Int
deriving DecidableEq

/-- The formats a capture is published in, each registered under its own name. -/
inductive ClipboardFormat where
  | CF_DIBV5
  | Png
  | CanIncludeInClipboardHistory
  | CanUploadToCloudClipboard
deriving DecidableEq

/-- What becomes of the memory of a format: it is handed out, with whatever it holds, or it cannot
be allocated, or not be locked. -/
inductive MemoryAnswer where
  | allocated (memory : List Byte)
  | refused (error : WindowsError)
  | unlocked (error : WindowsError)

/-- What ends the wait for the clipboard: it opens, another program has it until the time is over,
or it cannot be opened. -/
inductive OpenAnswer where
  | opened
  | busy (error : WindowsError) (waited_ms : String)
  | failed (error : WindowsError)

/-- What Windows answers to the calls of one attempt. -/
structure WindowsAnswers where
  memory : ClipboardFormat → MemoryAnswer
  open_retries : Nat
  open_clipboard : OpenAnswer
  empty_clipboard : Option WindowsError
  set_clipboard_data : ClipboardFormat → Option WindowsError

/-- What is on the clipboard: what was there before the capture's first attempt, or, once an attempt
has emptied it, what that attempt has put there since. -/
inductive ClipboardContents where
  | previous
  | replaced (entries : List (ClipboardFormat × List Byte))
deriving DecidableEq

/-- SRC: clipboard.rs:587-600 -/
def clipboard_error (operation : String) (error : WindowsError) (retryable : Bool) :
    CaptureError :=
  ⟨.NativeFailure, "windows-clipboard", operation, error.text, retryable, some error.code⟩

/-! ## Publishing -/

/-- SRC: clipboard.rs:57-64 -/
structure ClipboardRetention where
  history : Bool
  cloud_sync : Bool
deriving DecidableEq

/-- SRC: clipboard.rs:35-48 -/
structure ClipboardPublishReport where
  payload_bytes : Nat
  png_payload_bytes : Nat
  open_retries : Nat
  history_excluded : Bool
  cloud_sync_excluded : Bool
deriving DecidableEq

/-- SRC: clipboard.rs:195-200 -/
structure ClipboardPublishError where
  error : CaptureError
  cleared_previous_contents : Bool
deriving DecidableEq

/-- SRC: clipboard.rs:220-226 -/
def intact (error : CaptureError) : ClipboardPublishError := ⟨error, false⟩

/-- SRC: clipboard.rs:228-234 -/
def cleared_contents (error : CaptureError) : ClipboardPublishError := ⟨error, true⟩

/-- A fault before the clipboard is emptied. -/
def intact_fault : Fault CaptureError → Fault ClipboardPublishError
  | .stopped => .stopped
  | .error error => .error (intact error)

/-- SRC: clipboard.rs:237-242 -/
structure ClipboardPayload where
  frame : CpuFrame
  layout : DibV5Layout
  png : Option (List Byte)

/-- SRC: clipboard.rs:576-585 -/
def png_error (message : String) : CaptureError :=
  ⟨.InvalidFrame, "windows-clipboard", "encode_png", message, false, none⟩

/-- SRC: clipboard.rs:252-271 -/
def ClipboardPayload.prepare (encode_png : CpuFrame → Except String (List Byte))
    (frame : CpuFrame) : Outcome CaptureError ClipboardPayload := do
  let layout ← DibV5Layout.new frame
  if frame.alpha = .Straight then
    match encode_png frame with
    | .ok png => .ok ⟨frame, layout, some png⟩
    | .error message => fail (png_error message)
  else .ok ⟨frame, layout, none⟩

/-- The memory the pixels are published from.  SRC: clipboard.rs:375-401 -/
def from_frame (frame : CpuFrame) (layout : DibV5Layout) (answer : MemoryAnswer) :
    Outcome CaptureError (List Byte) :=
  match answer with
  | .refused error => fail (clipboard_error "allocate_dibv5" error false)
  | .unlocked error => fail (clipboard_error "lock_dibv5" error false)
  | .allocated memory => layout.write frame memory

/-- SRC: clipboard.rs:412-437 -/
def from_bytes (bytes : List Byte) (operation : String) (answer : MemoryAnswer) :
    Outcome CaptureError (List Byte) :=
  if bytes.isEmpty then fail (DibV5Layout.invalid_frame "clipboard payload must not be empty")
  else
    match answer with
    | .refused error => fail (clipboard_error operation error false)
    | .unlocked error => fail (clipboard_error "lock_clipboard_payload" error false)
    | .allocated _ => .ok bytes

def RETENTION_DENIED : Nat := 0

namespace ClipboardRetention

/-- What each marker declines, whether that is permitted, and the call that allocates it.
SRC: clipboard.rs:107-118 -/
def markers (retention : ClipboardRetention) : List (ClipboardFormat × Bool × String) :=
  [(.CanIncludeInClipboardHistory, retention.history, "allocate_history_exclusion"),
    (.CanUploadToCloudClipboard, retention.cloud_sync, "allocate_cloud_exclusion")]

/-- SRC: clipboard.rs:105-126 -/
def retention_exclusions (retention : ClipboardRetention) (windows : WindowsAnswers) :
    Outcome CaptureError (List (ClipboardFormat × List Byte)) :=
  (retention.markers.filter fun marker => !marker.2.1).mapM fun marker => do
    let memory ← from_bytes (le_bytes 4 RETENTION_DENIED) marker.2.2 (windows.memory marker.1)
    .ok (marker.1, memory)

end ClipboardRetention

/-- SRC: clipboard.rs:336-364 -/
def ClipboardSession.open_session (windows : WindowsAnswers) : Outcome CaptureError Nat :=
  match windows.open_clipboard with
  | .opened => .ok windows.open_retries
  | .busy error waited_ms =>
    fail ⟨.Timeout, "windows-clipboard", "open_clipboard",
      s!"clipboard remained busy for {waited_ms} ms: {error.text}", true, some error.code⟩
  | .failed error => fail (clipboard_error "open_clipboard" error false)

/-- The formats, put on the clipboard one after the other, up to the first that Windows refuses.
SRC: clipboard.rs:403-410 -/
def transfer_to_clipboard (windows : WindowsAnswers) :
    List (ClipboardFormat × List Byte) → List (ClipboardFormat × List Byte) →
      Option CaptureError × List (ClipboardFormat × List Byte)
  | [], entries => (none, entries)
  | memory :: rest, entries =>
    match windows.set_clipboard_data memory.1 with
    | some error => (some (clipboard_error "set_clipboard_data" error true), entries)
    | none => transfer_to_clipboard windows rest (entries ++ [memory])

namespace ClipboardPayload

/-- What an attempt allocates before it opens the clipboard.  SRC: clipboard.rs:148-157 -/
def allocate (payload : ClipboardPayload) (retention : ClipboardRetention)
    (windows : WindowsAnswers) :
    Outcome CaptureError (List (ClipboardFormat × List Byte) × Option (List Byte)) := do
  let dib_memory ← from_frame payload.frame payload.layout (windows.memory .CF_DIBV5)
  let exclusions ← retention.retention_exclusions windows
  match payload.png with
  | none => .ok (exclusions ++ [(.CF_DIBV5, dib_memory)], none)
  | some png => do
    let png_memory ← from_bytes png "allocate_png" (windows.memory .Png)
    .ok (exclusions ++ [(.CF_DIBV5, dib_memory)], some png_memory)

/-- The PNG behind the pixels, if Windows takes it.  SRC: clipboard.rs:172-184 -/
def transfer_png (windows : WindowsAnswers) (png_memory : Option (List Byte))
    (entries : List (ClipboardFormat × List Byte)) :
    Nat × List (ClipboardFormat × List Byte) :=
  match png_memory with
  | none => (0, entries)
  | some png =>
    match (transfer_to_clipboard windows [(.Png, png)] entries).1 with
    | none => (png.length, (transfer_to_clipboard windows [(.Png, png)] entries).2)
    | some _ => (0, entries)

/-- SRC: clipboard.rs:139-203 -/
def publish (payload : ClipboardPayload) (retention : ClipboardRetention)
    (windows : WindowsAnswers) (contents : ClipboardContents) :
    Outcome ClipboardPublishError ClipboardPublishReport × ClipboardContents :=
  match payload.allocate retention windows with
  | .error fault => (.error (intact_fault fault), contents)
  | .ok (memory, png_memory) =>
    match ClipboardSession.open_session windows with
    | .error fault => (.error (intact_fault fault), contents)
    | .ok open_retries =>
      match windows.empty_clipboard with
      | some error => (fail (intact (clipboard_error "empty_clipboard" error true)), contents)
      | none =>
        match transfer_to_clipboard windows memory [] with
        | (some error, entries) => (fail (cleared_contents error), .replaced entries)
        | (none, entries) =>
          let (png_payload_bytes, entries) := transfer_png windows png_memory entries
          (.ok ⟨payload.layout.payload_bytes, png_payload_bytes, open_retries,
            !retention.history, !retention.cloud_sync⟩, .replaced entries)

end ClipboardPayload

/-! ## Retrying -/

def PUBLISH_RETRY_LIMIT : Nat := 3

/-- The attempts from one on, with so many retries left of the limit: what the last of them ends
with, and how many retries have been made.
SRC: clipboard.rs:311-328 -/
def publish_with_retry {E T : Type} (retryable : E → Bool) (publish : Nat → Outcome E T)
    (stop_requested : Nat → Bool) : Nat → Nat → Outcome E T × Nat
  | 0, retries => (publish retries, retries)
  | left + 1, retries =>
    match publish retries with
    | .error (.error error) =>
      if retryable error && !stop_requested retries then
        publish_with_retry retryable publish stop_requested left (retries + 1)
      else (fail error, retries)
    | result => (result, retries)

/-- The clipboard worker's work on one capture: the frame as it was prepared, what Windows answers
to each attempt, and what the worker finds of a stop after each that failed. -/
structure ClipboardJob where
  retention : ClipboardRetention
  prepared : Outcome CaptureError ClipboardPayload
  windows : Nat → WindowsAnswers
  stop_requested : Nat → Bool

namespace ClipboardJob

/-- An attempt of the job, and the clipboard after it. -/
def attempt (job : ClipboardJob) (payload : ClipboardPayload) :
    Nat → Outcome ClipboardPublishError ClipboardPublishReport × ClipboardContents
  | 0 => payload.publish job.retention (job.windows 0) .previous
  | retries + 1 =>
    payload.publish job.retention (job.windows (retries + 1)) (attempt job payload retries).2

/-- What is published, or why it is not, and how many retries were made.
SRC: clipboard.rs:76-91 -/
def publish_result (job : ClipboardJob) :
    Outcome ClipboardPublishError ClipboardPublishReport × Nat :=
  match job.prepared with
  | .ok payload =>
    publish_with_retry (fun failure => failure.error.retryable)
      (fun retries => (job.attempt payload retries).1) job.stop_requested PUBLISH_RETRY_LIMIT 0
  | .error fault => (.error (intact_fault fault), 0)

end ClipboardJob

end Captastic.Model
