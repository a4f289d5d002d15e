import Captastic.Model.Dxgi
import Captastic.Model.Metrics

/-!
# Where a published region comes from

`captastic-app/src/selection.rs` and `captastic-app/src/daemon.rs` where a region of a frozen
view, or the last region again, is cut out of a capture: from the native frame when one was
retained, and from the CPU frame when there is none or it cannot be read.
-/

set_option autoImplicit false

namespace Captastic.Model

open Captastic.Library

/-- SRC: error.rs:3-24 -/
inductive AppError where
  | InvalidArgument (message : String)
  | BackendUnavailable (message : String)
  | Capture (error : CaptureError)
  | Metrics (error : MetricsError)
deriving DecidableEq, Repr

/-- `frame.crop(rect).map_err(..)` -/
def crop_or {E : Type} (frame : CpuFrame) (rect : Rect) (error_of : FrameError → E) :
    Outcome E CpuFrame :=
  match frame.crop rect with
  | .ok region => .ok region
  | .error .stopped => .error .stopped
  | .error (.error error) => fail (error_of error)

/-- The region of the native frame, with the CPU frame to fall back on. -/
def region_or_crop {E : Type} (gpu : Gpu) (native_frame : Option DxgiGpuFrame) (frame : CpuFrame)
    (rect : Rect) (error_of : FrameError → E) : Outcome E CpuFrame :=
  match native_frame.map (DxgiGpuFrame.materialize_region gpu · rect) with
  | some (.ok region) => .ok region
  | some (.error .stopped) => .error .stopped
  | some (.error (.error _)) => crop_or frame rect error_of
  | none => crop_or frame rect error_of

/-- SRC: selection.rs:477-529, window_capture.rs:53-67 -/
def selection_region (gpu : Gpu) (native_frame : Option DxgiGpuFrame) (frame : CpuFrame)
    (rect : Rect) : Outcome CaptureError CpuFrame :=
  region_or_crop gpu native_frame frame rect fun error =>
    ⟨.InvalidFrame, "windows-window-capture", "crop_region", error.message, false, none⟩

/-- SRC: daemon.rs:2982-3018 -/
def repeat_region (gpu : Gpu) (native_frame : Option DxgiGpuFrame) (frame : Option CpuFrame)
    (rect : Rect) : Outcome AppError CpuFrame :=
  match frame with
  | none =>
    fail (.BackendUnavailable "repeat_last_region requires a CPU frame for checked fallback")
  | some frame =>
    region_or_crop gpu native_frame frame rect fun error => .BackendUnavailable error.message

end Captastic.Model
