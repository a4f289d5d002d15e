import Captastic.Model.Detach
import Captastic.Model.Dxgi

/-!
# Bounded window renders

`capture_window_bounded` and `run_bounded_window_render` of
`captastic-windows/src/window_capture.rs`, with the three resources a render holds: the claim on its
window, a worker slot and an in-flight permit.

Each atomic access, and each use of the lock around the claims, is a step of its own, of the thread
that called or of the worker it spawned.
-/

set_option autoImplicit false

namespace Captastic.Model

def MAX_IN_FLIGHT_WINDOW_RENDERS : Nat := 2

def MAX_WINDOW_RENDER_WORKERS : Nat := 8

def WINDOW_RENDER_TIMEOUT_MS : Nat := 700

/-! ## Errors -/

/-- SRC: window_capture.rs:1731-1746 -/
def window_capture_error (kind : CaptureErrorKind) (operation message : String)
    (retryable : Bool) : CaptureError :=
  ⟨kind, "windows-window-capture", operation, message, retryable, none⟩

/-- The digits of `{:X}` of an `isize`. -/
def upper_hex (value : Int) : String :=
  String.ofList ((Nat.toDigits 16 (value % 18446744073709551616).toNat).map Char.toUpper)

/-- SRC: window_capture.rs:901-911 -/
def target_claimed (target : Int) : CaptureError :=
  window_capture_error .BufferExhausted "start_window_render"
    s!"a native render for window handle=0x{upper_hex target} is already running; one window may occupy only one render worker"
    true

/-- SRC: window_capture.rs:863-872 -/
def workers_exhausted (current : Nat) : CaptureError :=
  window_capture_error .WorkersExhausted "start_window_render"
    s!"{current} native window-render workers are still running; refusing to create an unbounded thread backlog"
    false

/-- SRC: window_capture.rs:943-950 -/
def permits_exhausted : CaptureError :=
  window_capture_error .BufferExhausted "start_window_render"
    "too many nonresponsive window renders are still in flight" true

/-- SRC: window_capture.rs:219-227 -/
def spawn_failed (message : String) : CaptureError :=
  window_capture_error .NativeFailure "spawn_window_render" message true

/-- SRC: window_capture.rs:257-268 -/
def render_timed_out : CaptureError :=
  window_capture_error .Timeout "print_selected_window"
    s!"the selected window did not render within {WINDOW_RENDER_TIMEOUT_MS} ms" true

/-- SRC: window_capture.rs:270-279 -/
def render_stopped : CaptureError :=
  window_capture_error .NativeFailure "print_selected_window"
    "the window-render worker stopped without returning a frame" false

/-! ## One call -/

/-- Where the calling thread is.  At a deadline it releases its clone of the permit and then drops
it, after an answer it only drops it.  A refusal drops what the call holds so far: the budget, which
is the slot and then the claim, and of a spawn that failed both clones of the permit. -/
inductive CallerStage where
  | ClaimingTarget
  | LoadingWorkers
  | TakingSlot (current : Nat)
  | LoadingActive
  | TakingPermit (current : Nat)
  | Spawning
  | Waiting
  | ReleasingPermit (answer : Option CaptureError) (again : Bool)
  | GivingBack (answer : Option CaptureError) (again : Bool)
  | Answered (answer : Option CaptureError)
  | ReturningSlot (error : CaptureError) (permit : Bool)
  | DroppingTarget (error : CaptureError) (permit : Bool)
  | DroppingPermit (error : CaptureError) (again : Bool)
  | ReturningPermit (error : CaptureError) (again : Bool)
  | Refused (error : CaptureError)

namespace CallerStage

/-- What follows one release of the caller's clone. -/
def after_release (answer : Option CaptureError) (again : Bool) : CallerStage :=
  if again then .ReleasingPermit answer false else .Answered answer

/-- What follows the drop of one clone after a spawn that failed. -/
def after_drop (error : CaptureError) (again : Bool) : CallerStage :=
  if again then .DroppingPermit error false else .Refused error

end CallerStage

/-- Where the worker's thread is: its locals are dropped in reverse, the permit, then the slot, then
the claim. -/
inductive RenderStage where
  | Absent
  | Rendering
  | ReleasingPermit
  | GivingBack
  | ReturningSlot
  | DroppingTarget
  | Exited
deriving DecidableEq

/-- A call; `released` is the flag that the permit's clones share, and `acquired` and `given_back`
are how often the counter was told of its permit. -/
structure RenderCall where
  target : Int
  caller : CallerStage
  worker : RenderStage
  sent : Option (Option CaptureError)
  released : Bool
  acquired : Nat
  given_back : Nat

/-- The shared counters, and the windows claimed. -/
structure RenderResources where
  workers : Nat
  targets : List Int
  active : Nat
deriving DecidableEq

/-- A step of a call: of the calling thread, of the worker's, or an end of the wait. -/
inductive CallStep where
  | caller
  | exchange_fails
  | spawn_fails (message : String)
  | times_out
  | render (result : Option CaptureError)
  | panics
  | worker

namespace RenderCall

def new (target : Int) : RenderCall :=
  ⟨target, .ClaimingTarget, .Absent, none, false, 0, 0⟩

/-- The permit's flag is taken: by the first clone that is released or dropped, which then gives the
permit back.  SRC: window_capture.rs:961-965 -/
def release (call : RenderCall) : RenderCall × Bool :=
  ({ call with released := true }, !call.released)

/-- The caller's next access.
SRC: window_capture.rs:140-162, 200-282, 842-885, 893-926, 936-976 -/
def caller_step (call : RenderCall) (shared : RenderResources) :
    Option (RenderCall × RenderResources) :=
  match call.caller with
  | .ClaimingTarget =>
    if call.target ∈ shared.targets then
      some ({ call with caller := .Refused (target_claimed call.target) }, shared)
    else
      some ({ call with caller := .LoadingWorkers },
        { shared with targets := call.target :: shared.targets })
  | .LoadingWorkers => some ({ call with caller := .TakingSlot shared.workers }, shared)
  | .TakingSlot current =>
    if current ≥ MAX_WINDOW_RENDER_WORKERS then
      some ({ call with caller := .DroppingTarget (workers_exhausted current) false }, shared)
    else if shared.workers = current then
      some ({ call with caller := .LoadingActive }, { shared with workers := current + 1 })
    else some ({ call with caller := .TakingSlot shared.workers }, shared)
  | .LoadingActive => some ({ call with caller := .TakingPermit shared.active }, shared)
  | .TakingPermit current =>
    if current ≥ MAX_IN_FLIGHT_WINDOW_RENDERS then
      some ({ call with caller := .ReturningSlot permits_exhausted false }, shared)
    else if shared.active = current then
      some ({ call with caller := .Spawning, acquired := call.acquired + 1 },
        { shared with active := current + 1 })
    else some ({ call with caller := .TakingPermit shared.active }, shared)
  | .Spawning => some ({ call with caller := .Waiting, worker := .Rendering }, shared)
  | .Waiting =>
    match call.sent with
    | some result => some ({ call with caller := .ReleasingPermit result false }, shared)
    | none =>
      if call.worker = .Exited then
        some ({ call with caller := .ReleasingPermit (some render_stopped) true }, shared)
      else none
  | .ReleasingPermit answer again =>
    let (call, first) := call.release
    some ({ call with
      caller := if first then .GivingBack answer again else .after_release answer again }, shared)
  | .GivingBack answer again =>
    some ({ call with caller := .after_release answer again, given_back := call.given_back + 1 },
      { shared with active := fetch_sub shared.active })
  | .ReturningSlot error permit =>
    some ({ call with caller := .DroppingTarget error permit },
      { shared with workers := fetch_sub shared.workers })
  | .DroppingTarget error permit =>
    some ({ call with caller := if permit then .DroppingPermit error true else .Refused error },
      { shared with targets := shared.targets.erase call.target })
  | .DroppingPermit error again =>
    let (call, first) := call.release
    some ({ call with
      caller := if first then .ReturningPermit error again else .after_drop error again }, shared)
  | .ReturningPermit error again =>
    some ({ call with caller := .after_drop error again, given_back := call.given_back + 1 },
      { shared with active := fetch_sub shared.active })
  | .Answered _ | .Refused _ => none

/-- The worker's next access, past its render.  SRC: window_capture.rs:212-218 -/
def worker_step (call : RenderCall) (shared : RenderResources) :
    Option (RenderCall × RenderResources) :=
  match call.worker with
  | .ReleasingPermit =>
    let (call, first) := call.release
    some ({ call with worker := if first then .GivingBack else .ReturningSlot }, shared)
  | .GivingBack =>
    some ({ call with worker := .ReturningSlot, given_back := call.given_back + 1 },
      { shared with active := fetch_sub shared.active })
  | .ReturningSlot =>
    some ({ call with worker := .DroppingTarget },
      { shared with workers := fetch_sub shared.workers })
  | .DroppingTarget =>
    some ({ call with worker := .Exited },
      { shared with targets := shared.targets.erase call.target })
  | .Absent | .Rendering | .Exited => none

/-- What a step leaves of the call, and of the resources.  A compare-and-exchange can fail though
the counter has not moved, and then loads it again. -/
def next (call : RenderCall) (shared : RenderResources) :
    CallStep → Option (RenderCall × RenderResources)
  | .caller => call.caller_step shared
  | .exchange_fails =>
    match call.caller with
    | .TakingSlot current =>
      if current < MAX_WINDOW_RENDER_WORKERS then
        some ({ call with caller := .TakingSlot shared.workers }, shared)
      else none
    | .TakingPermit current =>
      if current < MAX_IN_FLIGHT_WINDOW_RENDERS then
        some ({ call with caller := .TakingPermit shared.active }, shared)
      else none
    | _ => none
  | .spawn_fails message =>
    match call.caller with
    | .Spawning =>
      some ({ call with caller := .ReturningSlot (spawn_failed message) true }, shared)
    | _ => none
  | .times_out =>
    match call.caller with
    | .Waiting =>
      some ({ call with caller := .ReleasingPermit (some render_timed_out) true }, shared)
    | _ => none
  | .render result =>
    if call.worker = .Rendering then
      some ({ call with worker := .ReleasingPermit, sent := some result }, shared)
    else none
  | .panics =>
    if call.worker = .Rendering then some ({ call with worker := .ReleasingPermit }, shared)
    else none
  | .worker => call.worker_step shared

end RenderCall

/-! ## All calls -/

/-- The calls made so far, and what they share. -/
structure RenderSystem where
  calls : List RenderCall
  shared : RenderResources

/-- A window is to be captured, or the call of this number takes a step. -/
inductive RenderEvent where
  | call (target : Int)
  | step (index : Nat) (step : CallStep)

namespace RenderSystem

def next (system : RenderSystem) : RenderEvent → Option RenderSystem
  | .call target => some { system with calls := system.calls ++ [.new target] }
  | .step index step => do
    let call ← system.calls[index]?
    let (call, shared) ← call.next system.shared step
    some ⟨system.calls.set index call, shared⟩

/-- No call, and nothing held. -/
def idle : RenderSystem := ⟨[], ⟨0, [], 0⟩⟩

end RenderSystem

end Captastic.Model
