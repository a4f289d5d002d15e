import Mathlib.Tactic.Cases

/-!
# Detached workers

The two sides that detach a worker at a deadline and take it back when it returns: the file
destination (`captastic-app/src/file_output.rs`, with the daemon that starts it) and the bounded
window render (`captastic-windows/src/window_capture.rs`), over the ledger of
`captastic-core/src/detach.rs`.

Each atomic access is a step of its own, so a detach is two steps of the side that waits, and a
return is two of the worker's thread.
-/

set_option autoImplicit false

namespace Captastic.Model

/-- SRC: detach.rs:27-36 -/
inductive DetachKind where
  | WindowRender
  | CaptureWorker
  | FileOutputWorker
deriving DecidableEq

/-- SRC: detach.rs:53-58 -/
def DetachKind.ceiling : DetachKind → Nat
  | .WindowRender => 8
  | .CaptureWorker | .FileOutputWorker => 1

/-- The sides whose workers can return. -/
inductive DetachSite where
  | window_render
  | file_output
deriving DecidableEq

def DetachSite.kind : DetachSite → DetachKind
  | .window_render => .WindowRender
  | .file_output => .FileOutputWorker

/-- `fetch_add` of one, on 64 bits. -/
def fetch_add (value : Nat) : Nat := (value + 1) % 18446744073709551616

/-- `fetch_sub` of one, on 64 bits. -/
def fetch_sub (value : Nat) : Nat := (value + 18446744073709551615) % 18446744073709551616

/-- The ledger's counts of one kind.  SRC: detach.rs:94-100 -/
structure DetachCounts where
  live : Nat
  total : Nat
deriving DecidableEq

/-! ## One worker -/

/-- The cell that the detach and the exit both claim.
SRC: file_output.rs:43-47, window_capture.rs:49-51 -/
inductive WorkerCell where
  | Running
  | Detached
  | Finished
deriving DecidableEq

/-- Where the side that waits for the worker is: waiting, joining a worker that finished first,
between claiming the detach and the ledger's two counts, or through. -/
inductive WaitStage where
  | Waiting
  | Joining
  | Claimed
  | Counted
  | WrittenOff
  | Left
deriving DecidableEq

/-- Where the worker's thread is, and, past its claim of the cell, whether it found itself written
off. -/
inductive ThreadStage where
  | Working
  | Finished (written_off : Bool)
  | Returned (written_off : Bool)
  | Gone (written_off : Bool)
deriving DecidableEq

/-- A worker; `detaches` and `rejoins` are how often the ledger was told of it. -/
structure DetachWorker where
  cell : WorkerCell
  wait : WaitStage
  thread : ThreadStage
  answered : Bool
  detaches : Nat
  rejoins : Nat
deriving DecidableEq

def DetachWorker.new : DetachWorker := ⟨.Running, .Waiting, .Working, false, 0, 0⟩

/-- A step of one worker, or of the side that waits for it. -/
inductive WorkerStep where
  | deadline
  | leaves
  | counts_live
  | counts_total
  | answers
  | finishes
  | gives_back
  | exits
  | panics
deriving DecidableEq

namespace ThreadStage

def is_gone : ThreadStage → Bool
  | .Gone _ => true
  | _ => false

end ThreadStage

namespace DetachWorker

/-- What the deadline does: it claims the cell, unless the thread finished first.
SRC: file_output.rs:54-63, 309-312, window_capture.rs:296-311 -/
def detach (worker : DetachWorker) (site : DetachSite) : DetachWorker :=
  if worker.cell = .Running then { worker with cell := .Detached, wait := .Claimed }
  else
    match site with
    | .window_render => { worker with wait := .Left }
    | .file_output => { worker with wait := .Joining }

/-- Whether the wait can end without a detach: the answer is there, or the thread is gone.
SRC: file_output.rs:303-310, window_capture.rs:230-231, 270-279 -/
def can_leave (worker : DetachWorker) : DetachSite → Bool
  | .window_render => worker.answered || worker.thread.is_gone
  | .file_output => worker.thread.is_gone

/-- What a step leaves of the worker, and of the ledger.  A window render that panics finishes all
the same, by its destructor; a file worker that panics does not. -/
def next (worker : DetachWorker) (site : DetachSite) (counts : DetachCounts) :
    WorkerStep → Option (DetachWorker × DetachCounts)
  | .deadline =>
    if worker.wait = .Waiting then some (worker.detach site, counts) else none
  | .leaves =>
    if (worker.wait = .Waiting ∨ worker.wait = .Joining) ∧ worker.can_leave site then
      some ({ worker with wait := .Left }, counts)
    else none
  | .counts_live =>
    if worker.wait = .Claimed then
      some ({ worker with wait := .Counted, detaches := worker.detaches + 1 },
        { counts with live := fetch_add counts.live })
    else none
  | .counts_total =>
    if worker.wait = .Counted then
      some ({ worker with wait := .WrittenOff }, { counts with total := fetch_add counts.total })
    else none
  | .answers =>
    if worker.thread = .Working ∧ site = .window_render then
      some ({ worker with answered := true }, counts)
    else none
  | .finishes =>
    if worker.thread = .Working then
      some ({ worker with
        cell := .Finished, thread := .Finished (decide (worker.cell = .Detached)) }, counts)
    else none
  | .gives_back =>
    match worker.thread with
    | .Finished true =>
      some ({ worker with thread := .Returned true, rejoins := worker.rejoins + 1 },
        { counts with live := fetch_sub counts.live })
    | .Finished false => some ({ worker with thread := .Returned false }, counts)
    | _ => none
  | .exits =>
    match worker.thread with
    | .Returned written_off => some ({ worker with thread := .Gone written_off }, counts)
    | _ => none
  | .panics =>
    if worker.thread = .Working ∧ site = .file_output then
      some ({ worker with thread := .Gone false }, counts)
    else none

/-- Whether the side that waited is through with the worker. -/
def wait_over (worker : DetachWorker) : Bool :=
  decide (worker.wait = .WrittenOff) || decide (worker.wait = .Left)

end DetachWorker

/-! ## All workers of a side -/

/-- The workers started so far, and the ledger. -/
structure DetachSystem where
  workers : List DetachWorker
  counts : DetachCounts
deriving DecidableEq

/-- A worker starts, or the worker of this number takes a step. -/
inductive DetachEvent where
  | start
  | worker (index : Nat) (step : WorkerStep)
deriving DecidableEq

namespace DetachSystem

/-- Whether a worker can be started: a window render takes one of the slots, which a thread gives
back as it exits; the daemon starts a file worker where it is through with the one before, and the
ledger is below its ceiling.
SRC: window_capture.rs:842-885, daemon.rs:1865-1872, 1900-1950 -/
def may_start (system : DetachSystem) (site : DetachSite) : Bool :=
  match site with
  | .window_render => decide (system.workers.countP (fun worker => !worker.thread.is_gone) <
      site.kind.ceiling)
  | .file_output => system.workers.all DetachWorker.wait_over &&
      decide (system.counts.live < site.kind.ceiling)

def next (site : DetachSite) (system : DetachSystem) : DetachEvent → Option DetachSystem
  | .start =>
    if system.may_start site then
      some { system with workers := system.workers ++ [.new] }
    else none
  | .worker index step => do
    let worker ← system.workers[index]?
    let (worker, counts) ← worker.next site system.counts step
    some ⟨system.workers.set index worker, counts⟩

/-- No worker, and nothing counted. -/
def empty : DetachSystem := ⟨[], ⟨0, 0⟩⟩

end DetachSystem

end Captastic.Model
