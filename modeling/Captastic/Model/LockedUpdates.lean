import Mathlib.Logic.Function.Basic
import Mathlib.Tactic.Common

/-!
# Updates under a lock file

`captastic-config/src/fsio.rs`, with the updates of `ui_state.rs` and `history.rs` that it
guards: a process creates the lock file, reads the file the lock guards, writes it changed and
removes the lock file.  A process that finds the lock file looks how old it is, and removes one
that is too old, since its holder has probably died.

Looking and removing are calls of their own, between which other processes take their steps, so
each call on the file system is a step.  A removal removes what is at the path by then.  What
the operating system answers, and what the clock reads, are the steps' data; a process may die
between any two of them.
-/

set_option autoImplicit false

namespace Captastic.Model

/-- A lock file, one of those made at the path so far, and its time of modification in
nanoseconds. -/
structure LockFile where
  serial : Nat
  modified : Int
deriving DecidableEq, Repr

/-- SRC: fsio.rs:35 -/
def LOCK_STALE_AFTER : Int := 30 * 1000000000

/-- Where a call of `update` is: `reads`, `writes` and `drops` hold the lock.
SRC: fsio.rs:50-112, 131-149; ui_state.rs:353-368; history.rs:218-231 -/
inductive LockStage (V : Type) where
  | idle
  | opens (apply : V → V)
  | looks (apply : V → V)
  | removes (apply : V → V) (stale : LockFile)
  | waits (apply : V → V)
  | reads (apply : V → V) (lock : LockFile)
  | writes (apply : V → V) (lock : LockFile) (base : V)
  | drops (lock : LockFile)
  | dead

/-- The lock a stage holds. -/
def LockStage.holding {V : Type} : LockStage V → Option LockFile
  | .reads _ lock | .writes _ lock _ | .drops lock => some lock
  | _ => none

/-- How the creation of the lock file goes: Windows may deny it although nothing is at the path,
while another process has the removed file open. -/
inductive CreateAnswer where
  | tries
  | denied
  | fails
deriving DecidableEq, Repr

/-- How the write of the guarded file ends: an error may come after the file was replaced. -/
inductive WriteAnswer where
  | written
  | failed_before
  | failed_after
deriving DecidableEq, Repr

/-- A step of one process. -/
inductive LockAction (V : Type) where
  | starts (apply : V → V)
  | opens (answer : CreateAnswer) (now : Int)
  | looks (unreadable timeless : Bool) (now : Int)
  | removes (refused : Bool)
  | waits (late : Bool)
  | reads (failed : Bool)
  | writes (answer : WriteAnswer)
  | drops (refused : Bool)
  | dies

/-- The lock file, the number of lock files made, the guarded file, the processes, and the
updates that were written and those that returned `Ok`, oldest first. -/
structure LockedFile (P V : Type) where
  lock : Option LockFile
  made : Nat
  file : Option V
  stage : P → LockStage V
  applied : List (V → V)
  confirmed : List (V → V)

namespace LockedFile

variable {P V : Type} [DecidableEq P]

/-- No process has begun, and whatever lock file a dead one left is there. -/
def new (lock : Option LockFile) (file : Option V) : LockedFile P V where
  lock := lock
  made := (lock.map fun found => found.serial + 1).getD 0
  file := file
  stage := fun _ => .idle
  applied := []
  confirmed := []

variable (missing : V) (s : LockedFile P V) (process : P)

/-- The state with the process at another stage. -/
def goes (stage : LockStage V) : LockedFile P V :=
  { s with stage := Function.update s.stage process stage }

/-- The content an update starts from: `missing` where there is no file.
SRC: ui_state.rs:362-365; history.rs:227 -/
def content : V := s.file.getD missing

/-- Whether a lock file has not been touched for too long; one from the future has not.
SRC: fsio.rs:136-140 -/
def is_stale_lock (lock : LockFile) (timeless : Bool) (now : Int) : Bool :=
  !timeless && decide (LOCK_STALE_AFTER < now - lock.modified)

/-- One call of the process on the file system; `none` where it is not at that call.
SRC: fsio.rs:50-112, 131-149; ui_state.rs:353-368; history.rs:218-231 -/
def step : LockAction V → Option (LockedFile P V)
  | .starts apply =>
    match s.stage process with
    | .idle => some (s.goes process (.opens apply))
    | _ => none
  | .opens answer now =>
    match s.stage process with
    | .opens apply =>
      match answer, s.lock with
      | .fails, _ => some (s.goes process .idle)
      | .denied, _ | .tries, some _ => some (s.goes process (.looks apply))
      | .tries, none =>
        let lock := ⟨s.made, now⟩
        some { s.goes process (.reads apply lock) with lock := some lock, made := s.made + 1 }
    | _ => none
  | .looks unreadable timeless now =>
    match s.stage process with
    | .looks apply =>
      match s.lock with
      | none => some (s.goes process (.opens apply))
      | some lock =>
        if unreadable then some (s.goes process (.opens apply))
        else if is_stale_lock lock timeless now then some (s.goes process (.removes apply lock))
        else some (s.goes process (.waits apply))
    | _ => none
  | .removes refused =>
    match s.stage process with
    | .removes apply _ =>
      if refused ∨ s.lock = none then some (s.goes process (.waits apply))
      else some { s.goes process (.opens apply) with lock := none }
    | _ => none
  | .waits late =>
    match s.stage process with
    | .waits apply => some (s.goes process (if late then .idle else .opens apply))
    | _ => none
  | .reads failed =>
    match s.stage process with
    | .reads apply lock =>
      some (s.goes process (if failed then .drops lock else .writes apply lock (s.content missing)))
    | _ => none
  | .writes answer =>
    match s.stage process with
    | .writes apply lock base =>
      match answer with
      | .failed_before => some (s.goes process (.drops lock))
      | .failed_after => some { s.goes process (.drops lock) with
          file := some (apply base), applied := s.applied ++ [apply] }
      | .written => some { s.goes process (.drops lock) with
          file := some (apply base), applied := s.applied ++ [apply]
          confirmed := s.confirmed ++ [apply] }
    | _ => none
  | .drops refused =>
    match s.stage process with
    | .drops _ => some { s.goes process .idle with lock := if refused then s.lock else none }
    | _ => none
  | .dies => some (s.goes process .dead)

end LockedFile

end Captastic.Model
