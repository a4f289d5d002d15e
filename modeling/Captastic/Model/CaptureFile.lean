import Captastic.Model.FilenameTemplate
import Captastic.Model.Fsio

/-!
# Writing a capture into the user's directory

`write_without_clobbering` of `captastic-app/src/file_output.rs`: a capture is written under its
name, or under that name with a number where the name is taken.

The call sees the output directory.  What the operating system answers is a `WriteIo` for each
attempt.
-/

set_option autoImplicit false

namespace Captastic.Model

/-- SRC: file_output.rs:27 -/
def MAX_COLLISION_ATTEMPTS : Nat := 100

/-- Why a capture was not written; the code reports each as a text. -/
inductive CaptureWriteError where
  | OutsideDirectory (candidate extension : List Char)
  | Write (path : List Component) (error : IoError)
  | NoUnusedName
deriving DecidableEq

/-- SRC: file_output.rs:528-532 -/
def candidate_stem (stem : List Char) (attempt : Nat) : List Char :=
  if attempt = 0 then stem else stem ++ '-' :: (toString (attempt + 1)).toList

/-- `Path::file_name` -/
def file_name_of (path : List Component) : Option String :=
  match path.getLast? with
  | some (.Normal name) => some (String.ofList name)
  | _ => none

section Write

variable (io : Nat → WriteIo) (platform : Platform) (style : PathStyle)
  (directory : List Component) (stem extension : List Char) (contents : List UInt8)

/-- The attempts that are left, each under a name of its own.
SRC: file_output.rs:527-548 -/
def write_attempts : List Nat → Files →
    Except CaptureWriteError (List Component × Nat) × Files
  | [], files => (.error .NoUnusedName, files)
  | attempt :: rest, files =>
    match resolve style directory (candidate_stem stem attempt) extension with
    | none => (.error (.OutsideDirectory (candidate_stem stem attempt) extension), files)
    | some path =>
      match atomic_write (io attempt) platform (finalize_new (io attempt)) (file_name_of path)
          contents files with
      | (.ok (), files) => (.ok (path, attempt), files)
      | (.error error, files) =>
        if error.kind = .AlreadyExists then write_attempts rest files
        else (.error (.Write path error), files)

/-- SRC: file_output.rs:521-553 -/
def write_without_clobbering (files : Files) :
    Except CaptureWriteError (List Component × Nat) × Files :=
  write_attempts io platform style directory stem extension contents
    (List.range MAX_COLLISION_ATTEMPTS) files

end Write

end Captastic.Model
