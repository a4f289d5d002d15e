import Mathlib.Data.List.Sort
import Mathlib.Logic.Function.Basic
import Mathlib.Tactic.Common

/-!
# Writing a file whole

`captastic-config/src/fsio.rs`: the atomic write behind everything Captastic keeps, and the
sweep of what earlier writes left beside a file.

A call sees one directory, the parent of its path.  A file is its bytes, and a path the name
it ends in, where it ends in one.  What the operating system answers on the way is a
`WriteIo`: it can refuse any step, leave part of the bytes behind, and refuse a removal.
-/

set_option autoImplicit false

namespace Captastic.Model

/-- `std::io::ErrorKind`, as far as the code tells kinds apart. -/
inductive ErrorKind where
  | NotFound
  | AlreadyExists
  | InvalidInput
  | Other
deriving DecidableEq, Repr

/-- A `std::io::Error`. -/
structure IoError where
  kind : ErrorKind
  message : String
deriving DecidableEq, Repr

/-- What each name of a directory holds. -/
abbrev Files := String → Option (List UInt8)

namespace Files

def write (files : Files) (name : String) (bytes : List UInt8) : Files :=
  Function.update files name (some bytes)

def remove (files : Files) (name : String) : Files :=
  Function.update files name none

/-- A rename, which replaces what `to_name` held. -/
def rename (files : Files) (from_name to_name : String) : Files :=
  Function.update (files.remove from_name) to_name (files from_name)

/-- What a path leads to. -/
def found (files : Files) (path : Option String) : Option (List UInt8) :=
  path.bind files

end Files

/-- An entry `read_dir` lists: its name, where that is Unicode, and its time of modification,
where its metadata and that time can be read. -/
structure DirEntry where
  name : Option String
  metadata : Option (Option Int)

inductive Platform where
  | Unix
  | Windows
deriving DecidableEq, Repr

/-- What the operating system answers in one write. -/
structure WriteIo where
  /-- the number of this process -/
  pid : Nat
  /-- `SystemTime::now`, in nanoseconds -/
  now : Int
  read_dir : Option (List DirEntry)
  /-- whether the sweep's removal of a name succeeds -/
  sweeps : String → Bool
  /-- the number a try draws from `TEMP_FILE_SEQUENCE` -/
  sequence : Nat → Nat
  /-- why a try cannot create its file, though no file has its name -/
  create : Nat → Option IoError
  metadata : Option IoError
  set_permissions : Option IoError
  /-- why the bytes were not written and flushed, and those that reached the file -/
  write : Option (IoError × List UInt8)
  /-- why the file could not be moved, after every retry -/
  rename : Option IoError
  /-- whether the removal of the temporary file succeeds -/
  removes : Bool
  sync_parent : Option IoError

/-! ## The sweep -/

/-- SRC: fsio.rs:28 -/
def TEMP_ARTIFACT_MAX_AGE : Int := 7 * 24 * 60 * 60 * 1000000000

/-- SRC: fsio.rs:29 -/
def CORRUPT_ARTIFACT_RETENTION : Nat := 5

/-- `str::starts_with` -/
def starts_with (name start : String) : Bool := start.toList.isPrefixOf name.toList

def temporary_prefix_of (file_name : String) : String := "." ++ file_name ++ ".tmp-"

def corrupt_prefix_of (file_name : String) : String := file_name ++ ".corrupt-"

/-- A quarantined configuration: whether it is protected, its time and its name. -/
structure Corrupt where
  protected_one : Bool
  modified : Int
  name : String

/-- The protected first, then the newest, then the greatest name. -/
def Corrupt.before (left right : Corrupt) : Bool :=
  if left.protected_one ≠ right.protected_one then left.protected_one
  else if left.modified ≠ right.modified then decide (right.modified < left.modified)
  else decide (right.name ≤ left.name)

/-- `let _ = fs::remove_file(..)` in the sweep -/
def sweep_file (io : WriteIo) (files : Files) (name : String) : Files :=
  if io.sweeps name then files.remove name else files

def is_stale (now : Int) (modified : Option Int) : Bool :=
  modified.any fun time => decide (time ≤ now) && decide (TEMP_ARTIFACT_MAX_AGE ≤ now - time)

/-- One entry of the sweep: the files it leaves, and the quarantined ones found so far.
SRC: fsio.rs:283-305 -/
def sweep_entry (io : WriteIo) (file_name : String) (protected_name : Option String)
    (state : Files × List Corrupt) (entry : DirEntry) : Files × List Corrupt :=
  match entry.name, entry.metadata with
  | some name, some modified =>
    if starts_with name (temporary_prefix_of file_name) then
      if is_stale io.now modified && decide (protected_name ≠ some name) then
        (sweep_file io state.1 name, state.2)
      else state
    else if starts_with name (corrupt_prefix_of file_name) then
      (state.1, state.2 ++ [⟨decide (protected_name = some name), modified.getD 0, name⟩])
    else state
  | _, _ => state

/-- SRC: fsio.rs:269-316 -/
def maintain_config_artifacts (io : WriteIo) (file_name : String) (protected_name : Option String)
    (files : Files) : Files :=
  match io.read_dir with
  | none => files
  | some entries =>
    let found := entries.foldl (sweep_entry io file_name protected_name) (files, [])
    let surplus := (found.2.mergeSort Corrupt.before).drop CORRUPT_ARTIFACT_RETENTION
    (surplus.map Corrupt.name).foldl (sweep_file io) found.1

/-! ## The write -/

def no_file_name : IoError := ⟨.InvalidInput, "configuration path has no file name"⟩

def no_unique_name : IoError :=
  ⟨.AlreadyExists, "unable to allocate a unique configuration temporary file"⟩

def temporary_name (pid : Nat) (file_name : String) (sequence : Nat) : String :=
  temporary_prefix_of file_name ++ (toString pid ++ "-" ++ toString sequence)

/-- The tries that are left to create a file no other write has. -/
def create_new (io : WriteIo) (file_name : String) (files : Files) :
    List Nat → Except IoError String × Files
  | [] => (.error no_unique_name, files)
  | attempt :: rest =>
    let name := temporary_name io.pid file_name (io.sequence attempt)
    if (files name).isSome then create_new io file_name files rest
    else
      match io.create attempt with
      | none => (.ok name, files.write name [])
      | some error =>
        if error.kind = .AlreadyExists then create_new io file_name files rest
        else (.error error, files)

/-- SRC: fsio.rs:202-227 -/
def create_temporary_file (io : WriteIo) (file_name : String) (files : Files) :
    Except IoError String × Files :=
  create_new io file_name (maintain_config_artifacts io file_name none files) (List.range 128)

/-- SRC: fsio.rs:188-200 -/
def preserve_existing_permissions (platform : Platform) (io : WriteIo) : Option IoError :=
  match platform with
  | .Windows => none
  | .Unix =>
    match io.metadata with
    | none => io.set_permissions
    | some error => if error.kind = .NotFound then none else some error

/-- SRC: fsio.rs:324-332 -/
def sync_parent_directory (platform : Platform) (io : WriteIo) : Option IoError :=
  match platform with
  | .Windows => none
  | .Unix => io.sync_parent

/-- The `replace` a caller passes: it moves the file it is given onto the destination, or
reports an error and leaves everything as it was. -/
structure Replace where
  call : Files → String → String → Except IoError Unit × Files
  whole : ∀ files from_name to_name,
    (∃ error, call files from_name to_name = (.error error, files)) ∨
      call files from_name to_name = (.ok (), files.rename from_name to_name)

/-- SRC: fsio.rs:353-367, 404-436 -/
def move_file (io : WriteIo) (replace_existing : Bool) (files : Files)
    (from_name to_name : String) : Except IoError Unit × Files :=
  if !replace_existing && (files to_name).isSome then
    (.error ⟨.AlreadyExists, "destination already exists"⟩, files)
  else
    match io.rename with
    | some error => (.error error, files)
    | none => (.ok (), files.rename from_name to_name)

variable (io : WriteIo)

/-- Moving a file fails and leaves the files, or renames the one. -/
theorem move_file_whole (replace_existing : Bool) (files : Files) (from_name to_name : String) :
    (∃ error, move_file io replace_existing files from_name to_name = (.error error, files)) ∨
      move_file io replace_existing files from_name to_name =
        (.ok (), files.rename from_name to_name) := by
  unfold move_file
  split
  · exact .inl ⟨_, rfl⟩
  · cases io.rename with
    | some error => exact .inl ⟨error, rfl⟩
    | none => exact .inr rfl

/-- SRC: fsio.rs:338-340 -/
def replace_file : Replace where
  call := move_file io true
  whole := move_file_whole io true

/-- SRC: fsio.rs:348-350 -/
def finalize_new : Replace where
  call := move_file io false
  whole := move_file_whole io false

/-- `let _ = fs::remove_file(&temporary_path)` -/
def remove_temporary (files : Files) (temporary : String) : Files :=
  if io.removes then files.remove temporary else files

/-- What is left of a write once its temporary file is there.  SRC: fsio.rs:164-185 -/
def finish_write (platform : Platform) (replace : Replace) (file_name : String)
    (contents : List UInt8) (temporary : String) (files : Files) : Except IoError Unit × Files :=
  match preserve_existing_permissions platform io with
  | some error => (.error error, remove_temporary io files temporary)
  | none =>
    match io.write with
    | some (error, bytes) =>
      (.error error, remove_temporary io (files.write temporary bytes) temporary)
    | none =>
      match replace.call (files.write temporary contents) temporary file_name with
      | (.error error, files) => (.error error, remove_temporary io files temporary)
      | (.ok (), files) =>
        match sync_parent_directory platform io with
        | some error => (.error error, files)
        | none => (.ok (), files)

/-- SRC: fsio.rs:158-186 -/
def atomic_write (platform : Platform) (replace : Replace) (path : Option String)
    (contents : List UInt8) (files : Files) : Except IoError Unit × Files :=
  match path with
  | none => (.error no_file_name, files)
  | some file_name =>
    match create_temporary_file io file_name files with
    | (.error error, files) => (.error error, files)
    | (.ok temporary, files) =>
      finish_write io platform replace file_name contents temporary files

end Captastic.Model
