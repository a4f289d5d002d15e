import Captastic.Model.FilenameTemplate
import Captastic.Model.Frame
import Mathlib.Logic.Function.Basic

/-!
# The rotating log

`captastic-app/src/logging.rs`: `RotatingWriter`, which appends lines to the log and, once it is
full, renames it to its first archive and the archives to the next ones; and the instant that a
line begins with (`format_utc_timestamp`).

One process writes.  The files are taken by their place: 0 is the log's own path and `k` that of
its `k`th archive; a file also carries how many were made before it, which no code reads.  Each
line brings what the operating system answers while it is written.  A file's length is read
without failing, a line that is written is written whole and flushed, and the handle that is held
is always the log's, since it is let go before anything is renamed.  The lock and the texts of
reports are left out.
-/

set_option autoImplicit false

namespace Captastic.Model

/-! ## Times -/

/-- The instant that a line begins with.
SRC: logging.rs:519-528 -/
def format_utc_timestamp (unix_micros : Nat) : List Char :=
  let parts := utc_parts unix_micros
  let micros := unix_micros % 1000000
  zero_padded 4 parts.year ++ '-' :: (zero_padded 2 parts.month ++ '-' ::
    (zero_padded 2 parts.day ++ 'T' :: (zero_padded 2 parts.hour ++ ':' ::
      (zero_padded 2 parts.minute ++ ':' :: (zero_padded 2 parts.second ++ '.' ::
        (zero_padded 6 micros ++ ['Z']))))))

example :
    String.ofList (format_utc_timestamp 1786325894402172) = "2026-08-10T01:38:14.402172Z" := by
  decide

/-! ## Files -/

structure LogFile where
  made : Nat
  bytes : List Byte
deriving DecidableEq

/-- The log and its archives, and how many files were made. -/
structure LogFiles where
  at_path : Nat → Option LogFile
  made : Nat

/-- How a file is opened and measured: it fails, perhaps after the file was made, or not. -/
inductive LogAnswer where
  | opened
  | failed (created : Bool)
deriving DecidableEq, Repr

/-- What goes wrong with a rotation: the flush, the removal of an archive, the rename onto an
archive, and the opening of the log. -/
structure RotationFaults where
  flush : Bool
  remove : Nat → Bool
  rename : Nat → Bool
  log_opened : LogAnswer

/-- What goes wrong while a line is written; `reopened` is for a log that another process is
taken to have rotated. -/
structure LineFaults where
  rotation : RotationFaults
  reopened : LogAnswer

namespace LogFiles

variable (files : LogFiles)

/-- The length of the file at the log's path. -/
def log_length : Option Nat := (files.at_path 0).map fun log => log.bytes.length

/-- An empty log, unless there is one. -/
def created : LogFiles :=
  match files.at_path 0 with
  | some _ => files
  | none =>
    { at_path := Function.update files.at_path 0 (some ⟨files.made, []⟩), made := files.made + 1 }

/-- `open_log_file`, and the length of what it opened.
SRC: logging.rs:395-397 -/
def open_log_file (answer : LogAnswer) : LogFiles × Option Nat :=
  match answer with
  | .opened => (files.created, files.created.log_length)
  | .failed created => (if created then files.created else files, none)

/-- Bytes added to the log. -/
def append (bytes : List Byte) : LogFiles :=
  { files with
    at_path := Function.update files.at_path 0
      ((files.at_path 0).map fun log => { log with bytes := log.bytes ++ bytes }) }

end LogFiles

/-- The archives renamed from the last one down; `false` is a step that failed.
SRC: logging.rs:212-229 -/
def rotate_archives (faults : RotationFaults) :
    Nat → (Nat → Option LogFile) → (Nat → Option LogFile) × Bool
  | 0, at_path => (at_path, true)
  | index + 1, at_path =>
    match at_path index with
    | none => rotate_archives faults index at_path
    | some source =>
      if (at_path (index + 1)).isSome && faults.remove (index + 1) then (at_path, false)
      else
        let removed := Function.update at_path (index + 1) none
        if faults.rename (index + 1) then (removed, false)
        else
          rotate_archives faults index
            (Function.update (Function.update removed (index + 1) (some source)) index none)

/-! ## The writer -/

/-- SRC: logging.rs:58-70 -/
structure RotatingWriter where
  writer : Bool
  bytes_written : Nat
  max_file_bytes : Nat
  retained_files : Nat
  lines_since_staleness_check : Nat
  suppressed_rotation_failures : Nat
deriving DecidableEq, Repr

/-- SRC: logging.rs:50 -/
def STALENESS_CHECK_LINES : Nat := 256

/-- The writer and the files. -/
structure Logging where
  files : LogFiles
  writer : RotatingWriter

namespace Logging

variable (s : Logging)

/-- The log opened again, with its length; what was held is let go first. -/
def reopened (answer : LogAnswer) : Logging × Bool :=
  match s.files.open_log_file answer with
  | (files, some length) =>
    (⟨files, { s.writer with writer := true, bytes_written := length }⟩, true)
  | (files, none) => (⟨files, { s.writer with writer := false }⟩, false)

/-- Whether the file at the log's path is shorter than what was written to it. -/
def shorter_than_written : Bool :=
  s.files.log_length.any fun length => decide (length < s.writer.bytes_written)

/-- SRC: logging.rs:188-210 -/
def rotate (faults : RotationFaults) : Logging × Bool :=
  if s.writer.writer && faults.flush then
    (⟨s.files, { s.writer with writer := false }⟩, false)
  else if s.shorter_than_written then s.reopened faults.log_opened
  else
    let shifted := rotate_archives faults s.writer.retained_files s.files.at_path
    let opened := reopened ⟨{ s.files with at_path := shifted.1 }, s.writer⟩ faults.log_opened
    (opened.1, opened.2 && shifted.2)

/-- SRC: logging.rs:157-186 -/
def rotate_or_report (faults : RotationFaults) : Logging :=
  let rotated := s.rotate faults
  let failures := if rotated.2 then 0 else rotated.1.writer.suppressed_rotation_failures + 1
  { rotated.1 with writer.suppressed_rotation_failures := failures }

/-- The start of a writer, on files that are there already; `none` is a log that cannot be
opened.
SRC: logging.rs:72-88 -/
def new (files : LogFiles) (max_file_bytes retained_files : Nat) (answer : LogAnswer)
    (faults : RotationFaults) : Option Logging :=
  match files.open_log_file answer with
  | (_, none) => none
  | (files, some length) =>
    let s : Logging := ⟨files, ⟨true, length, max_file_bytes, retained_files, 0, 0⟩⟩
    some (if length ≥ max_file_bytes then s.rotate_or_report faults else s)

/-- SRC: logging.rs:119-155 -/
def reopen_if_rotated_by_another_process (answer : LogAnswer) : Logging :=
  if s.files.log_length.isNone || s.shorter_than_written then (s.reopened answer).1 else s

/-- Every so many lines, whether another process has rotated the log.
SRC: logging.rs:94-98 -/
def staleness_checked (faults : LineFaults) : Logging :=
  let lines := s.writer.lines_since_staleness_check + 1
  if lines ≥ STALENESS_CHECK_LINES then
    reopen_if_rotated_by_another_process
      { s with writer.lines_since_staleness_check := 0 } faults.reopened
  else { s with writer.lines_since_staleness_check := lines }

/-- A line and its end. -/
def line_end (line : List Byte) : List Byte := line ++ [10]

/-- SRC: logging.rs:99-101 -/
def rotation_due (line : List Byte) : Bool :=
  s.writer.bytes_written != 0 &&
    decide (s.writer.bytes_written + (line_end line).length > s.writer.max_file_bytes)

/-- The writer as it is when the line is given to it.
SRC: logging.rs:94-103 -/
def prepared (line : List Byte) (faults : LineFaults) : Logging :=
  let checked := s.staleness_checked faults
  if checked.rotation_due line then checked.rotate_or_report faults.rotation else checked

/-- SRC: logging.rs:104-110 -/
def delivered (line : List Byte) : Logging :=
  if s.writer.writer then
    { files := s.files.append (line_end line)
      writer := { s.writer with
        bytes_written := s.writer.bytes_written + (line_end line).length } }
  else s

/-- SRC: logging.rs:90-111 -/
def write_line (line : List Byte) (faults : LineFaults) : Logging :=
  (s.prepared line faults).delivered line

end Logging

end Captastic.Model
