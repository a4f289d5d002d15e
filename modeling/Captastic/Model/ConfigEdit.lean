import Captastic.Library.Entries
import Captastic.Model.Fsio
import Captastic.Model.UiState

/-!
# One setting changed in the user's configuration

`captastic-config/src/config_edit.rs`: the three settings that commands write into the user's own
file, and how such a file is read, changed and written, or created.

`toml_edit` is a parameter, `TomlEdit`: it reads a text into a `Document` and prints one.  The
document is the tree it documents, where a key, a value and a table carry the text around them;
a comment above a key is the key's, one after a value is the value's.  The call sees the directory
of the path as it is at each of its steps, so that what other writers do between them is any
change at all; it changes the path by the last step of a write alone.
-/

set_option autoImplicit false

namespace Captastic.Model

open Captastic.Library

/-! ## Documents -/

/-- `toml_edit::Decor`: the text before and after, where it is not the default. -/
structure Decor where
  before : Option String
  after : Option String
deriving DecidableEq, Repr

/-- `Decor::default` -/
def Decor.default : Decor := ⟨none, none⟩

/-- `toml_edit::Key` -/
structure TomlKey where
  name : String
  decor : Decor
deriving DecidableEq, Repr

/-- `Key::new` -/
def TomlKey.new (name : String) : TomlKey := ⟨name, .default⟩

/-- `toml_edit::Item`, and the values and tables in it.  A scalar is a string, integer, float,
boolean or datetime as it is written. -/
inductive TomlItem where
  | scalar (type_name text : String) (decor : Decor)
  | array (decor : Decor) (values : List TomlItem) (trailing : String)
  | inline_table (decor : Decor) (preamble : String) (entries : List (TomlKey × TomlItem))
  | table (decor : Decor) (implicit dotted : Bool) (entries : List (TomlKey × TomlItem))
  | array_of_tables (tables : List TomlItem)

namespace TomlItem

/-- `Item::type_name` -/
def type_name : TomlItem → String
  | scalar type_name _ _ => type_name
  | array _ _ _ => "array"
  | inline_table _ _ _ => "inline table"
  | table _ _ _ _ => "table"
  | array_of_tables _ => "array of tables"

/-- `Table::new` -/
def new_table : TomlItem := table .default false false []

/-- `Item::as_table_mut` and `Table::set_implicit(false)`. -/
def set_explicit : TomlItem → TomlItem
  | table decor _ dotted entries => table decor false dotted entries
  | item => item

/-- `Item::as_table_like_mut`: the entries of a table or an inline one. -/
def as_table_like : TomlItem → Option (List (TomlKey × TomlItem))
  | inline_table _ _ entries => some entries
  | table _ _ _ entries => some entries
  | _ => none

/-- The entries of a table changed. -/
def with_entries (entries : List (TomlKey × TomlItem)) : TomlItem → TomlItem
  | inline_table decor preamble _ => inline_table decor preamble entries
  | table decor implicit dotted _ => table decor implicit dotted entries
  | item => item

end TomlItem

/-- `toml_edit::Document` -/
structure Document where
  decor : Decor
  entries : List (TomlKey × TomlItem)
  trailing : String

/-- What is used of `toml_edit` besides the tree. -/
structure TomlEdit where
  parse : String → Except String Document
  to_string : Document → String

/-! ## The settings -/

/-- A `toml_edit::Value` made of a `bool` or a `str`, as it is written. -/
structure SettingValue where
  type_name : String
  text : String
deriving DecidableEq, Repr

namespace SettingValue

def from_bool (value : Bool) : SettingValue := ⟨"boolean", if value then "true" else "false"⟩

/-- A `str` that needs no escapes. -/
def from_str (value : String) : SettingValue := ⟨"string", "\"" ++ value ++ "\""⟩

end SettingValue

/-- `toml_edit::value` -/
def toml_value (v : SettingValue) : TomlItem := .scalar v.type_name v.text .default

/-- SRC: config_edit.rs:24-31 -/
structure Setting where
  section_name : String
  key : String
  value : SettingValue
  created_when : String
deriving DecidableEq, Repr

/-- SRC: config_edit.rs:63-73 -/
def output_enabled (enabled : Bool) : Setting where
  section_name := "output"
  key := "enabled"
  value := .from_bool enabled
  created_when := "\"Save Captures to Disk\" was switched on from the\n# notification area"

/-- SRC: config_edit.rs:78-88 -/
def recording_format (extension : String) : Setting where
  section_name := "recording"
  key := "format"
  value := .from_str extension
  created_when := "\"Record As\" was changed in the overlay's\n# Options menu"

/-- SRC: config_edit.rs:92-102 -/
def recording_review (review : Bool) : Setting where
  section_name := "recording"
  key := "review"
  value := .from_bool review
  created_when := "\"Review Recordings\" was switched from the\n# notification area"

/-- SRC: lib.rs:36 -/
def CONFIG_SCHEMA_VERSION : Nat := 1

/-- SRC: config_edit.rs:37-50 -/
def new_document (setting : Setting) : String :=
  "# Created by Captastic when " ++ setting.created_when ++
    ". Every setting not named here keeps its default; see\n" ++
    "# captastic.example.toml for the full list.\n" ++
    "schema_version = " ++ toString CONFIG_SCHEMA_VERSION ++ "\n\n" ++
    "[" ++ setting.section_name ++ "]\n" ++
    setting.key ++ " = " ++ setting.value.text ++ "\n"

/-- SRC: config_edit.rs:167-198 -/
def set_key (document : Document) (setting : Setting) : Except ConfigError Document :=
  let found := Entries.lookup TomlKey.name setting.section_name document.entries
  let output := (found.getD .new_table).set_explicit
  match output.as_table_like with
  | none =>
    .error (.InvalidValue (setting.section_name ++ " must be a table to hold " ++
      setting.section_name ++ "." ++ setting.key ++ ", not " ++ output.type_name))
  | some entries =>
    let changed := Entries.put TomlKey.name (.new setting.key) (toml_value setting.value) entries
    .ok { document with
      entries := Entries.put TomlKey.name (.new setting.section_name)
        (output.with_entries changed) document.entries }

/-! ## The file -/

/-- `str::as_bytes` -/
def as_bytes (text : String) : List UInt8 := text.toUTF8.data.toList

/-- The text of bytes that are UTF-8. -/
def decoded (bytes : List UInt8) : Option String := String.fromUTF8? ⟨bytes.toArray⟩

/-- A path: how it is displayed, its parent where that is not empty, and the name it ends in. -/
structure ConfigPath where
  display : String
  parent : Option String
  file_name : Option String

/-- What one pass finds: the directory when the file is read and when it is written, why what is
there cannot be read, and whether the check before a rename found a file. -/
structure SettingPass where
  at_read : Files
  read : Option IoError
  found_at_check : Bool
  at_write : Files
  io : WriteIo

/-- What the operating system answers while a setting is changed. -/
structure SettingIo where
  create_dir_all : Option IoError
  acquire : Option ConfigError
  pass : Nat → SettingPass

/-- `fs::read_to_string` -/
def read_to_string (pass : SettingPass) (file_name : Option String) : Except IoError String :=
  match pass.read with
  | some error => .error error
  | none =>
    match pass.at_read.found file_name with
    | none => .error ⟨.NotFound, "not found"⟩
    | some bytes =>
      match decoded bytes with
      | some text => .ok text
      | none => .error ⟨.Other, "stream did not contain valid UTF-8"⟩

/-- `finalize_new` among other writers: Windows refuses the move in one step, and elsewhere the
file is renamed once the check found none.
SRC: fsio.rs:348-367, 404-436 -/
def move_new (platform : Platform) (io : WriteIo) (found_at_check : Bool) (files : Files)
    (from_name to_name : String) : Except IoError Unit × Files :=
  match platform with
  | .Windows => move_file io false files from_name to_name
  | .Unix =>
    if found_at_check then (.error ⟨.AlreadyExists, "destination already exists"⟩, files)
    else move_file io true files from_name to_name

/-- Moving a new file fails and leaves the files, or renames the one. -/
theorem move_new_whole (platform : Platform) (io : WriteIo) (found_at_check : Bool)
    (files : Files) (from_name to_name : String) :
    (∃ error, move_new platform io found_at_check files from_name to_name =
      (.error error, files)) ∨
    move_new platform io found_at_check files from_name to_name =
      (.ok (), files.rename from_name to_name) := by
  unfold move_new
  cases platform with
  | Windows => exact move_file_whole io false files from_name to_name
  | Unix =>
    dsimp only
    split
    · exact .inl ⟨_, rfl⟩
    · exact move_file_whole io true files from_name to_name

def finalize_new_among (platform : Platform) (io : WriteIo) (found_at_check : Bool) : Replace where
  call := move_new platform io found_at_check
  whole := move_new_whole platform io found_at_check

/-- A write of the file: the text that was read and the document that is written, if there was a
text; the directory before and after it, and what it answers. -/
structure ConfigWrite where
  edit : Option (String × Document)
  before : Files
  answer : Except IoError Unit
  after : Files

section Set

variable (toml : TomlEdit) (platform : Platform) (path : ConfigPath) (setting : Setting)

/-- The file created, if it is still missing. -/
def create_config (pass : SettingPass) : ConfigWrite :=
  let outcome := atomic_write pass.io platform
    (finalize_new_among platform pass.io pass.found_at_check) path.file_name
    (as_bytes (new_document setting)) pass.at_write
  ⟨none, pass.at_write, outcome.1, outcome.2⟩

/-- The file replaced by what was made of its text. -/
def replace_config (pass : SettingPass) (text : String) (document : Document) : ConfigWrite :=
  let outcome := atomic_write pass.io platform (replace_file pass.io) path.file_name
    (as_bytes (toml.to_string document)) pass.at_write
  ⟨some (text, document), pass.at_write, outcome.1, outcome.2⟩

/-- The error of a write. -/
def write_error (error : IoError) : ConfigError := .Write path.display error.message

/-- One pass, with the writes it makes; no answer is another pass.
SRC: config_edit.rs:122-157 -/
def set_once (attempt : Nat) (pass : SettingPass) :
    Option (Except ConfigError Unit) × List ConfigWrite :=
  match read_to_string pass path.file_name with
  | .error error =>
    if error.kind = .NotFound then
      let write := create_config platform path setting pass
      match write.answer with
      | .ok () => (some (.ok ()), [write])
      | .error error =>
        if error.kind = .AlreadyExists ∧ attempt = 0 then (none, [write])
        else (some (.error (write_error path error)), [write])
    else (some (.error (.Read path.display error.message)), [])
  | .ok text =>
    match toml.parse text with
    | .error message => (some (.error (.Edit message)), [])
    | .ok document =>
      match set_key document setting with
      | .error error => (some (.error error), [])
      | .ok document =>
        let write := replace_config toml platform path pass text document
        match write.answer with
        | .ok () => (some (.ok ()), [write])
        | .error error => (some (.error (write_error path error)), [write])

/-- The passes that are left.
SRC: config_edit.rs:122-164 -/
def set_in_passes (pass : Nat → SettingPass) : List Nat →
    Except ConfigError Unit × List ConfigWrite
  | [] => (.error (.Write path.display
      "the configuration file appeared and disappeared while it was being written"), [])
  | attempt :: rest =>
    match set_once toml platform path setting attempt (pass attempt) with
    | (some answer, writes) => (answer, writes)
    | (none, writes) =>
      let later := set_in_passes pass rest
      (later.1, writes ++ later.2)

/-- SRC: config_edit.rs:104-164 -/
def set_setting (io : SettingIo) : Except ConfigError Unit × List ConfigWrite :=
  match path.parent, io.create_dir_all with
  | some parent, some error => (.error (.Write parent error.message), [])
  | _, _ =>
    match io.acquire with
    | some error => (.error error, [])
    | none => set_in_passes toml platform path setting io.pass (List.range 2)

end Set

end Captastic.Model
