import Captastic.Library.Text
import Captastic.Model.Clock
import Captastic.Model.Display
import Captastic.Model.Edit

/-!
# File name templates

`captastic-config/src/filename_template.rs`, which says what a template may be, and
`captastic-app/src/filename_template.rs`, which makes a file name of one.

Text is its list of characters.  A loop that takes one token at a time has fuel, the length of
the template, which it cannot use up.  A path is its components.
-/

set_option autoImplicit false

namespace Captastic.Model

open Captastic.Library

/-! ## Validation -/

/-- SRC: captastic-config filename_template.rs:10-20 -/
def TOKENS : List String :=
  ["timestamp", "date", "time", "display", "mode", "width", "height", "application", "title"]

inductive TemplateError where
  | Empty
  | Separators
  | Unclosed (template : List Char)
  | UnknownToken (token : List Char)
  | Unmatched (template : List Char)
  | NoToken
deriving DecidableEq

/-- What an error says; `debug` is the `Debug` text of a string. -/
def TemplateError.text (debug : List Char → String) : TemplateError → String
  | .Empty => "output.filename_template must not be empty"
  | .Separators =>
    "output.filename_template must not contain path separators; it names a file, not a path"
  | .Unclosed template =>
    "output.filename_template has an unclosed '\x7b' in " ++ debug template
  | .UnknownToken token =>
    "output.filename_template uses unknown token \x7b" ++ String.ofList token ++
      "\x7d; known tokens are " ++
      ", ".intercalate (TOKENS.map fun token => "\x7b" ++ token ++ "\x7d")
  | .Unmatched template =>
    "output.filename_template has an unmatched '\x7d' in " ++ debug template
  | .NoToken =>
    "output.filename_template must use at least one token, or every capture would compete " ++
      "for one name"

/-- What is asked of a template once its last token has been taken. -/
def validate_end (template rest : List Char) (has_token : Bool) : Except TemplateError Unit :=
  if '}' ∈ rest then .error (.Unmatched template)
  else if !has_token then .error .NoToken
  else .ok ()

/-- The tokens of a template, one after the other. -/
def validate_tokens (template : List Char) : Nat → List Char → Bool → Except TemplateError Unit
  | 0, rest, has_token => validate_end template rest has_token
  | fuel + 1, rest, has_token =>
    match cut_at '{' rest with
    | none => validate_end template rest has_token
    | some (_, after) =>
      match cut_at '}' after with
      | none => .error (.Unclosed template)
      | some (token, rest) =>
        if String.ofList token ∈ TOKENS then validate_tokens template fuel rest true
        else .error (.UnknownToken token)

/-- SRC: captastic-config filename_template.rs:23-73 -/
def validate_template (template : List Char) : Except TemplateError Unit :=
  if template.all is_whitespace then .error .Empty
  else if '/' ∈ template ∨ '\\' ∈ template then .error .Separators
  else validate_tokens template template.length template false

/-! ## Expansion -/

/-- SRC: filename_template.rs:16 -/
def FORBIDDEN : List Char := "<>:\"/\\|?*".toList

/-- SRC: filename_template.rs:18-21 -/
def RESERVED_STEMS : List String :=
  ["con", "prn", "aux", "nul", "com1", "com2", "com3", "com4", "com5", "com6", "com7", "com8",
    "com9", "lpt1", "lpt2", "lpt3", "lpt4", "lpt5", "lpt6", "lpt7", "lpt8", "lpt9"]

/-- SRC: filename_template.rs:24 -/
def MAX_FIELD_CHARS : Nat := 64

/-- SRC: filename_template.rs:26 -/
def MAX_STEM_CHARS : Nat := 120

/-- SRC: filename_template.rs:28 -/
def FALLBACK_STEM : List Char := "capture".toList

/-- SRC: filename_template.rs:31-41 -/
structure TemplateContext where
  timestamp_micros : Nat
  display : List Char
  mode : List Char
  width : U32
  height : U32
  application : Option (List Char)
  title : Option (List Char)

/-- `char::is_control` -/
def is_control (c : Char) : Bool :=
  let n := c.toNat
  n < 0x20 || (0x7F ≤ n && n < 0xA0)

/-- A number padded with zeros to at least `width` characters. -/
def zero_padded (width : Nat) (n : Int) : List Char :=
  let sign := if n < 0 then ['-'] else []
  let digits := (Nat.repr n.natAbs).toList
  sign ++ List.replicate (width - sign.length - digits.length) '0' ++ digits

def date_text (parts : UtcParts) : List Char :=
  zero_padded 4 parts.year ++ zero_padded 2 parts.month ++ zero_padded 2 parts.day

def time_text (parts : UtcParts) : List Char :=
  zero_padded 2 parts.hour ++ zero_padded 2 parts.minute ++ zero_padded 2 parts.second ++
    '-' :: zero_padded 3 parts.millis

/-- What a token stands for.  SRC: filename_template.rs:68-82 -/
def TemplateContext.value (context : TemplateContext) (token : String) : List Char :=
  let parts := utc_parts context.timestamp_micros
  match token with
  | "timestamp" => date_text parts ++ '-' :: time_text parts
  | "date" => date_text parts
  | "time" => time_text parts
  | "display" => context.display
  | "mode" => context.mode
  | "width" => (Nat.repr context.width.val).toList
  | "height" => (Nat.repr context.height.val).toList
  | "application" => context.application.getD []
  | "title" => context.title.getD []
  | _ => []

/-- SRC: filename_template.rs:96-100 -/
def is_acceptable (c : Char) : Bool :=
  !is_control c && !FORBIDDEN.contains c && c != '{' && c != '}'

/-- One character of a field: what is kept, and whether a separator is due. -/
def sanitize_step (state : List Char × Bool) (c : Char) : List Char × Bool :=
  if is_acceptable c && !is_whitespace c && c != '.' then
    (if state.2 && !state.1.isEmpty then state.1 ++ ['-', c] else state.1 ++ [c], false)
  else (state.1, true)

/-- The characters of a field that are left. -/
def sanitize_from (state : List Char × Bool) : List Char → List Char
  | [] => state.1
  | c :: rest =>
    let next := sanitize_step state c
    if MAX_FIELD_CHARS ≤ next.1.length then next.1 else sanitize_from next rest

/-- SRC: filename_template.rs:91-117 -/
def sanitize_field (value : List Char) : List Char := sanitize_from ([], false) value

/-- `character == '-' || character.is_whitespace()` -/
def is_trimmed (c : Char) : Bool := c == '-' || is_whitespace c

/-- What a stem may not end in. -/
def is_untidy (c : Char) : Bool := c == '.' || c == ' ' || c == '-'

/-- The characters of a stem, runs of separators made one, up to the longest a stem may be. -/
def squeeze_from (finalized : List Char) (previous : Bool) : List Char → List Char
  | [] => finalized
  | c :: rest =>
    if c == '-' && previous then squeeze_from finalized previous rest
    else
      let finalized := finalized ++ [c]
      if MAX_STEM_CHARS ≤ finalized.length then finalized
      else squeeze_from finalized (c == '-') rest

/-- SRC: filename_template.rs:120-158 -/
def finalize_stem (stem : List Char) : List Char :=
  let finalized := (squeeze_from [] false (trim_by is_trimmed stem)).rdropWhile is_untidy
  if finalized.isEmpty then FALLBACK_STEM
  else
    let leading := to_ascii_lowercase (finalized.takeWhile (· != '.'))
    if String.ofList leading ∈ RESERVED_STEMS then finalized ++ "-capture".toList else finalized

/-- The tokens of a template replaced, one after the other. -/
def expand_tokens (context : TemplateContext) : Nat → List Char → List Char → List Char
  | 0, stem, rest => stem ++ rest
  | fuel + 1, stem, rest =>
    match cut_at '{' rest with
    | none => stem ++ rest
    | some (before, after) =>
      match cut_at '}' after with
      | none => stem ++ before ++ after
      | some (token, rest) =>
        expand_tokens context fuel
          (stem ++ before ++ sanitize_field (context.value (String.ofList token))) rest

/-- SRC: filename_template.rs:52-88 -/
def expand (template : List Char) (context : TemplateContext) : List Char :=
  finalize_stem (expand_tokens context template.length [] template)

/-! ## The path -/

/-- SRC: encode.rs:26-31 -/
inductive OutputFormat where
  | Png
  | Jpeg
  | Bmp
deriving DecidableEq

/-- SRC: encode.rs:59-65 -/
def OutputFormat.extension : OutputFormat → List Char
  | .Png => "png".toList
  | .Jpeg => "jpg".toList
  | .Bmp => "bmp".toList

/-- `std::path::Component`; of prefixes, only that of a drive. -/
inductive Component where
  | Prefix (drive : Char)
  | RootDir
  | CurDir
  | ParentDir
  | Normal (name : List Char)
deriving DecidableEq

inductive PathStyle where
  | Posix
  | Drives
deriving DecidableEq

/-- Whether a character parts the components of a path. -/
def is_separator : PathStyle → Char → Bool
  | .Posix, c => c = '/'
  | .Drives, c => c = '/' || c = '\\'

/-- The drive a name without separators begins with, and the rest of it. -/
def drive_of (style : PathStyle) (name : List Char) : Option (Char × List Char) :=
  match style, name with
  | .Drives, drive :: ':' :: rest => if drive.isAlpha then some (drive.toUpper, rest) else none
  | _, _ => none

/-- The component that a name without separators or a drive is. -/
def name_component (name : List Char) : List Component :=
  if name = [] ∨ name = ['.'] then []
  else if name = ['.', '.'] then [.ParentDir]
  else [.Normal name]

/-- `Path::join` with a name without separators: a drive of its own replaces the directory. -/
def join (style : PathStyle) (directory : List Component) (name : List Char) : List Component :=
  match drive_of style name with
  | some (drive, rest) => .Prefix drive :: name_component rest
  | none => directory ++ name_component name

/-- `Path::parent` -/
def parent (path : List Component) : Option (List Component) :=
  match path.getLast? with
  | some .CurDir | some .ParentDir | some (.Normal _) => some path.dropLast
  | _ => none

/-- SRC: filename_template.rs:163-174 -/
def is_inside (directory path : List Component) : Bool :=
  if .ParentDir ∈ path then false
  else
    match parent path with
    | some parent => parent == directory
    | none => false

/-- A name with a separator is several components, so it is no direct child of the directory and
is refused.  Pieces that `Path` drops (an empty one, or a `.`) are not told apart there: sanitizing
leaves no name with a separator.
SRC: filename_template.rs:177-180 -/
def resolve (style : PathStyle) (directory : List Component) (stem extension : List Char) :
    Option (List Component) :=
  let name := stem ++ '.' :: extension
  let candidate := join style directory name
  if !name.any (is_separator style) ∧ is_inside directory candidate then some candidate else none

end Captastic.Model
