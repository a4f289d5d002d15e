import Captastic.Library.Text
import Captastic.Model.Dispatch
import Captastic.Model.UiState

/-!
# Hotkeys

The hotkeys of `captastic-config/src/lib.rs`: the text of a chord, read and written, and the
bindings a configuration comes to.

Text is its list of characters, and a byte of a key the ASCII character it stands for.
-/

set_option autoImplicit false

namespace Captastic.Model

open Captastic.Library

/-- SRC: lib.rs:51-57 -/
def HotkeyAction.ALL : List HotkeyAction :=
  [.LastWorkflow, .Region, .Window, .FullDisplay, .RepeatLastRegion]

/-- SRC: lib.rs:80-84 -/
inductive HotkeyKey where
  | Letter (letter : Char)
  | Digit (digit : Char)
  | Function (number : Nat)
deriving DecidableEq

/-- The flags of `HotkeyModifiers`. -/
inductive Modifier where
  | CTRL
  | ALT
  | SHIFT
  | WIN
deriving DecidableEq

/-- The label a modifier is written with. -/
def Modifier.label : Modifier → List Char
  | .CTRL => "Ctrl".toList
  | .ALT => "Alt".toList
  | .SHIFT => "Shift".toList
  | .WIN => "Win".toList

/-- SRC: lib.rs:87-115 -/
structure HotkeyModifiers where
  ctrl : Bool
  alt : Bool
  shift : Bool
  win : Bool
deriving DecidableEq

namespace HotkeyModifiers

/-- `HotkeyModifiers::default()` -/
def none_set : HotkeyModifiers := ⟨false, false, false, false⟩

def has (modifiers : HotkeyModifiers) : Modifier → Bool
  | .CTRL => modifiers.ctrl
  | .ALT => modifiers.alt
  | .SHIFT => modifiers.shift
  | .WIN => modifiers.win

/-- `self.0 |= flag` -/
def set (modifiers : HotkeyModifiers) : Modifier → HotkeyModifiers
  | .CTRL => { modifiers with ctrl := true }
  | .ALT => { modifiers with alt := true }
  | .SHIFT => { modifiers with shift := true }
  | .WIN => { modifiers with win := true }

end HotkeyModifiers

/-- SRC: lib.rs:118-122 -/
structure HotkeyChord where
  modifiers : HotkeyModifiers
  key : HotkeyKey
deriving DecidableEq

/-- SRC: lib.rs:226-241 -/
inductive HotkeyParseError where
  | Empty
  | EmptyToken
  | DuplicateModifier (label : List Char)
  | MissingKey
  | MultipleKeys
  | UnsupportedKey (token : List Char)
deriving DecidableEq

/-- What an error says; `debug` is the `Debug` text of a string. -/
def HotkeyParseError.text (debug : List Char → String) : HotkeyParseError → String
  | .Empty => "hotkey binding must not be empty"
  | .EmptyToken => "hotkey binding contains an empty token"
  | .DuplicateModifier label => "hotkey binding repeats modifier " ++ String.ofList label
  | .MissingKey => "hotkey binding must contain exactly one non-modifier key"
  | .MultipleKeys => "hotkey binding contains multiple non-modifier keys"
  | .UnsupportedKey token =>
    "unsupported hotkey key " ++ debug token ++ "; use A-Z, 0-9, or F1-F24"

/-! ## Reading -/

/-- `str::trim` -/
def trim (text : List Char) : List Char := trim_by is_whitespace text

/-- `str::eq_ignore_ascii_case` -/
def eq_ignore_ascii_case (left right : List Char) : Bool :=
  to_ascii_lowercase left == to_ascii_lowercase right

/-- SRC: lib.rs:107-114 -/
def HotkeyModifiers.insert (modifiers : HotkeyModifiers) (flag : Modifier) :
    Except HotkeyParseError HotkeyModifiers :=
  if modifiers.has flag then .error (.DuplicateModifier flag.label) else .ok (modifiers.set flag)

/-- `str::parse::<u8>` -/
def parse_u8 (text : List Char) : Option Nat :=
  let digits := if text.head? = some '+' then text.tail else text
  let number := digits.foldl (fun number digit => number * 10 + (digit.toNat - '0'.toNat)) 0
  if digits ≠ [] ∧ digits.all Char.isDigit ∧ number ≤ 255 then some number else none

/-- `str::len` -/
def byte_len (text : List Char) : Nat := (text.map Char.utf8Size).sum

/-- SRC: lib.rs:206-224 -/
def parse_hotkey_key (token : List Char) : Except HotkeyParseError HotkeyKey :=
  match token with
  | [] => .error (.UnsupportedKey token)
  | [c] =>
    if c.isAlpha then .ok (.Letter c.toUpper)
    else if c.isDigit then .ok (.Digit c)
    else .error (.UnsupportedKey token)
  | c :: number_text =>
    if c.toLower = 'f' ∧ byte_len number_text ≤ 2 ∧ number_text.head? ≠ some '0' then
      match parse_u8 number_text with
      | some number =>
        if 1 ≤ number ∧ number ≤ 24 then .ok (.Function number)
        else .error (.UnsupportedKey token)
      | none => .error (.UnsupportedKey token)
    else .error (.UnsupportedKey token)

/-- SRC: lib.rs:148-160 -/
def modifier_of (token : List Char) : Option Modifier :=
  if eq_ignore_ascii_case token "ctrl".toList || eq_ignore_ascii_case token "control".toList then
    some .CTRL
  else if eq_ignore_ascii_case token "alt".toList then some .ALT
  else if eq_ignore_ascii_case token "shift".toList then some .SHIFT
  else if eq_ignore_ascii_case token "win".toList || eq_ignore_ascii_case token "windows".toList then
    some .WIN
  else none

/-- One token of a chord.  SRC: lib.rs:143-169 -/
def chord_step (state : HotkeyModifiers × Option HotkeyKey) (token : List Char) :
    Except HotkeyParseError (HotkeyModifiers × Option HotkeyKey) :=
  let token := trim token
  if token = [] then .error .EmptyToken
  else
    match modifier_of token with
    | some flag => (state.1.insert flag).map fun modifiers => (modifiers, state.2)
    | none =>
      if state.2.isSome then .error .MultipleKeys
      else (parse_hotkey_key token).map fun key => (state.1, some key)

/-- SRC: lib.rs:136-175 -/
def HotkeyChord.from_str (value : List Char) : Except HotkeyParseError HotkeyChord := do
  let value := trim value
  if value = [] then .error .Empty
  else
    let (modifiers, key) ← (value.splitOn '+').foldlM chord_step (.none_set, none)
    match key with
    | none => .error .MissingKey
    | some key => .ok ⟨modifiers, key⟩

/-! ## Writing -/

/-- What a key is written as. -/
def HotkeyKey.text : HotkeyKey → List Char
  | .Letter letter => [letter]
  | .Digit digit => [digit]
  | .Function number => 'F' :: (Nat.repr number).toList

/-- A label, behind a separator where it is not the first. -/
def write_label (modifiers : HotkeyModifiers) (state : List Char × Bool) (flag : Modifier) :
    List Char × Bool :=
  if modifiers.has flag then
    ((if state.2 then state.1 else state.1 ++ ['+']) ++ flag.label, false)
  else state

/-- SRC: lib.rs:177-204 -/
def HotkeyChord.to_text (chord : HotkeyChord) : List Char :=
  let (written, first) :=
    [Modifier.CTRL, .ALT, .SHIFT, .WIN].foldl (write_label chord.modifiers) ([], true)
  (if first then written else written ++ ['+']) ++ chord.key.text

/-! ## The bindings of a configuration -/

/-- SRC: lib.rs:243-247 -/
structure HotkeyBinding where
  action : HotkeyAction
  chord : HotkeyChord
deriving DecidableEq

/-- SRC: lib.rs:901-914 -/
structure HotkeyBindingsConfig where
  last_workflow : Option (List Char)
  region : Option (List Char)
  window : Option (List Char)
  full_display : Option (List Char)
  repeat_last_region : Option (List Char)

/-- SRC: lib.rs:935-943 -/
def HotkeyBindingsConfig.value (bindings : HotkeyBindingsConfig) :
    HotkeyAction → Option (List Char)
  | .LastWorkflow => bindings.last_workflow
  | .Region => bindings.region
  | .Window => bindings.window
  | .FullDisplay => bindings.full_display
  | .RepeatLastRegion => bindings.repeat_last_region

/-- SRC: lib.rs:837-848 -/
structure HotkeyConfig where
  binding : Option (List Char)
  bindings : HotkeyBindingsConfig

/-- The keys a `[hotkey]` table can bind a chord under. -/
inductive HotkeyField where
  | binding
  | bindings (action : HotkeyAction)
deriving DecidableEq

/-- The configuration a table comes to whose keys are listed with their values. -/
def HotkeyConfig.of_listed (listed : List (HotkeyField × List Char)) : HotkeyConfig where
  binding := listed.lookup .binding
  bindings :=
    { last_workflow := listed.lookup (.bindings .LastWorkflow)
      region := listed.lookup (.bindings .Region)
      window := listed.lookup (.bindings .Window)
      full_display := listed.lookup (.bindings .FullDisplay)
      repeat_last_region := listed.lookup (.bindings .RepeatLastRegion) }

namespace HotkeyConfig

variable (debug : List Char → String) (config : HotkeyConfig)

/-- The text an action is bound to.  SRC: lib.rs:875-884 -/
def bound (action : HotkeyAction) : Option (List Char) :=
  if action = .LastWorkflow then config.bindings.last_workflow.or config.binding
  else config.bindings.value action

/-- One action: its chord, unless an earlier one has it.  SRC: lib.rs:874-896 -/
def resolve_step (bindings : List HotkeyBinding) (action : HotkeyAction) :
    Except ConfigError (List HotkeyBinding) :=
  match config.bound action with
  | none => .ok bindings
  | some value =>
    match HotkeyChord.from_str value with
    | .error error =>
      .error (.InvalidValue
        ("hotkey.bindings." ++ action.as_str ++ " is invalid: " ++ error.text debug))
    | .ok chord =>
      match bindings.find? fun binding => binding.chord = chord with
      | some previous =>
        .error (.InvalidValue
          ("hotkey chord " ++ String.ofList chord.to_text ++ " is assigned to both " ++
            previous.action.as_str ++ " and " ++ action.as_str))
      | none => .ok (bindings ++ [⟨action, chord⟩])

/-- SRC: lib.rs:864-898 -/
def resolved_bindings : Except ConfigError (List HotkeyBinding) :=
  if config.binding.isSome && config.bindings.last_workflow.isSome then
    .error (.InvalidValue
      ("hotkey.binding and hotkey.bindings.last_workflow define the same action; remove one"))
  else HotkeyAction.ALL.foldlM (resolve_step debug config) []

end HotkeyConfig

end Captastic.Model
