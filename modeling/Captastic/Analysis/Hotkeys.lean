import Mathlib
import Captastic.Model.Hotkey

/-!
# Hotkeys read, written and bound

A chord is read word by word: the tokens between the separators, without the whitespace around
them, each spell a modifier or a key, in any case.  So a text is a hotkey exactly where its words
name no modifier twice and exactly one key (`from_str_eq_ok_iff`), and what a hotkey is written
as is such a text again (`from_str_to_text`).  The bindings of a configuration are refused
for reasons that do not look at the order of its actions (`resolved_bindings_eq_ok_iff`).
-/

set_option autoImplicit false

namespace Captastic.Analysis

open Captastic.Library Captastic.Model

/-! ## Keys -/

/-- The keys there are: A-Z, 0-9 and F1-F24. -/
def KnownKey : HotkeyKey → Prop
  | .Letter letter => letter.isUpper = true
  | .Digit digit => digit.isDigit = true
  | .Function number => 1 ≤ number ∧ number ≤ 24

def digit_chars : List Char := "0123456789".toList

/-- A digit is one of the ten. -/
theorem mem_digit_chars {c : Char} (digit : c.isDigit = true) : c ∈ digit_chars := by
  have range : 48 ≤ c.toNat ∧ c.toNat ≤ 57 := by
    unfold Char.isDigit at digit
    simp only [Bool.and_eq_true, decide_eq_true_eq] at digit
    exact ⟨digit.1, digit.2⟩
  rw [← Char.ofNat_toNat c]
  obtain ⟨low, high⟩ := range
  interval_cases c.toNat <;> decide

/-- Digits have no case. -/
theorem toLower_of_digit {c : Char} (digit : c.isDigit = true) : c.toLower = c := by
  have all : digit_chars.all (fun c => c.toLower == c) = true := by decide
  exact eq_of_beq (List.all_eq_true.mp all c (mem_digit_chars digit))

/-- A digit is no letter. -/
theorem not_alpha_of_digit {c : Char} (digit : c.isDigit = true) : c.isAlpha = false := by
  have all : digit_chars.all (fun c => c.isAlpha == false) = true := by decide
  exact eq_of_beq (List.all_eq_true.mp all c (mem_digit_chars digit))

/-- A character that is a digit in lower case is that digit. -/
theorem eq_of_toLower_digit {c d : Char} (digit : d.isDigit = true) (lower : c.toLower = d) :
    c = d := by
  have alpha : c.isAlpha = false := by
    rw [← Char.isAlpha_toLower_eq_isAlpha, lower, not_alpha_of_digit digit]
  have upper : ¬ c.isUpper = true := by
    intro upper
    rw [Char.isAlpha, upper, Bool.true_or] at alpha
    cases alpha
  rw [← lower, Char.toLower_eq_of_not_isUpper upper]

/-- A text has no more characters than bytes. -/
theorem length_le_byte_len (text : List Char) : text.length ≤ byte_len text := by
  unfold byte_len
  induction text with
  | nil => exact Nat.le_refl 0
  | cons c text ih =>
    rw [List.map_cons, List.sum_cons, List.length_cons]
    have one := Char.utf8Size_pos c
    omega

/-- A short number is written as it is read. -/
theorem parse_u8_short {text : List Char} {number : Nat} (plus : '+' ∉ text)
    (short : byte_len text ≤ 2) (lead : text.head? ≠ some '0')
    (parsed : parse_u8 text = some number) : text = (Nat.repr number).toList := by
  have unsigned : text.head? ≠ some '+' := fun same => plus (List.mem_of_mem_head? same)
  have length := (length_le_byte_len text).trans short
  unfold parse_u8 at parsed
  rw [if_neg unsigned] at parsed
  dsimp only at parsed
  split at parsed
  · rename_i fits
    obtain ⟨some_text, digits, -⟩ := fits
    obtain rfl := Option.some.inj parsed
    have known (c : Char) (member : c ∈ text) : c ∈ digit_chars :=
      mem_digit_chars (List.all_eq_true.mp digits c member)
    match text with
    | [] => exact absurd rfl some_text
    | [a] =>
      have all : digit_chars.all
          (fun a => [a] == (Nat.repr (0 * 10 + (a.toNat - '0'.toNat))).toList) =
          true := by decide
      exact eq_of_beq (List.all_eq_true.mp all a (known a List.mem_cons_self))
    | [a, b] =>
      have all : digit_chars.all (fun a => digit_chars.all fun b => a == '0' || [a, b] ==
          (Nat.repr ((0 * 10 + (a.toNat - '0'.toNat)) * 10 + (b.toNat - '0'.toNat))).toList) =
          true := by decide +kernel
      have pair := List.all_eq_true.mp (List.all_eq_true.mp all a (known a List.mem_cons_self)) b
        (known b (List.mem_cons_of_mem a List.mem_cons_self))
      rcases Bool.or_eq_true_iff.mp pair with zero | same
      · exact absurd (congrArg some (eq_of_beq zero)) lead
      · exact eq_of_beq same
    | _ :: _ :: _ :: _ =>
      simp only [List.length_cons] at length
      omega
  · cases parsed

/-- What a function key's number is written as. -/
theorem repr_facts {number : Nat} (known : 1 ≤ number ∧ number ≤ 24) :
    parse_u8 (Nat.repr number).toList = some number ∧ byte_len (Nat.repr number).toList ≤ 2 ∧
      (Nat.repr number).toList.head? ≠ some '0' ∧ (Nat.repr number).toList ≠ [] ∧
      (Nat.repr number).toList.all Char.isDigit = true := by
  obtain ⟨low, high⟩ := known
  interval_cases number <;> decide

/-- What reads as digits in any case is those digits. -/
theorem map_toLower_digits {text digits : List Char} (all : digits.all Char.isDigit = true)
    (lower : to_ascii_lowercase text = to_ascii_lowercase digits) : text = digits := by
  unfold to_ascii_lowercase at lower
  induction digits generalizing text with
  | nil => exact List.map_eq_nil_iff.mp lower
  | cons d digits ih =>
    rw [List.all_cons, Bool.and_eq_true] at all
    cases text with
    | nil => cases lower
    | cons c text =>
      rw [List.map_cons, List.map_cons] at lower
      obtain ⟨head, tail⟩ := List.cons.inj lower
      rw [toLower_of_digit all.1] at head
      rw [eq_of_toLower_digit all.1 head, ih all.2 tail]

/-- A key of more than one character is a function key, by its number, or one that has a name. -/
theorem parse_hotkey_key_many {c : Char} {text : List Char} (some_text : text ≠ []) :
    parse_hotkey_key (c :: text) =
      if c.toLower = 'f' ∧ byte_len text ≤ 2 ∧ text.head? ≠ some '0' then
        match parse_u8 text with
        | some number =>
          if 1 ≤ number ∧ number ≤ 24 then .ok (.Function number)
          else .error (.UnsupportedKey (c :: text))
        | none => .error (.UnsupportedKey (c :: text))
      else .error (.UnsupportedKey (c :: text)) := by
  cases text with
  | nil => exact absurd rfl some_text
  | cons d text => rfl

/-- A key that is read is a known one, under its own text in any case. -/
theorem known_of_parse {token : List Char} {key : HotkeyKey} (plus : '+' ∉ token)
    (parsed : parse_hotkey_key token = .ok key) :
    KnownKey key ∧ to_ascii_lowercase token = to_ascii_lowercase key.text := by
  match token with
  | [] => cases parsed
  | [c] =>
    unfold parse_hotkey_key at parsed
    dsimp only at parsed
    split at parsed
    · rename_i alpha
      cases parsed
      refine ⟨(Char.isUpper_toUpper_eq_isAlpha c).trans alpha, ?_⟩
      exact congrArg (fun c => [c]) (Char.toLower_toUpper_eq_toLower c).symm
    · split at parsed
      · rename_i digit
        cases parsed
        exact ⟨digit, rfl⟩
      · cases parsed
  | c :: d :: text =>
    rw [parse_hotkey_key_many (List.cons_ne_nil d text)] at parsed
    split at parsed
    · rename_i shape
      cases number : parse_u8 (d :: text) with
      | none =>
        rw [number] at parsed
        cases parsed
      | some n =>
        rw [number] at parsed
        dsimp only at parsed
        split at parsed
        · rename_i known
          cases parsed
          have digits := parse_u8_short (fun member => plus (List.mem_cons_of_mem c member))
            shape.2.1 shape.2.2 number
          refine ⟨known, ?_⟩
          unfold to_ascii_lowercase HotkeyKey.text
          rw [digits, List.map_cons, List.map_cons, shape.1]
          rfl
        · cases parsed
    · cases parsed

/-- A known key is read from its text in any case. -/
theorem parse_of_known {token : List Char} {key : HotkeyKey} (known : KnownKey key)
    (lower : to_ascii_lowercase token = to_ascii_lowercase key.text) :
    parse_hotkey_key token = .ok key := by
  cases key with
  | Letter letter =>
    obtain ⟨c, rfl, same⟩ := List.map_eq_singleton_iff.mp lower
    have upper : letter.isUpper = true := known
    have alpha : c.isAlpha = true := by
      rw [← Char.isAlpha_toLower_eq_isAlpha, same, Char.isAlpha_toLower_eq_isAlpha, Char.isAlpha,
        upper, Bool.true_or]
    have back : c.toUpper = letter := by
      rw [← Char.toUpper_toLower_eq_toUpper, same, Char.toUpper_toLower_eq_toUpper]
      exact Char.toUpper_eq_of_not_isLower (Char.not_isLower_of_isUpper upper)
    unfold parse_hotkey_key
    dsimp only
    rw [if_pos alpha, back]
  | Digit digit =>
    have is_digit : digit.isDigit = true := known
    have all : [digit].all Char.isDigit = true := by rw [List.all_cons, is_digit]; rfl
    obtain rfl := map_toLower_digits all lower
    unfold parse_hotkey_key
    dsimp only
    rw [if_neg (by rw [not_alpha_of_digit is_digit]; exact Bool.false_ne_true), if_pos is_digit]
  | Function number =>
    obtain ⟨parsed, short, lead, some_text, digits⟩ := repr_facts known
    cases token with
    | nil => cases lower
    | cons c text =>
      obtain ⟨head, tail⟩ := List.cons.inj lower
      obtain rfl := map_toLower_digits digits tail
      have is_f : c.toLower = 'f' := head
      have range : 1 ≤ number ∧ number ≤ 24 := known
      rw [parse_hotkey_key_many some_text, if_pos ⟨is_f, short, lead⟩, parsed]
      dsimp only
      rw [if_pos range]

/-- **A key** is read from exactly the spellings of its text. -/
theorem parse_hotkey_key_eq_ok_iff {token : List Char} {key : HotkeyKey} (plus : '+' ∉ token) :
    parse_hotkey_key token = .ok key ↔
      KnownKey key ∧ to_ascii_lowercase token = to_ascii_lowercase key.text :=
  ⟨known_of_parse plus, fun both => parse_of_known both.1 both.2⟩

/-! ## Words -/

/-- The names of a modifier, in lower case. -/
def modifier_names : Modifier → List (List Char)
  | .CTRL => ["ctrl".toList, "control".toList]
  | .ALT => ["alt".toList]
  | .SHIFT => ["shift".toList]
  | .WIN => ["win".toList, "windows".toList]

/-- A word of a chord. -/
inductive Word where
  | modifier (flag : Modifier)
  | key (key : HotkeyKey)

/-- What a word may be spelled as: a name of its modifier or the text of its key, in any case. -/
def Word.Spells (token : List Char) : Word → Prop
  | .modifier flag => to_ascii_lowercase token ∈ modifier_names flag
  | .key pressed =>
    KnownKey pressed ∧ to_ascii_lowercase token = to_ascii_lowercase pressed.text

/-- What a word adds to a chord: a modifier it does not have yet, or its key. -/
def Word.add (state : HotkeyModifiers × Option HotkeyKey) :
    Word → Option (HotkeyModifiers × Option HotkeyKey)
  | .modifier flag => if state.1.has flag then none else some (state.1.set flag, state.2)
  | .key pressed => if state.2.isSome then none else some (state.1, some pressed)

/-- A token is a modifier exactly where it is one of its names, in any case. -/
theorem modifier_of_eq_some_iff {token : List Char} {flag : Modifier} :
    modifier_of token = some flag ↔ to_ascii_lowercase token ∈ modifier_names flag := by
  unfold modifier_of eq_ignore_ascii_case
  generalize to_ascii_lowercase token = name
  by_cases known : name ∈ ["ctrl".toList, "control".toList, "alt".toList, "shift".toList,
    "win".toList, "windows".toList]
  · simp only [List.mem_cons, List.not_mem_nil, or_false] at known
    rcases known with rfl | rfl | rfl | rfl | rfl | rfl <;> cases flag <;> decide
  · simp only [List.mem_cons, List.not_mem_nil, or_false, not_or] at known
    obtain ⟨ctrl, control, alt, shift, win, windows⟩ := known
    have lower : to_ascii_lowercase "ctrl".toList = "ctrl".toList ∧
        to_ascii_lowercase "control".toList = "control".toList ∧
        to_ascii_lowercase "alt".toList = "alt".toList ∧
        to_ascii_lowercase "shift".toList = "shift".toList ∧
        to_ascii_lowercase "win".toList = "win".toList ∧
        to_ascii_lowercase "windows".toList = "windows".toList := by decide
    rw [lower.1, lower.2.1, lower.2.2.1, lower.2.2.2.1, lower.2.2.2.2.1, lower.2.2.2.2.2,
      beq_false_of_ne ctrl, beq_false_of_ne control, beq_false_of_ne alt, beq_false_of_ne shift,
      beq_false_of_ne win, beq_false_of_ne windows]
    constructor
    · exact nofun
    · intro named
      cases flag <;> simp_all [modifier_names]

/-- No key is spelled as a modifier is. -/
theorem modifier_of_key {token : List Char} {key : HotkeyKey}
    (spells : Word.Spells token (.key key)) : modifier_of token = none := by
  obtain ⟨known, lower⟩ := spells
  by_contra some_flag
  obtain ⟨flag, found⟩ := Option.ne_none_iff_exists'.mp some_flag
  have named := modifier_of_eq_some_iff.mp found
  rw [lower] at named
  have long : ∀ name ∈ modifier_names flag, 2 ≤ name.length ∧ name.head? ≠ some 'f' := by
    cases flag <;> decide
  obtain ⟨length, head⟩ := long _ named
  cases key with
  | Letter letter => exact absurd length (Nat.not_succ_le_self 1)
  | Digit digit => exact absurd length (Nat.not_succ_le_self 1)
  | Function number => exact head rfl

/-- No word is spelled as nothing. -/
theorem not_spells_nil (word : Word) : ¬ word.Spells [] := by
  cases word with
  | modifier flag =>
    unfold Word.Spells
    cases flag <;> decide
  | key key =>
    rintro ⟨-, lower⟩
    cases key <;> cases lower

/-- **One token** is read as the word it spells. -/
theorem chord_step_eq_ok_iff {state state' : HotkeyModifiers × Option HotkeyKey}
    {token : List Char} (plus : '+' ∉ token) :
    chord_step state token = .ok state' ↔
      ∃ word : Word, word.Spells (trim token) ∧ word.add state = some state' := by
  have plus : '+' ∉ trim token := fun member => plus (mem_of_mem_trim_by member)
  unfold chord_step
  dsimp only
  split
  · rename_i nothing
    rw [nothing]
    exact ⟨nofun, fun ⟨word, spells, _⟩ => absurd spells (not_spells_nil word)⟩
  · cases found : modifier_of (trim token) with
    | some flag =>
      have read : ((state.1.insert flag).map fun modifiers => (modifiers, state.2)) = .ok state' ↔
          Word.add state (.modifier flag) = some state' := by
        unfold HotkeyModifiers.insert Word.add
        dsimp only
        by_cases twice : state.1.has flag = true
        · rw [if_pos twice, if_pos twice]
          exact ⟨nofun, nofun⟩
        · rw [if_neg twice, if_neg twice]
          exact ⟨fun same => congrArg some (Except.ok.inj same),
            fun same => congrArg Except.ok (Option.some.inj same)⟩
      dsimp only
      rw [read]
      constructor
      · exact fun added => ⟨.modifier flag, modifier_of_eq_some_iff.mp found, added⟩
      · rintro ⟨word, spells, added⟩
        cases word with
        | modifier flag' =>
          have same := modifier_of_eq_some_iff.mpr spells
          rw [found] at same
          rwa [Option.some.inj same]
        | key key =>
          rw [modifier_of_key spells] at found
          cases found
    | none =>
      dsimp only
      constructor
      · intro read
        cases taken : state.2 with
        | some key =>
          rw [taken] at read
          cases read
        | none =>
          rw [taken, if_neg (by decide)] at read
          cases parsed : parse_hotkey_key (trim token) with
          | error error =>
            rw [parsed] at read
            cases read
          | ok key =>
            rw [parsed] at read
            refine ⟨.key key, (parse_hotkey_key_eq_ok_iff plus).mp parsed, ?_⟩
            unfold Word.add
            rw [taken]
            exact congrArg some (Except.ok.inj read)
      · rintro ⟨word, spells, added⟩
        cases word with
        | modifier flag =>
          rw [modifier_of_eq_some_iff.mpr spells] at found
          cases found
        | key key =>
          unfold Word.add at added
          rw [(parse_hotkey_key_eq_ok_iff plus).mpr spells]
          dsimp only at added
          split at added
          · cases added
          · rename_i free
            rw [if_neg free]
            exact congrArg Except.ok (Option.some.inj added)

/-- **The tokens** are read as the words they spell. -/
theorem chord_steps_eq_ok_iff (tokens : List (List Char)) (plus : ∀ token ∈ tokens, '+' ∉ token)
    {state state' : HotkeyModifiers × Option HotkeyKey} :
    tokens.foldlM chord_step state = .ok state' ↔
      ∃ words, List.Forall₂ (fun token word => Word.Spells (trim token) word) tokens words ∧
        words.foldlM Word.add state = some state' := by
  induction tokens generalizing state with
  | nil =>
    constructor
    · intro read
      exact ⟨[], .nil, congrArg some (Except.ok.inj read)⟩
    · rintro ⟨words, spelled, added⟩
      cases spelled
      exact congrArg Except.ok (Option.some.inj added)
  | cons token tokens ih =>
    have others : ∀ other ∈ tokens, '+' ∉ other :=
      fun other member => plus other (List.mem_cons_of_mem token member)
    rw [List.foldlM_cons]
    constructor
    · intro read
      cases first : chord_step state token with
      | error error =>
        rw [first] at read
        cases read
      | ok next =>
        rw [first] at read
        obtain ⟨word, spells, added⟩ :=
          (chord_step_eq_ok_iff (plus token List.mem_cons_self)).mp first
        obtain ⟨words, spelled, all_added⟩ := (ih others).mp read
        refine ⟨word :: words, .cons spells spelled, ?_⟩
        rw [List.foldlM_cons, added]
        exact all_added
    · rintro ⟨words, spelled, added⟩
      cases spelled with
      | cons spells spelled =>
        rename_i word words
        rw [List.foldlM_cons] at added
        cases first : word.add state with
        | none =>
          rw [first] at added
          cases added
        | some next =>
          rw [first] at added
          rw [(chord_step_eq_ok_iff (plus token List.mem_cons_self)).mpr ⟨word, spells, first⟩]
          exact (ih others).mpr ⟨words, spelled, added⟩

/-! ## Chords -/

/-- The modifiers among some words. -/
def modifiers_of (words : List Word) : List Modifier :=
  words.filterMap fun word => match word with
    | .modifier flag => some flag
    | .key _ => none

/-- The keys among some words. -/
def keys_of (words : List Word) : List HotkeyKey :=
  words.filterMap fun word => match word with
    | .modifier _ => none
    | .key key => some key

/-- Modifiers with the same flags are one. -/
theorem modifiers_ext {left right : HotkeyModifiers}
    (same : ∀ flag, left.has flag = true ↔ right.has flag = true) : left = right := by
  have eq (flag : Modifier) : left.has flag = right.has flag := Bool.eq_iff_iff.mpr (same flag)
  obtain ⟨ctrl, alt, shift, win⟩ := left
  obtain ⟨ctrl', alt', shift', win'⟩ := right
  obtain rfl : ctrl = ctrl' := eq .CTRL
  obtain rfl : alt = alt' := eq .ALT
  obtain rfl : shift = shift' := eq .SHIFT
  obtain rfl : win = win' := eq .WIN
  rfl

/-- Setting a flag sets no other. -/
theorem has_set (modifiers : HotkeyModifiers) (flag other : Modifier) :
    (modifiers.set flag).has other = true ↔ modifiers.has other = true ∨ other = flag := by
  cases flag <;> cases other <;> simp [HotkeyModifiers.set, HotkeyModifiers.has]

/-- Keys that are there or not alike are the same. -/
theorem toList_injective {left right : Option HotkeyKey} (same : left.toList = right.toList) :
    left = right := by
  cases left <;> cases right <;> cases same <;> rfl

/-- **Some words** add up to a chord where no modifier is added twice or was there before, and
there is no key but one. -/
theorem add_all_eq_some_iff (words : List Word) {modifiers modifiers' : HotkeyModifiers}
    {key key' : Option HotkeyKey} :
    words.foldlM Word.add (modifiers, key) = some (modifiers', key') ↔
      ((modifiers_of words).Nodup ∧ ∀ flag ∈ modifiers_of words, ¬ modifiers.has flag = true) ∧
      (∀ flag, modifiers'.has flag = true ↔
        modifiers.has flag = true ∨ flag ∈ modifiers_of words) ∧
      key'.toList = key.toList ++ keys_of words := by
  induction words generalizing modifiers key with
  | nil =>
    have no_flags : modifiers_of [] = [] := rfl
    have no_keys : keys_of [] = [] := rfl
    simp only [no_flags, no_keys, List.append_nil, List.not_mem_nil, or_false]
    constructor
    · intro added
      obtain ⟨rfl, rfl⟩ := Prod.mk.inj (Option.some.inj added)
      exact ⟨⟨List.nodup_nil, nofun⟩, fun _ => Iff.rfl, rfl⟩
    · rintro ⟨-, same, same_key⟩
      rw [modifiers_ext same, toList_injective same_key]
      rfl
  | cons word words ih =>
    rw [List.foldlM_cons]
    cases word with
    | modifier flag =>
      have flags : modifiers_of (.modifier flag :: words) = flag :: modifiers_of words := rfl
      have keys : keys_of (.modifier flag :: words) = keys_of words := rfl
      have first : Word.add (modifiers, key) (.modifier flag) =
          if modifiers.has flag then none else some (modifiers.set flag, key) := rfl
      rw [flags, keys, first, List.nodup_cons, List.forall_mem_cons]
      by_cases twice : modifiers.has flag = true
      · rw [if_pos twice]
        exact ⟨nofun, fun holds => absurd twice holds.1.2.1⟩
      · rw [if_neg twice]
        have rest :
            words.foldlM Word.add (modifiers.set flag, key) = some (modifiers', key') ↔ _ := ih
        refine rest.trans ?_
        simp only [has_set, not_or, List.mem_cons]
        constructor
        · rintro ⟨⟨distinct, free⟩, same, same_key⟩
          refine ⟨⟨⟨fun member => (free flag member).2 rfl, distinct⟩, twice,
            fun other member => (free other member).1⟩, fun other => ?_, same_key⟩
          rw [same other, or_assoc]
        · rintro ⟨⟨⟨once, distinct⟩, -, free⟩, same, same_key⟩
          refine ⟨⟨distinct, fun other member => ⟨free other member, ?_⟩⟩,
            fun other => ?_, same_key⟩
          · rintro rfl
            exact once member
          · rw [same other, or_assoc]
    | key pressed =>
      have flags : modifiers_of (.key pressed :: words) = modifiers_of words := rfl
      have keys : keys_of (.key pressed :: words) = pressed :: keys_of words := rfl
      rw [flags, keys]
      cases key with
      | some other =>
        have taken : Word.add (modifiers, some other) (.key pressed) = none := rfl
        rw [taken]
        constructor
        · exact nofun
        · rintro ⟨-, -, same_key⟩
          have lengths := congrArg List.length same_key
          simp only [Option.toList_some, List.length_append, List.length_cons] at lengths
          cases key' <;> simp at lengths
      | none =>
        have added :
            Word.add (modifiers, none) (.key pressed) = some (modifiers, some pressed) := rfl
        rw [added]
        exact ih

/-- **The grammar of hotkeys**: words separated by `+`, with whitespace around each and around
the whole, that name no modifier twice and exactly one key. -/
def IsHotkey (value : List Char) (chord : HotkeyChord) : Prop :=
  ∃ words, List.Forall₂ (fun token word => Word.Spells (trim token) word)
      ((trim value).splitOn '+') words ∧
    (modifiers_of words).Nodup ∧ keys_of words = [chord.key] ∧
    ∀ flag, chord.modifiers.has flag = true ↔ flag ∈ modifiers_of words

/-- A value that is blank is no hotkey. -/
theorem not_is_hotkey_of_blank {value : List Char} (blank : trim value = [])
    (chord : HotkeyChord) : ¬ IsHotkey value chord := by
  rintro ⟨words, spelled, -⟩
  rw [blank, List.splitOn_nil] at spelled
  cases spelled with
  | cons spells _ => exact not_spells_nil _ spells

/-- **Reading a hotkey** succeeds on exactly the texts of the grammar. -/
theorem from_str_eq_ok_iff (value : List Char) (chord : HotkeyChord) :
    HotkeyChord.from_str value = .ok chord ↔ IsHotkey value chord := by
  by_cases blank : trim value = []
  · unfold HotkeyChord.from_str
    dsimp only
    rw [if_pos blank]
    exact ⟨nofun, fun holds => absurd holds (not_is_hotkey_of_blank blank chord)⟩
  · have steps (modifiers : HotkeyModifiers) (key : Option HotkeyKey) :
        ((trim value).splitOn '+').foldlM chord_step (.none_set, none) = .ok (modifiers, key) ↔ _ :=
      chord_steps_eq_ok_iff ((trim value).splitOn '+') fun token => not_mem_of_mem_splitOn
    have none_there (flag : Modifier) : ¬ HotkeyModifiers.none_set.has flag = true := by
      cases flag <;> decide
    unfold HotkeyChord.from_str
    dsimp only
    rw [if_neg blank]
    constructor
    · intro read
      cases folded : ((trim value).splitOn '+').foldlM chord_step (.none_set, none) with
      | error error =>
        rw [folded] at read
        cases read
      | ok state =>
        rw [folded] at read
        obtain ⟨modifiers, _ | key⟩ := state
        · cases read
        · cases read
          obtain ⟨words, spelled, added⟩ := (steps modifiers (some key)).mp folded
          obtain ⟨⟨distinct, -⟩, flags, one_key⟩ := (add_all_eq_some_iff words).mp added
          refine ⟨words, spelled, distinct, one_key.symm, fun flag => ?_⟩
          rw [flags flag]
          exact ⟨fun has => has.resolve_left (none_there flag), .inr⟩
    · rintro ⟨words, spelled, distinct, one_key, flags⟩
      have added : words.foldlM Word.add (.none_set, none) =
          some (chord.modifiers, some chord.key) := by
        refine (add_all_eq_some_iff words).mpr ⟨⟨distinct, fun flag _ => none_there flag⟩, ?_, ?_⟩
        · intro flag
          rw [flags flag]
          exact ⟨.inr, fun has => has.resolve_left (none_there flag)⟩
        · exact one_key.symm
      rw [(steps chord.modifiers (some chord.key)).mpr ⟨words, spelled, added⟩]
      rfl

/-! ## Writing -/

/-- The modifiers of a chord, in the order they are written in. -/
def flags_of (modifiers : HotkeyModifiers) : List Modifier :=
  [Modifier.CTRL, .ALT, .SHIFT, .WIN].filter modifiers.has

/-- The flags written are those set. -/
theorem mem_flags_of {modifiers : HotkeyModifiers} {flag : Modifier} :
    flag ∈ flags_of modifiers ↔ modifiers.has flag = true := by
  have listed : flag ∈ [Modifier.CTRL, .ALT, .SHIFT, .WIN] := by cases flag <;> decide
  unfold flags_of
  rw [List.mem_filter]
  exact ⟨And.right, fun has => ⟨listed, has⟩⟩

/-- Each of them is written once. -/
theorem nodup_flags_of (modifiers : HotkeyModifiers) : (flags_of modifiers).Nodup := by
  have all : [Modifier.CTRL, .ALT, .SHIFT, .WIN].Nodup := by decide
  exact all.filter _

/-- What a chord is written as: its modifiers' labels and its key, separated. -/
theorem to_text_eq (chord : HotkeyChord) :
    chord.to_text =
      ['+'].intercalate ((flags_of chord.modifiers).map Modifier.label ++ [chord.key.text]) := by
  obtain ⟨⟨ctrl, alt, shift, win⟩, key⟩ := chord
  rw [intercalate_concat]
  cases ctrl <;> cases alt <;> cases shift <;> cases win <;>
    simp [HotkeyChord.to_text, write_label, flags_of, HotkeyModifiers.has, List.filter_cons]

/-- What stands in a word: no separator and no whitespace. -/
def is_inside_word (c : Char) : Bool := !is_whitespace c && c != '+'

/-- The label of a modifier is one word. -/
theorem label_inside (flag : Modifier) : flag.label.all is_inside_word = true := by
  cases flag <;> decide

/-- A capital letter stands in a word. -/
theorem upper_inside {c : Char} (upper : c.isUpper = true) : is_inside_word c = true := by
  have range : 65 ≤ c.toNat ∧ c.toNat ≤ 90 := by
    unfold Char.isUpper at upper
    simp only [decide_eq_true_eq] at upper
    exact ⟨upper.1, upper.2⟩
  rw [← Char.ofNat_toNat c]
  obtain ⟨low, high⟩ := range
  interval_cases c.toNat <;> decide

/-- A digit stands in a word. -/
theorem digit_inside {c : Char} (digit : c.isDigit = true) : is_inside_word c = true := by
  have all : digit_chars.all is_inside_word = true := by decide
  exact List.all_eq_true.mp all c (mem_digit_chars digit)

/-- The text of a known key is one word. -/
theorem key_text_inside {key : HotkeyKey} (known : KnownKey key) :
    key.text.all is_inside_word = true := by
  cases key with
  | Letter letter =>
    rw [HotkeyKey.text, List.all_cons, upper_inside known]
    rfl
  | Digit digit =>
    rw [HotkeyKey.text, List.all_cons, digit_inside known]
    rfl
  | Function number =>
    have digits := (repr_facts known).2.2.2.2
    have f : is_inside_word 'F' = true := by decide
    rw [HotkeyKey.text, List.all_cons, f, Bool.true_and, List.all_eq_true]
    exact fun c member => digit_inside (List.all_eq_true.mp digits c member)

/-- There is no whitespace in a word. -/
theorem not_whitespace_of_inside {text : List Char} (inside : text.all is_inside_word = true) :
    ∀ c ∈ text, is_whitespace c = false := by
  intro c member
  have plain := List.all_eq_true.mp inside c member
  unfold is_inside_word at plain
  rw [Bool.and_eq_true, Bool.not_eq_true'] at plain
  exact plain.1

/-- So there is nothing to trim from it. -/
theorem trim_of_inside {text : List Char} (inside : text.all is_inside_word = true) :
    trim text = text := trim_by_eq_self (not_whitespace_of_inside inside)

/-- There is no separator in a word. -/
theorem no_plus_of_inside {text : List Char} (inside : text.all is_inside_word = true) :
    '+' ∉ text :=
  fun member => absurd (List.all_eq_true.mp inside _ member) (by decide)

/-- The label of a modifier spells it. -/
theorem label_spells (flag : Modifier) : Word.Spells (trim flag.label) (.modifier flag) := by
  rw [trim_of_inside (label_inside flag)]
  unfold Word.Spells
  cases flag <;> decide

/-- The text of a known key spells it. -/
theorem key_text_spells {key : HotkeyKey} (known : KnownKey key) :
    Word.Spells (trim key.text) (.key key) := by
  rw [trim_of_inside (key_text_inside known)]
  exact ⟨known, rfl⟩

/-- The words a chord is written as. -/
def words_of (flags : List Modifier) (key : HotkeyKey) : List Word :=
  flags.map Word.modifier ++ [.key key]

/-- The tokens that a chord is written as spell its words. -/
theorem words_spelled (flags : List Modifier) {key : HotkeyKey} (known : KnownKey key) :
    List.Forall₂ (fun token word => Word.Spells (trim token) word)
      (flags.map Modifier.label ++ [key.text]) (words_of flags key) := by
  induction flags with
  | nil => exact .cons (key_text_spells known) .nil
  | cons flag flags ih => exact .cons (label_spells flag) ih

/-- The modifiers of those words are the flags. -/
theorem modifiers_of_words_of (flags : List Modifier) (key : HotkeyKey) :
    modifiers_of (words_of flags key) = flags := by
  induction flags with
  | nil => rfl
  | cons flag flags ih => exact congrArg (flag :: ·) ih

/-- The only key of those words is the chord's. -/
theorem keys_of_words_of (flags : List Modifier) (key : HotkeyKey) :
    keys_of (words_of flags key) = [key] := by
  induction flags with
  | nil => rfl
  | cons flag flags ih => exact ih

/-- **What a chord is written as** is a text of the grammar, of that chord. -/
theorem is_hotkey_to_text {chord : HotkeyChord} (known : KnownKey chord.key) :
    IsHotkey chord.to_text chord := by
  have parts_inside : ∀ part ∈ (flags_of chord.modifiers).map Modifier.label ++ [chord.key.text],
      part.all is_inside_word = true := by
    intro part member
    rcases List.mem_append.mp member with member | member
    · obtain ⟨flag, -, rfl⟩ := List.mem_map.mp member
      exact label_inside flag
    · rw [List.mem_singleton.mp member]
      exact key_text_inside known
  have tidy : trim chord.to_text = chord.to_text := by
    apply trim_by_eq_self
    rw [to_text_eq, intercalate_concat]
    intro c member
    rcases List.mem_append.mp member with member | member
    · obtain ⟨part, listed, found⟩ := List.mem_flatMap.mp member
      rcases List.mem_append.mp found with found | found
      · exact not_whitespace_of_inside (parts_inside part (List.mem_append_left _ listed)) c found
      · rw [List.mem_singleton.mp found]
        decide
    · exact not_whitespace_of_inside (key_text_inside known) c member
  refine ⟨words_of (flags_of chord.modifiers) chord.key, ?_, ?_, ?_, fun flag => ?_⟩
  · rw [tidy, to_text_eq, List.splitOn_intercalate _ _ (by simp)]
    · exact words_spelled _ known
    · exact fun part member => no_plus_of_inside (parts_inside part member)
  · rw [modifiers_of_words_of]
    exact nodup_flags_of _
  · exact keys_of_words_of _ _
  · rw [modifiers_of_words_of, mem_flags_of]

/-- Each of the words has a token that spells it. -/
theorem spelled_of_mem {tokens : List (List Char)} {words : List Word}
    (spelled : List.Forall₂ (fun token word => Word.Spells (trim token) word) tokens words)
    {word : Word} (member : word ∈ words) : ∃ token, Word.Spells (trim token) word := by
  induction spelled with
  | nil => cases member
  | cons spells _ ih =>
    rcases List.mem_cons.mp member with rfl | member
    · exact ⟨_, spells⟩
    · exact ih member

/-- A chord that was read has a key there is. -/
theorem known_of_is_hotkey {value : List Char} {chord : HotkeyChord}
    (hotkey : IsHotkey value chord) : KnownKey chord.key := by
  obtain ⟨words, spelled, -, one_key, -⟩ := hotkey
  have member : Word.key chord.key ∈ words := by
    have listed : chord.key ∈ keys_of words := one_key ▸ List.mem_cons_self
    obtain ⟨word, member, same⟩ := List.mem_filterMap.mp listed
    cases word with
    | modifier flag => cases same
    | key key =>
      cases same
      exact member
  obtain ⟨token, spells⟩ := spelled_of_mem spelled member
  exact spells.1

/-- **A hotkey's text** is read back as that hotkey. -/
theorem from_str_to_text {value : List Char} {chord : HotkeyChord}
    (read : HotkeyChord.from_str value = .ok chord) :
    HotkeyChord.from_str chord.to_text = .ok chord := by
  have known := known_of_is_hotkey ((from_str_eq_ok_iff value chord).mp read)
  exact (from_str_eq_ok_iff _ chord).mpr (is_hotkey_to_text known)

/-! ## Bindings -/

variable (debug : List Char → String) (config : HotkeyConfig)

/-- The hotkey an action is bound to, where its text is one. -/
def chord_of (action : HotkeyAction) : Option HotkeyChord :=
  (config.bound action).bind fun value => (HotkeyChord.from_str value).toOption

/-- A text bound to an action is no hotkey. -/
def Unreadable : Prop :=
  ∃ action value, config.bound action = some value ∧ ¬ ∃ chord, IsHotkey value chord

/-- Two actions have one chord. -/
def Shared : Prop :=
  ∃ action other chord, action ≠ other ∧ chord_of config action = some chord ∧
    chord_of config other = some chord

/-- One action is bound under both of its names. -/
def Ambiguous : Prop := config.binding.isSome = true ∧ config.bindings.last_workflow.isSome = true

/-- The bindings of some actions. -/
def bindings_of (actions : List HotkeyAction) : List HotkeyBinding :=
  actions.filterMap fun action => (chord_of config action).map fun chord => ⟨action, chord⟩

/-- The chord bound to an action is the one its value reads as. -/
theorem chord_of_eq {action : HotkeyAction} {value : List Char} {chord : HotkeyChord}
    (bound : config.bound action = some value) (read : HotkeyChord.from_str value = .ok chord) :
    chord_of config action = some chord := by
  unfold chord_of
  rw [bound, Option.bind_some, read]
  rfl

/-- **The actions**, one after the other: each bound text is a hotkey, and none that an earlier
action has. -/
theorem resolve_all_eq_ok_iff (actions : List HotkeyAction)
    {bindings resolved : List HotkeyBinding}
    (distinct : (bindings.map HotkeyBinding.chord).Nodup) :
    actions.foldlM (config.resolve_step debug) bindings = .ok resolved ↔
      (∀ action ∈ actions, ∀ value, config.bound action = some value →
        ∃ chord, IsHotkey value chord) ∧
      (bindings.map HotkeyBinding.chord ++ actions.filterMap (chord_of config)).Nodup ∧
      resolved = bindings ++ bindings_of config actions := by
  induction actions generalizing bindings with
  | nil =>
    have nothing : bindings_of config [] = [] := rfl
    rw [nothing, List.append_nil, List.filterMap_nil, List.append_nil]
    constructor
    · intro same
      exact ⟨nofun, distinct, (Except.ok.inj same).symm⟩
    · rintro ⟨-, -, rfl⟩
      rfl
  | cons action actions ih =>
    rw [List.foldlM_cons, List.forall_mem_cons]
    cases bound : config.bound action with
    | none =>
      have skipped : config.resolve_step debug bindings action = .ok bindings := by
        unfold HotkeyConfig.resolve_step
        rw [bound]
      have unbound : chord_of config action = none := by
        unfold chord_of
        rw [bound]
        rfl
      have rest : bindings_of config (action :: actions) = bindings_of config actions := by
        unfold bindings_of
        rw [List.filterMap_cons_none]
        rw [unbound]
        rfl
      rw [skipped, List.filterMap_cons_none unbound, rest]
      refine (ih distinct).trans ?_
      exact ⟨fun holds => ⟨⟨nofun, holds.1⟩, holds.2⟩, fun holds => ⟨holds.1.2, holds.2⟩⟩
    | some value =>
      cases read : HotkeyChord.from_str value with
      | error error =>
        have refused : ∃ message, config.resolve_step debug bindings action = .error message := by
          unfold HotkeyConfig.resolve_step
          rw [bound]
          dsimp only
          rw [read]
          exact ⟨_, rfl⟩
        obtain ⟨message, refused⟩ := refused
        rw [refused]
        constructor
        · exact nofun
        · rintro ⟨⟨here, -⟩, -⟩
          obtain ⟨chord, hotkey⟩ := here value rfl
          rw [(from_str_eq_ok_iff value chord).mpr hotkey] at read
          cases read
      | ok chord =>
        have hotkey := (from_str_eq_ok_iff value chord).mp read
        have chorded := chord_of_eq config bound read
        have listed : bindings_of config (action :: actions) =
            ⟨action, chord⟩ :: bindings_of config actions := by
          unfold bindings_of
          rw [List.filterMap_cons_some]
          rw [chorded]
          rfl
        have joined : bindings.map HotkeyBinding.chord ++
            (action :: actions).filterMap (chord_of config) =
            (bindings ++ [HotkeyBinding.mk action chord]).map HotkeyBinding.chord ++
              actions.filterMap (chord_of config) := by
          rw [List.filterMap_cons_some chorded, List.map_append, List.append_assoc]
          rfl
        rw [listed, joined]
        cases found : bindings.find? fun binding => binding.chord = chord with
        | some previous =>
          have refused : ∃ message, config.resolve_step debug bindings action = .error message := by
            unfold HotkeyConfig.resolve_step
            rw [bound]
            dsimp only
            rw [read]
            dsimp only
            rw [found]
            exact ⟨_, rfl⟩
          obtain ⟨message, refused⟩ := refused
          rw [refused]
          constructor
          · exact nofun
          · rintro ⟨-, twice, -⟩
            have same := List.find?_some found
            have there := List.mem_of_find?_eq_some found
            rw [List.map_append, List.append_assoc] at twice
            have apart := (List.nodup_append.mp twice).2.2 previous.chord
              (List.mem_map_of_mem there) chord List.mem_cons_self
            exact absurd (of_decide_eq_true same) apart
        | none =>
          have taken : config.resolve_step debug bindings action =
              .ok (bindings ++ [⟨action, chord⟩]) := by
            unfold HotkeyConfig.resolve_step
            rw [bound]
            dsimp only
            rw [read]
            dsimp only
            rw [found]
          have fresh :
              ((bindings ++ [HotkeyBinding.mk action chord]).map HotkeyBinding.chord).Nodup := by
            rw [List.map_append, List.nodup_append]
            refine ⟨distinct, List.nodup_singleton chord, fun earlier member other same => ?_⟩
            obtain ⟨binding, there, rfl⟩ := List.mem_map.mp member
            rw [List.mem_singleton.mp same]
            intro equal
            exact List.find?_eq_none.mp found binding there (decide_eq_true equal)
          rw [taken]
          refine (ih fresh).trans ?_
          rw [List.append_assoc]
          constructor
          · rintro ⟨readable, rest⟩
            refine ⟨⟨fun other same => ?_, readable⟩, rest⟩
            obtain rfl := Option.some.inj same
            exact ⟨chord, hotkey⟩
          · exact fun holds => ⟨holds.1.2, holds.2⟩

/-- The chords of all actions are distinct where no two share one. -/
theorem nodup_chords_iff :
    (HotkeyAction.ALL.filterMap (chord_of config)).Nodup ↔ ¬ Shared config := by
  have all (action : HotkeyAction) : action ∈ HotkeyAction.ALL := by cases action <;> decide
  have once : HotkeyAction.ALL.Nodup := by decide
  rw [List.Nodup, List.pairwise_filterMap]
  constructor
  · rintro apart ⟨action, other, chord, different, here, there⟩
    have symmetric : Std.Symm fun a b => ∀ c, chord_of config a = some c →
        ∀ d, chord_of config b = some d → c ≠ d :=
      ⟨fun a b held d there c here same => held c here d there same.symm⟩
    exact apart.forall (all action) (all other) different chord here chord there rfl
  · intro alone
    apply once.pairwise_of_forall_ne
    rintro action - other - different chord here chord' there rfl
    exact alone ⟨action, other, chord, different, here, there⟩

/-- **What a configuration binds** is accepted where it names no action twice, every text is a
hotkey and no two actions share one. -/
theorem resolved_bindings_eq_ok_iff (resolved : List HotkeyBinding) :
    config.resolved_bindings debug = .ok resolved ↔
      (¬ Ambiguous config ∧ ¬ Unreadable config ∧ ¬ Shared config) ∧
        resolved = bindings_of config HotkeyAction.ALL := by
  have all (action : HotkeyAction) : action ∈ HotkeyAction.ALL := by cases action <;> decide
  have named : (config.binding.isSome && config.bindings.last_workflow.isSome) = true ↔
      Ambiguous config := Bool.and_eq_true_iff
  have readable : (∀ action ∈ HotkeyAction.ALL, ∀ value, config.bound action = some value →
      ∃ chord, IsHotkey value chord) ↔ ¬ Unreadable config := by
    constructor
    · rintro each ⟨action, value, bound, unread⟩
      exact unread (each action (all action) value bound)
    · intro each action _ value bound
      by_contra unread
      exact each ⟨action, value, bound, unread⟩
  unfold HotkeyConfig.resolved_bindings
  by_cases ambiguous : (config.binding.isSome && config.bindings.last_workflow.isSome) = true
  · rw [if_pos ambiguous]
    exact ⟨nofun, fun holds => absurd (named.mp ambiguous) holds.1.1⟩
  · have clear : ¬ Ambiguous config := fun holds => ambiguous (named.mpr holds)
    rw [if_neg ambiguous]
    have no_chords : (([] : List HotkeyBinding).map HotkeyBinding.chord).Nodup := List.nodup_nil
    rw [resolve_all_eq_ok_iff debug config _ no_chords, readable, List.map_nil,
      List.nil_append, nodup_chords_iff, List.nil_append]
    constructor
    · exact fun holds => ⟨⟨clear, holds.1, holds.2.1⟩, holds.2.2⟩
    · exact fun holds => ⟨holds.1.2.1, holds.1.2.2, holds.2⟩

/-! ## The order of a table -/

/-- Where no field is listed twice, looking one up finds the value it is listed with. -/
theorem lookup_eq_some_iff {listed : List (HotkeyField × List Char)}
    (once : (listed.map Prod.fst).Nodup) {field : HotkeyField} {value : List Char} :
    listed.lookup field = some value ↔ (field, value) ∈ listed := by
  induction listed with
  | nil => exact ⟨nofun, nofun⟩
  | cons entry listed ih =>
    obtain ⟨first, given⟩ := entry
    rw [List.map_cons, List.nodup_cons] at once
    rw [List.lookup_cons]
    by_cases same : field = first
    · subst same
      rw [beq_self_eq_true]
      constructor
      · intro found
        rw [Option.some.inj found]
        exact List.mem_cons_self
      · intro member
        rcases List.mem_cons.mp member with here | later
        · rw [(Prod.mk.inj here).2]
        · exact absurd (List.mem_map_of_mem later) once.1
    · rw [beq_false_of_ne same]
      refine (ih once.2).trans ⟨List.mem_cons_of_mem _, fun member => ?_⟩
      rcases List.mem_cons.mp member with here | later
      · exact absurd (Prod.mk.inj here).1 same
      · exact later

/-- **A table in another order** comes to the same configuration. -/
theorem of_listed_perm {listed listed' : List (HotkeyField × List Char)}
    (once : (listed.map Prod.fst).Nodup) (same : listed.Perm listed') :
    HotkeyConfig.of_listed listed = HotkeyConfig.of_listed listed' := by
  have once' : (listed'.map Prod.fst).Nodup := (same.map Prod.fst).nodup_iff.mp once
  have found (field : HotkeyField) : listed.lookup field = listed'.lookup field := by
    apply Option.ext
    intro value
    rw [lookup_eq_some_iff once, lookup_eq_some_iff once', same.mem_iff]
  unfold HotkeyConfig.of_listed
  rw [found .binding, found (.bindings .LastWorkflow), found (.bindings .Region),
    found (.bindings .Window), found (.bindings .FullDisplay), found (.bindings .RepeatLastRegion)]

/-- What is promised of hotkeys: they are read from exactly the texts of the grammar, what one is
written as is read back as it, and a configuration is refused exactly where one action is bound
under two names, a bound text is no hotkey or two actions share one, in whatever order its table
lists them. -/
structure HotkeysAgree (debug : List Char → String) : Prop where
  reads : ∀ value chord, HotkeyChord.from_str value = .ok chord ↔ IsHotkey value chord
  writes : ∀ value chord, HotkeyChord.from_str value = .ok chord →
    HotkeyChord.from_str chord.to_text = .ok chord
  refuses : ∀ config : HotkeyConfig, (∃ error, config.resolved_bindings debug = .error error) ↔
    Ambiguous config ∨ Unreadable config ∨ Shared config
  unordered : ∀ listed listed', (listed.map Prod.fst).Nodup → List.Perm listed listed' →
    (HotkeyConfig.of_listed listed).resolved_bindings debug =
      (HotkeyConfig.of_listed listed').resolved_bindings debug

/-- **Hotkeys** are read, written and bound as promised. -/
theorem hotkeys_agree : HotkeysAgree debug where
  reads := from_str_eq_ok_iff
  writes := fun _ _ read => from_str_to_text read
  refuses := fun config => by
    constructor
    · rintro ⟨error, refused⟩
      by_contra accepted
      rw [not_or, not_or] at accepted
      have bound := (resolved_bindings_eq_ok_iff debug config _).mpr ⟨accepted, rfl⟩
      rw [refused] at bound
      cases bound
    · intro refused
      cases result : config.resolved_bindings debug with
      | error error => exact ⟨error, rfl⟩
      | ok resolved =>
        have accepted := ((resolved_bindings_eq_ok_iff debug config resolved).mp result).1
        rw [← not_or, ← not_or] at accepted
        exact absurd refused accepted
  unordered := fun listed listed' once same => by rw [of_listed_perm once same]

/-- A configuration with one binding, which is no hotkey. -/
def spaced_region : HotkeyConfig := .of_listed [(.bindings .Region, "Ctrl+Space".toList)]

/-- It is refused, though no two actions share a hotkey and none is bound under two names. -/
theorem unreadable_binding_refused :
    (∃ error, spaced_region.resolved_bindings String.ofList = .error error) ∧
      ¬ (Ambiguous spaced_region ∨ Shared spaced_region) := by
  have unbound (action : HotkeyAction) : chord_of spaced_region action = none := by
    cases action <;> rfl
  refine ⟨⟨_, rfl⟩, ?_⟩
  rintro (⟨nothing, -⟩ | ⟨action, other, chord, -, here, -⟩)
  · cases nothing
  · rw [unbound action] at here
    cases here

end Captastic.Analysis
