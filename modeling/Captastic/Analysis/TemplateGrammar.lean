import Captastic.Model.FilenameTemplate

/-!
# What a template may be

A template is written of pieces: single literal characters and tokens in braces.  Validation
reads it token by token, and looks for a closing brace only behind the last of them; so it
accepts what the grammar does and, besides, every template in which a closing brace stands in
the literal text before a token (`validate_template_iff`).
-/

set_option autoImplicit false

namespace Captastic.Analysis

open Captastic.Library Captastic.Model

/-- A piece of a template. -/
inductive Piece where
  | Literal (c : Char)
  | Token (name : String)
deriving DecidableEq

/-- A piece as a template has it. -/
def Piece.written : Piece → List Char
  | .Literal c => [c]
  | .Token name => '{' :: (name.toList ++ ['}'])

def written (pieces : List Piece) : List Char := pieces.flatMap Piece.written

/-- A piece validation can read: a known token, or a character that opens none and is no
separator. -/
def Piece.Readable : Piece → Prop
  | .Literal c => c ≠ '{' ∧ c ≠ '/' ∧ c ≠ '\\'
  | .Token name => name ∈ TOKENS

/-- A piece of the grammar: a known token, or a character that is neither a brace nor a
separator. -/
def Piece.Known : Piece → Prop
  | .Literal c => c ≠ '{' ∧ c ≠ '}' ∧ c ≠ '/' ∧ c ≠ '\\'
  | .Token name => name ∈ TOKENS

def HasToken (pieces : List Piece) : Prop := ∃ name, .Token name ∈ pieces

/-- Every closing brace among the literal characters has a token behind it. -/
def Covered (pieces : List Piece) : Prop :=
  ∀ before after, pieces = before ++ .Literal '}' :: after → HasToken after

/-- The grammar of templates: literal characters and known tokens, at least one of these, and
not blank. -/
def Grammatical (template : List Char) : Prop :=
  (∃ pieces, written pieces = template ∧ (∀ piece ∈ pieces, piece.Known) ∧ HasToken pieces) ∧
    template.all is_whitespace = false

/-- Braces come in pairs, none inside another, from inside a pair or from outside. -/
def well_braced : Bool → List Char → Bool
  | inside, [] => !inside
  | inside, c :: rest =>
    if c = '{' then !inside && well_braced true rest
    else if c = '}' then inside && well_braced false rest
    else well_braced inside rest

/-! ## Pieces -/

/-- The first piece is written before the others. -/
theorem written_cons (piece : Piece) (pieces : List Piece) :
    written (piece :: pieces) = piece.written ++ written pieces := List.flatMap_cons

/-- Pieces are written one behind the other. -/
theorem written_append (before after : List Piece) :
    written (before ++ after) = written before ++ written after := List.flatMap_append

/-- A token is written between braces. -/
theorem written_token (name : String) (rest : List Char) :
    Piece.written (.Token name) ++ rest = '{' :: (name.toList ++ '}' :: rest) := by
  rw [Piece.written, List.cons_append, List.append_assoc, List.singleton_append]

/-- A piece that is known can be read. -/
theorem Piece.Known.readable {piece : Piece} (known : piece.Known) : piece.Readable := by
  cases piece with
  | Literal c => exact ⟨known.1, known.2.2⟩
  | Token name => exact known

/-- A literal in front makes no token. -/
theorem HasToken.cons_literal {c : Char} {pieces : List Piece} :
    HasToken (.Literal c :: pieces) ↔ HasToken pieces := by
  unfold HasToken
  simp

/-- A token in front is one. -/
theorem has_token_cons_token (name : String) (pieces : List Piece) :
    HasToken (.Token name :: pieces) := ⟨name, List.mem_cons_self⟩

/-- Nothing is covered. -/
theorem covered_nil : Covered [] := by
  intro before after split
  cases before <;> cases split

/-- A token in front covers the rest as it is. -/
theorem covered_cons_token {name : String} {pieces : List Piece} :
    Covered (.Token name :: pieces) ↔ Covered pieces := by
  constructor
  · intro covered before after split
    exact covered (.Token name :: before) after (by rw [split]; rfl)
  · intro covered before after split
    cases before with
    | nil => cases split
    | cons piece before =>
      rw [List.cons_append] at split
      cases split
      exact covered before after rfl

/-- A closing brace in front has to have a token behind it. -/
theorem covered_cons_literal {c : Char} {pieces : List Piece} :
    Covered (.Literal c :: pieces) ↔ (c = '}' → HasToken pieces) ∧ Covered pieces := by
  constructor
  · intro covered
    refine ⟨fun same => covered [] pieces (by rw [same]; rfl), fun before after split => ?_⟩
    exact covered (.Literal c :: before) after (by rw [split]; rfl)
  · rintro ⟨here, covered⟩ before after split
    cases before with
    | nil =>
      cases split
      exact here rfl
    | cons piece before =>
      rw [List.cons_append] at split
      cases split
      exact covered before after rfl

/-- Pieces that are known are covered. -/
theorem covered_of_known {pieces : List Piece} (known : ∀ piece ∈ pieces, piece.Known) :
    Covered pieces := by
  rintro before after rfl
  have brace := known _ (List.mem_append_right before List.mem_cons_self)
  exact absurd rfl brace.2.1

/-- No token's name has a brace in it. -/
theorem token_clear {name : String} (known : name ∈ TOKENS) :
    '{' ∉ name.toList ∧ '}' ∉ name.toList := by
  have all : ∀ name ∈ TOKENS, '{' ∉ name.toList ∧ '}' ∉ name.toList := by decide
  exact all name known

/-- No token's name has a separator in it. -/
theorem token_no_separator {name : String} (known : name ∈ TOKENS) :
    '/' ∉ name.toList ∧ '\\' ∉ name.toList := by
  have all : ∀ name ∈ TOKENS, '/' ∉ name.toList ∧ '\\' ∉ name.toList := by decide
  exact all name known

/-- Pieces that can be read have no separator in them. -/
theorem separators_of_readable {pieces : List Piece}
    (readable : ∀ piece ∈ pieces, piece.Readable) :
    '/' ∉ written pieces ∧ '\\' ∉ written pieces := by
  induction pieces with
  | nil => exact ⟨List.not_mem_nil, List.not_mem_nil⟩
  | cons piece pieces ih =>
    obtain ⟨slash, backslash⟩ :=
      ih fun other member => readable other (List.mem_cons_of_mem _ member)
    have here := readable piece List.mem_cons_self
    rw [written_cons]
    cases piece with
    | Literal c =>
      constructor
      · simp only [Piece.written, List.singleton_append, List.mem_cons, not_or]
        exact ⟨here.2.1.symm, slash⟩
      · simp only [Piece.written, List.singleton_append, List.mem_cons, not_or]
        exact ⟨here.2.2.symm, backslash⟩
    | Token name =>
      obtain ⟨no_slash, no_backslash⟩ := token_no_separator here
      constructor
      · simp [Piece.written, slash, no_slash]
      · simp [Piece.written, backslash, no_backslash]

/-! ## The scan -/

variable (template : List Char)

/-- The end of a template is accepted exactly without a closing brace, and after some token. -/
theorem validate_end_eq_ok_iff (rest : List Char) (has_token : Bool) :
    validate_end template rest has_token = .ok () ↔ '}' ∉ rest ∧ has_token = true := by
  unfold validate_end
  split
  · rename_i found
    exact ⟨nofun, fun both => absurd found both.1⟩
  · rename_i clear
    cases has_token with
    | true => exact ⟨fun _ => ⟨clear, rfl⟩, fun _ => rfl⟩
    | false => exact ⟨nofun, fun both => nomatch both.2⟩

/-- A literal character in front changes nothing but what is looked for behind the last token. -/
theorem validate_tokens_literal {c : Char} (plain : c ≠ '{') (fuel : Nat) (rest : List Char)
    (has_token : Bool) (covered : c = '}' → '{' ∈ rest ∧ fuel ≠ 0) :
    validate_tokens template fuel (c :: rest) has_token = .ok () ↔
      validate_tokens template fuel rest has_token = .ok () := by
  cases fuel with
  | zero =>
    unfold validate_tokens
    rw [validate_end_eq_ok_iff, validate_end_eq_ok_iff, List.mem_cons, not_or]
    have other : '}' ≠ c := fun same => (covered same.symm).2 rfl
    exact ⟨fun both => ⟨both.1.2, both.2⟩, fun both => ⟨⟨other, both.1⟩, both.2⟩⟩
  | succ fuel =>
    unfold validate_tokens
    rw [cut_at_cons_of_ne plain]
    cases parted : cut_at '{' rest with
    | none =>
      rw [Option.map_none]
      dsimp only
      rw [validate_end_eq_ok_iff, validate_end_eq_ok_iff, List.mem_cons, not_or]
      have other : '}' ≠ c :=
        fun same => cut_at_eq_none_iff.mp parted (covered same.symm).1
      exact ⟨fun both => ⟨both.1.2, both.2⟩, fun both => ⟨⟨other, both.1⟩, both.2⟩⟩
    | some parts => rfl

/-- A known token is passed over. -/
theorem validate_tokens_token {name : String} (known : name ∈ TOKENS) (fuel : Nat)
    (rest : List Char) (has_token : Bool) :
    validate_tokens template (fuel + 1) (Piece.written (.Token name) ++ rest) has_token =
      validate_tokens template fuel rest true := by
  rw [written_token, validate_tokens, cut_at_self]
  dsimp only
  rw [cut_at_append (token_clear known).2]
  dsimp only
  rw [String.ofList_toList, if_pos known]

/-- An opening brace stands only where a token does. -/
theorem brace_mem_iff {pieces : List Piece} (readable : ∀ piece ∈ pieces, piece.Readable) :
    '{' ∈ written pieces ↔ HasToken pieces := by
  induction pieces with
  | nil => exact ⟨nofun, fun has => nomatch has.choose_spec⟩
  | cons piece pieces ih =>
    have ih := ih fun other member => readable other (List.mem_cons_of_mem _ member)
    rw [written_cons, List.mem_append]
    cases piece with
    | Literal c =>
      rw [HasToken.cons_literal, ← ih, Piece.written, List.mem_singleton]
      have here : '{' ≠ c := (readable _ List.mem_cons_self).1.symm
      exact ⟨fun found => found.resolve_left here, .inr⟩
    | Token name =>
      exact ⟨fun _ => has_token_cons_token name pieces, fun _ => .inl List.mem_cons_self⟩

/-- **The scan of a template written of pieces** accepts exactly where every closing brace among
the literal characters has a token behind it, and there is a token. -/
theorem validate_tokens_written {pieces : List Piece}
    (readable : ∀ piece ∈ pieces, piece.Readable) (fuel : Nat) (enough : pieces.length ≤ fuel)
    (has_token : Bool) :
    validate_tokens template fuel (written pieces) has_token = .ok () ↔
      Covered pieces ∧ (has_token = true ∨ HasToken pieces) := by
  induction pieces generalizing fuel has_token with
  | nil =>
    have scanned : validate_tokens template fuel [] has_token =
        validate_end template [] has_token := by
      cases fuel with
      | zero => rfl
      | succ fuel => rfl
    have none_there : ¬ HasToken [] := fun has => nomatch has.choose_spec
    have clear : '}' ∉ ([] : List Char) := List.not_mem_nil
    rw [written, List.flatMap_nil, scanned, validate_end_eq_ok_iff]
    exact ⟨fun both => ⟨covered_nil, .inl both.2⟩,
      fun both => ⟨clear, both.2.resolve_right none_there⟩⟩
  | cons piece pieces ih =>
    have rest_readable : ∀ other ∈ pieces, other.Readable :=
      fun other member => readable other (List.mem_cons_of_mem _ member)
    have here := readable piece List.mem_cons_self
    rw [List.length_cons] at enough
    rw [written_cons]
    cases piece with
    | Literal c =>
      rw [covered_cons_literal, HasToken.cons_literal, Piece.written, List.singleton_append]
      by_cases covered : c = '}' → HasToken pieces
      · have scanned := validate_tokens_literal template here.1 fuel (written pieces) has_token
          fun same => ⟨(brace_mem_iff rest_readable).mpr (covered same), by omega⟩
        rw [scanned, ih rest_readable fuel (by omega)]
        exact ⟨fun both => ⟨⟨covered, both.1⟩, both.2⟩, fun both => ⟨both.1.2, both.2⟩⟩
      · have stray : c = '}' ∧ ¬ HasToken pieces := Classical.not_imp.mp covered
        have missing : '{' ∉ c :: written pieces := by
          rw [List.mem_cons, not_or, brace_mem_iff rest_readable]
          exact ⟨here.1.symm, stray.2⟩
        have scanned : validate_tokens template fuel (c :: written pieces) has_token =
            validate_end template (c :: written pieces) has_token := by
          cases fuel with
          | zero => rfl
          | succ fuel =>
            unfold validate_tokens
            rw [cut_at_eq_none_iff.mpr missing]
        rw [scanned, validate_end_eq_ok_iff]
        constructor
        · rintro ⟨clear, -⟩
          exact absurd (stray.1 ▸ List.mem_cons_self) clear
        · exact fun both => absurd both.1.1 covered
    | Token name =>
      obtain ⟨fuel, rfl⟩ : ∃ n, fuel = n + 1 := ⟨fuel - 1, by omega⟩
      rw [validate_tokens_token template here, covered_cons_token,
        ih rest_readable fuel (by omega)]
      exact ⟨fun both => ⟨both.1, .inr (has_token_cons_token name pieces)⟩,
        fun both => ⟨both.1, .inl rfl⟩⟩

/-- Literals are written as they are. -/
theorem written_literals (text : List Char) : written (text.map Piece.Literal) = text := by
  induction text with
  | nil => rfl
  | cons c text ih =>
    rw [List.map_cons, written_cons, ih]
    rfl

/-- A text without braces and separators can be read as literals. -/
theorem literals_readable {text : List Char}
    (clear : '{' ∉ text ∧ '/' ∉ text ∧ '\\' ∉ text) :
    ∀ piece ∈ text.map Piece.Literal, piece.Readable := by
  intro piece member
  obtain ⟨c, found, rfl⟩ := List.mem_map.mp member
  exact ⟨fun same => clear.1 (same ▸ found), fun same => clear.2.1 (same ▸ found),
    fun same => clear.2.2 (same ▸ found)⟩

/-- **What the scan accepts** is written of pieces. -/
theorem pieces_of_validate_tokens (fuel : Nat) (rest : List Char) (enough : rest.length ≤ fuel)
    (has_token : Bool) (clear : '/' ∉ rest ∧ '\\' ∉ rest)
    (accepted : validate_tokens template fuel rest has_token = .ok ()) :
    ∃ pieces, written pieces = rest ∧ ∀ piece ∈ pieces, piece.Readable := by
  induction fuel generalizing rest has_token with
  | zero =>
    obtain rfl := List.length_eq_zero_iff.mp (Nat.le_zero.mp enough)
    exact ⟨[], rfl, nofun⟩
  | succ fuel ih =>
    unfold validate_tokens at accepted
    cases opened : cut_at '{' rest with
    | none =>
      exact ⟨_, written_literals rest, literals_readable ⟨cut_at_eq_none_iff.mp opened, clear⟩⟩
    | some parts =>
      rw [opened] at accepted
      dsimp only at accepted
      cases closed : cut_at '}' parts.2 with
      | none =>
        rw [closed] at accepted
        cases accepted
      | some inner =>
        rw [closed] at accepted
        dsimp only at accepted
        split at accepted
        · rename_i known
          obtain ⟨rfl, no_brace⟩ := cut_at_eq_some_iff.mp opened
          obtain ⟨inside, -⟩ := cut_at_eq_some_iff.mp closed
          rw [inside] at clear enough ⊢
          simp only [List.mem_append, List.mem_cons, not_or] at clear
          simp only [List.length_append, List.length_cons] at enough
          obtain ⟨pieces, made, readable⟩ := ih inner.2 (by omega) true
            ⟨clear.1.2.2.2.2, clear.2.2.2.2.2⟩ accepted
          refine ⟨parts.1.map Piece.Literal ++ .Token (String.ofList inner.1) :: pieces, ?_, ?_⟩
          · rw [written_append, written_cons, written_literals, made, Piece.written,
              String.toList_ofList]
            simp
          · intro piece member
            rcases List.mem_append.mp member with member | member
            · exact literals_readable ⟨no_brace, clear.1.1, clear.2.1⟩ piece member
            · rcases List.mem_cons.mp member with rfl | member
              · exact known
              · exact readable piece member
        · cases accepted

/-- Every piece is written as something. -/
theorem length_le_length_written (pieces : List Piece) :
    pieces.length ≤ (written pieces).length := by
  induction pieces with
  | nil => exact Nat.le_refl 0
  | cons piece pieces ih =>
    rw [written_cons, List.length_append, List.length_cons]
    have some_text : 0 < piece.written.length := by
      cases piece with
      | Literal c => exact Nat.zero_lt_one
      | Token name => exact Nat.succ_pos _
    omega

/-- **What validation accepts.** -/
theorem validate_template_eq_ok_iff :
    validate_template template = .ok () ↔
      ∃ pieces, written pieces = template ∧ (∀ piece ∈ pieces, piece.Readable) ∧
        Covered pieces ∧ HasToken pieces := by
  constructor
  · intro accepted
    unfold validate_template at accepted
    split at accepted
    · cases accepted
    · split at accepted
      · cases accepted
      · rename_i clear
        rw [not_or] at clear
        obtain ⟨pieces, rfl, readable⟩ := pieces_of_validate_tokens template template.length
          template (Nat.le_refl _) false clear accepted
        obtain ⟨covered, found⟩ := (validate_tokens_written _ readable _
          (length_le_length_written pieces) false).mp accepted
        exact ⟨pieces, rfl, readable, covered, found.resolve_left Bool.false_ne_true⟩
  · rintro ⟨pieces, rfl, readable, covered, has⟩
    have brace := (brace_mem_iff readable).mpr has
    obtain ⟨slash, backslash⟩ := separators_of_readable readable
    unfold validate_template
    rw [if_neg, if_neg]
    · exact (validate_tokens_written _ readable _ (length_le_length_written pieces) false).mpr
        ⟨covered, .inr has⟩
    · exact not_or.mpr ⟨slash, backslash⟩
    · intro blank
      exact absurd (List.all_eq_true.mp blank _ brace) (by decide)

/-! ## Braces -/

/-- A text without braces leaves the braces as they are. -/
theorem well_braced_append {text : List Char} (clear : '{' ∉ text ∧ '}' ∉ text) (inside : Bool)
    (rest : List Char) : well_braced inside (text ++ rest) = well_braced inside rest := by
  induction text with
  | nil => rfl
  | cons c text ih =>
    simp only [List.mem_cons, not_or] at clear
    rw [List.cons_append, well_braced, if_neg fun same => clear.1.1 same.symm,
      if_neg fun same => clear.2.1 same.symm]
    exact ih ⟨clear.1.2, clear.2.2⟩

/-- The braces of readable pieces pair exactly where no literal character is one. -/
theorem well_braced_written {pieces : List Piece} (readable : ∀ piece ∈ pieces, piece.Readable) :
    well_braced false (written pieces) = true ↔ .Literal '}' ∉ pieces := by
  induction pieces with
  | nil => exact ⟨fun _ => List.not_mem_nil, fun _ => rfl⟩
  | cons piece pieces ih =>
    have ih := ih fun other member => readable other (List.mem_cons_of_mem _ member)
    have here := readable piece List.mem_cons_self
    rw [written_cons, List.mem_cons, not_or, ← ih]
    cases piece with
    | Literal c =>
      rw [Piece.written, List.singleton_append, well_braced, if_neg here.1]
      split
      · rename_i stray
        exact ⟨nofun, fun both => absurd (congrArg Piece.Literal stray).symm both.1⟩
      · rename_i plain
        exact ⟨fun braced => ⟨fun same => plain (Piece.Literal.inj same).symm, braced⟩, And.right⟩
    | Token name =>
      rw [written_token, well_braced, if_pos rfl, Bool.not_false, Bool.true_and,
        well_braced_append (token_clear here)]
      exact ⟨fun braced => ⟨nofun, braced⟩, And.right⟩

/-! ## The grammar -/

/-- A template with a token is not blank. -/
theorem not_blank_of_has_token {pieces : List Piece} (readable : ∀ piece ∈ pieces, piece.Readable)
    (has : HasToken pieces) : (written pieces).all is_whitespace = false := by
  apply eq_false_of_ne_true
  intro blank
  have brace := (brace_mem_iff readable).mpr has
  exact absurd (List.all_eq_true.mp blank _ brace) (by decide)

/-- A piece is known exactly where it can be read and is no closing brace. -/
theorem known_iff {piece : Piece} :
    piece.Known ↔ piece.Readable ∧ piece ≠ .Literal '}' := by
  cases piece with
  | Literal c =>
    constructor
    · exact fun known => ⟨known.readable, fun same => known.2.1 (Piece.Literal.inj same)⟩
    · exact fun both => ⟨both.1.1, fun same => both.2 (congrArg Piece.Literal same), both.1.2⟩
  | Token name => exact ⟨fun known => ⟨known, nofun⟩, And.left⟩

/-- A template of the grammar is one written of readable pieces, with a token, whose braces
pair. -/
theorem grammatical_iff :
    Grammatical template ↔
      (∃ pieces, written pieces = template ∧ (∀ piece ∈ pieces, piece.Readable) ∧
        HasToken pieces) ∧ well_braced false template = true := by
  constructor
  · rintro ⟨⟨pieces, rfl, known, has⟩, -⟩
    have readable := fun piece member => (known piece member).readable
    refine ⟨⟨pieces, rfl, readable, has⟩, (well_braced_written readable).mpr fun stray => ?_⟩
    exact (known_iff.mp (known _ stray)).2 rfl
  · rintro ⟨⟨pieces, rfl, readable, has⟩, braced⟩
    have no_stray := (well_braced_written readable).mp braced
    refine ⟨⟨pieces, rfl, fun piece member => ?_, has⟩, not_blank_of_has_token readable has⟩
    exact known_iff.mpr ⟨readable piece member, fun same => no_stray (same ▸ member)⟩

/-- What the grammar makes is accepted. -/
theorem accepted_of_grammatical (grammatical : Grammatical template) :
    validate_template template = .ok () := by
  obtain ⟨⟨pieces, rfl, known, has⟩, -⟩ := grammatical
  refine (validate_template_eq_ok_iff _).mpr ⟨pieces, rfl, ?_, covered_of_known known, has⟩
  exact fun piece member => (known piece member).readable

/-- What validation promises of a template: it is accepted exactly where the grammar has it, and
refused where its braces do not pair. -/
structure KeepsGrammar : Prop where
  exactly : validate_template template = .ok () ↔ Grammatical template
  braced : well_braced false template = false → validate_template template ≠ .ok ()

/-- A closing brace stands among the literal characters, and a token behind every such brace;
all else is as the grammar has it. -/
def Overlooked : Prop :=
  ∃ pieces, written pieces = template ∧ (∀ piece ∈ pieces, piece.Readable) ∧
    .Literal '}' ∈ pieces ∧ Covered pieces

/-- **Validation accepts the grammar**, and no other template than one with a closing brace in
front of a token. -/
theorem validate_template_iff : KeepsGrammar template ↔ ¬ Overlooked template := by
  constructor
  · rintro keeps ⟨pieces, rfl, readable, stray, covered⟩
    obtain ⟨before, after, split⟩ := List.append_of_mem stray
    obtain ⟨name, behind⟩ := covered before after split
    have has : HasToken pieces :=
      ⟨name, split ▸ List.mem_append_right before (List.mem_cons_of_mem _ behind)⟩
    have accepted := (validate_template_eq_ok_iff _).mpr ⟨pieces, rfl, readable, covered, has⟩
    have braced := ((grammatical_iff _).mp (keeps.exactly.mp accepted)).2
    exact (well_braced_written readable).mp braced stray
  · intro seen
    have grammatical : validate_template template = .ok () → Grammatical template := by
      intro accepted
      obtain ⟨pieces, rfl, readable, covered, has⟩ :=
        (validate_template_eq_ok_iff template).mp accepted
      have no_stray : .Literal '}' ∉ pieces :=
        fun stray => seen ⟨pieces, rfl, readable, stray, covered⟩
      exact (grammatical_iff _).mpr
        ⟨⟨pieces, rfl, readable, has⟩, (well_braced_written readable).mpr no_stray⟩
    refine ⟨⟨grammatical, accepted_of_grammatical template⟩, fun unpaired accepted => ?_⟩
    have braced := ((grammatical_iff template).mp (grammatical accepted)).2
    exact absurd (unpaired.symm.trans braced) Bool.false_ne_true

/-- A brace nobody opened, in front of a token. -/
theorem stray_brace_accepted : ¬ KeepsGrammar "a\x7db\x7bdate\x7d".toList := by
  intro keeps
  have accepted : validate_template "a\x7db\x7bdate\x7d".toList = .ok () := by decide
  exact keeps.braced (by decide) accepted

end Captastic.Analysis
