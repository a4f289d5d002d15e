import Captastic.Analysis.TemplateGrammar

/-!
# The name a template gives a capture

The name of a template written of pieces is made of its literal characters as they stand and
of the sanitized text of each token (`expand_written`); then its ends are trimmed, its runs of
separators made one, its length cut and what Windows would drop at its end removed.  A field
brings nothing forbidden into it, so a name is unusable only through a forbidden character
the template has itself, or through the name of a device before a dot
(`usable_name_iff`).
-/

set_option autoImplicit false

namespace Captastic.Analysis

open Captastic.Library Captastic.Model

/-! ## Fields -/

/-- What may stand in a field. -/
def is_plain (c : Char) : Bool := is_acceptable c && !is_whitespace c && c != '.'

/-- One step of the sanitizing loop leaves what was kept plain. -/
theorem sanitize_step_plain {state : List Char × Bool} (plain : ∀ c ∈ state.1, is_plain c = true)
    (c : Char) : ∀ x ∈ (sanitize_step state c).1, is_plain x = true := by
  unfold sanitize_step
  split
  · rename_i fits
    have separator : is_plain '-' = true := by decide
    dsimp only
    split
    · intro x member
      rcases List.mem_append.mp member with member | member
      · exact plain x member
      · rcases List.mem_cons.mp member with rfl | member
        · exact separator
        · exact List.mem_singleton.mp member ▸ fits
    · intro x member
      rcases List.mem_append.mp member with member | member
      · exact plain x member
      · exact List.mem_singleton.mp member ▸ fits
  · exact plain

/-- So the whole loop does. -/
theorem sanitize_from_plain (value : List Char) {state : List Char × Bool}
    (plain : ∀ c ∈ state.1, is_plain c = true) :
    ∀ c ∈ sanitize_from state value, is_plain c = true := by
  induction value generalizing state with
  | nil => exact plain
  | cons c rest ih =>
    have next := sanitize_step_plain plain c
    unfold sanitize_from
    dsimp only
    split
    · exact next
    · exact ih next

/-- **A field** holds only characters that may stand in one. -/
theorem sanitize_field_plain (value : List Char) : ∀ c ∈ sanitize_field value, is_plain c = true :=
  sanitize_from_plain value nofun

/-! ## The text of a name -/

/-- A piece as a name has it. -/
def Piece.named (context : TemplateContext) : Piece → List Char
  | .Literal c => [c]
  | .Token name => sanitize_field (context.value name)

def named (context : TemplateContext) (pieces : List Piece) : List Char :=
  pieces.flatMap (Piece.named context)

variable (context : TemplateContext)

/-- The first piece is written before the others. -/
theorem named_cons (piece : Piece) (pieces : List Piece) :
    named context (piece :: pieces) = piece.named context ++ named context pieces :=
  List.flatMap_cons

/-- Pieces are written one behind the other. -/
theorem named_append (before after : List Piece) :
    named context (before ++ after) = named context before ++ named context after :=
  List.flatMap_append

/-- A character other than a brace is copied. -/
theorem expand_tokens_literal {c : Char} (plain : c ≠ '{') (fuel : Nat) (stem rest : List Char) :
    expand_tokens context fuel stem (c :: rest) =
      expand_tokens context fuel (stem ++ [c]) rest := by
  cases fuel with
  | zero =>
    unfold expand_tokens
    rw [List.append_assoc, List.singleton_append]
  | succ fuel =>
    unfold expand_tokens
    rw [cut_at_cons_of_ne plain]
    cases cut_at '{' rest with
    | none =>
      rw [Option.map_none]
      dsimp only
      rw [List.append_assoc, List.singleton_append]
    | some parts =>
      rw [Option.map_some]
      dsimp only
      rw [List.append_assoc stem [c], List.singleton_append]

/-- A token that is known is replaced by its sanitized value. -/
theorem expand_tokens_token {name : String} (known : name ∈ TOKENS) (fuel : Nat)
    (stem rest : List Char) :
    expand_tokens context (fuel + 1) stem (Piece.written (.Token name) ++ rest) =
      expand_tokens context fuel (stem ++ sanitize_field (context.value name)) rest := by
  rw [written_token, expand_tokens, cut_at_self]
  dsimp only
  rw [cut_at_append (token_clear known).2]
  dsimp only
  rw [String.ofList_toList, List.append_nil]

/-- A template whose pieces can be read expands to what they name. -/
theorem expand_tokens_written {pieces : List Piece} (readable : ∀ piece ∈ pieces, piece.Readable)
    (fuel : Nat) (enough : pieces.length ≤ fuel) (stem : List Char) :
    expand_tokens context fuel stem (written pieces) = stem ++ named context pieces := by
  induction pieces generalizing fuel stem with
  | nil =>
    cases fuel with
    | zero => rfl
    | succ fuel => rfl
  | cons piece pieces ih =>
    have rest_readable : ∀ other ∈ pieces, other.Readable :=
      fun other member => readable other (List.mem_cons_of_mem _ member)
    have here := readable piece List.mem_cons_self
    rw [List.length_cons] at enough
    rw [written_cons, named_cons]
    cases piece with
    | Literal c =>
      rw [Piece.written, List.singleton_append, expand_tokens_literal context here.1,
        ih rest_readable fuel (by omega), List.append_assoc]
      rfl
    | Token name =>
      obtain ⟨fuel, rfl⟩ : ∃ n, fuel = n + 1 := ⟨fuel - 1, by omega⟩
      rw [expand_tokens_token context here, ih rest_readable fuel (by omega), List.append_assoc]
      rfl

/-- **The text of a name**: literal characters as they stand, tokens as sanitized fields. -/
theorem expand_written {pieces : List Piece} (readable : ∀ piece ∈ pieces, piece.Readable) :
    expand (written pieces) context = finalize_stem (named context pieces) := by
  unfold expand
  rw [expand_tokens_written context readable _ (length_le_length_written pieces)]
  rfl

/-- A character Windows forbids in a file name. -/
def Unfit (c : Char) : Prop := is_control c = true ∨ c ∈ FORBIDDEN

/-- A plain character is allowed in a file name. -/
theorem not_unfit_of_plain {c : Char} (plain : is_plain c = true) : ¬ Unfit c := by
  unfold is_plain is_acceptable at plain
  simp only [Bool.and_eq_true, Bool.not_eq_true'] at plain
  rintro (control | forbidden)
  · rw [plain.1.1.1.1.1] at control
    cases control
  · have found := plain.1.1.1.1.2
    rw [List.contains_iff_mem.mpr forbidden] at found
    cases found

instance (c : Char) : Decidable (Unfit c) := inferInstanceAs (Decidable (_ ∨ _))

/-- A text that passes the check has no character that is not. -/
theorem fit_of_all {text : List Char} (all : text.all (fun c => !decide (Unfit c)) = true) :
    ∀ c ∈ text, ¬ Unfit c := by
  intro c member unfit
  have fits := List.all_eq_true.mp all c member
  rw [decide_eq_true unfit] at fits
  cases fits

/-- Spaces, dots and dashes are allowed in a file name. -/
theorem not_unfit_of_untidy {c : Char} (untidy : is_untidy c = true) : ¬ Unfit c := by
  unfold is_untidy at untidy
  simp only [Bool.or_eq_true, beq_iff_eq] at untidy
  rcases untidy with (rfl | rfl) | rfl <;> decide

/-- An unfit character of a name is a literal character of its template. -/
theorem literal_of_unfit {pieces : List Piece} {left right : List Char} {c : Char}
    (unfit : Unfit c) (split : named context pieces = left ++ c :: right) :
    ∃ before after, pieces = before ++ .Literal c :: after ∧ named context before = left ∧
      named context after = right := by
  induction pieces generalizing left with
  | nil =>
    have absent : [] = left ++ c :: right := split
    cases left <;> cases absent
  | cons piece pieces ih =>
    rw [named_cons] at split
    rcases List.append_eq_append_iff.mp split with ⟨more, rfl, rest⟩ | ⟨more, here, rest⟩
    · obtain ⟨before, after, rfl, rfl, rfl⟩ := ih rest
      exact ⟨piece :: before, after, rfl, rfl, rfl⟩
    · cases more with
      | nil =>
        rw [List.append_nil] at here
        have behind : named context pieces = [] ++ c :: right := rest.symm
        obtain ⟨before, after, rfl, none_before, rfl⟩ := ih behind
        refine ⟨piece :: before, after, rfl, ?_, rfl⟩
        rw [named_cons, none_before, List.append_nil, here]
      | cons x more =>
        cases rest
        cases piece with
        | Literal y =>
          have single : [y] = left ++ c :: more := here
          cases left with
          | nil =>
            cases single
            exact ⟨[], pieces, rfl, rfl, rfl⟩
          | cons z left =>
            rw [List.cons_append] at single
            have none_left := (List.cons.inj single).2
            cases left <;> cases none_left
        | Token name =>
          have field : sanitize_field (context.value name) = left ++ c :: more := here
          have plain := sanitize_field_plain (context.value name) c
            (field ▸ List.mem_append_right left List.mem_cons_self)
          exact absurd unfit (not_unfit_of_plain plain)

/-! ## What is kept of a text -/

/-- The squeezing loop is `squeeze`, cut at the greatest length. -/
theorem squeeze_from_eq (rest : List Char) (finalized : List Char) (previous : Bool)
    (short : finalized.length < MAX_STEM_CHARS) :
    squeeze_from finalized previous rest =
      (finalized ++ squeeze '-' previous rest).take MAX_STEM_CHARS := by
  induction rest generalizing finalized previous with
  | nil =>
    unfold squeeze_from squeeze
    rw [List.append_nil, List.take_of_length_le (by omega)]
  | cons c rest ih =>
    have pushed (q : Bool) :
        (if MAX_STEM_CHARS ≤ (finalized ++ [c]).length then finalized ++ [c]
          else squeeze_from (finalized ++ [c]) q rest) =
        (finalized ++ c :: squeeze '-' q rest).take MAX_STEM_CHARS := by
      have joined : finalized ++ c :: squeeze '-' q rest =
          (finalized ++ [c]) ++ squeeze '-' q rest := by simp
      have length : (finalized ++ [c]).length = finalized.length + 1 := by simp
      rw [joined]
      split
      · rw [List.take_left' (by omega)]
      · exact ih (finalized ++ [c]) q (by omega)
    unfold squeeze_from
    by_cases same : c = '-'
    · subst same
      cases previous with
      | true =>
        rw [if_pos (by decide), squeeze_cons_again]
        exact ih finalized true short
      | false =>
        rw [if_neg (by decide), squeeze_cons_once]
        exact pushed true
    · have other : (c == '-') = false := beq_false_of_ne same
      rw [other, Bool.false_and, if_neg Bool.false_ne_true, squeeze_cons_of_ne same]
      exact pushed false

/-- What is left of a text once its ends are trimmed, its separators squeezed and its length
cut. -/
def kept (text : List Char) : List Char :=
  (squeeze '-' false (trim_by is_trimmed text)).take MAX_STEM_CHARS

/-- What is left once the end of that is tidy. -/
def tidied (text : List Char) : List Char := (kept text).rdropWhile is_untidy

/-- The name of a device, in any case. -/
def IsDevice (name : List Char) : Prop := String.ofList (to_ascii_lowercase name) ∈ RESERVED_STEMS

instance (name : List Char) : Decidable (IsDevice name) :=
  inferInstanceAs (Decidable (_ ∈ RESERVED_STEMS))

/-- A stem is the fallback where nothing is left, a device's name made harmless, or what is left. -/
theorem finalize_stem_eq (text : List Char) :
    finalize_stem text =
      if tidied text = [] then FALLBACK_STEM
      else if IsDevice ((tidied text).takeWhile (· != '.')) then tidied text ++ "-capture".toList
      else tidied text := by
  unfold finalize_stem IsDevice
  rw [squeeze_from_eq _ [] false (by decide), List.nil_append]
  simp only [List.isEmpty_iff]
  rfl

/-- What is kept is no longer than the greatest length. -/
theorem kept_length_le (text : List Char) : (kept text).length ≤ MAX_STEM_CHARS :=
  List.length_take_le _ _

/-- Nor is it once its end is tidy. -/
theorem tidied_length_le (text : List Char) : (tidied text).length ≤ MAX_STEM_CHARS :=
  (List.rdropWhile_prefix is_untidy _).length_le.trans (kept_length_le text)

/-- Its last character is no space, dot or dash. -/
theorem last_of_tidied {text : List Char} {c : Char} (last : (tidied text).getLast? = some c) :
    is_untidy c = false := by
  have some_left : tidied text ≠ [] := fun none_left => by rw [none_left] at last; cases last
  have tidy := List.rdropWhile_last_not is_untidy (kept text) some_left
  rw [List.getLast?_eq_some_getLast some_left] at last
  rw [← Option.some.inj last]
  exact eq_false_of_ne_true tidy

/-- **What is kept**: an unfit character of a text stands in its name, unless it is trimmed off
an end or the longest name is full before it. -/
theorem mem_tidied_iff {text : List Char} {c : Char} (unfit : Unfit c) :
    c ∈ tidied text ↔
      ∃ left right, text = left ++ c :: right ∧
        (is_trimmed c = false ∨ ∃ x ∈ left, is_trimmed x = false) ∧
        (is_trimmed c = false ∨ ∃ x ∈ right, is_trimmed x = false) ∧
        (squeeze '-' false (left.dropWhile is_trimmed)).length < MAX_STEM_CHARS := by
  have tidy : is_untidy c = false :=
    eq_false_of_ne_true fun untidy => not_unfit_of_untidy untidy unfit
  have other : c ≠ '-' := fun same => not_unfit_of_untidy (same ▸ rfl) unfit
  constructor
  · intro member
    have member := (List.rdropWhile_prefix is_untidy _).subset member
    obtain ⟨before, after, trimmed, short⟩ := exists_of_mem_take_squeeze other member
    obtain ⟨left, right, whole, rfl, rfl, left_stays, right_stays⟩ := exists_of_trim_by trimmed
    exact ⟨left, right, whole, left_stays, right_stays, short⟩
  · rintro ⟨left, right, rfl, left_stays, right_stays, short⟩
    unfold tidied kept
    rw [trim_by_around left_stays right_stays, squeeze_around other, take_append_cons short,
      rdropWhile_append_cons (.inl tidy)]
    exact List.mem_append_right _ List.mem_cons_self

/-! ## Devices -/

/-- The name of a device is short, with no dash and no dot in it. -/
theorem device_facts {device : List Char} (is_device : IsDevice device) :
    device.length ≤ 4 ∧ '-' ∉ device ∧ '.' ∉ device := by
  have all : ∀ name ∈ RESERVED_STEMS, name.toList.length ≤ 4 ∧ '-' ∉ name.toList ∧
      '.' ∉ name.toList := by decide
  obtain ⟨short, hyphen, dot⟩ := all _ is_device
  rw [String.toList_ofList, to_ascii_lowercase] at short hyphen dot
  rw [List.length_map] at short
  exact ⟨short, fun member => hyphen (List.mem_map.mpr ⟨_, member, rfl⟩),
    fun member => dot (List.mem_map.mpr ⟨_, member, rfl⟩)⟩

/-- A text that begins with the name of a device and a dot, with something behind them that the
name keeps. -/
def NamesDevice (text : List Char) : Prop :=
  ∃ device rest, trim_by is_trimmed text = device ++ '.' :: rest ∧ IsDevice device ∧
    ∃ c ∈ (squeeze '-' false rest).take (MAX_STEM_CHARS - device.length - 1), is_untidy c = false

/-- What stands before the first dot. -/
theorem takeWhile_dot {before after : List Char} (clear : '.' ∉ before) :
    (before ++ '.' :: after).takeWhile (· != '.') = before := by
  rw [List.takeWhile_append_of_pos]
  · rw [List.takeWhile_cons_of_neg (by decide), List.append_nil]
  · intro c member
    exact bne_iff_ne.mpr fun same => clear (same ▸ member)

/-- A text without a dot stands before it whole. -/
theorem takeWhile_of_no_dot {text : List Char} (clear : '.' ∉ text) :
    text.takeWhile (· != '.') = text := by
  rw [List.takeWhile_eq_self_iff]
  exact fun c member => bne_iff_ne.mpr fun same => clear (same ▸ member)

/-- A text with a dot is what stands before the first one, and the rest. -/
theorem split_at_dot {text : List Char} (dotted : '.' ∈ text) :
    ∃ after, text = text.takeWhile (· != '.') ++ '.' :: after := by
  induction text with
  | nil => cases dotted
  | cons c text ih =>
    by_cases same : c = '.'
    · subst same
      exact ⟨text, rfl⟩
    · obtain ⟨after, split⟩ := ih (List.mem_of_ne_of_mem (Ne.symm same) dotted)
      refine ⟨after, ?_⟩
      have keeps : (c != '.') = true := bne_iff_ne.mpr same
      rw [List.takeWhile_cons_of_pos (p := (· != '.')) keeps, List.cons_append, ← split]

/-- A stem goes by a device's name exactly where that stands before its first dot. -/
theorem names_device_iff (text : List Char) :
    NamesDevice text ↔
      '.' ∈ tidied text ∧ IsDevice ((tidied text).takeWhile (· != '.')) := by
  have other : '.' ≠ '-' := by decide
  constructor
  · rintro ⟨device, rest, trimmed, is_device, c, member, tidy⟩
    obtain ⟨short, hyphen, dot⟩ := device_facts is_device
    have room : device.length < MAX_STEM_CHARS := short.trans_lt (by decide)
    have tidied_eq : tidied text = device ++ '.' :: ((squeeze '-' false rest).take
        (MAX_STEM_CHARS - device.length - 1)).rdropWhile is_untidy := by
      unfold tidied kept
      rw [trimmed, squeeze_around other, squeeze_eq_self hyphen, take_append_cons room,
        rdropWhile_append_cons (.inr ⟨c, member, tidy⟩)]
    rw [tidied_eq, takeWhile_dot dot]
    exact ⟨List.mem_append_right _ List.mem_cons_self, is_device⟩
  · rintro ⟨dotted, is_device⟩
    obtain ⟨short, hyphen, -⟩ := device_facts is_device
    have room : ((tidied text).takeWhile (· != '.')).length < MAX_STEM_CHARS :=
      short.trans_lt (by decide)
    obtain ⟨after, split⟩ := split_at_dot dotted
    obtain ⟨right, kept_eq, -, stays⟩ := exists_of_rdropWhile split
    have whole : squeeze '-' false (trim_by is_trimmed text) =
        (tidied text).takeWhile (· != '.') ++ '.' ::
          (right ++ (squeeze '-' false (trim_by is_trimmed text)).drop MAX_STEM_CHARS) := by
      rw [← List.cons_append, ← List.append_assoc, ← kept_eq]
      exact (List.take_append_drop _ _).symm
    obtain ⟨rest, trimmed, squeezed⟩ := exists_of_squeeze other hyphen whole
    have right_eq : right = (squeeze '-' false rest).take
        (MAX_STEM_CHARS - ((tidied text).takeWhile (· != '.')).length - 1) := by
      unfold kept at kept_eq
      rw [whole, take_append_cons room, ← squeezed] at kept_eq
      exact (List.cons.inj (List.append_cancel_left kept_eq)).2.symm
    rcases stays with untidy | ⟨c, member, tidy⟩
    · cases untidy
    · exact ⟨_, rest, trimmed, is_device, c, right_eq ▸ member, tidy⟩

/-! ## Usable names -/

/-- What a file name has to be: some text, not too long, without a separator, a control
character or one Windows forbids, not ending in a dot or a space, and not the name of a device,
with or without an extension. -/
structure Usable (stem : List Char) : Prop where
  nonempty : stem ≠ []
  length_le : stem.length ≤ MAX_STEM_CHARS
  no_separator : '/' ∉ stem ∧ '\\' ∉ stem
  no_control : ∀ c ∈ stem, is_control c = false
  permitted : ∀ c ∈ stem, c ∉ FORBIDDEN
  no_last : stem.getLast? ≠ some '.' ∧ stem.getLast? ≠ some ' '
  no_device : ¬ IsDevice (stem.takeWhile (· != '.'))

/-- A stem that is tidy and short can be used exactly where all of it is allowed, and no device
is named. -/
theorem usable_iff {stem : List Char} (nonempty : stem ≠ [])
    (length_le : stem.length ≤ MAX_STEM_CHARS)
    (tidy : ∀ c, stem.getLast? = some c → is_untidy c = false) :
    Usable stem ↔ (∀ c ∈ stem, ¬ Unfit c) ∧ ¬ IsDevice (stem.takeWhile (· != '.')) := by
  constructor
  · intro usable
    refine ⟨fun c member unfit => ?_, usable.no_device⟩
    rcases unfit with control | forbidden
    · rw [usable.no_control c member] at control
      cases control
    · exact usable.permitted c member forbidden
  · rintro ⟨fit, no_device⟩
    refine ⟨nonempty, length_le, ⟨?_, ?_⟩, ?_, ?_, ⟨?_, ?_⟩, no_device⟩
    · exact fun member => fit _ member (by decide)
    · exact fun member => fit _ member (by decide)
    · exact fun c member => eq_false_of_ne_true fun control => fit c member (.inl control)
    · exact fun c member forbidden => fit c member (.inr forbidden)
    · exact fun last => absurd (tidy _ last) (by decide)
    · exact fun last => absurd (tidy _ last) (by decide)

/-- **The finished name** is usable exactly where it keeps no unfit character and does not begin
with a device's name and a dot. -/
theorem usable_finalize_stem_iff (text : List Char) :
    Usable (finalize_stem text) ↔ (∀ c ∈ tidied text, ¬ Unfit c) ∧ ¬ NamesDevice text := by
  rw [finalize_stem_eq, names_device_iff]
  split
  · rename_i nothing
    have usable : Usable FALLBACK_STEM := by
      rw [usable_iff (by decide) (by decide) (fun c last => by cases last; rfl)]
      exact ⟨fit_of_all (by decide), by decide⟩
    rw [nothing]
    exact ⟨fun _ => ⟨nofun, nofun⟩, fun _ => usable⟩
  · rename_i something
    split
    · rename_i is_device
      by_cases dotted : '.' ∈ tidied text
      · obtain ⟨after, split⟩ := split_at_dot dotted
        have leading : (tidied text ++ "-capture".toList).takeWhile (· != '.') =
            (tidied text).takeWhile (· != '.') := by
          conv_lhs => rw [split, List.append_assoc, List.cons_append]
          exact takeWhile_dot (device_facts is_device).2.2
        constructor
        · exact fun usable => absurd (leading ▸ is_device) usable.no_device
        · exact fun both => absurd ⟨dotted, is_device⟩ both.2
      · rw [takeWhile_of_no_dot dotted] at is_device
        obtain ⟨short, -, -⟩ := device_facts is_device
        have length : (tidied text ++ "-capture".toList).length ≤ MAX_STEM_CHARS := by
          rw [List.length_append]
          exact (Nat.add_le_add_right short _).trans (by decide)
        have last : (tidied text ++ "-capture".toList).getLast? = some 'e' := by
          rw [List.getLast?_append]
          rfl
        rw [usable_iff (List.append_ne_nil_of_left_ne_nil something _) length
          fun c same => by rw [last] at same; cases same; rfl]
        constructor
        · exact fun both => ⟨fun c member => both.1 c (List.mem_append_left _ member),
            fun device => dotted device.1⟩
        · rintro ⟨fit, -⟩
          refine ⟨fun c member => ?_, ?_⟩
          · rcases List.mem_append.mp member with member | member
            · exact fit c member
            · have added : ∀ c ∈ "-capture".toList, ¬ Unfit c := fit_of_all (by decide)
              exact added c member
          · have no_dot : '.' ∉ tidied text ++ "-capture".toList :=
              fun member => (List.mem_append.mp member).elim dotted (by decide)
            rw [takeWhile_of_no_dot no_dot]
            exact fun device => (device_facts device).2.1 (List.mem_append_right _ (by decide))
    · rename_i no_device
      rw [usable_iff something (tidied_length_le text) fun c last => last_of_tidied last]
      exact ⟨fun both => ⟨both.1, fun device => no_device device.2⟩,
        fun both => ⟨both.1, no_device⟩⟩

/-! ## The file -/

/-- A name without a colon names no drive. -/
theorem drive_of_eq_none (style : PathStyle) {stem : List Char} (nonempty : stem ≠ [])
    (no_colon : ':' ∉ stem) (extension : List Char) :
    drive_of style (stem ++ '.' :: extension) = none := by
  unfold drive_of
  split
  · rename_i drive rest split
    cases stem with
    | nil => exact absurd rfl nonempty
    | cons first stem =>
      cases stem with
      | nil => simp at split
      | cons second stem =>
        rw [List.cons_append, List.cons_append] at split
        have colon := (List.cons.inj (List.cons.inj split).2).1
        exact absurd (colon ▸ List.mem_cons_of_mem first List.mem_cons_self) no_colon
  · rfl

/-- A name that ends in no dot is one component of a path, as it is. -/
theorem name_component_eq {stem : List Char} (nonempty : stem ≠ [])
    (last : stem.getLast? ≠ some '.') (extension : List Char) :
    name_component (stem ++ '.' :: extension) = [.Normal (stem ++ '.' :: extension)] := by
  cases stem with
  | nil => exact absurd rfl nonempty
  | cons first stem =>
    unfold name_component
    rw [if_neg, if_neg]
    · intro same
      cases stem with
      | nil =>
        have dot := (List.cons.inj same).1
        rw [dot] at last
        exact last rfl
      | cons second stem => simp at same
    · rintro (same | same)
      · cases same
      · cases stem <;> simp at same

/-- A character that Windows permits in a name parts no components. -/
theorem permitted_no_separator (style : PathStyle) {c : Char} (permitted : c ∉ FORBIDDEN) :
    is_separator style c = false := by
  by_contra separates
  rw [Bool.not_eq_false] at separates
  apply permitted
  cases style with
  | Posix =>
    obtain rfl := of_decide_eq_true separates
    decide
  | Drives =>
    rcases (Bool.or_eq_true _ _).mp separates with slash | backslash
    · obtain rfl := of_decide_eq_true slash
      decide
    · obtain rfl := of_decide_eq_true backslash
      decide

/-- An extension parts no components. -/
theorem extension_no_separator (style : PathStyle) (format : OutputFormat) :
    ∀ c ∈ format.extension, is_separator style c = false := by
  have clear : format.extension.all (fun c => !is_separator style c) = true := by
    cases style <;> cases format <;> decide
  intro c member
  exact (Bool.not_eq_true' _).mp (List.all_eq_true.mp clear c member)

/-- **The file**: a usable name is a direct child of a directory that goes up nowhere, and of no
other. -/
theorem resolve_eq_some_iff (style : PathStyle) (directory : List Component) {stem : List Char}
    (usable : Usable stem) {extension : List Char}
    (whole : ∀ c ∈ extension, is_separator style c = false) :
    resolve style directory stem extension =
        some (directory ++ [.Normal (stem ++ '.' :: extension)]) ↔
      .ParentDir ∉ directory := by
  have no_colon : ':' ∉ stem := fun member => usable.permitted _ member (by decide)
  have joined : join style directory (stem ++ '.' :: extension) =
      directory ++ [.Normal (stem ++ '.' :: extension)] := by
    unfold join
    rw [drive_of_eq_none style usable.nonempty no_colon,
      name_component_eq usable.nonempty usable.no_last.1]
  have inside : is_inside directory (directory ++ [.Normal (stem ++ '.' :: extension)]) = true ↔
      .ParentDir ∉ directory := by
    have above : parent (directory ++ [.Normal (stem ++ '.' :: extension)]) = some directory := by
      unfold parent
      rw [List.getLast?_concat, List.dropLast_concat]
    have there : .ParentDir ∈ directory ++ [.Normal (stem ++ '.' :: extension)] ↔
        .ParentDir ∈ directory := by simp
    unfold is_inside
    rw [above]
    split
    · rename_i upward
      exact ⟨nofun, fun clear => absurd (there.mp upward) clear⟩
    · rename_i clear
      exact ⟨fun _ upward => clear (there.mpr upward), fun _ => beq_self_eq_true directory⟩
  have no_separator : (stem ++ '.' :: extension).any (is_separator style) = false := by
    rw [List.any_eq_false]
    intro c member
    rw [Bool.not_eq_true]
    rcases List.mem_append.mp member with member | member
    · exact permitted_no_separator style (usable.permitted c member)
    · rcases List.mem_cons.mp member with rfl | member
      · cases style <;> rfl
      · exact whole c member
  unfold resolve
  dsimp only
  simp only [joined, no_separator, Bool.not_false, true_and]
  rw [← inside]
  split
  · rename_i within
    exact ⟨fun _ => within, fun _ => rfl⟩
  · rename_i outside
    exact ⟨nofun, fun within => absurd within outside⟩

/-- What a capture's file name promises: it is usable, and the file a direct child of the output
directory. -/
def NamesFile (style : PathStyle) (directory : List Component) (format : OutputFormat)
    (template : List Char) (context : TemplateContext) : Prop :=
  Usable (expand template context) ∧
    resolve style directory (expand template context) format.extension =
      some (directory ++ [.Normal (expand template context ++ '.' :: format.extension)])

/-- No unfit literal character of a template reaches the name: each is trimmed off an end of
it, or has the longest name in front of it. -/
def LiteralsFit (pieces : List Piece) : Prop :=
  ∀ before c after, pieces = before ++ .Literal c :: after → Unfit c →
    (is_trimmed c = true ∧ ((∀ x ∈ named context before, is_trimmed x = true) ∨
      ∀ x ∈ named context after, is_trimmed x = true)) ∨
    MAX_STEM_CHARS ≤ (squeeze '-' false ((named context before).dropWhile is_trimmed)).length

/-- The literals fit exactly where all of the stem is allowed in a file name. -/
theorem literals_fit_iff (pieces : List Piece) :
    LiteralsFit context pieces ↔ ∀ c ∈ tidied (named context pieces), ¬ Unfit c := by
  constructor
  · intro fits c member unfit
    obtain ⟨left, right, split, left_stays, right_stays, short⟩ := (mem_tidied_iff unfit).mp member
    obtain ⟨before, after, rfl, rfl, rfl⟩ := literal_of_unfit context unfit split
    rcases fits before c after rfl unfit with ⟨trimmed, all | all⟩ | full
    · rcases left_stays with stays | ⟨x, found, stays⟩
      · exact absurd (trimmed.symm.trans stays) (by decide)
      · exact absurd ((all x found).symm.trans stays) (by decide)
    · rcases right_stays with stays | ⟨x, found, stays⟩
      · exact absurd (trimmed.symm.trans stays) (by decide)
      · exact absurd ((all x found).symm.trans stays) (by decide)
    · omega
  · rintro clean before c after rfl unfit
    by_contra reaches
    rw [not_or, not_and_or, not_or] at reaches
    obtain ⟨stays, short⟩ := reaches
    apply clean c ?_ unfit
    rw [mem_tidied_iff unfit]
    refine ⟨named context before, named context after, ?_, ?_, ?_, by omega⟩
    · rw [named_append, named_cons]
      rfl
    · rcases stays with stays | ⟨stays, -⟩
      · exact .inl (eq_false_of_ne_true stays)
      · simp only [not_forall] at stays
        obtain ⟨x, found, stays⟩ := stays
        exact .inr ⟨x, found, eq_false_of_ne_true stays⟩
    · rcases stays with stays | ⟨-, stays⟩
      · exact .inl (eq_false_of_ne_true stays)
      · simp only [not_forall] at stays
        obtain ⟨x, found, stays⟩ := stays
        exact .inr ⟨x, found, eq_false_of_ne_true stays⟩

/-- **A template's name is usable** exactly where no unfit literal character reaches it, it does
not begin with a device's name and a dot, and the output directory goes up nowhere. -/
theorem names_file_iff (style : PathStyle) (directory : List Component) (format : OutputFormat)
    (template : List Char) (context : TemplateContext)
    (accepted : validate_template template = .ok ()) :
    NamesFile style directory format template context ↔
      (∀ pieces, written pieces = template → (∀ piece ∈ pieces, piece.Readable) →
        LiteralsFit context pieces ∧ ¬ NamesDevice (named context pieces)) ∧
      .ParentDir ∉ directory := by
  unfold NamesFile
  constructor
  · rintro ⟨usable, placed⟩
    refine ⟨?_, (resolve_eq_some_iff style directory usable
      (extension_no_separator style format)).mp placed⟩
    rintro pieces rfl readable
    rw [expand_written context readable, usable_finalize_stem_iff, ← literals_fit_iff] at usable
    exact usable
  · rintro ⟨fits, upward⟩
    obtain ⟨pieces, rfl, readable, -⟩ := (validate_template_eq_ok_iff template).mp accepted
    have usable : Usable (expand (written pieces) context) := by
      rw [expand_written context readable, usable_finalize_stem_iff, ← literals_fit_iff]
      exact fits pieces rfl readable
    exact ⟨usable, (resolve_eq_some_iff style directory usable
      (extension_no_separator style format)).mpr upward⟩

/-- Zero is a `u32`. -/
theorem in_u32_zero : InU32 0 := by decide

/-- A capture of the epoch, of a window whose title tries to leave its directory. -/
def hostile_capture : TemplateContext where
  timestamp_micros := 0
  display := "primary".toList
  mode := "window".toList
  width := ⟨0, in_u32_zero⟩
  height := ⟨0, in_u32_zero⟩
  application := none
  title := some "../../con".toList

/-- Its name is usable, and its file in the root: what the title tries is made of fields, so every
literal fits. -/
theorem names_file_iff_hostile :
    validate_template "{date}-{title}".toList = .ok () ∧
      NamesFile .Drives [.Prefix 'C', .RootDir] .Png "{date}-{title}".toList hostile_capture ∧
      ∀ pieces, written pieces = "{date}-{title}".toList →
        (∀ piece ∈ pieces, piece.Readable) → LiteralsFit hostile_capture pieces ∧
          ¬ NamesDevice (named hostile_capture pieces) := by
  have accepted : validate_template "{date}-{title}".toList = .ok () := by decide
  have names : NamesFile .Drives [.Prefix 'C', .RootDir] .Png "{date}-{title}".toList
      hostile_capture := by
    have expanded : expand "{date}-{title}".toList hostile_capture = "19700101-con".toList := by
      decide
    have allowed : ∀ c ∈ "19700101-con".toList, is_control c = false ∧ c ∉ FORBIDDEN := by
      have all_allowed : "19700101-con".toList.all
          (fun c => !is_control c && !FORBIDDEN.contains c) = true := by decide
      simpa [-List.all_eq_true] using List.all_eq_true.mp all_allowed
    refine ⟨?_, by decide⟩
    rw [expanded]
    exact ⟨by decide, by decide, by decide, fun c member => (allowed c member).1,
      fun c member => (allowed c member).2, by decide, by decide⟩
  exact ⟨accepted, names, ((names_file_iff .Drives [.Prefix 'C', .RootDir] .Png
    "{date}-{title}".toList hostile_capture accepted).mp names).1⟩

/-- A device before a dot: what is added to its name is added behind the dot. -/
theorem device_name_kept :
    validate_template "con.{date}".toList = .ok () ∧
      ¬ NamesFile .Drives [.Prefix 'C', .RootDir] .Png "con.{date}".toList hostile_capture := by
  refine ⟨by decide, fun promised => promised.1.no_device ?_⟩
  decide +kernel

end Captastic.Analysis
