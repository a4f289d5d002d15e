import Mathlib.Algebra.Ring.Nat
import Mathlib.Tactic.Common

/-!
# Decimals of a fixed width

A number written with a fixed number of digits (`decimals`), and text that begins with one: such
texts compare first by their numbers, then by the rest (`decimals_append_lt_iff`).  Texts made of
several such numbers with the same separators compare as their numbers do (`written_fields_lt_iff`).
-/

set_option autoImplicit false

namespace Captastic.Library

/-! ## Lists that begin alike -/

section Lexicographic

variable {α : Type} [LT α]

/-- Lists whose beginnings are of one length compare by them first. -/
theorem append_lt_append_iff {a b c d : List α}
    (same : a.length = b.length) : a ++ c < b ++ d ↔ a < b ∨ a = b ∧ c < d := by
  induction a generalizing b with
  | nil =>
    obtain rfl := List.length_eq_zero_iff.mp same.symm
    simp
  | cons x a ih =>
    cases b with
    | nil => cases same
    | cons y b =>
      have lengths : a.length = b.length := Nat.succ.inj same
      rw [List.cons_append, List.cons_append, List.cons_lt_cons_iff, List.cons_lt_cons_iff,
        ih lengths, List.cons.injEq]
      constructor
      · rintro (lower | ⟨rfl, lower | ⟨rfl, rest⟩⟩)
        · exact .inl (.inl lower)
        · exact .inl (.inr ⟨rfl, lower⟩)
        · exact .inr ⟨⟨rfl, rfl⟩, rest⟩
      · rintro ((lower | ⟨rfl, lower⟩) | ⟨⟨rfl, rfl⟩, rest⟩)
        · exact .inl lower
        · exact .inr ⟨rfl, .inl lower⟩
        · exact .inr ⟨rfl, .inr ⟨rfl, rest⟩⟩

end Lexicographic

/-! ## Digits -/

/-- The last `width` decimal digits of a number. -/
def decimals : Nat → Nat → List Char
  | 0, _ => []
  | width + 1, n => decimals width (n / 10) ++ [Nat.digitChar (n % 10)]

/-- So many digits are written. -/
theorem decimals_length (width n : Nat) : (decimals width n).length = width := by
  induction width generalizing n with
  | zero => rfl
  | succ width ih => rw [decimals, List.length_append, ih, List.length_singleton]

/-- Digits are ordered as their characters are. -/
theorem digitChar_lt_iff {a b : Nat} (a_lt : a < 10) (b_lt : b < 10) :
    Nat.digitChar a < Nat.digitChar b ↔ a < b := by
  have all : ∀ a < 10, ∀ b < 10, Nat.digitChar a < Nat.digitChar b ↔ a < b := by decide
  exact all a a_lt b b_lt

/-- Different digits have different characters. -/
theorem digitChar_inj {a b : Nat} (a_lt : a < 10) (b_lt : b < 10) :
    Nat.digitChar a = Nat.digitChar b ↔ a = b := by
  have all : ∀ a < 10, ∀ b < 10, Nat.digitChar a = Nat.digitChar b ↔ a = b := by decide
  exact all a a_lt b b_lt

/-- Every character written is that of a decimal digit. -/
theorem mem_decimals {width n : Nat} {c : Char} (member : c ∈ decimals width n) :
    ∃ digit < 10, c = Nat.digitChar digit := by
  induction width generalizing n with
  | zero => cases member
  | succ width ih =>
    rw [decimals, List.mem_append, List.mem_singleton] at member
    rcases member with member | rfl
    · exact ih member
    · exact ⟨n % 10, Nat.mod_lt _ (by decide), rfl⟩

/-- Numbers that fit their width and are written alike are one. -/
theorem decimals_inj {width n m : Nat} (n_lt : n < 10 ^ width) (m_lt : m < 10 ^ width) :
    decimals width n = decimals width m ↔ n = m := by
  induction width generalizing n m with
  | zero => simp at n_lt m_lt; simp [n_lt, m_lt]
  | succ width ih =>
    rw [Nat.pow_succ] at n_lt m_lt
    have heads := ih (n := n / 10) (m := m / 10) (by omega) (by omega)
    have lasts := digitChar_inj (Nat.mod_lt n (y := 10) (by decide))
      (Nat.mod_lt m (y := 10) (by decide))
    rw [decimals, decimals]
    constructor
    · intro same
      obtain ⟨head, last⟩ := List.append_inj' same rfl
      have := heads.mp head
      have := lasts.mp (List.singleton_inj.mp last)
      omega
    · rintro rfl
      rfl

/-- Numbers that fit their width are ordered as they are written. -/
theorem decimals_lt_iff {width n m : Nat} (n_lt : n < 10 ^ width) (m_lt : m < 10 ^ width) :
    decimals width n < decimals width m ↔ n < m := by
  induction width generalizing n m with
  | zero => simp at n_lt m_lt; simp [n_lt, m_lt]
  | succ width ih =>
    rw [Nat.pow_succ] at n_lt m_lt
    have heads := ih (n := n / 10) (m := m / 10) (by omega) (by omega)
    have same : decimals width (n / 10) = decimals width (m / 10) ↔ n / 10 = m / 10 :=
      decimals_inj (by omega) (by omega)
    rw [decimals, decimals, append_lt_append_iff
      ((decimals_length _ _).trans (decimals_length _ _).symm), heads, same,
      List.cons_lt_cons_iff, digitChar_lt_iff (Nat.mod_lt n (by decide)) (Nat.mod_lt m (by decide))]
    simp only [List.not_lt_nil, and_false, or_false]
    omega

/-- Texts that begin with numbers of one width compare by the numbers first. -/
theorem decimals_append_lt_iff {width n m : Nat} (n_lt : n < 10 ^ width) (m_lt : m < 10 ^ width)
    {a b : List Char} :
    decimals width n ++ a < decimals width m ++ b ↔ n < m ∨ n = m ∧ a < b := by
  rw [append_lt_append_iff
    ((decimals_length _ _).trans (decimals_length _ _).symm), decimals_lt_iff n_lt m_lt,
    decimals_inj n_lt m_lt]

/-- A number of fixed width can be read back from in front of any text. -/
theorem decimals_append_inj {width n m : Nat} (n_lt : n < 10 ^ width) (m_lt : m < 10 ^ width)
    {a b : List Char} : decimals width n ++ a = decimals width m ++ b ↔ n = m ∧ a = b := by
  rw [← decimals_inj n_lt m_lt]
  constructor
  · intro same
    exact List.append_inj same ((decimals_length _ _).trans (decimals_length _ _).symm)
  · rintro ⟨same, rfl⟩
    rw [same]

/-- Zero is written as zeros. -/
theorem decimals_zero (width : Nat) : decimals width 0 = List.replicate width '0' := by
  induction width with
  | zero => rfl
  | succ width ih =>
    rw [decimals, Nat.zero_div, ih, List.replicate_succ']
    rfl

/-- Zeros before the digits of a number fill its width. -/
theorem replicate_append_toDigits {width n : Nat} (wide : 0 < width) (n_lt : n < 10 ^ width) :
    List.replicate (width - (Nat.toDigits 10 n).length) '0' ++ Nat.toDigits 10 n =
      decimals width n := by
  induction width generalizing n with
  | zero => cases wide
  | succ width ih =>
    rcases Nat.lt_or_ge n 10 with small | large
    · rw [Nat.toDigits_of_lt_base small, decimals, Nat.div_eq_of_lt small, decimals_zero,
        Nat.mod_eq_of_lt small]
      rfl
    · have some_width : 0 < width := by
        rcases Nat.eq_zero_or_pos width with rfl | pos
        · omega
        · exact pos
      rw [Nat.pow_succ] at n_lt
      rw [Nat.toDigits_of_base_le (by decide) large, List.length_append, List.length_singleton,
        Nat.add_sub_add_right, ← List.append_assoc, ih some_width (by omega), decimals]

/-! ## Fields -/

/-- Numbers of fixed widths, each with the separator behind it. -/
def written_fields : List (Nat × List Char) → List Nat → List Char
  | (width, separator) :: fields, n :: numbers =>
    decimals width n ++ (separator ++ written_fields fields numbers)
  | _, _ => []

/-- Every number fits its field. -/
def FieldsFit (fields : List (Nat × List Char)) (numbers : List Nat) : Prop :=
  List.Forall₂ (fun field n => n < 10 ^ field.1) fields numbers

variable {fields : List (Nat × List Char)} {numbers others : List Nat}

/-- Numbers that fit their fields are ordered, the first field first, as they are written. -/
theorem written_fields_lt_iff (fit : FieldsFit fields numbers)
    (others_fit : FieldsFit fields others) :
    written_fields fields numbers < written_fields fields others ↔ numbers < others := by
  induction fit generalizing others with
  | nil =>
    cases others_fit
    exact iff_of_false (List.not_lt_nil _) (List.not_lt_nil _)
  | cons first rest ih =>
    cases others_fit with
    | cons other_first other_rest =>
      rw [written_fields, written_fields, decimals_append_lt_iff first other_first,
        append_lt_append_iff rfl, ih other_rest, List.cons_lt_cons_iff]
      simp only [List.lt_irrefl, true_and, false_or]

/-- Numbers that fit their fields and are written alike are the same. -/
theorem written_fields_inj (fit : FieldsFit fields numbers) (others_fit : FieldsFit fields others) :
    written_fields fields numbers = written_fields fields others ↔ numbers = others := by
  induction fit generalizing others with
  | nil =>
    cases others_fit
    exact iff_of_true rfl rfl
  | cons first rest ih =>
    cases others_fit with
    | cons other_first other_rest =>
      rw [written_fields, written_fields, decimals_append_inj first other_first,
        List.append_cancel_left_eq, ih other_rest, List.cons.injEq]

end Captastic.Library
