import Mathlib.Data.List.DropRight
import Mathlib.Tactic.Common

/-!
# Cutting, trimming and squeezing lists

A list is cut at the first element that is `c` (`cut_at`), trimmed at both ends of the elements
that meet a test (`trim_by`), and squeezed, so that a run of one element becomes a single one
(`squeeze`).  Each is described by where an element of the list ends up: an element that is not
trimmed keeps what stands before it trimmed on the left alone (`trim_by_around`), and an
element other than the squeezed one keeps its two sides apart (`squeeze_around`).
-/

set_option autoImplicit false

namespace Captastic.Library

variable {α : Type}

/-! ## Cutting -/

section Cutting

variable [DecidableEq α]

/-- What stands before the first `c`, and what stands after it. -/
def cut_at (c : α) : List α → Option (List α × List α)
  | [] => none
  | x :: rest =>
    if x = c then some ([], rest) else (cut_at c rest).map fun parts => (x :: parts.1, parts.2)

/-- A list that begins with `c` is cut at its front. -/
theorem cut_at_self (c : α) (rest : List α) : cut_at c (c :: rest) = some ([], rest) := if_pos rfl

/-- An element other than `c` stands before the cut. -/
theorem cut_at_cons_of_ne {c x : α} (other : x ≠ c) (rest : List α) :
    cut_at c (x :: rest) = (cut_at c rest).map fun parts => (x :: parts.1, parts.2) :=
  if_neg other

/-- There is nothing to cut at exactly where `c` is missing. -/
theorem cut_at_eq_none_iff {c : α} {l : List α} : cut_at c l = none ↔ c ∉ l := by
  induction l with
  | nil => exact ⟨fun _ => List.not_mem_nil, fun _ => rfl⟩
  | cons x rest ih =>
    by_cases same : x = c
    · subst same
      rw [cut_at_self]
      exact ⟨nofun, fun missing => absurd List.mem_cons_self missing⟩
    · rw [cut_at_cons_of_ne same, Option.map_eq_none_iff, ih, List.mem_cons, not_or]
      exact ⟨fun missing => ⟨fun found => same found.symm, missing⟩, And.right⟩

/-- A list is cut at its first `c`, whatever follows. -/
theorem cut_at_append {c : α} {before : List α} (clear : c ∉ before) (after : List α) :
    cut_at c (before ++ c :: after) = some (before, after) := by
  induction before with
  | nil => exact cut_at_self c after
  | cons x before ih =>
    rw [List.mem_cons, not_or] at clear
    rw [List.cons_append, cut_at_cons_of_ne fun same => clear.1 same.symm, ih clear.2]
    rfl

/-- The two parts of a cut are those around the first `c`, and only those. -/
theorem cut_at_eq_some_iff {c : α} {l before after : List α} :
    cut_at c l = some (before, after) ↔ l = before ++ c :: after ∧ c ∉ before := by
  constructor
  · intro parted
    induction l generalizing before with
    | nil => cases parted
    | cons x rest ih =>
      by_cases same : x = c
      · subst same
        rw [cut_at_self] at parted
        cases parted
        exact ⟨rfl, List.not_mem_nil⟩
      · rw [cut_at_cons_of_ne same, Option.map_eq_some_iff] at parted
        obtain ⟨parts, found, made⟩ := parted
        cases made
        obtain ⟨rfl, clear⟩ := ih found
        refine ⟨rfl, ?_⟩
        rw [List.mem_cons, not_or]
        exact ⟨fun found => same found.symm, clear⟩
  · rintro ⟨rfl, clear⟩
    exact cut_at_append clear after

/-- No part between separators holds one. -/
theorem not_mem_of_mem_splitOn {c : α} {l part : List α} (member : part ∈ l.splitOn c) :
    c ∉ part := by
  induction l generalizing part with
  | nil =>
    rw [List.splitOn_nil, List.mem_singleton] at member
    rw [member]
    exact List.not_mem_nil
  | cons x l ih =>
    rw [List.splitOn_cons_eq_if_modifyHead] at member
    split at member
    · rcases List.mem_cons.mp member with rfl | member
      · exact List.not_mem_nil
      · exact ih member
    · rename_i other
      cases parts : l.splitOn c with
      | nil =>
        rw [parts] at member
        cases member
      | cons first rest =>
        rw [parts, List.modifyHead_cons] at member
        rcases List.mem_cons.mp member with rfl | member
        · rw [List.mem_cons, not_or]
          refine ⟨fun same => other (beq_iff_eq.mpr same.symm), ih ?_⟩
          rw [parts]
          exact List.mem_cons_self
        · apply ih
          rw [parts]
          exact List.mem_cons_of_mem first member

end Cutting

/-! ## Joining -/

/-- Joining parts puts the separator behind each but the last. -/
theorem intercalate_concat (sep last : List α) (parts : List (List α)) :
    sep.intercalate (parts ++ [last]) = parts.flatMap (· ++ sep) ++ last := by
  induction parts with
  | nil => simp
  | cons part parts ih =>
    rw [List.cons_append, List.intercalate_cons_of_ne_nil (by simp), ih, List.flatMap_cons]
    simp only [List.append_assoc]

/-! ## Trimming -/

/-- The list without the elements at its two ends that meet `p`. -/
def trim_by (p : α → Bool) (l : List α) : List α := (l.dropWhile p).rdropWhile p

/-- A front that is dropped whole leaves what follows to be dropped from. -/
theorem dropWhile_append_of_all {p : α → Bool} {l r : List α} (all : ∀ x ∈ l, p x = true) :
    (l ++ r).dropWhile p = r.dropWhile p := by
  induction l with
  | nil => rfl
  | cons x l ih =>
    rw [List.cons_append, List.dropWhile_cons_of_pos (all x List.mem_cons_self)]
    exact ih fun y member => all y (List.mem_cons_of_mem x member)

/-- Dropping stops at an element that stays, so what is behind it is not looked at. -/
theorem dropWhile_append_cons {p : α → Bool} {l r : List α} {c : α}
    (stays : p c = false ∨ ∃ x ∈ l, p x = false) :
    (l ++ c :: r).dropWhile p = l.dropWhile p ++ c :: r := by
  induction l with
  | nil =>
    rcases stays with stays | ⟨x, member, -⟩
    · rw [List.nil_append, List.dropWhile_cons_of_neg (by rw [stays]; exact Bool.false_ne_true)]
      rfl
    · cases member
  | cons x l ih =>
    rw [List.cons_append]
    by_cases drops : p x = true
    · rw [List.dropWhile_cons_of_pos drops, List.dropWhile_cons_of_pos drops]
      apply ih
      rcases stays with stays | ⟨y, member, keeps⟩
      · exact .inl stays
      · rcases List.mem_cons.mp member with rfl | member
        · rw [drops] at keeps
          cases keeps
        · exact .inr ⟨y, member, keeps⟩
    · rw [List.dropWhile_cons_of_neg drops, List.dropWhile_cons_of_neg drops]
      rfl

/-- Dropping from the back stops at an element that stays, so what is before it is kept. -/
theorem rdropWhile_append_cons {p : α → Bool} {l r : List α} {c : α}
    (stays : p c = false ∨ ∃ x ∈ r, p x = false) :
    (l ++ c :: r).rdropWhile p = l ++ c :: r.rdropWhile p := by
  unfold List.rdropWhile
  have reversed : (l ++ c :: r).reverse = r.reverse ++ c :: l.reverse := by simp
  have stays' : p c = false ∨ ∃ x ∈ r.reverse, p x = false := by
    rcases stays with stays | ⟨x, member, keeps⟩
    · exact .inl stays
    · exact .inr ⟨x, List.mem_reverse.mpr member, keeps⟩
  rw [reversed, dropWhile_append_cons stays']
  simp

/-- A prefix longer than a list's front has the front in it. -/
theorem take_append_cons {l r : List α} {c : α} {n : Nat} (short : l.length < n) :
    (l ++ c :: r).take n = l ++ c :: r.take (n - l.length - 1) := by
  obtain ⟨m, rfl⟩ : ∃ m, n = l.length + (m + 1) := ⟨n - l.length - 1, by omega⟩
  rw [List.take_length_add_append, List.take_succ_cons]
  congr 3
  omega

/-- An element that neither end's trimming reaches stands between the two trimmed sides. -/
theorem trim_by_around {p : α → Bool} {l r : List α} {c : α}
    (left : p c = false ∨ ∃ x ∈ l, p x = false) (right : p c = false ∨ ∃ x ∈ r, p x = false) :
    trim_by p (l ++ c :: r) = l.dropWhile p ++ c :: r.rdropWhile p := by
  unfold trim_by
  rw [dropWhile_append_cons left, rdropWhile_append_cons right]

/-- What is left after dropping begins with an element that stays. -/
theorem head_of_dropWhile {p : α → Bool} {l rest : List α} {x : α}
    (dropped : l.dropWhile p = x :: rest) : p x = false := by
  induction l with
  | nil => cases dropped
  | cons y l ih =>
    by_cases drops : p y = true
    · rw [List.dropWhile_cons_of_pos drops] at dropped
      exact ih dropped
    · rw [List.dropWhile_cons_of_neg drops] at dropped
      cases dropped
      exact eq_false_of_ne_true drops

/-- What stands around an element after dropping from the front stood around it before. -/
theorem exists_of_dropWhile {p : α → Bool} {l before after : List α} {c : α}
    (dropped : l.dropWhile p = before ++ c :: after) :
    ∃ left, l = left ++ c :: after ∧ left.dropWhile p = before ∧
      (p c = false ∨ ∃ x ∈ left, p x = false) := by
  refine ⟨l.takeWhile p ++ before, ?_, ?_, ?_⟩
  · rw [List.append_assoc, ← dropped, List.takeWhile_append_dropWhile]
  · rw [dropWhile_append_of_all fun x member => List.mem_takeWhile_imp member]
    cases before with
    | nil => rfl
    | cons x before =>
      rw [List.dropWhile_cons_of_neg]
      rw [head_of_dropWhile dropped]
      exact Bool.false_ne_true
  · cases before with
    | nil => exact .inl (head_of_dropWhile dropped)
    | cons x before =>
      exact .inr ⟨x, List.mem_append_right _ List.mem_cons_self, head_of_dropWhile dropped⟩

/-- What stands around an element after dropping from the back stood around it before. -/
theorem exists_of_rdropWhile {p : α → Bool} {l before after : List α} {c : α}
    (dropped : l.rdropWhile p = before ++ c :: after) :
    ∃ right, l = before ++ c :: right ∧ right.rdropWhile p = after ∧
      (p c = false ∨ ∃ x ∈ right, p x = false) := by
  have reversed : l.reverse.dropWhile p = after.reverse ++ c :: before.reverse := by
    have same := congrArg List.reverse dropped
    rw [List.rdropWhile, List.reverse_reverse] at same
    simpa using same
  obtain ⟨left, whole, kept, stays⟩ := exists_of_dropWhile reversed
  refine ⟨left.reverse, ?_, ?_, ?_⟩
  · have same := congrArg List.reverse whole
    simpa using same
  · rw [List.rdropWhile, List.reverse_reverse, kept, List.reverse_reverse]
  · rcases stays with stays | ⟨x, member, keeps⟩
    · exact .inl stays
    · exact .inr ⟨x, List.mem_reverse.mpr member, keeps⟩

/-- Where an element that is left after trimming stood in the list. -/
theorem exists_of_trim_by {p : α → Bool} {l before after : List α} {c : α}
    (trimmed : trim_by p l = before ++ c :: after) :
    ∃ left right, l = left ++ c :: right ∧ left.dropWhile p = before ∧
      right.rdropWhile p = after ∧ (p c = false ∨ ∃ x ∈ left, p x = false) ∧
      (p c = false ∨ ∃ x ∈ right, p x = false) := by
  obtain ⟨right, cut, after_eq, right_stays⟩ := exists_of_rdropWhile trimmed
  obtain ⟨left, whole, before_eq, left_stays⟩ := exists_of_dropWhile cut
  exact ⟨left, right, whole, before_eq, after_eq, left_stays, right_stays⟩

/-- Trimming adds nothing. -/
theorem mem_of_mem_trim_by {p : α → Bool} {l : List α} {x : α} (member : x ∈ trim_by p l) :
    x ∈ l :=
  (List.dropWhile_suffix p).subset ((List.rdropWhile_prefix p _).subset member)

/-- Where nothing meets the test, nothing is trimmed. -/
theorem trim_by_of_ends {p : α → Bool} {first last : α} (middle : List α)
    (first_stays : p first = false) (last_stays : p last = false) :
    trim_by p (first :: (middle ++ [last])) = first :: (middle ++ [last]) := by
  unfold trim_by
  rw [List.dropWhile_cons_of_neg (by rw [first_stays]; exact Bool.false_ne_true),
    List.rdropWhile_eq_self_iff]
  intro some_left
  rw [List.getLast_cons (by simp), List.getLast_append_singleton, last_stays]
  exact Bool.false_ne_true

/-- Where nothing meets `p` there is nothing to trim. -/
theorem trim_by_eq_self {p : α → Bool} {l : List α} (clear : ∀ x ∈ l, p x = false) :
    trim_by p l = l := by
  have kept : l.dropWhile p = l := by
    cases l with
    | nil => rfl
    | cons x l =>
      rw [List.dropWhile_cons_of_neg]
      rw [clear x List.mem_cons_self]
      exact Bool.false_ne_true
  unfold trim_by
  rw [kept, List.rdropWhile_eq_self_iff]
  intro some_left
  rw [clear _ (List.getLast_mem some_left)]
  exact Bool.false_ne_true

/-! ## Squeezing -/

variable [DecidableEq α]

/-- The list with every run of `c` made a single one; `previous` says whether one has just been
kept. -/
def squeeze (c : α) (previous : Bool) : List α → List α
  | [] => []
  | x :: rest =>
    if x = c then
      if previous then squeeze c true rest else x :: squeeze c true rest
    else x :: squeeze c false rest

/-- A second `c` in a row is left out. -/
theorem squeeze_cons_again (c : α) (rest : List α) :
    squeeze c true (c :: rest) = squeeze c true rest := by
  rw [squeeze, if_pos rfl, if_pos rfl]

/-- The first `c` of a run is kept. -/
theorem squeeze_cons_once (c : α) (rest : List α) :
    squeeze c false (c :: rest) = c :: squeeze c true rest := by
  rw [squeeze, if_pos rfl, if_neg Bool.false_ne_true]

/-- An element other than `c` is kept, and a run begins anew behind it. -/
theorem squeeze_cons_of_ne {c x : α} (other : x ≠ c) (previous : Bool) (rest : List α) :
    squeeze c previous (x :: rest) = x :: squeeze c false rest := if_neg other

/-- Runs on the two sides of an element other than `c` are squeezed apart. -/
theorem squeeze_around {c x : α} (other : x ≠ c) (previous : Bool) (l r : List α) :
    squeeze c previous (l ++ x :: r) = squeeze c previous l ++ x :: squeeze c false r := by
  induction l generalizing previous with
  | nil => exact squeeze_cons_of_ne other previous r
  | cons y l ih =>
    rw [List.cons_append]
    by_cases same : y = c
    · subst same
      cases previous with
      | true => rw [squeeze_cons_again, squeeze_cons_again, ih true]
      | false => rw [squeeze_cons_once, squeeze_cons_once, ih true, List.cons_append]
    · rw [squeeze_cons_of_ne same, squeeze_cons_of_ne same, ih false, List.cons_append]

/-- Elements that are not squeezed stay before whatever follows. -/
theorem squeeze_append_of_clear {c : α} {l : List α} (clear : c ∉ l) (some_before : l ≠ [])
    (previous : Bool) (r : List α) : squeeze c previous (l ++ r) = l ++ squeeze c false r := by
  induction l generalizing previous with
  | nil => exact absurd rfl some_before
  | cons x l ih =>
    rw [List.mem_cons, not_or] at clear
    rw [List.cons_append, squeeze_cons_of_ne fun same => clear.1 same.symm]
    cases l with
    | nil => rfl
    | cons y l => exact congrArg (List.cons x) (ih clear.2 (List.cons_ne_nil y l) false)

/-- Where there is no `c` there is nothing to squeeze. -/
theorem squeeze_eq_self {c : α} {l : List α} (clear : c ∉ l) (previous : Bool) :
    squeeze c previous l = l := by
  induction l generalizing previous with
  | nil => rfl
  | cons x l ih =>
    rw [List.mem_cons, not_or] at clear
    rw [squeeze_cons_of_ne fun same => clear.1 same.symm, ih clear.2]

/-- What stands before an element other than the squeezed one, where it has nothing to
squeeze, stands there in the list. -/
theorem exists_of_squeeze {c x : α} (other : x ≠ c) {l before after : List α} (clear : c ∉ before)
    (squeezed : squeeze c false l = before ++ x :: after) :
    ∃ rest, l = before ++ x :: rest ∧ squeeze c false rest = after := by
  induction before generalizing l with
  | nil =>
    cases l with
    | nil => cases squeezed
    | cons y l =>
      by_cases same : y = c
      · subst same
        rw [squeeze_cons_once] at squeezed
        exact absurd (List.cons.inj squeezed).1.symm other
      · rw [squeeze_cons_of_ne same] at squeezed
        cases squeezed
        exact ⟨l, rfl, rfl⟩
  | cons z before ih =>
    rw [List.mem_cons, not_or] at clear
    cases l with
    | nil => cases squeezed
    | cons y l =>
      by_cases same : y = c
      · subst same
        rw [squeeze_cons_once] at squeezed
        exact absurd (List.cons.inj squeezed).1 clear.1
      · rw [squeeze_cons_of_ne same, List.cons_append] at squeezed
        obtain ⟨rfl, behind⟩ := List.cons.inj squeezed
        obtain ⟨rest, rfl, after_eq⟩ := ih clear.2 behind
        exact ⟨rest, rfl, after_eq⟩

omit [DecidableEq α] in
/-- A member of a prefix that is not its first element is one of the prefix behind it. -/
theorem mem_take_cons_of_ne {x y : α} (other : x ≠ y) {l : List α} {n : Nat}
    (member : x ∈ (y :: l).take n) : ∃ m, n = m + 1 ∧ x ∈ l.take m := by
  cases n with
  | zero => simp at member
  | succ m =>
    rw [List.take_succ_cons] at member
    exact ⟨m, rfl, List.mem_of_ne_of_mem other member⟩

/-- Where an element other than the squeezed one, among the first `n` that are left, stood in
the list. -/
theorem exists_of_mem_take_squeeze {c x : α} (other : x ≠ c) {l : List α} {previous : Bool}
    {n : Nat} (member : x ∈ (squeeze c previous l).take n) :
    ∃ left right, l = left ++ x :: right ∧ (squeeze c previous left).length < n := by
  induction l generalizing previous n with
  | nil => simp [squeeze] at member
  | cons y l ih =>
    by_cases same : y = c
    · subst same
      cases previous with
      | true =>
        rw [squeeze_cons_again] at member
        obtain ⟨left, right, rfl, shorter⟩ := ih member
        exact ⟨y :: left, right, rfl, by rwa [squeeze_cons_again]⟩
      | false =>
        rw [squeeze_cons_once] at member
        obtain ⟨m, rfl, rest⟩ := mem_take_cons_of_ne other member
        obtain ⟨left, right, rfl, shorter⟩ := ih rest
        refine ⟨y :: left, right, rfl, ?_⟩
        rw [squeeze_cons_once, List.length_cons]
        omega
    · rw [squeeze_cons_of_ne same] at member
      by_cases first : x = y
      · subst first
        refine ⟨[], l, rfl, ?_⟩
        exact List.length_pos_of_mem member |>.trans_le (List.length_take_le n _)
      · obtain ⟨m, rfl, rest⟩ := mem_take_cons_of_ne first member
        obtain ⟨left, right, rfl, shorter⟩ := ih rest
        refine ⟨y :: left, right, rfl, ?_⟩
        rw [squeeze_cons_of_ne same, List.length_cons]
        omega

end Captastic.Library
