import Captastic.Analysis.CivilDates
import Captastic.Analysis.FileNames
import Captastic.Library.Decimals
import Captastic.Model.Logging

/-!
# Times as text

A `{timestamp}` in a file name and the instant of a log line are the numbers of a date and a time
of day, each in a field of fixed width (`expanded_timestamp`, `format_utc_timestamp_eq`).  Up to
the end of the year 9999 every number fits its field, and the numbers of a later time are later
(`time_numbers_lt_iff`), so that names and lines sort by their times (`captures_sort_by_time`).
-/

set_option autoImplicit false

namespace Captastic.Analysis

open Captastic.Library Captastic.Model

/-- The first microsecond after the year 9999. -/
def END_OF_9999 : Nat := 253402300800000000

/-- The day of a time. -/
def day_of (unix_micros : Nat) : Nat := unix_micros / 86400000000

/-- The end is the first day of the year 10000. -/
theorem end_of_9999_date : civil_date (day_of END_OF_9999) = ⟨10000, 1, 1⟩ := by decide

/-! ## The parts of a time -/

/-- The date of a time by the calendar's rule, and its time of day.
SRC: clock.rs:12-29 -/
theorem utc_parts_eq {unix_micros : Nat} (early : unix_micros < END_OF_9999) :
    utc_parts unix_micros =
      { year := (unix_epoch.days_from (day_of unix_micros)).year
        month := (unix_epoch.days_from (day_of unix_micros)).month
        day := (unix_epoch.days_from (day_of unix_micros)).day
        hour := (unix_micros / 3600000000 % 24 : Nat)
        minute := (unix_micros / 60000000 % 60 : Nat)
        second := (unix_micros / 1000000 % 60 : Nat)
        millis := unix_micros / 1000 % 1000 } := by
  have seconds_eq : min ((unix_micros : Int) / 1000000) I64_MAX = unix_micros / 1000000 := by
    unfold END_OF_9999 at early
    unfold I64_MAX
    omega
  have days_eq : (unix_micros : Int) / 1000000 / 86400 = (day_of unix_micros : Nat) := by
    unfold day_of
    omega
  rw [← civil_date_eq_days_from]
  unfold utc_parts
  dsimp only
  rw [seconds_eq, days_eq, Int.tdiv_eq_ediv_of_nonneg (by omega),
    Int.tmod_eq_emod_of_nonneg (by omega), Int.tdiv_eq_ediv_of_nonneg (by omega),
    Int.tmod_eq_emod_of_nonneg (by omega), UtcParts.mk.injEq]
  refine ⟨rfl, rfl, rfl, ?_, ?_, ?_, ?_⟩
  · omega
  · omega
  · omega
  · omega

/-- Years from 1970 to 9999. -/
theorem year_range {day : Nat} (early : day < day_of END_OF_9999) :
    1970 ≤ (civil_date day).year ∧ (civil_date day).year ≤ 9999 := by
  constructor
  · rcases Nat.eq_zero_or_pos day with rfl | later
    · decide
    · have before := CalendarDate.before_of_follows civil_date_next (Int.natCast_pos.mpr later)
      have epoch : (civil_date 0).year = 1970 := rfl
      unfold CalendarDate.Before at before
      omega
  · have before := CalendarDate.before_of_follows civil_date_next (Int.ofNat_lt.mpr early)
    obtain ⟨⟨month, -⟩, day, -⟩ := civil_date_valid day
    rw [end_of_9999_date] at before
    unfold CalendarDate.Before at before
    dsimp only at before
    omega

/-! ## The numbers of a time -/

/-- The numbers that a time is written as, down to the second, and one more. -/
def time_numbers (unix_micros last : Nat) : List Nat :=
  let parts := utc_parts unix_micros
  [parts.year.toNat, parts.month.toNat, parts.day.toNat, parts.hour.toNat, parts.minute.toNat,
    parts.second.toNat, last]

/-- The numbers of a date, and those behind them. -/
def date_numbers (date : CalendarDate) (rest : List Nat) : List Nat :=
  date.year.toNat :: date.month.toNat :: date.day.toNat :: rest

section Numbers

variable {t u : Nat}

/-- Before it a time has the date and the time of day it should, in numbers. -/
theorem time_numbers_eq (early : t < END_OF_9999) (last : Nat) :
    time_numbers t last =
      date_numbers (civil_date (day_of t))
        [t / 3600000000 % 24, t / 60000000 % 60, t / 1000000 % 60, last] := by
  unfold time_numbers
  rw [utc_parts_eq early, civil_date_eq_days_from]
  rfl

/-- A time before the end is on a day before. -/
theorem day_of_lt (early : t < END_OF_9999) : day_of t < day_of END_OF_9999 := by
  unfold END_OF_9999 day_of at *
  omega

/-- A date before another has numbers before the other's. -/
theorem date_numbers_lt {a b : CalendarDate} (year : 0 ≤ a.year) (same_era : 0 ≤ b.year)
    (a_valid : a.Valid) (b_valid : b.Valid) (before : a.Before b) (rest others : List Nat) :
    date_numbers a rest < date_numbers b others := by
  obtain ⟨⟨a_month, -⟩, a_day, -⟩ := a_valid
  obtain ⟨⟨b_month, -⟩, b_day, -⟩ := b_valid
  unfold CalendarDate.Before at before
  unfold date_numbers
  rw [List.cons_lt_cons_iff, List.cons_lt_cons_iff, List.cons_lt_cons_iff]
  rcases before with before | ⟨same, before | ⟨same', before⟩⟩
  · left
    omega
  · refine .inr ⟨by rw [same], .inl ?_⟩
    omega
  · refine .inr ⟨by rw [same], .inr ⟨by rw [same'], .inl ?_⟩⟩
    omega

/-- Numbers of one date compare by what follows it, and other numbers by the days. -/
theorem date_numbers_lt_iff {a b : Nat} (a_early : a < day_of END_OF_9999)
    (b_early : b < day_of END_OF_9999) {rest others : List Nat} :
    date_numbers (civil_date a) rest < date_numbers (civil_date b) others ↔
      a < b ∨ a = b ∧ rest < others := by
  have a_year := Int.le_trans (by decide : (0 : Int) ≤ 1970) (year_range a_early).1
  have b_year := Int.le_trans (by decide : (0 : Int) ≤ 1970) (year_range b_early).1
  have valid := civil_date_valid
  rcases Nat.lt_trichotomy a b with earlier | rfl | later
  · have before := CalendarDate.before_of_follows civil_date_next (Int.ofNat_lt.mpr earlier)
    exact iff_of_true (date_numbers_lt a_year b_year (valid a) (valid b) before _ _) (.inl earlier)
  · unfold date_numbers
    simp only [List.cons_lt_cons_iff, Nat.lt_irrefl, true_and, false_or]
  · have before := CalendarDate.before_of_follows civil_date_next (Int.ofNat_lt.mpr later)
    have lower := date_numbers_lt b_year a_year (valid b) (valid a) before others rest
    refine iff_of_false (List.lt_asymm lower) ?_
    rintro (earlier | ⟨same, -⟩)
    · exact Nat.lt_asymm earlier later
    · exact Nat.ne_of_gt later same

/-- Times are ordered as their numbers, by the second and then by the last number. -/
theorem time_numbers_lt_iff (t_early : t < END_OF_9999) (u_early : u < END_OF_9999)
    {last other : Nat} :
    time_numbers t last < time_numbers u other ↔
      t / 1000000 < u / 1000000 ∨ t / 1000000 = u / 1000000 ∧ last < other := by
  rw [time_numbers_eq t_early, time_numbers_eq u_early,
    date_numbers_lt_iff (day_of_lt t_early) (day_of_lt u_early)]
  simp only [List.cons_lt_cons_iff, List.lt_irrefl, and_false, or_false]
  unfold day_of
  omega

/-- Times with the same numbers are in one second, with the same last number. -/
theorem time_numbers_inj (t_early : t < END_OF_9999) (u_early : u < END_OF_9999)
    {last other : Nat} :
    time_numbers t last = time_numbers u other ↔
      t / 1000000 = u / 1000000 ∧ last = other := by
  constructor
  · intro same
    have not_lower : ¬ time_numbers t last < time_numbers u other := by
      rw [same]
      exact List.lt_irrefl _
    have not_higher : ¬ time_numbers u other < time_numbers t last := by
      rw [same]
      exact List.lt_irrefl _
    rw [time_numbers_lt_iff t_early u_early] at not_lower
    rw [time_numbers_lt_iff u_early t_early] at not_higher
    clear same t_early u_early
    omega
  · rintro ⟨same, rfl⟩
    have days : day_of t = day_of u := by
      unfold day_of
      clear t_early u_early
      omega
    have hours : t / 3600000000 % 24 = u / 3600000000 % 24 := by
      clear t_early u_early
      omega
    have minutes : t / 60000000 % 60 = u / 60000000 % 60 := by
      clear t_early u_early
      omega
    rw [time_numbers_eq t_early, time_numbers_eq u_early, days, hours, minutes, same]

/-- Every number of a time fits its field, whatever separates them. -/
theorem time_numbers_fit (early : t < END_OF_9999) {width last : Nat} (last_lt : last < 10 ^ width)
    {a b c d e f g : List Char} :
    FieldsFit [(4, a), (2, b), (2, c), (2, d), (2, e), (2, f), (width, g)]
      (time_numbers t last) := by
  have years := year_range (day_of_lt early)
  obtain ⟨⟨-, month⟩, -, day⟩ := civil_date_valid (day_of t)
  have days := (days_in_month_range (civil_date (day_of t)).year (civil_date (day_of t)).month).2
  rw [time_numbers_eq early]
  clear early
  generalize civil_date (day_of t) = date at *
  refine .cons ?_ (.cons ?_ (.cons ?_ (.cons ?_ (.cons ?_ (.cons ?_ (.cons last_lt .nil))))))
  · show date.year.toNat < 10000
    omega
  · show date.month.toNat < 100
    omega
  · show date.day.toNat < 100
    omega
  · show t / 3600000000 % 24 < 100
    omega
  · show t / 60000000 % 60 < 100
    omega
  · show t / 1000000 % 60 < 100
    omega

end Numbers

/-! ## The text of a time -/

/-- A number that fits its width is its decimals. -/
theorem zero_padded_eq {width : Nat} {n : Int} (wide : 0 < width) (nonneg : 0 ≤ n)
    (fits : n.toNat < 10 ^ width) : zero_padded width n = decimals width n.toNat := by
  have digits : n.natAbs = n.toNat := by omega
  unfold zero_padded
  dsimp only
  rw [if_neg (Int.not_lt.mpr nonneg), digits, Nat.toList_repr, List.nil_append, List.length_nil,
    Nat.sub_zero]
  exact replicate_append_toDigits wide fits

/-- The fields of a `{timestamp}`. -/
def TIMESTAMP_FIELDS : List (Nat × List Char) :=
  [(4, []), (2, []), (2, ['-']), (2, []), (2, []), (2, ['-']), (3, [])]

/-- The fields of an instant of the log. -/
def INSTANT_FIELDS : List (Nat × List Char) :=
  [(4, ['-']), (2, ['-']), (2, ['T']), (2, [':']), (2, [':']), (2, ['.']), (6, ['Z'])]

/-- The parts of a time in their widths. -/
structure Padded (parts : UtcParts) : Prop where
  year : zero_padded 4 parts.year = decimals 4 parts.year.toNat
  month : zero_padded 2 parts.month = decimals 2 parts.month.toNat
  day : zero_padded 2 parts.day = decimals 2 parts.day.toNat
  hour : zero_padded 2 parts.hour = decimals 2 parts.hour.toNat
  minute : zero_padded 2 parts.minute = decimals 2 parts.minute.toNat
  second : zero_padded 2 parts.second = decimals 2 parts.second.toNat
  millis : zero_padded 3 parts.millis = decimals 3 parts.millis

/-- Before the end a time is written with four digits for its year. -/
theorem padded_of_early {t : Nat} (early : t < END_OF_9999) : Padded (utc_parts t) := by
  have years := year_range (day_of_lt early)
  obtain ⟨⟨month_pos, month⟩, day_pos, day⟩ := civil_date_valid (day_of t)
  have days := (days_in_month_range (civil_date (day_of t)).year (civil_date (day_of t)).month).2
  rw [utc_parts_eq early, ← civil_date_eq_days_from]
  clear early
  generalize civil_date (day_of t) = date at *
  constructor
  · apply zero_padded_eq (by decide)
    · dsimp only
      omega
    · show date.year.toNat < 10000
      omega
  · apply zero_padded_eq (by decide)
    · dsimp only
      omega
    · show date.month.toNat < 100
      omega
  · apply zero_padded_eq (by decide)
    · dsimp only
      omega
    · show date.day.toNat < 100
      omega
  · apply zero_padded_eq (by decide) (Int.natCast_nonneg _)
    show t / 3600000000 % 24 < 100
    omega
  · apply zero_padded_eq (by decide) (Int.natCast_nonneg _)
    show t / 60000000 % 60 < 100
    omega
  · apply zero_padded_eq (by decide) (Int.natCast_nonneg _)
    show t / 1000000 % 60 < 100
    omega
  · apply zero_padded_eq (by decide) (Int.natCast_nonneg _)
    show t / 1000 % 1000 < 1000
    omega

/-- What a log line begins with.
SRC: logging.rs:524-528 -/
theorem format_utc_timestamp_eq {t : Nat} (early : t < END_OF_9999) :
    format_utc_timestamp t = written_fields INSTANT_FIELDS (time_numbers t (t % 1000000)) := by
  obtain ⟨year, month, day, hour, minute, second, -⟩ := padded_of_early early
  have micros : zero_padded 6 (t % 1000000 : Nat) = decimals 6 (t % 1000000) :=
    zero_padded_eq (by decide) (Int.natCast_nonneg _) (Nat.mod_lt t (by decide))
  unfold format_utc_timestamp
  dsimp only
  rw [year, month, day, hour, minute, second, micros]
  rfl

/-- What `{timestamp}` stands for.
SRC: filename_template.rs:69-71 -/
theorem timestamp_value_eq {context : TemplateContext}
    (early : context.timestamp_micros < END_OF_9999) :
    context.value "timestamp" =
      written_fields TIMESTAMP_FIELDS
        (time_numbers context.timestamp_micros (context.timestamp_micros / 1000 % 1000)) := by
  obtain ⟨year, month, day, hour, minute, second, millis⟩ := padded_of_early early
  have millis_eq : (utc_parts context.timestamp_micros).millis =
      context.timestamp_micros / 1000 % 1000 := by
    rw [utc_parts_eq early]
  show date_text (utc_parts context.timestamp_micros) ++
    '-' :: time_text (utc_parts context.timestamp_micros) = _
  unfold date_text time_text
  rw [year, month, day, hour, minute, second, millis, millis_eq]
  simp only [TIMESTAMP_FIELDS, time_numbers, written_fields, List.append_assoc, List.nil_append,
    List.cons_append, List.append_nil]

/-! ## A name that is a time -/

/-- Plain characters that are not too many are kept.
SRC: filename_template.rs:91-117 -/
theorem sanitize_from_eq {text kept : List Char} (plain : ∀ c ∈ text, is_plain c = true)
    (short : kept.length + text.length < MAX_FIELD_CHARS) :
    sanitize_from (kept, false) text = kept ++ text := by
  induction text generalizing kept with
  | nil => exact (List.append_nil kept).symm
  | cons c text ih =>
    have step : sanitize_step (kept, false) c = (kept ++ [c], false) := by
      unfold sanitize_step
      exact (if_pos (plain c List.mem_cons_self)).trans rfl
    rw [List.length_cons] at short
    have short' : (kept ++ [c]).length + text.length < MAX_FIELD_CHARS := by
      rw [List.length_append, List.length_singleton]
      omega
    rw [sanitize_from, step]
    dsimp only
    rw [if_neg (by omega), ih (fun x member => plain x (List.mem_cons_of_mem c member)) short',
      List.append_assoc, List.singleton_append]

/-- A run of digits. -/
structure Digits (text : List Char) : Prop where
  some_digit : text ≠ []
  digits : ∀ c ∈ text, ∃ digit < 10, c = Nat.digitChar digit

/-- A number that is written takes digits, and some. -/
theorem digits_decimals {width n : Nat} (wide : 0 < width) : Digits (decimals width n) := by
  refine ⟨?_, fun c => mem_decimals⟩
  intro none_left
  have length := decimals_length width n
  rw [none_left] at length
  exact Nat.ne_of_lt wide length

/-- Digits behind digits are digits. -/
theorem Digits.append {a b : List Char} (first : Digits a) (second : Digits b) :
    Digits (a ++ b) := by
  refine ⟨List.append_ne_nil_of_left_ne_nil first.some_digit b, ?_⟩
  intro c member
  rcases List.mem_append.mp member with member | member
  · exact first.digits c member
  · exact second.digits c member

/-- A digit is plain, is not trimmed and leaves no untidy end. -/
theorem digit_facts {digit : Nat} (lt : digit < 10) :
    is_plain (Nat.digitChar digit) = true ∧ is_trimmed (Nat.digitChar digit) = false ∧
      is_untidy (Nat.digitChar digit) = false := by
  have all : ∀ digit < 10, is_plain (Nat.digitChar digit) = true ∧
      is_trimmed (Nat.digitChar digit) = false ∧ is_untidy (Nat.digitChar digit) = false := by
    decide
  exact all digit lt

/-- Three runs of digits with hyphens between them. -/
def hyphenated (a b c : List Char) : List Char := a ++ '-' :: (b ++ '-' :: c)

section Hyphenated

variable {a b c : List Char} (first : Digits a) (second : Digits b) (third : Digits c)

include first second third

/-- Digits and hyphens are plain. -/
theorem hyphenated_plain : ∀ x ∈ hyphenated a b c, is_plain x = true := by
  have digit : ∀ {run : List Char}, Digits run → ∀ x ∈ run, is_plain x = true := by
    intro run digits x member
    obtain ⟨digit, lt, rfl⟩ := digits.digits x member
    exact (digit_facts lt).1
  intro x member
  unfold hyphenated at member
  simp only [List.mem_append, List.mem_cons] at member
  rcases member with member | rfl | member | rfl | member
  · exact digit first x member
  · decide
  · exact digit second x member
  · decide
  · exact digit third x member

omit second in
/-- Its ends are digits. -/
theorem hyphenated_ends :
    ∃ x middle y, hyphenated a b c = x :: (middle ++ [y]) ∧ is_trimmed x = false ∧
      is_trimmed y = false ∧ is_untidy y = false := by
  obtain ⟨x, a', rfl⟩ := List.exists_cons_of_ne_nil first.some_digit
  obtain ⟨c', y, rfl⟩ := List.eq_nil_or_concat c |>.resolve_left third.some_digit
  obtain ⟨digit, lt, rfl⟩ := first.digits x List.mem_cons_self
  obtain ⟨digit', lt', rfl⟩ := third.digits y (by simp)
  refine ⟨_, a' ++ '-' :: (b ++ '-' :: c'), _, ?_, (digit_facts lt).2.1, (digit_facts lt').2⟩
  unfold hyphenated
  simp only [List.concat_eq_append, List.cons_append, List.append_assoc]

/-- Its hyphens stand alone. -/
theorem squeeze_hyphenated : squeeze '-' false (hyphenated a b c) = hyphenated a b c := by
  have clear : ∀ {run : List Char}, Digits run → '-' ∉ run := by
    intro run digits member
    obtain ⟨digit, lt, same⟩ := digits.digits _ member
    have tidy := (digit_facts lt).2.2
    rw [← same] at tidy
    cases tidy
  unfold hyphenated
  rw [squeeze_append_of_clear (clear first) first.some_digit, squeeze_cons_once,
    squeeze_append_of_clear (clear second) second.some_digit, squeeze_cons_once,
    squeeze_eq_self (clear third)]

/-- It is a stem as it stands.
SRC: filename_template.rs:120-158 -/
theorem finalize_hyphenated (short : (hyphenated a b c).length ≤ MAX_STEM_CHARS) :
    finalize_stem (hyphenated a b c) = hyphenated a b c := by
  have dotless : '.' ∉ hyphenated a b c := by
    intro member
    have plain := hyphenated_plain first second third '.' member
    cases plain
  have no_device : ¬ IsDevice (hyphenated a b c) := by
    intro is_device
    apply (device_facts is_device).2.1
    unfold hyphenated
    exact List.mem_append_right _ List.mem_cons_self
  have squeezed := squeeze_hyphenated first second third
  obtain ⟨x, middle, y, ends, x_stays, y_stays, y_tidy⟩ := hyphenated_ends (b := b) first third
  have tidied_eq : tidied (hyphenated a b c) = hyphenated a b c := by
    unfold tidied kept
    rw [ends, trim_by_of_ends middle x_stays y_stays, ← ends, squeezed,
      List.take_of_length_le short, List.rdropWhile_eq_self_iff]
    intro some_left
    simp only [ends]
    rw [List.getLast_cons (by simp), List.getLast_append_singleton, y_tidy]
    exact Bool.false_ne_true
  have some_left : hyphenated a b c ≠ [] := by
    rw [ends]
    exact List.cons_ne_nil _ _
  rw [finalize_stem_eq, tidied_eq, if_neg some_left, takeWhile_of_no_dot dotless, if_neg no_device]

end Hyphenated

/-- The fields of a `{timestamp}` are runs of digits between hyphens. -/
theorem written_timestamp (year month day hour minute second millis : Nat) :
    ∃ a b c, Digits a ∧ Digits b ∧ Digits c ∧ (hyphenated a b c).length = 19 ∧
      written_fields TIMESTAMP_FIELDS [year, month, day, hour, minute, second, millis] =
        hyphenated a b c := by
  have two : ∀ n, Digits (decimals 2 n) := fun n => digits_decimals (by decide)
  refine ⟨decimals 4 year ++ (decimals 2 month ++ decimals 2 day),
    decimals 2 hour ++ (decimals 2 minute ++ decimals 2 second), decimals 3 millis,
    (digits_decimals (by decide)).append ((two month).append (two day)),
    (two hour).append ((two minute).append (two second)), digits_decimals (by decide), ?_, ?_⟩
  · unfold hyphenated
    simp only [List.length_append, List.length_cons, decimals_length]
  · simp only [hyphenated, TIMESTAMP_FIELDS, written_fields, List.append_assoc, List.nil_append,
      List.cons_append, List.append_nil]

/-- **A name that is a time** is its numbers.
SRC: filename_template.rs:51-88 -/
theorem expanded_timestamp {context : TemplateContext}
    (early : context.timestamp_micros < END_OF_9999) :
    expand "\x7btimestamp\x7d".toList context =
      written_fields TIMESTAMP_FIELDS
        (time_numbers context.timestamp_micros (context.timestamp_micros / 1000 % 1000)) := by
  obtain ⟨year, month, day, hour, minute, second, numbers⟩ : ∃ year month day hour minute second,
      time_numbers context.timestamp_micros (context.timestamp_micros / 1000 % 1000) =
        [year, month, day, hour, minute, second, context.timestamp_micros / 1000 % 1000] :=
    ⟨_, _, _, _, _, _, rfl⟩
  obtain ⟨a, b, c, first, second', third, length, text⟩ :=
    written_timestamp year month day hour minute second (context.timestamp_micros / 1000 % 1000)
  have value := timestamp_value_eq early
  rw [numbers, text] at value
  have readable : ∀ piece ∈ [Piece.Token "timestamp"], piece.Readable := by
    intro piece member
    rw [List.mem_singleton.mp member]
    show "timestamp" ∈ TOKENS
    decide
  have sanitized : sanitize_field (hyphenated a b c) = hyphenated a b c :=
    sanitize_from_eq (hyphenated_plain first second' third) (by
      rw [length]
      decide)
  have named_eq : named context [.Token "timestamp"] = hyphenated a b c := by
    rw [named_cons, Piece.named, value, sanitized]
    exact List.append_nil _
  rw [numbers, text, show "\x7btimestamp\x7d".toList = written [.Token "timestamp"] from rfl,
    expand_written context readable, named_eq]
  apply finalize_hyphenated first second' third
  rw [length]
  decide

/-! ## Order -/

/-- **Captures sort by time**: days have the dates of the calendar, a time is its date and its time
of day, and up to the end of the year 9999 names made of a `{timestamp}`, and the instants of the
log, compare as the times do to their resolution.
SRC: clock.rs:12-47, filename_template.rs:51-88, logging.rs:524-528 -/
theorem captures_sort_by_time :
    (∀ days : Int,
      civil_date_from_unix_days days =
        ((unix_epoch.days_from days).year, (unix_epoch.days_from days).month,
          (unix_epoch.days_from days).day)) ∧
    (∀ t < END_OF_9999,
      utc_parts t =
        { year := (unix_epoch.days_from (day_of t)).year
          month := (unix_epoch.days_from (day_of t)).month
          day := (unix_epoch.days_from (day_of t)).day
          hour := (t / 3600000000 % 24 : Nat)
          minute := (t / 60000000 % 60 : Nat)
          second := (t / 1000000 % 60 : Nat)
          millis := t / 1000 % 1000 }) ∧
    (∀ a b : TemplateContext, a.timestamp_micros < END_OF_9999 →
      b.timestamp_micros < END_OF_9999 →
      (expand "\x7btimestamp\x7d".toList a < expand "\x7btimestamp\x7d".toList b ↔
          a.timestamp_micros / 1000 < b.timestamp_micros / 1000) ∧
        (expand "\x7btimestamp\x7d".toList a = expand "\x7btimestamp\x7d".toList b ↔
          a.timestamp_micros / 1000 = b.timestamp_micros / 1000)) ∧
    ∀ t u, t < END_OF_9999 → u < END_OF_9999 →
      (format_utc_timestamp t < format_utc_timestamp u ↔ t < u) ∧
        (format_utc_timestamp t = format_utc_timestamp u ↔ t = u) := by
  refine ⟨?_, ?_, ?_, ?_⟩
  · intro days
    rw [← civil_date_eq_days_from]
    rfl
  · intro t early
    exact utc_parts_eq early
  · intro a b a_early b_early
    have a_fit : FieldsFit TIMESTAMP_FIELDS
        (time_numbers a.timestamp_micros (a.timestamp_micros / 1000 % 1000)) :=
      time_numbers_fit a_early (Nat.mod_lt _ (by decide))
    have b_fit : FieldsFit TIMESTAMP_FIELDS
        (time_numbers b.timestamp_micros (b.timestamp_micros / 1000 % 1000)) :=
      time_numbers_fit b_early (Nat.mod_lt _ (by decide))
    rw [expanded_timestamp a_early, expanded_timestamp b_early]
    constructor
    · rw [written_fields_lt_iff a_fit b_fit, time_numbers_lt_iff a_early b_early]
      clear a_early b_early a_fit b_fit
      omega
    · rw [written_fields_inj a_fit b_fit, time_numbers_inj a_early b_early]
      clear a_early b_early a_fit b_fit
      omega
  · intro t u t_early u_early
    have t_fit : FieldsFit INSTANT_FIELDS (time_numbers t (t % 1000000)) :=
      time_numbers_fit t_early (Nat.mod_lt t (by decide))
    have u_fit : FieldsFit INSTANT_FIELDS (time_numbers u (u % 1000000)) :=
      time_numbers_fit u_early (Nat.mod_lt u (by decide))
    rw [format_utc_timestamp_eq t_early, format_utc_timestamp_eq u_early]
    constructor
    · rw [written_fields_lt_iff t_fit u_fit, time_numbers_lt_iff t_early u_early]
      clear t_early u_early t_fit u_fit
      omega
    · rw [written_fields_inj t_fit u_fit, time_numbers_inj t_early u_early]
      clear t_early u_early t_fit u_fit
      omega

/-- The epoch, and the last millisecond of a leap day. -/
theorem captures_sort_by_time_leap_day :
    expand "\x7btimestamp\x7d".toList hostile_capture <
        expand "\x7btimestamp\x7d".toList
          { hostile_capture with timestamp_micros := 1709251199999000 } ∧
      format_utc_timestamp 0 < format_utc_timestamp 1709251199999000 := by
  obtain ⟨-, -, names, instants⟩ := captures_sort_by_time
  constructor
  · exact (names hostile_capture { hostile_capture with timestamp_micros := 1709251199999000 }
      (by decide) (by decide)).1.mpr (by decide)
  · exact (instants 0 1709251199999000 (by decide) (by decide)).1.mpr (by decide)

end Captastic.Analysis
