import Captastic.Library.Calendar
import Captastic.Model.Clock

/-!
# Days and their dates

`civil_date_from_unix_days` finds a date by dividing the days of an era of 400 years that begins on
the first of March.  A day has one place in its era (`EraDay`), the divisions find that place
(`civil_date_eq`), and the date there is followed by the calendar's next day (`civil_date_next`),
so that every day has the date that the calendar's rule leads to (`civil_date_eq_days_from`).
-/

set_option autoImplicit false

namespace Captastic.Analysis

open Captastic.Library Captastic.Model

/-! ## Civil dates -/

/-- The date of `civil_date_from_unix_days`. -/
def civil_date (days : Int) : CalendarDate :=
  let date := civil_date_from_unix_days days
  ⟨date.1, date.2.1, date.2.2⟩

/-- The first day of the calendar. -/
def unix_epoch : CalendarDate := ⟨1970, 1, 1⟩

/-- A day by its place in the eras of 400 years that begin on the first of March: its century,
its four years in that, its year in those, and its day in the year. -/
structure EraDay (shifted era century four year day : Int) : Prop where
  shifted_eq : shifted = 146097 * era + 36524 * century + 1461 * four + 365 * year + day
  century_range : 0 ≤ century ∧ century ≤ 3
  four_range : 0 ≤ four ∧ four ≤ 24
  year_range : 0 ≤ year ∧ year ≤ 3
  starts : 0 ≤ day
  ends : day ≤ 364 ∨ day = 365 ∧ year = 3 ∧ (four ≤ 23 ∨ century = 3)

/-- Every day lies in an era, a century, four years and a year of them. -/
theorem exists_era_day (shifted : Int) :
    ∃ era century four year day, EraDay shifted era century four year day := by
  obtain ⟨era, rest, shifted_eq, rest_nonneg, rest_lt⟩ : ∃ era rest : Int,
      shifted = 146097 * era + rest ∧ 0 ≤ rest ∧ rest < 146097 :=
    ⟨shifted / 146097, shifted % 146097, by omega, by omega, by omega⟩
  obtain ⟨century, rest', rest_eq, century, rest'_nonneg, rest'_lt⟩ : ∃ century rest' : Int,
      rest = 36524 * century + rest' ∧ (0 ≤ century ∧ century ≤ 3) ∧ 0 ≤ rest' ∧
        (rest' < 36524 ∨ rest' = 36524 ∧ century = 3) :=
    ⟨min (rest / 36524) 3, rest - 36524 * min (rest / 36524) 3, by omega, by omega, by omega,
      by omega⟩
  obtain ⟨four, rest'', rest'_eq, four, rest''_nonneg, rest''_lt⟩ : ∃ four rest'' : Int,
      rest' = 1461 * four + rest'' ∧ (0 ≤ four ∧ four ≤ 24) ∧ 0 ≤ rest'' ∧ rest'' < 1461 :=
    ⟨rest' / 1461, rest' % 1461, by omega, by omega, by omega, by omega⟩
  refine ⟨era, _, _, min (rest'' / 365) 3, rest'' - 365 * min (rest'' / 365) 3, ?_, century, four,
    ?_, ?_, ?_⟩
  · omega
  · omega
  · omega
  · omega

/-- The date at a place in the eras. -/
def era_date (era century four year day : Int) : CalendarDate :=
  let month_prime := (5 * day + 2) / 153
  let month := month_prime + if month_prime < 10 then 3 else -9
  let march_year := 400 * era + 100 * century + 4 * four + year
  ⟨if month ≤ 2 then march_year + 1 else march_year, month,
    day - (153 * month_prime + 2) / 5 + 1⟩

/-- The years passed in an era are never negative. -/
theorem years_nonneg {day_of_era : Int} (nonneg : 0 ≤ day_of_era) :
    0 ≤ day_of_era - day_of_era / 1460 + day_of_era / 36524 - day_of_era / 146096 := by
  omega

namespace EraDay

variable {shifted era century four year day : Int}

/-- The year of a day within its era is never negative. -/
theorem years_nonneg (place : EraDay shifted era century four year day) :
    0 ≤ 100 * century + 4 * four + year := by
  obtain ⟨-, century_range, four_range, year_range, -, -⟩ := place
  omega

/-- A day's number within its era is never negative. -/
theorem day_of_era_nonneg (place : EraDay shifted era century four year day) :
    0 ≤ shifted - era * 146097 := by
  obtain ⟨shifted_eq, century_range, four_range, year_range, starts, -⟩ := place
  omega

/-- SRC: clock.rs:33-38 -/
theorem era_eq (place : EraDay shifted era century four year day) :
    (if 0 ≤ shifted then shifted else shifted - 146096).tdiv 146097 = era := by
  obtain ⟨shifted_eq, century_range, four_range, year_range, starts, ends⟩ := place
  obtain ⟨rest, rest_eq, nonneg, lt⟩ : ∃ rest, shifted = 146097 * era + rest ∧ 0 ≤ rest ∧
      rest < 146097 :=
    ⟨36524 * century + 1461 * four + 365 * year + day, by omega, by omega, by omega⟩
  clear shifted_eq
  split
  · rw [Int.tdiv_eq_ediv_of_nonneg (by omega)]
    omega
  · rw [show shifted - 146096 = -(146096 - shifted) from by omega, Int.neg_tdiv,
      Int.tdiv_eq_ediv_of_nonneg (by omega)]
    omega

/-- The year of an era by the division of its days.
SRC: clock.rs:39-40 -/
theorem year_of_era_eq (place : EraDay shifted era century four year day) {day_of_era : Int}
    (day_of_era_eq : day_of_era = shifted - era * 146097) :
    (day_of_era - day_of_era / 1460 + day_of_era / 36524 - day_of_era / 146096) / 365 =
      100 * century + 4 * four + year := by
  obtain ⟨shifted_eq, century_range, four_range, year_range, starts, ends⟩ := place
  have day_of_era_eq' : day_of_era = 36524 * century + 1461 * four + 365 * year + day := by omega
  have in_century : 1461 * four + 365 * year + day ≤ 36523 ∨
      century = 3 ∧ four = 24 ∧ year = 3 ∧ day = 365 := by omega
  rcases in_century with in_century | ⟨rfl, rfl, rfl, rfl⟩
  · have centuries : day_of_era / 36524 = century := by omega
    have eras : day_of_era / 146096 = 0 := by omega
    have leaps : day_of_era / 1460 = 25 * century + four +
        (if 1460 ≤ 24 * century + four + 365 * year + day then 1 else 0) := by
      split
      · omega
      · omega
    rw [centuries, eras, leaps]
    split
    · omega
    · omega
  · rw [day_of_era_eq']
    rfl

/-- SRC: clock.rs:41-43 -/
theorem day_of_year_eq (place : EraDay shifted era century four year day) :
    shifted - era * 146097 -
      (365 * (100 * century + 4 * four + year) + (100 * century + 4 * four + year) / 4 -
        (100 * century + 4 * four + year) / 100) = day := by
  obtain ⟨shifted_eq, century_range, four_range, year_range, starts, ends⟩ := place
  omega

end EraDay

/-- SRC: clock.rs:31-47 -/
theorem civil_date_eq {days era century four year day : Int}
    (place : EraDay (days + 719468) era century four year day) :
    civil_date days = era_date era century four year day := by
  have day_nonneg := place.starts
  have month_nonneg : 0 ≤ 5 * day + 2 := by omega
  have start_nonneg : 0 ≤ 153 * ((5 * day + 2) / 153) + 2 := by omega
  unfold civil_date civil_date_from_unix_days era_date
  dsimp only
  rw [place.era_eq, Int.tdiv_eq_ediv_of_nonneg place.day_of_era_nonneg,
    Int.tdiv_eq_ediv_of_nonneg place.day_of_era_nonneg,
    Int.tdiv_eq_ediv_of_nonneg place.day_of_era_nonneg,
    Int.tdiv_eq_ediv_of_nonneg (years_nonneg place.day_of_era_nonneg), place.year_of_era_eq rfl,
    Int.tdiv_eq_ediv_of_nonneg place.years_nonneg, Int.tdiv_eq_ediv_of_nonneg place.years_nonneg,
    place.day_of_year_eq, Int.tdiv_eq_ediv_of_nonneg month_nonneg,
    Int.tdiv_eq_ediv_of_nonneg start_nonneg,
    show 100 * century + 4 * four + year + era * 400 =
      400 * era + 100 * century + 4 * four + year from by omega]

/-! ## The next day -/

/-- Whether a year that begins on the first of March ends on a 29th of February. -/
theorem leap_year_iff {shifted era century four year day : Int}
    (place : EraDay shifted era century four year day) :
    leap_year (400 * era + 100 * century + 4 * four + year + 1) ↔
      year = 3 ∧ (four ≤ 23 ∨ century = 3) := by
  obtain ⟨-, century_range, four_range, year_range, -, -⟩ := place
  unfold leap_year
  omega

/-- The days before a month of a year that begins on the first of March. -/
def days_before (month_prime : Int) : Int := (153 * month_prime + 2) / 5

/-- The calendar's number of such a month. -/
def month_of (month_prime : Int) : Int := month_prime + if month_prime < 10 then 3 else -9

/-- A month from March on to January has the days between its start and the next one's. -/
theorem days_in_month_of {year month_prime : Int} (least : 0 ≤ month_prime)
    (most : month_prime ≤ 10) :
    days_in_month year (month_of month_prime) =
      days_before (month_prime + 1) - days_before month_prime := by
  obtain rfl | rfl | rfl | rfl | rfl | rfl | rfl | rfl | rfl | rfl | rfl :
      month_prime = 0 ∨ month_prime = 1 ∨ month_prime = 2 ∨ month_prime = 3 ∨ month_prime = 4 ∨
        month_prime = 5 ∨ month_prime = 6 ∨ month_prime = 7 ∨ month_prime = 8 ∨
        month_prime = 9 ∨ month_prime = 10 := by
    omega
  all_goals rfl

/-- A day of a year that begins on the first of March is in a month of it. -/
theorem month_prime_spec {day : Int} (least : 0 ≤ day) (most : day ≤ 365) :
    ∃ month_prime, (5 * day + 2) / 153 = month_prime ∧ 0 ≤ month_prime ∧ month_prime ≤ 11 ∧
      days_before month_prime ≤ day ∧ day < days_before (month_prime + 1) := by
  unfold days_before
  refine ⟨_, rfl, ?_, ?_, ?_, ?_⟩
  · omega
  · omega
  · omega
  · omega

/-- The source's `(5 * day + 2) / 153` finds the month the day lies in. -/
theorem month_prime_eq {day month_prime : Int} (least : days_before month_prime ≤ day)
    (most : day < days_before (month_prime + 1)) : (5 * day + 2) / 153 = month_prime := by
  unfold days_before at *
  omega

/-- A day between two month starts has that month's date. -/
theorem era_date_of_month {era century four year day month_prime : Int}
    (least : days_before month_prime ≤ day) (most : day < days_before (month_prime + 1)) :
    era_date era century four year day =
      ⟨if month_of month_prime ≤ 2 then 400 * era + 100 * century + 4 * four + year + 1
        else 400 * era + 100 * century + 4 * four + year,
        month_of month_prime, day - days_before month_prime + 1⟩ := by
  unfold era_date
  rw [month_prime_eq least most]
  rfl

/-- The year of the calendar in a month of a year that begins on the first of March. -/
theorem next_day_in_month {march_year day month_prime : Int}
    (inside : day - days_before month_prime + 1 <
      days_in_month (if month_of month_prime ≤ 2 then march_year + 1 else march_year)
        (month_of month_prime)) :
    CalendarDate.next_day ⟨if month_of month_prime ≤ 2 then march_year + 1 else march_year,
        month_of month_prime, day - days_before month_prime + 1⟩ =
      ⟨if month_of month_prime ≤ 2 then march_year + 1 else march_year, month_of month_prime,
        day + 1 - days_before month_prime + 1⟩ := by
  unfold CalendarDate.next_day
  rw [if_pos inside, CalendarDate.mk.injEq]
  refine ⟨rfl, rfl, ?_⟩
  show day - days_before month_prime + 1 + 1 = day + 1 - days_before month_prime + 1
  omega

/-- The day after a month's last is the first of the month that follows. -/
theorem next_month {march_year day month_prime : Int} (least : 0 ≤ month_prime)
    (most : month_prime ≤ 10) (last : day + 1 = days_before (month_prime + 1)) :
    CalendarDate.next_day ⟨if month_of month_prime ≤ 2 then march_year + 1 else march_year,
        month_of month_prime, day - days_before month_prime + 1⟩ =
      ⟨if month_of (month_prime + 1) ≤ 2 then march_year + 1 else march_year,
        month_of (month_prime + 1), day + 1 - days_before (month_prime + 1) + 1⟩ := by
  unfold CalendarDate.next_day
  dsimp only
  rw [days_in_month_of least most, if_neg (by omega), last, Int.sub_self]
  rcases Int.lt_trichotomy month_prime 9 with spring | rfl | winter
  · have month : month_of month_prime = month_prime + 3 := by
      unfold month_of
      rw [if_pos (by omega)]
    have next : month_of (month_prime + 1) = month_prime + 1 + 3 := by
      unfold month_of
      rw [if_pos (by omega)]
    rw [month, next, if_pos (by omega), if_neg (by omega), if_neg (by omega), Int.zero_add,
      Int.add_right_comm]
  · rfl
  · obtain rfl : month_prime = 10 := by omega
    rfl

/-- The next day of the year. -/
theorem next_day_in_year {shifted era century four year day : Int}
    (place : EraDay shifted era century four year day)
    (next : EraDay (shifted + 1) era century four year (day + 1)) :
    (era_date era century four year day).next_day = era_date era century four year (day + 1) := by
  have leap := leap_year_iff place
  have starts := place.starts
  have ends := next.ends
  clear place next
  obtain ⟨month_prime, -, least, most, from_day, to_day⟩ :=
    month_prime_spec starts (by omega)
  rw [era_date_of_month from_day to_day]
  by_cases february : month_prime = 11
  · subst february
    have in_month : day + 1 < days_before (11 + 1) := by
      show day + 1 < 367
      omega
    rw [era_date_of_month (by omega) in_month]
    apply next_day_in_month
    show day - 337 + 1 < if leap_year (400 * era + 100 * century + 4 * four + year + 1) then 29
      else 28
    split
    next => omega
    next common =>
      rw [leap] at common
      omega
  · by_cases in_month : day + 1 < days_before (month_prime + 1)
    · rw [era_date_of_month (by omega) in_month]
      apply next_day_in_month
      rw [days_in_month_of least (by omega)]
      omega
    · have last : day + 1 = days_before (month_prime + 1) := by omega
      rw [era_date_of_month (Int.le_of_eq last.symm) (by
        unfold days_before at *
        omega)]
      exact next_month least (by omega) last

/-- The last day of a year is followed by the first of March. -/
theorem next_day_of_year {shifted era century four year day : Int}
    (place : EraDay shifted era century four year day)
    (last : ¬ EraDay (shifted + 1) era century four year (day + 1)) :
    (era_date era century four year day).next_day =
      ⟨400 * era + 100 * century + 4 * four + year + 1, 3, 1⟩ := by
  have leap := leap_year_iff place
  obtain ⟨shifted_eq, century_range, four_range, year_range, starts, ends⟩ := place
  have day_eq : day = 364 ∧ ¬ (year = 3 ∧ (four ≤ 23 ∨ century = 3)) ∨
      day = 365 ∧ year = 3 ∧ (four ≤ 23 ∨ century = 3) := by
    by_contra other
    exact last ⟨by omega, century_range, four_range, year_range, by omega, by omega⟩
  rw [← leap] at day_eq
  have february : days_before 11 ≤ day ∧ day < days_before (11 + 1) := by
    show 337 ≤ day ∧ day < 367
    omega
  rw [era_date_of_month february.1 february.2]
  unfold CalendarDate.next_day
  show (if day - 337 + 1 < (if leap_year (400 * era + 100 * century + 4 * four + year + 1) then 29
    else 28) then _ else _) = _
  rcases day_eq with ⟨rfl, common⟩ | ⟨rfl, leap⟩
  · rw [if_neg common]
    rfl
  · rw [if_pos leap]
    rfl

/-- The first of March after it. -/
theorem next_year {shifted era century four year day : Int}
    (place : EraDay shifted era century four year day)
    (last : ¬ EraDay (shifted + 1) era century four year (day + 1)) :
    ∃ era' century' four' year', EraDay (shifted + 1) era' century' four' year' 0 ∧
      400 * era' + 100 * century' + 4 * four' + year' =
        400 * era + 100 * century + 4 * four + year + 1 := by
  obtain ⟨shifted_eq, century_range, four_range, year_range, starts, ends⟩ := place
  have day_eq : day = 364 ∧ ¬ (year = 3 ∧ (four ≤ 23 ∨ century = 3)) ∨
      day = 365 ∧ year = 3 ∧ (four ≤ 23 ∨ century = 3) := by
    by_contra other
    exact last ⟨by omega, century_range, four_range, year_range, by omega, by omega⟩
  clear last
  by_cases in_four : year ≤ 2
  · refine ⟨era, century, four, year + 1,
      ⟨?_, century_range, four_range, ?_, Int.le_refl _, ?_⟩, ?_⟩
    all_goals omega
  · by_cases in_century : four ≤ 23
    · refine ⟨era, century, four + 1, 0, ⟨?_, century_range, ?_, ?_, Int.le_refl _, ?_⟩, ?_⟩
      all_goals omega
    · by_cases in_era : century ≤ 2
      · refine ⟨era, century + 1, 0, 0, ⟨?_, ?_, ?_, ?_, Int.le_refl _, ?_⟩, ?_⟩
        all_goals omega
      · refine ⟨era + 1, 0, 0, 0, ⟨?_, ?_, ?_, ?_, Int.le_refl _, ?_⟩, ?_⟩
        all_goals omega

/-- The day after a day is the calendar's next day.
SRC: clock.rs:31-47 -/
theorem civil_date_next (days : Int) : civil_date (days + 1) = (civil_date days).next_day := by
  obtain ⟨era, century, four, year, day, place⟩ := exists_era_day (days + 719468)
  rw [civil_date_eq place]
  have shifted_eq : days + 1 + 719468 = days + 719468 + 1 := by omega
  by_cases next : EraDay (days + 719468 + 1) era century four year (day + 1)
  · rw [next_day_in_year place next]
    rw [← shifted_eq] at next
    exact civil_date_eq next
  · obtain ⟨era', century', four', year', place', year_eq⟩ := next_year place next
    rw [next_day_of_year place next, ← year_eq]
    rw [← shifted_eq] at place'
    exact civil_date_eq place'

/-- Every day has a date of the calendar. -/
theorem civil_date_valid (days : Int) : (civil_date days).Valid := by
  obtain ⟨era, century, four, year, day, place⟩ := exists_era_day (days + 719468)
  rw [civil_date_eq place]
  have leap := leap_year_iff place
  have starts := place.starts
  have ends := place.ends
  clear place
  obtain ⟨month_prime, -, least, most, from_day, to_day⟩ :=
    month_prime_spec starts (by omega)
  rw [era_date_of_month from_day to_day]
  constructor
  · show 1 ≤ month_of month_prime ∧ month_of month_prime ≤ 12
    unfold month_of
    split
    · omega
    · omega
  · dsimp only
    by_cases february : month_prime = 11
    · subst february
      show 1 ≤ day - 337 + 1 ∧
        day - 337 + 1 ≤ if leap_year (400 * era + 100 * century + 4 * four + year + 1) then 29
          else 28
      have from_february : 337 ≤ day := from_day
      split
      next => omega
      next common =>
        rw [leap] at common
        omega
    · rw [days_in_month_of least (by omega)]
      omega

/-- **Days have the dates of the calendar**, before 1970 too. -/
theorem civil_date_eq_days_from (days : Int) : civil_date days = unix_epoch.days_from days :=
  CalendarDate.eq_days_from civil_date_valid civil_date_next days

end Captastic.Analysis
