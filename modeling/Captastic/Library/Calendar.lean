import Mathlib.Data.Int.Init
import Mathlib.Logic.Function.Iterate
import Mathlib.Tactic.Common

/-!
# The Gregorian calendar

The proleptic Gregorian calendar by its next-day rule: a date is followed by the next day of its
month, by the first of the next month, or by the first of January (`next_day`), and the rule can
be taken back (`previous_day`).  The date a number of days after or before another is the rule
repeated (`CalendarDate.days_from`); it is the only sequence of dates that follows the rule
(`eq_days_from`), and dates rise with it (`days_from_before`).
-/

set_option autoImplicit false

namespace Captastic.Library

structure CalendarDate where
  year : Int
  month : Int
  day : Int
deriving DecidableEq

/-- A year with a 29th of February. -/
def leap_year (year : Int) : Prop := year % 4 = 0 ∧ (year % 100 ≠ 0 ∨ year % 400 = 0)

instance decidable_leap_year (year : Int) : Decidable (leap_year year) :=
  inferInstanceAs (Decidable (_ ∧ _))

def days_in_month (year month : Int) : Int :=
  if month = 2 then (if leap_year year then 29 else 28)
  else if month = 4 ∨ month = 6 ∨ month = 9 ∨ month = 11 then 30
  else 31

namespace CalendarDate

variable (date : CalendarDate)

/-- A day of a month of the calendar. -/
structure Valid : Prop where
  month : 1 ≤ date.month ∧ date.month ≤ 12
  day : 1 ≤ date.day ∧ date.day ≤ days_in_month date.year date.month

def next_day : CalendarDate :=
  if date.day < days_in_month date.year date.month then { date with day := date.day + 1 }
  else if date.month < 12 then ⟨date.year, date.month + 1, 1⟩
  else ⟨date.year + 1, 1, 1⟩

def previous_day : CalendarDate :=
  if 1 < date.day then { date with day := date.day - 1 }
  else if 1 < date.month then
    ⟨date.year, date.month - 1, days_in_month date.year (date.month - 1)⟩
  else ⟨date.year - 1, 12, 31⟩

/-- Earlier in the calendar. -/
def Before (a b : CalendarDate) : Prop :=
  a.year < b.year ∨ a.year = b.year ∧ (a.month < b.month ∨ a.month = b.month ∧ a.day < b.day)

/-- The date a number of days after another, or before it. -/
def days_from : Int → CalendarDate
  | .ofNat days => next_day^[days] date
  | .negSucc days => previous_day^[days + 1] date

end CalendarDate

/-- A month has 28 to 31 days. -/
theorem days_in_month_range (year month : Int) :
    28 ≤ days_in_month year month ∧ days_in_month year month ≤ 31 := by
  unfold days_in_month
  split
  · split
    · omega
    · omega
  · split
    · omega
    · omega

/-- December has 31 days. -/
theorem days_in_december (year : Int) : days_in_month year 12 = 31 := rfl

namespace CalendarDate

variable {date a b c : CalendarDate}

/-- The day after a date is a date. -/
theorem Valid.next_day (valid : date.Valid) : date.next_day.Valid := by
  obtain ⟨⟨month, month_le⟩, day, day_le⟩ := valid
  unfold CalendarDate.next_day
  split
  next inside => exact ⟨⟨month, month_le⟩, by dsimp only; omega, inside⟩
  next ends =>
    split
    · refine ⟨⟨?_, ?_⟩, Int.le_refl _, ?_⟩
      · dsimp only
        omega
      · dsimp only
        omega
      · have := days_in_month_range date.year (date.month + 1)
        dsimp only
        omega
    · refine ⟨⟨Int.le_refl _, ?_⟩, Int.le_refl _, ?_⟩
      · dsimp only
        omega
      · have := days_in_month_range (date.year + 1) 1
        dsimp only
        omega

/-- The day before a date is a date. -/
theorem Valid.previous_day (valid : date.Valid) : date.previous_day.Valid := by
  obtain ⟨⟨month, month_le⟩, day, day_le⟩ := valid
  unfold CalendarDate.previous_day
  split
  · refine ⟨⟨month, month_le⟩, ?_, ?_⟩
    · dsimp only
      omega
    · dsimp only
      omega
  · split
    · have range := days_in_month_range date.year (date.month - 1)
      refine ⟨⟨?_, ?_⟩, ?_, Int.le_refl _⟩
      · dsimp only
        omega
      · dsimp only
        omega
      · dsimp only
        omega
    · constructor
      · dsimp only
        omega
      · dsimp only
        rw [days_in_december]
        omega

/-- The rule taken back. -/
theorem Valid.previous_next (valid : date.Valid) : date.next_day.previous_day = date := by
  obtain ⟨⟨month, month_le⟩, day, day_le⟩ := valid
  unfold CalendarDate.next_day
  split
  next inside =>
    unfold CalendarDate.previous_day
    dsimp only
    rw [if_pos (by omega), Int.add_sub_cancel]
  next ends =>
    have last : days_in_month date.year date.month = date.day := by omega
    split
    · unfold CalendarDate.previous_day
      dsimp only
      rw [if_neg (by omega), if_pos (by omega), Int.add_sub_cancel, last]
    · have december : date.month = 12 := by omega
      have day_eq : date.day = 31 := by rw [← last, december, days_in_december]
      unfold CalendarDate.previous_day
      dsimp only
      rw [if_neg (by omega), if_neg (by omega), Int.add_sub_cancel, ← december, ← day_eq]

/-- A date before one that is before another is before that one too. -/
theorem Before.trans (earlier : Before a b) (later : Before b c) : Before a c := by
  unfold Before at *
  omega

/-- A date is before the day after it. -/
theorem before_next_day (date : CalendarDate) : Before date date.next_day := by
  unfold CalendarDate.next_day Before
  split
  · dsimp only
    omega
  · split
    · dsimp only
      omega
    · dsimp only
      omega

/-! ## Days from a date -/

/-- Some days from a date is so many times the day after. -/
theorem days_from_ofNat (date : CalendarDate) (days : Nat) :
    date.days_from days = CalendarDate.next_day^[days] date := rfl

/-- Some days back from a date is so many times the day before. -/
theorem days_from_negSucc (date : CalendarDate) (days : Nat) :
    date.days_from (-(days + 1 : Nat)) = CalendarDate.previous_day^[days + 1] date := rfl

/-- A sequence of dates that follows the rule is the days from its start. -/
theorem eq_days_from {dates : Int → CalendarDate} (valid : ∀ days, (dates days).Valid)
    (follows : ∀ days, dates (days + 1) = (dates days).next_day) (days : Int) :
    dates days = (dates 0).days_from days := by
  induction days using Int.induction_on with
  | zero => rfl
  | succ days ih =>
    rw [follows, ih, days_from_ofNat, show ((days : Int) + 1) = (days + 1 : Nat) from rfl,
      days_from_ofNat, Function.iterate_succ_apply']
  | pred days ih =>
    have back : dates (-(days : Int) - 1) = (dates (-(days : Int))).previous_day := by
      have := follows (-(days : Int) - 1)
      rw [Int.sub_add_cancel] at this
      rw [this]
      exact (valid _).previous_next.symm
    rw [back, ih, show (-(days : Int) - 1) = -(days + 1 : Nat) from by omega, days_from_negSucc,
      Function.iterate_succ_apply']
    cases days with
    | zero => rfl
    | succ days => rw [days_from_negSucc]

/-- Dates that follow the rule rise. -/
theorem before_of_follows {dates : Int → CalendarDate}
    (follows : ∀ days, dates (days + 1) = (dates days).next_day) {first last : Int}
    (rises : first < last) : Before (dates first) (dates last) := by
  obtain ⟨between, rfl⟩ : ∃ between : Nat, last = first + 1 + between :=
    ⟨(last - first - 1).toNat, by omega⟩
  induction between with
  | zero =>
    rw [Int.natCast_zero, Int.add_zero, follows]
    exact before_next_day _
  | succ between ih =>
    have step := follows (first + 1 + between)
    rw [show first + 1 + (between + 1 : Nat) = first + 1 + between + 1 from by omega, step]
    exact (ih (by omega)).trans (before_next_day _)

end CalendarDate

end Captastic.Library
