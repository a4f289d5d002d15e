import Mathlib.Tactic.Common

/-!
# The time a name carries

`captastic-app/src/clock.rs`: a Unix time in microseconds as a date and a time of day, in UTC.
-/

set_option autoImplicit false

namespace Captastic.Model

/-- `i64::MAX` -/
def I64_MAX : Nat := 9223372036854775807

/-- The year, month and day of a number of days since 1970-01-01.  The source's `i64` is read as
an unbounded integer: days are counted from seconds, so nothing comes near its ends.
SRC: clock.rs:31-47 -/
def civil_date_from_unix_days (days : Int) : Int × Int × Int :=
  let shifted := days + 719468
  let era := (if 0 ≤ shifted then shifted else shifted - 146096).tdiv 146097
  let day_of_era := shifted - era * 146097
  let year_of_era := (day_of_era - day_of_era.tdiv 1460 + day_of_era.tdiv 36524 -
    day_of_era.tdiv 146096).tdiv 365
  let year := year_of_era + era * 400
  let day_of_year := day_of_era -
    (365 * year_of_era + year_of_era.tdiv 4 - year_of_era.tdiv 100)
  let month_prime := (5 * day_of_year + 2).tdiv 153
  let day := day_of_year - (153 * month_prime + 2).tdiv 5 + 1
  let month := month_prime + if month_prime < 10 then 3 else -9
  (if month ≤ 2 then year + 1 else year, month, day)

/-- A moment as its date and its time of day. -/
structure UtcParts where
  year : Int
  month : Int
  day : Int
  hour : Int
  minute : Int
  second : Int
  millis : Nat
deriving DecidableEq

/-- SRC: clock.rs:12-29 -/
def utc_parts (unix_micros : Nat) : UtcParts :=
  let seconds : Int := min (unix_micros / 1000000) I64_MAX
  let millis := unix_micros % 1000000 / 1000
  let days := seconds / 86400
  let seconds_of_day := seconds % 86400
  let date := civil_date_from_unix_days days
  ⟨date.1, date.2.1, date.2.2, seconds_of_day.tdiv 3600, (seconds_of_day.tmod 3600).tdiv 60,
    seconds_of_day.tmod 60, millis⟩

example : utc_parts 1709251199999000 = ⟨2024, 2, 29, 23, 59, 59, 999⟩ := by decide

end Captastic.Model
