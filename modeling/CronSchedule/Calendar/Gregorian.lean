import CronSchedule.Calendar.Basic
import CronSchedule.Time.Date

/-
  The proleptic Gregorian calendar.

  Key definitions include:
    * `Calendar.monthAfter`
    * `Calendar.gregorian`
-/

------------------------------------------------------------
-- The Gregorian Calendar
------------------------------------------------------------

namespace CronSchedule

namespace Calendar

/- Years are below two to the power of 31. -/
def greatestYear : Int := 2147483647

/- The year and the number of the following month. -/
def monthAfter
    (year : Int)
    (month : Nat) : Except Fault (Int × Nat) :=
  if month = 12 then
    if year < greatestYear then
      .ok (year + 1, 1)
    else
      .error (.overflow .add)
  else
    .ok (year, month + 1)

/-
  The length of a month: the number of the day before the
  first day of the following month.
-/
def gregorianDaysInMonth
    (year : Int)
    (month : Nat) : Except Fault Nat := do
  if month = 0 ∨ 12 < month then
    throw (.unknownMonth month)
  else
    let (nextYear, nextMonth) ← monthAfter year month
    let lastDay := do
      let first ← Date.firstOf? nextYear nextMonth
      first.previous?
    match lastDay with
    | some date => return date.day
    | none => throw (.monthOutOfRange year month)

/- The weekday of an existing date. -/
def gregorianWeekday
    (year : Int)
    (month day : Nat) : Except Fault Nat :=
  match Date.of? year month day with
  | some date => .ok date.weekday
  | none => .error (.unknownDate year month day)

/- The calendar of the existing dates. -/
def gregorian : Calendar where
  daysInMonth := gregorianDaysInMonth
  weekday := gregorianWeekday

end Calendar

end CronSchedule
