import CronSchedule.Calendar.Fault

/-
  Calendars, and the days of a month that they single out.

  A calendar is two facts: the lengths of its months, and
  the weekdays of its dates.  Everything else is derived.

  Key definitions include:
    * `Calendar`
    * `Calendar.isWeekend`
    * `Calendar.lastWeekday`
    * `Calendar.nthWeekday`
    * `Calendar.nearestWorkday`
    * `Calendar.lastWorkday`
-/

------------------------------------------------------------
-- Calendars
------------------------------------------------------------

namespace CronSchedule

/-
  The lengths of the months, and the weekdays from `1`,
  which is Sunday, to `7`.
-/
structure Calendar where
  daysInMonth :
    (year : Int) → (month : Nat) →
      Except Calendar.Fault Nat
  weekday :
    (year : Int) → (month day : Nat) →
      Except Calendar.Fault Nat

namespace Calendar

/- The first day of the week. -/
def sunday : Nat := 1

/- The last day of the week. -/
def saturday : Nat := 7

end Calendar

end CronSchedule

------------------------------------------------------------
-- Weekdays
------------------------------------------------------------

namespace CronSchedule

namespace Calendar

variable (calendar : Calendar)
variable (year : Int)
variable (month : Nat)

/- The date is a Saturday or a Sunday. -/
def isWeekend
    (day : Nat) : Except Fault Bool := do
  let weekday ← calendar.weekday year month day
  return weekday == sunday || weekday == saturday

/-
  The last day of the month that has the given weekday.
  Weekdays are taken modulo 7, so that `0` is Saturday.
-/
def lastWeekday
    (weekday : Nat) : Except Fault Nat := do
  let lastDay ← calendar.daysInMonth year month
  let ending ← calendar.weekday year month lastDay
  let ahead ← sub (← add ending 7) (weekday % 7)
  sub lastDay (ahead % 7)

/-
  The n-th day of the month that has the given weekday, if
  there are so many.
-/
def nthWeekday
    (weekday count : Nat) :
    Except Fault (Option Nat) := do
  let opening ← calendar.weekday year month 1
  let ahead ← sub (← add weekday 7) opening
  let first ← add 1 (ahead % 7)
  if count = 0 then
    return none
  else
    let day ← add first (← mul (count - 1) 7)
    let lastDay ← calendar.daysInMonth year month
    return if day ≤ lastDay then some day else none

end Calendar

end CronSchedule

------------------------------------------------------------
-- Working Days
------------------------------------------------------------

namespace CronSchedule

namespace Calendar

variable (calendar : Calendar)
variable (year : Int)
variable (month : Nat)

/-
  The working day nearest to a day of a month with the given
  length.  From a Saturday it is the Friday before, from a
  Sunday the Monday after, unless that leaves the month.
-/
def settleOnWorkday
    (lastDay day weekday : Nat) : Except Fault Nat := do
  if weekday = saturday then
    if 1 < day then
      sub day 1
    else
      let monday ← add day 2
      return if monday ≤ lastDay then monday else day
  else if weekday = sunday then
    if day < lastDay then
      add day 1
    else if 2 < day then
      sub day 2
    else
      return day
  else
    return day

/-
  The working day of the month that is nearest to a day.  A
  day beyond the end stands for the last one.
-/
def nearestWorkday
    (day : Nat) : Except Fault Nat := do
  let lastDay ← calendar.daysInMonth year month
  if lastDay < 1 then
    throw .emptyMonth
  else
    let day := min (max day 1) lastDay
    let weekday ← calendar.weekday year month day
    settleOnWorkday lastDay day weekday

/- The last working day of the month. -/
def lastWorkday : Except Fault Nat := do
  let lastDay ← calendar.daysInMonth year month
  let weekday ← calendar.weekday year month lastDay
  if weekday = saturday then
    sub lastDay 1
  else if weekday = sunday then
    sub lastDay 2
  else
    return lastDay

end Calendar

end CronSchedule
