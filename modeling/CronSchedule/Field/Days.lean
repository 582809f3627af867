import CronSchedule.Calendar.Basic
import CronSchedule.Field.Basic

/-
  The values that a field has in a month.

  Key definitions include:
    * `Field.valuesIn`
    * `Field.daysByNumber`
    * `Field.daysByWeekday`
-/

------------------------------------------------------------
-- Evaluation
------------------------------------------------------------

namespace CronSchedule

namespace Field

variable (calendar : Calendar)
variable (year : Int)
variable (month : Nat)

/- The day so many days before the last one, if any. -/
def dayBeforeLast
    (offset lastDay : Nat) : List Nat :=
  if offset < lastDay then
    [lastDay - offset]
  else
    []

/-
  The ascending values of the field.  A set has its elements
  in every month, while the marks of the day fields resolve
  into days of the given month.
-/
def valuesIn : Field → Except Calendar.Fault (List Nat)
| .fixed values => .ok values.toList
| .unspecified => .ok []
| .anyYear => .ok []
| .lastDay => do
    let lastDay ← calendar.daysInMonth year month
    return [lastDay]
| .lastDayOffset offset => do
    let lastDay ← calendar.daysInMonth year month
    return dayBeforeLast offset lastDay
| .nearestWorkday day => do
    let day ← calendar.nearestWorkday year month day
    return [day]
| .lastWorkday => do
    let day ← calendar.lastWorkday year month
    return [day]
| .lastWeekday weekday => do
    let day ← calendar.lastWeekday year month weekday
    return [day]
| .nthWeekday weekday count => do
    let day ←
      calendar.nthWeekday year month weekday count
    return day.toList

end Field

end CronSchedule

------------------------------------------------------------
-- Days of a Month
------------------------------------------------------------

namespace CronSchedule

namespace Field

variable (calendar : Calendar)
variable (year : Int)
variable (month : Nat)

/- The days of the month that a day-of-month field has. -/
def daysByNumber
    (field : Field) :
    Except Calendar.Fault (List Nat) := do
  let lastDay ← calendar.daysInMonth year month
  let days ← field.valuesIn calendar year month
  return days.filter fun day =>
    1 ≤ day ∧ day ≤ lastDay

/- The days among the given ones with a weekday of a set. -/
def daysOnWeekdays
    (weekdays : ValueSet) :
    List Nat → Except Calendar.Fault (List Nat)
| [] => .ok []
| day :: days => do
    let weekday ← calendar.weekday year month day
    let later ← daysOnWeekdays weekdays days
    return if weekday ∈ weekdays then
      day :: later
    else
      later

/- The days of the month that a day-of-week field has. -/
def daysByWeekday
    (field : Field) :
    Except Calendar.Fault (List Nat) :=
  match field with
  | .fixed weekdays => do
      let lastDay ← calendar.daysInMonth year month
      daysOnWeekdays calendar year month weekdays
        (List.range' 1 lastDay)
  | field => field.valuesIn calendar year month

end Field

end CronSchedule
