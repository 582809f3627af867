import CronSchedule.Expression.Basic
import CronSchedule.Proofs.Calendar.Gregorian

/-
  What it means that an instant matches an expression, in
  terms of the existing dates alone.

  Key definitions include:
    * `Field.Has`
    * `Date.IsNearestWorkday`
    * `Date.IsLastWorkday`
    * `Date.IsLastWeekday`
    * `Date.IsNthWeekday`
    * `Expression.AllowsTime`
    * `Expression.AllowsDay`
    * `Expression.Matches`
-/

------------------------------------------------------------
-- Dates Among Those of Their Month
------------------------------------------------------------

namespace CronSchedule

namespace Date

/- The two dates are in the same month. -/
def SharesMonth
    (date other : Date) : Prop :=
  other.year = date.year ∧ other.month = date.month

theorem monthIndex_of_sharesMonth
    {date other : Date}
    (hSame : date.SharesMonth other) :
    other.monthIndex = date.monthIndex := by
  unfold monthIndex
  rw [hSame.1, hSame.2]

/- The number of the last day of the month of a date. -/
def lastOfMonth
    (date : Date) : Nat :=
  monthLength date.year date.month

/- The date is from Monday to Friday. -/
def IsWorkday
    (date : Date) : Prop :=
  Calendar.IsWorkday date.weekday

/-
  Of the working days of its month the date is the nearest
  to a day, or to the last day if the month is shorter.
-/
def IsNearestWorkday
    (date : Date)
    (day : Nat) : Prop :=
  let target := min day date.lastOfMonth
  date.IsWorkday ∧
    ∀ other, date.SharesMonth other → other.IsWorkday →
      other ≠ date →
        ((date.day : Int) - target).natAbs <
          ((other.day : Int) - target).natAbs

/- The date is the last working day of its month. -/
def IsLastWorkday
    (date : Date) : Prop :=
  date.IsWorkday ∧
    ∀ other, date.SharesMonth other → date < other →
      ¬ other.IsWorkday

/- The date is the last one of its month with a weekday. -/
def IsLastWeekday
    (date : Date)
    (weekday : Nat) : Prop :=
  date.weekday = weekday ∧
    ∀ other, date.SharesMonth other → date < other →
      other.weekday ≠ weekday

/- How many dates of its month up to it have its weekday. -/
def weekdayCount
    (date : Date) : Nat :=
  (List.range' 1 date.day).countP fun day =>
    (of? date.year date.month day).map weekday =
      some date.weekday

/- The date is the n-th one of its month with a weekday. -/
def IsNthWeekday
    (date : Date)
    (weekday count : Nat) : Prop :=
  date.weekday = weekday ∧ date.weekdayCount = count

end Date

end CronSchedule

------------------------------------------------------------
-- Fields
------------------------------------------------------------

namespace CronSchedule

namespace Field

/- The number is in the explicit set of the field. -/
def Has
    (field : Field)
    (number : Nat) : Prop :=
  ∃ values, field = .fixed values ∧ number ∈ values

theorem has_fixed
    (values : ValueSet)
    (number : Nat) :
    (Field.fixed values).Has number ↔
      number ∈ values.toList := by
  constructor
  · rintro ⟨others, hSame, hMember⟩
    cases hSame
    exact hMember
  · intro hMember
    exact ⟨values, rfl, hMember⟩

/- What a day-of-month field says of a date. -/
def HoldsByNumber : Field → Date → Prop
| .fixed days, date => date.day ∈ days
| .lastDay, date => date.day = date.lastOfMonth
| .lastDayOffset offset, date =>
    date.day + offset = date.lastOfMonth
| .nearestWorkday day, date => date.IsNearestWorkday day
| .lastWorkday, date => date.IsLastWorkday
| _, _ => False

/- What a day-of-week field says of a date. -/
def HoldsByWeekday : Field → Date → Prop
| .fixed weekdays, date => date.weekday ∈ weekdays
| .lastWeekday weekday, date => date.IsLastWeekday weekday
| .nthWeekday weekday count, date =>
    date.IsNthWeekday weekday count
| _, _ => False

end Field

end CronSchedule

------------------------------------------------------------
-- Expressions
------------------------------------------------------------

namespace CronSchedule

namespace Expression

/- The year field is absent, or its set has the year. -/
def AllowsYear
    (expression : Expression)
    (year : Int) : Prop :=
  expression.year = .anyYear ∨
    ∃ number : Nat,
      expression.year.Has number ∧ number = year

/- The instant is a whole second that all fields allow. -/
structure AllowsTime
    (expression : Expression)
    (instant : Instant) : Prop where
  whole : instant.IsWhole
  second : expression.second.Has instant.time.second
  minute : expression.minute.Has instant.time.minute
  hour : expression.hour.Has instant.time.hour
  month : expression.month.Has instant.date.month
  year : expression.AllowsYear instant.date.year

/- Every day field that is not `?` holds of the date. -/
def AllowsDay
    (expression : Expression)
    (date : Date) : Prop :=
  (expression.dayOfMonth ≠ .unspecified →
      expression.dayOfMonth.HoldsByNumber date) ∧
    (expression.dayOfWeek ≠ .unspecified →
      expression.dayOfWeek.HoldsByWeekday date)

/- The instant matches all seven fields. -/
structure Matches
    (expression : Expression)
    (instant : Instant) : Prop where
  time : expression.AllowsTime instant
  day : expression.AllowsDay instant.date

end Expression

end CronSchedule
