import CronSchedule.Calendar.Basic

/-
  Calendars given by a table of month lengths and a linear
  rule for weekdays.

  Key definitions include:
    * `Calendar.WeekdayRule`
    * `Calendar.tabular`
-/

------------------------------------------------------------
-- Tabular Calendars
------------------------------------------------------------

namespace CronSchedule

namespace Calendar

/- The coefficients of a linear rule, and its shift. -/
structure WeekdayRule where
  perYear : Int
  perMonth : Int
  perDay : Int
  shift : Int
deriving DecidableEq

/- The weekday from `1` to `7` that the rule gives. -/
def WeekdayRule.weekday
    (rule : WeekdayRule)
    (year : Int)
    (month day : Nat) : Nat :=
  let total :=
    rule.perYear * year + rule.perMonth * month +
      rule.perDay * day + rule.shift
  (total % 7).toNat + 1

/-
  All years have months of the same lengths.  Only the
  months of the table have a length.
-/
def tabular
    (lengths : List Nat)
    (rule : WeekdayRule) : Calendar where
  daysInMonth _ month :=
    match month with
    | 0 => .error .untabledMonth
    | index + 1 =>
        match lengths[index]? with
        | some length => .ok length
        | none => .error .untabledMonth
  weekday year month day :=
    .ok (rule.weekday year month day)

end Calendar

end CronSchedule
