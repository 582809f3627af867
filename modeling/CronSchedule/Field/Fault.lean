import CronSchedule.Field.Kind

/-
  The reasons why the text of a single field is refused, and
  their wording.

  Key definitions include:
    * `Field.Combinator`
    * `Field.Combinator.in?`
    * `Field.Fault`
    * `Field.Fault.message`
-/

------------------------------------------------------------
-- Combinators
------------------------------------------------------------

namespace CronSchedule

namespace Field

/- The ways to combine several operands in one field. -/
inductive Combinator where
| ranges
| lists
| steps
deriving DecidableEq

namespace Combinator

/- The name of the combinator in messages. -/
def name : Combinator → String
| .ranges => "ranges"
| .lists => "lists"
| .steps => "steps"

/-
  The combinator that a text uses.  Ranges are reported
  before lists, and lists before steps.
-/
def in?
    (text : List Char) : Option Combinator :=
  if text.contains '-' then
    some .ranges
  else if text.contains ',' then
    some .lists
  else if text.contains '/' then
    some .steps
  else
    none

end Combinator

end Field

end CronSchedule

------------------------------------------------------------
-- Faults
------------------------------------------------------------

namespace CronSchedule

namespace Field

/- The causes for refusing the text of a field. -/
inductive Fault where
/- Nothing but blanks. -/
| empty
/- Three letters that name no value. -/
| unknownAlias (letters : String)
/- A special character in the month field. -/
| specialInMonth
/- An `#` in the day-of-month field. -/
| nthInDayOfMonth
/- A `W` in the day-of-week field. -/
| nearestInDayOfWeek
/- A combinator beside `L` or `#`. -/
| combined (combinator : Combinator) (special : Char)
/- A combinator beside `W`. -/
| combinedNearest (combinator : Combinator)
/- An offset from the last day beyond 31. -/
| lastDayOffset (text : String)
/- A day before `W` outside 1 to 31. -/
| nearestWorkday (text : String)
/- A day before `L` outside 1 to 7. -/
| lastWeekday (text : String)
/- A day or a count beside `#` that is out of bounds. -/
| nthWeekday (text : String)
/- A range with a step that is out of bounds. -/
| rangeStep (text : String)
/- A step that is out of bounds. -/
| step (text : String)
/- A start before a step that is out of bounds. -/
| start (text : String)
/- A range that is out of bounds or descending. -/
| range (text : String)
/- A year out of bounds in a list. -/
| year (number : Nat)
/- Any other number out of bounds in a list. -/
| value (text : String)
/- A text of no known form. -/
| unsupported (text : String)
deriving DecidableEq

namespace Fault

/- The wording of the cause. -/
def message : Fault → String
| .empty => "empty"
| .unknownAlias letters =>
    s!"invalid alias: {letters}"
| .specialInMonth =>
    "special characters 'L', 'W', or '#' are not " ++
      "allowed in month field"
| .nthInDayOfMonth =>
    "'#' is not allowed in day-of-month field"
| .nearestInDayOfWeek =>
    "'W' is not allowed in day-of-week field"
| .combined combinator special =>
    s!"cannot specify {combinator.name} " ++
      s!"with '{special}'"
| .combinedNearest combinator =>
    "'W' can only be specified for a single day, " ++
      s!"not {combinator.name}"
| .lastDayOffset text =>
    s!"invalid offset in last day: {text}"
| .nearestWorkday text =>
    s!"invalid day in weekday: {text}"
| .lastWeekday text =>
    s!"invalid day in last weekday: {text}"
| .nthWeekday text =>
    s!"invalid nth weekday: {text}"
| .rangeStep text =>
    s!"invalid range/step: {text}"
| .step text =>
    s!"invalid step value: {text}"
| .start text =>
    s!"invalid start value: {text}"
| .range text =>
    s!"invalid range: {text}"
| .year number =>
    s!"year must be between {firstYear} and " ++
      s!"{lastYear}, got: {number}"
| .value text =>
    s!"invalid value: {text}"
| .unsupported text =>
    s!"{text} not supported"

end Fault

end Field

end CronSchedule
