import CronSchedule.Text.Numeral

/-
  The reasons why a calendar gives no answer, their wording,
  and arithmetic on counts that reports when it leaves the
  range of counts.

  Key definitions include:
    * `Calendar.Operation`
    * `Calendar.Fault`
    * `Calendar.Fault.message`
    * `Calendar.add`
    * `Calendar.sub`
    * `Calendar.mul`
-/

------------------------------------------------------------
-- Faults
------------------------------------------------------------

namespace CronSchedule

namespace Calendar

/- The operations on counts. -/
inductive Operation where
| add
| subtract
| multiply
deriving DecidableEq

/- The word for the operation in messages. -/
def Operation.name : Operation → String
| .add => "add"
| .subtract => "subtract"
| .multiply => "multiply"

/- The causes for giving no answer. -/
inductive Fault where
/- No year has such a month. -/
| unknownMonth (month : Nat)
/- The month, or its end, is out of the range of dates. -/
| monthOutOfRange (year : Int) (month : Nat)
/- The date does not exist. -/
| unknownDate (year : Int) (month day : Nat)
/- A table of month lengths has no such month. -/
| untabledMonth
/- The month has no days to choose from. -/
| emptyMonth
/- The result is not a count. -/
| overflow (operation : Operation)
deriving DecidableEq

namespace Fault

/- A month as its year and its number. -/
def monthText
    (year : Int)
    (month : Nat) : String :=
  Numeral.signed .negativeOnly 4 year ++ "-" ++
    Numeral.padded 2 month

/- The wording of the cause. -/
def message : Fault → String
| .unknownMonth month => s!"Invalid month: {month}"
| .monthOutOfRange year month =>
    "Invalid month: " ++ monthText year month
| .unknownDate year month day =>
    "Invalid date: " ++ monthText year month ++ "-" ++
      Numeral.padded 2 day
| .untabledMonth => "bad month"
| .emptyMonth => "min > max. min = 1, max = 0"
| .overflow operation =>
    s!"attempt to {operation.name} with overflow"

end Fault

end Calendar

end CronSchedule

------------------------------------------------------------
-- Counts
------------------------------------------------------------

namespace CronSchedule

namespace Calendar

/- Counts are below two to the power of 32. -/
def countLimit : Nat := 4294967296

/- The sum of two counts. -/
def add
    (left right : Nat) : Except Fault Nat :=
  if left + right < countLimit then
    .ok (left + right)
  else
    .error (.overflow .add)

/- The difference of two counts. -/
def sub
    (left right : Nat) : Except Fault Nat :=
  if right ≤ left then
    .ok (left - right)
  else
    .error (.overflow .subtract)

/- The product of two counts. -/
def mul
    (left right : Nat) : Except Fault Nat :=
  if left * right < countLimit then
    .ok (left * right)
  else
    .error (.overflow .multiply)

end Calendar

end CronSchedule
