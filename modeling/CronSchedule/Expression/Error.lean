import CronSchedule.Field.Fault

/-
  The reasons why a cron expression is refused, their
  wording, and their order.

  Key definitions include:
    * `DayConflict`
    * `ExpressionError`
    * `ExpressionError.message`
    * `ExpressionError.order`
-/

------------------------------------------------------------
-- Errors
------------------------------------------------------------

namespace CronSchedule

/- How the two day fields can contradict each other. -/
inductive DayConflict where
/- Neither field is `?`. -/
| bothSpecified
/- Both fields are `?`. -/
| neitherSpecified
deriving DecidableEq

/- The causes for refusing a text as a cron expression. -/
inductive ExpressionError where
/- There is no field at all. -/
| empty
/- There are neither six nor seven fields. -/
| fieldCount (count : Nat)
/- The day fields contradict each other. -/
| dayConflict (conflict : DayConflict)
/- A field is refused. -/
| field (kind : Field.Kind) (fault : Field.Fault)
deriving DecidableEq

------------------------------------------------------------
-- Wording
------------------------------------------------------------

/- The wording of a conflict. -/
def DayConflict.message : DayConflict → String
| .bothSpecified =>
    "cannot specify both day-of-month and day-of-week, " ++
      "use '?' in one of these fields"
| .neitherSpecified =>
    "at least one of day-of-month or day-of-week must " ++
      "be specified (not '?')"

namespace ExpressionError

/- The wording around the reason for refusing a field. -/
def fieldMessage
    (kind : Field.Kind)
    (detail : String) : String :=
  s!"invalid {kind.name} expression: {detail}"

/- The wording of the cause. -/
def message : ExpressionError → String
| .empty => "empty cron expression"
| .fieldCount count =>
    "invalid cron expression: expected 6 or 7 fields, " ++
      s!"got {count}"
| .dayConflict conflict => conflict.message
| .field kind fault => fieldMessage kind fault.message

end ExpressionError

------------------------------------------------------------
-- Order
------------------------------------------------------------

namespace ExpressionError

/- The number of the form, followed by its numbers. -/
def key : ExpressionError → List Nat
| .empty => [0]
| .fieldCount count => [1, count]
| .dayConflict .bothSpecified => [2, 0]
| .dayConflict .neitherSpecified => [2, 1]
| .field kind _ => [3, kind.index]

/- The reason for refusing a field, if there is one. -/
def detail : ExpressionError → String
| .field _ fault => fault.message
| _ => ""

/- Errors are ordered by key, and then by the reason. -/
def order
    (left right : ExpressionError) : Ordering :=
  (compare left.key right.key).then
    (compare left.detail right.detail)

instance : Ord ExpressionError := ⟨order⟩

end ExpressionError

end CronSchedule
