import CronSchedule.Expression.Error

/-
  The results of reading a text: a value, or the cause for
  refusing the text.

  Key definitions include:
    * `Reading`
    * `Reading.agrees`
-/

------------------------------------------------------------
-- Readings
------------------------------------------------------------

namespace CronSchedule

/- A value that was read, or the cause for refusing it. -/
abbrev Reading (α : Type) :=
  Except ExpressionError α

/- Both give the same value, or the same cause. -/
def Reading.agrees
    {α : Type}
    [DecidableEq α] : Reading α → Reading α → Bool
| .ok left, .ok right => left == right
| .error left, .error right => left == right
| _, _ => false

end CronSchedule
