import CronSchedule.Expression.Recorded

/-
  Expressions as stored values.  An expression is stored as
  its canonical text, and any accepted text restores one.

  Key definitions include:
    * `StoredValue`
    * `RestoreError`
    * `Expression.store`
    * `Expression.restore`
-/

------------------------------------------------------------
-- Stored Values
------------------------------------------------------------

namespace CronSchedule

/- A stored value: a text, or something else. -/
inductive StoredValue where
| text (content : String)
| other
deriving DecidableEq

/- The causes for not restoring an expression. -/
inductive RestoreError where
/- The stored value is not a text. -/
| notText
/- The stored text is refused. -/
| refused (error : ExpressionError)
deriving DecidableEq

namespace Expression

/- The stored form of an expression. -/
def store
    (expression : Expression) : StoredValue :=
  .text expression.text

/- The expression that a stored value stands for. -/
def restore : StoredValue →
    Journal (Except RestoreError Expression)
| .other => Journal.silent (.error .notText)
| .text content => do
    let reading ← parseJournal content
    return reading.mapError .refused

end Expression

end CronSchedule
