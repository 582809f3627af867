import CronSchedule.Expression.Recorded
import CronSchedule.Occurrence.Stream

/-
  Questions about the occurrences of an expression that is
  given as text.

  Key definitions include:
    * `Failure`
    * `Query`
    * `Query.next`
    * `Query.between`
    * `Query.first`
-/

------------------------------------------------------------
-- Queries
------------------------------------------------------------

namespace CronSchedule

/- The reasons why a question has no answer. -/
inductive Failure where
/- The text is refused. -/
| expression (error : ExpressionError)
/- The calendar gives no answer. -/
| calendar (fault : Calendar.Fault)
deriving DecidableEq

/- An answer with records, or the reason for its lack. -/
abbrev Query (α : Type) :=
  ExceptT Failure Journal α

namespace Query

/- The expression that a text denotes. -/
def expression
    (text : String) : Query Expression :=
  ExceptT.adapt .expression
    (ExceptT.mk (Expression.parseJournal text))

/- An answer of a calendar as the answer of a question. -/
def ofAnswer
    {α : Type}
    (answer : Answer α) : Query α :=
  ExceptT.adapt .calendar answer

/- The occurrences of a text after an instant. -/
def occurrences
    (calendar : Calendar)
    (text : String)
    (origin : Instant) : Query Occurrences := do
  let expression ← expression text
  return Occurrences.after calendar expression origin

/- The next occurrence after an instant. -/
def next
    (calendar : Calendar)
    (text : String)
    (origin : Instant) : Query (Option Instant) := do
  let occurrences ← occurrences calendar text origin
  ofAnswer occurrences.pull

/- At most so many occurrences between two instants. -/
def between
    (calendar : Calendar)
    (text : String)
    (origin bound : Instant)
    (count : Nat) : Query (List Instant) := do
  let expression ← expression text
  ofAnswer
    (expression.between calendar origin bound count)

/- At most so many occurrences after an instant. -/
def first
    (calendar : Calendar)
    (text : String)
    (origin : Instant)
    (count : Nat) : Query (List Instant) := do
  let occurrences ← occurrences calendar text origin
  ofAnswer (occurrences.take count)

end Query

end CronSchedule
