import CronSchedule.Occurrence.Search

/-
  The occurrences of an expression one after the other.  Each
  one is searched for from the one before.

  Key definitions include:
    * `Occurrences`
    * `Occurrences.pull`
    * `Occurrences.take`
    * `Occurrences.takeBefore`
    * `Expression.between`
-/

------------------------------------------------------------
-- Streams of Occurrences
------------------------------------------------------------

namespace CronSchedule

/-
  The occurrences on a calendar that are still to come.  The
  cursor is where the next search starts, and it is gone
  once a search has found nothing.
-/
structure Occurrences where
  calendar : Calendar
  expression : Expression
  cursor : Option Instant

/- A result that a calendar may fail to give. -/
abbrev Answer (α : Type) :=
  ExceptT Calendar.Fault Journal α

/- The result without its records. -/
def Answer.result
    {α : Type}
    (answer : Answer α) : Except Calendar.Fault α :=
  (ExceptT.run answer).result

namespace Occurrences

/- The occurrences strictly after an instant. -/
def after
    (calendar : Calendar)
    (expression : Expression)
    (origin : Instant) : Occurrences :=
  { calendar, expression, cursor := some origin }

/- The same occurrences from another cursor on. -/
def withCursor
    (occurrences : Occurrences)
    (cursor : Option Instant) : Occurrences :=
  { occurrences with cursor }

/- The next occurrence, if there is one. -/
def pull
    (occurrences : Occurrences) :
    Answer (Option Instant) :=
  match occurrences.cursor with
  | none => pure none
  | some origin =>
      ExceptT.mk (Search.journal {
        calendar := occurrences.calendar
        expression := occurrences.expression
        origin })

end Occurrences

end CronSchedule

------------------------------------------------------------
-- Finite Parts
------------------------------------------------------------

namespace CronSchedule

namespace Occurrences

/-
  At most so many occurrences, as far as they satisfy a
  condition.
-/
def takeWhile
    (condition : Instant → Bool) :
    Nat → Occurrences → Answer (List Instant)
| 0, _ => pure []
| count + 1, occurrences => do
    match ← occurrences.pull with
    | none => pure []
    | some instant =>
        if condition instant then
          let later ← takeWhile condition count
            (occurrences.withCursor (some instant))
          pure (instant :: later)
        else
          pure []

/- At most so many occurrences. -/
def take
    (occurrences : Occurrences)
    (count : Nat) : Answer (List Instant) :=
  occurrences.takeWhile (fun _ => true) count

/- At most so many occurrences before an instant. -/
def takeBefore
    (occurrences : Occurrences)
    (bound : Instant)
    (count : Nat) : Answer (List Instant) :=
  occurrences.takeWhile (fun instant => instant < bound)
    count

/-
  The results of so many pulls, and the occurrences that are
  left after them.
-/
def pullMany :
    Nat → Occurrences →
      Answer (List (Option Instant) × Occurrences)
| 0, occurrences => pure ([], occurrences)
| count + 1, occurrences => do
    let next ← occurrences.pull
    let (later, rest) ←
      pullMany count (occurrences.withCursor next)
    pure (next :: later, rest)

end Occurrences

namespace Expression

/- The most occurrences that a range has by default. -/
def defaultCount : Nat := 1000

/-
  At most so many occurrences strictly between two instants,
  in ascending order.
-/
def between
    (expression : Expression)
    (calendar : Calendar)
    (origin bound : Instant)
    (count : Nat) : Answer (List Instant) :=
  (Occurrences.after calendar expression origin).takeBefore
    bound count

end Expression

end CronSchedule
