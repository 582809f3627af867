import CronSchedule.Expression.Basic
import CronSchedule.Journal

/-
  Reading an expression, with a record of the result.

  Key definitions include:
    * `Expression.parseRecord`
    * `Expression.parseJournal`
-/

------------------------------------------------------------
-- Recorded Readings
------------------------------------------------------------

namespace CronSchedule

namespace Expression

/- The record of reading a text. -/
def parseRecord
    (text : String)
    (result : Reading Expression) :
    Record :=
  match result with
  | .ok expression =>
      ⟨.debug,
        s!"parsed cron expression '{text}' as " ++
          s!"'{expression.text}'"⟩
  | .error error =>
      ⟨.debug,
        s!"unable to parse cron expression '{text}': " ++
          error.message⟩

/- Read the text of an expression, and record the result. -/
def parseJournal
    (text : String) :
    Journal (Reading Expression) :=
  let result := parse text
  ⟨result, [parseRecord text result]⟩

end Expression

end CronSchedule
