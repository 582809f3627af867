import CronSchedule.Description.English
import CronSchedule.Text.Quoted

/-
  Descriptions of expressions, and the text that stands for
  the lack of one.

  Key definitions include:
    * `Describer`
    * `Describer.english`
    * `Describer.describe`
    * `describe`
-/

------------------------------------------------------------
-- Describers
------------------------------------------------------------

namespace CronSchedule

/-
  A describer turns the text of an expression into a
  sentence in a locale, or declines to.
-/
structure Describer where
  attempt :
    (text : String) → (locale : Option String) →
      Journal (Option String)

namespace Describer

/- The English describer. -/
def english : Describer where
  attempt text locale :=
    ⟨English.describe? text locale,
      English.records text locale⟩

/- The describer that always gives the same answer. -/
def constant
    (answer : Option String) : Describer where
  attempt _ _ := Journal.silent answer

/- The describer that repeats the text and the locale. -/
def echo : Describer where
  attempt text locale :=
    Journal.silent
      (some (text ++ " (" ++
        locale.getD "default" ++ ")"))

end Describer

end CronSchedule

------------------------------------------------------------
-- Descriptions
------------------------------------------------------------

namespace CronSchedule

/- The text that stands for the lack of a description. -/
def noDescription : String := "-"

namespace Describer

/- The locale as it is written in records. -/
def localeText : Option String → String
| none => "None"
| some name => "Some(" ++ Text.quoted name ++ ")"

/- The record of a description that is lacking. -/
def lackRecord
    (text : String)
    (locale : Option String) : Record :=
  ⟨.debug,
    s!"no description for cron expression '{text}', " ++
      s!"locale {localeText locale}"⟩

/- The answer, unless it is empty. -/
def nonempty? : Option String → Option String
| none => none
| some answer =>
    if answer = "" then
      none
    else
      some answer

/-
  The description of a text.  A blank text is not shown to
  the describer.
-/
def describe
    (describer : Describer)
    (text : String)
    (locale : Option String) : Journal String :=
  if Text.trim text.toList = [] then
    Journal.silent noDescription
  else do
    let answer ← describer.attempt text locale
    match nonempty? answer with
    | some answer => pure answer
    | none =>
        ⟨noDescription, [lackRecord text locale]⟩

end Describer

/- The English description of a text. -/
def describe
    (text : String)
    (locale : Option String) : String :=
  (Describer.english.describe text locale).result

end CronSchedule
