import CronSchedule.Description.LooseFields
import CronSchedule.Description.Phrase

/-
  English descriptions of expressions.

  Key definitions include:
    * `English.isLocale`
    * `English.phrases`
    * `English.sentence?`
    * `English.describe?`
-/

------------------------------------------------------------
-- Times
------------------------------------------------------------

namespace CronSchedule

namespace English

/- No locale, or one that starts with `en` in any case. -/
def isLocale
    (locale : Option String) : Bool :=
  match locale with
  | none => true
  | some name =>
      match name.toList with
      | first :: second :: _ =>
          first.toLower == 'e' && second.toLower == 'n'
      | _ => false

/- The only value of a field. -/
def only?
    (field : Option Field) : Option Nat :=
  field.bind fun field =>
    field.values?.bind ValueSet.only?

/-
  The phrase for one part of the time, and whether a full
  set stands before the next part.  A full set is only named
  when there is no full set before it.
-/
def unitPhrase
    (kind : Field.Kind)
    (unit : TimeUnit)
    (field : Option Field)
    (finerIsFull : Bool) : List Phrase × Bool :=
  match field.bind Field.values? with
  | none => ([], finerIsFull)
  | some values =>
      if Field.isFull kind values then
        (if finerIsFull then [] else [.every unit], true)
      else
        ([.atUnits unit values], false)

/- The phrases for the parts of the time, finest first. -/
def unitPhrases
    (fields : LooseFields) : List Phrase :=
  let seconds :=
    unitPhrase .second .second fields.second false
  let minutes :=
    unitPhrase .minute .minute fields.minute seconds.2
  let hours :=
    unitPhrase .hour .hour fields.hour minutes.2
  seconds.1 ++ minutes.1 ++ hours.1

/- The phrases for the time of day. -/
def timePhrases
    (fields : LooseFields) : List Phrase :=
  match
    only? fields.hour,
    only? fields.minute,
    only? fields.second
  with
  | some hour, some minute, some second =>
      [.atTime hour minute second]
  | _, _, _ => unitPhrases fields

end English

end CronSchedule

------------------------------------------------------------
-- Days, Months, and Years
------------------------------------------------------------

namespace CronSchedule

namespace English

/- The phrase for a set, unless it is full. -/
def setPhrase
    (kind : Field.Kind)
    (phrase : ValueSet → Phrase)
    (values : ValueSet) : List Phrase :=
  if Field.isFull kind values then
    []
  else
    [phrase values]

/- The phrase for a day-of-month field. -/
def dayOfMonthPhrase : Field → List Phrase
| .fixed values => setPhrase .dayOfMonth .onDays values
| .lastDay => [.onLastDay]
| .lastDayOffset 0 => [.onLastDay]
| .lastDayOffset offset => [.beforeLastDay offset]
| .nearestWorkday day => [.onNearestWorkday day]
| .lastWorkday => [.onLastWorkday]
| _ => []

/- The phrase for a day-of-week field. -/
def dayOfWeekPhrase : Field → List Phrase
| .fixed values =>
    setPhrase .dayOfWeek .onWeekdays values
| .lastWeekday weekday => [.onLastWeekday weekday]
| .nthWeekday weekday count =>
    [.onNthWeekday weekday count]
| _ => []

/- The phrase for a month field. -/
def monthPhrase : Field → List Phrase
| .fixed values => setPhrase .month .inMonths values
| _ => []

/- The phrase for a year field. -/
def yearPhrase : Field → List Phrase
| .fixed values => setPhrase .year .inYears values
| _ => []

/- The phrases for all fields. -/
def phrases
    (fields : LooseFields) : List Phrase :=
  timePhrases fields ++
    fields.dayOfMonth.toList.flatMap dayOfMonthPhrase ++
    fields.dayOfWeek.toList.flatMap dayOfWeekPhrase ++
    fields.month.toList.flatMap monthPhrase ++
    fields.year.toList.flatMap yearPhrase

end English

end CronSchedule

------------------------------------------------------------
-- Sentences
------------------------------------------------------------

namespace CronSchedule

namespace English

/- The text with a capital letter at its start. -/
def capitalize
    (text : String) : String :=
  match text.toList with
  | [] => ""
  | first :: rest => String.ofList (first.toUpper :: rest)

/- The phrases as one sentence, if there are any. -/
def sentence?
    (phrases : List Phrase) : Option String :=
  match phrases with
  | [] => none
  | phrases =>
      some (capitalize
        (", ".intercalate (phrases.map Phrase.text)))

/- The description of an expression in a locale. -/
def describe?
    (text : String)
    (locale : Option String) : Option String := do
  if isLocale locale then
    let words ← LooseFields.words? text
    let fields ← LooseFields.ofWords? words
    sentence? (phrases fields)
  else
    none

/- The records made on the way to a description. -/
def records
    (text : String)
    (locale : Option String) : List Record :=
  if isLocale locale then
    match LooseFields.words? text with
    | none => []
    | some words => LooseFields.records words
  else
    []

end English

end CronSchedule
