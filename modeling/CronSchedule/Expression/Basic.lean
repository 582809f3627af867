import CronSchedule.Expression.Reading
import CronSchedule.Field.Canonical
import CronSchedule.Field.Reading

/-
  Cron expressions: reading them, and their canonical text.

  Key definitions include:
    * `Field.parse`
    * `Expression`
    * `Expression.ofWords`
    * `Expression.parse`
    * `Expression.text`
-/

------------------------------------------------------------
-- Expressions
------------------------------------------------------------

namespace CronSchedule

/- The values of the seven fields. -/
structure Expression where
  second : Field
  minute : Field
  hour : Field
  dayOfMonth : Field
  month : Field
  dayOfWeek : Field
  year : Field
deriving DecidableEq

namespace Expression

/- The field at a position. -/
def field
    (expression : Expression) : Field.Kind → Field
| .second => expression.second
| .minute => expression.minute
| .hour => expression.hour
| .dayOfMonth => expression.dayOfMonth
| .month => expression.month
| .dayOfWeek => expression.dayOfWeek
| .year => expression.year

end Expression

end CronSchedule

------------------------------------------------------------
-- Reading
------------------------------------------------------------

namespace CronSchedule

/- Read a field, and name its position if it is refused. -/
def Field.parseChars
    (kind : Field.Kind)
    (text : List Char) : Reading Field :=
  (Field.read kind text).mapError (.field kind)

/- Read the text of a single field. -/
def Field.parse
    (kind : Field.Kind)
    (text : String) : Reading Field :=
  Field.parseChars kind text.toList

namespace Expression

/- The contradiction of two day texts, if there is one. -/
def dayConflict?
    (dayOfMonth dayOfWeek : List Char) :
    Option DayConflict :=
  match dayOfMonth == ['?'], dayOfWeek == ['?'] with
  | false, false => some .bothSpecified
  | true, true => some .neitherSpecified
  | _, _ => none

/-
  Read the seven fields from the first to the last.  A
  conflict of the day fields is reported before any of them.
-/
def ofFields
    (second minute hour dayOfMonth month dayOfWeek year :
      List Char) :
    Reading Expression := do
  match dayConflict? dayOfMonth dayOfWeek with
  | some conflict => throw (.dayConflict conflict)
  | none =>
      let second ← Field.parseChars .second second
      let minute ← Field.parseChars .minute minute
      let hour ← Field.parseChars .hour hour
      let dayOfMonth ←
        Field.parseChars .dayOfMonth dayOfMonth
      let month ← Field.parseChars .month month
      let dayOfWeek ←
        Field.parseChars .dayOfWeek dayOfWeek
      let year ← Field.parseChars .year year
      return {
        second, minute, hour, dayOfMonth, month,
        dayOfWeek, year }

/- Read six or seven words.  A missing year is empty. -/
def ofWords :
    List (List Char) → Reading Expression
| [] => .error .empty
| [second, minute, hour, dayOfMonth, month,
    dayOfWeek] =>
    ofFields second minute hour dayOfMonth month
      dayOfWeek []
| [second, minute, hour, dayOfMonth, month,
    dayOfWeek, year] =>
    ofFields second minute hour dayOfMonth month
      dayOfWeek year
| words => .error (.fieldCount words.length)

/- Read the text of an expression. -/
def parse
    (text : String) : Reading Expression :=
  ofWords (Text.words text.toList)

end Expression

end CronSchedule

------------------------------------------------------------
-- Canonical Text
------------------------------------------------------------

namespace CronSchedule

namespace Expression

/- The canonical texts of the fields that are not empty. -/
def canonicalWords
    (expression : Expression) : List (List Char) :=
  (Field.Kind.all.map fun kind =>
      (expression.field kind).canonical kind).filter
    fun word => !word.isEmpty

/- The canonical text, with single spaces between fields. -/
def canonical
    (expression : Expression) : List Char :=
  [' '].intercalate expression.canonicalWords

/- The canonical text as a string. -/
def text
    (expression : Expression) : String :=
  String.ofList expression.canonical

instance : ToString Expression := ⟨text⟩

end Expression

end CronSchedule
