import CronSchedule.Expression.Basic
import CronSchedule.Journal

/-
  The fields of an expression, each read on its own.  Fields
  that are refused are left out.

  Key definitions include:
    * `LooseFields`
    * `LooseFields.words?`
    * `LooseFields.ofWords?`
    * `LooseFields.records`
-/

------------------------------------------------------------
-- Loose Fields
------------------------------------------------------------

namespace CronSchedule

/- The fields that could be read. -/
structure LooseFields where
  second : Option Field
  minute : Option Field
  hour : Option Field
  dayOfMonth : Option Field
  month : Option Field
  dayOfWeek : Option Field
  year : Option Field
deriving DecidableEq

namespace LooseFields

/-
  The five to seven words of a text.  Five words lack the
  seconds, which are then zero.
-/
def words?
    (text : String) : Option (List (List Char)) :=
  let words := Text.words text.toList
  match words.length with
  | 5 => some (['0'] :: words)
  | 6 | 7 => some words
  | _ => none

/- The word at a position, empty if it is missing. -/
def wordAt
    (words : List (List Char))
    (kind : Field.Kind) : List Char :=
  words.getD kind.index []

/- The field at a position. -/
def fieldAt
    (words : List (List Char))
    (kind : Field.Kind) :
    Reading Field :=
  Field.parseChars kind (wordAt words kind)

/- The fields at all positions. -/
def ofWords
    (words : List (List Char)) : LooseFields :=
  let field (kind : Field.Kind) :=
    (fieldAt words kind).toOption
  { second := field .second
    minute := field .minute
    hour := field .hour
    dayOfMonth := field .dayOfMonth
    month := field .month
    dayOfWeek := field .dayOfWeek
    year := field .year }

/- Some field other than the year could be read. -/
def isUsable
    (fields : LooseFields) : Bool :=
  fields.second.isSome || fields.minute.isSome ||
    fields.hour.isSome || fields.dayOfMonth.isSome ||
    fields.month.isSome || fields.dayOfWeek.isSome

/- The fields, if some field could be read. -/
def ofWords?
    (words : List (List Char)) : Option LooseFields :=
  let fields := ofWords words
  if fields.isUsable then
    some fields
  else
    none

end LooseFields

end CronSchedule

------------------------------------------------------------
-- Records
------------------------------------------------------------

namespace CronSchedule

namespace LooseFields

/- The record of a field that is left out. -/
def record?
    (words : List (List Char))
    (kind : Field.Kind) : Option Record :=
  match fieldAt words kind with
  | .ok _ => none
  | .error error =>
      let word := String.ofList (wordAt words kind)
      some
        ⟨.trace,
          s!"field '{word}' is left out of description: " ++
            error.message⟩

/- The records of all fields that are left out. -/
def records
    (words : List (List Char)) : List Record :=
  Field.Kind.all.filterMap (record? words)

end LooseFields

end CronSchedule
