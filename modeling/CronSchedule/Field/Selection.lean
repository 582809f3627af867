import CronSchedule.Field.Fault
import CronSchedule.Field.Progression
import CronSchedule.Field.ValueSet
import CronSchedule.Text.Numeral
import CronSchedule.Text.Separated

/-
  The numeric forms of a field: a list, a range, or a step,
  never mixed.

  Key definitions include:
    * `Field.Selection`
    * `Field.Selection.values`
    * `Field.Selection.read`
-/

------------------------------------------------------------
-- Selections
------------------------------------------------------------

namespace CronSchedule

namespace Field

/- The numbers that a numeric field selects. -/
inductive Selection where
/- The listed numbers. -/
| list (numbers : List Nat)
/- All numbers from the first to the last. -/
| range (first last : Nat)
/- Every so many numbers from the first to the last. -/
| stepped (first last step : Nat)
deriving DecidableEq

namespace Selection

/- The set of the selected numbers. -/
def values : Selection → ValueSet
| .list numbers => ValueSet.ofList numbers
| .range first last => ValueSet.interval first last
| .stepped first last step =>
    ValueSet.ofList
      (Progression.toList ⟨first, last, step⟩)

end Selection

end Field

end CronSchedule

------------------------------------------------------------
-- Reading Selections
------------------------------------------------------------

namespace CronSchedule

namespace Field

namespace Selection

variable (kind : Kind)

/- Refuse a text that has no numeric form. -/
def unsupported
    (text : List Char) : Except Fault Selection :=
  .error (.unsupported (String.ofList text))

/- The start of an open step: `*` is the least value. -/
def stepStart?
    (text : List Char) : Option Nat :=
  if text = ['*'] then
    some kind.least
  else
    Numeral.short? text

/- Read a range with a step. -/
def readSteppedRange
    (text first last step : List Char) :
    Except Fault Selection :=
  match
    Numeral.short? first,
    Numeral.short? last,
    Numeral.short? step
  with
  | some a, some b, some n =>
      if kind.Allows a ∧ kind.Allows b ∧ a ≤ b ∧
          kind.AllowsStep n then
        .ok (.stepped a b n)
      else
        .error (.rangeStep (String.ofList text))
  | _, _, _ => unsupported text

/-
  Read a step that goes on to the greatest value.  A bad
  step is reported before a bad start.
-/
def readOpenStep
    (text start step : List Char) :
    Except Fault Selection :=
  match stepStart? kind start, Numeral.short? step with
  | some a, some n =>
      if ¬ kind.AllowsStep n then
        .error (.step (String.ofList text))
      else if ¬ kind.Allows a then
        .error (.start (String.ofList text))
      else
        .ok (.stepped a kind.greatest n)
  | _, _ => unsupported text

/- Read a range. -/
def readRange
    (text first last : List Char) :
    Except Fault Selection :=
  match Numeral.short? first, Numeral.short? last with
  | some a, some b =>
      if kind.Allows a ∧ kind.Allows b ∧ a ≤ b then
        .ok (.range a b)
      else
        .error (.range (String.ofList text))
  | _, _ => unsupported text

/- The cause for refusing a number of a list. -/
def listFault
    (item : List Char)
    (number : Nat) : Fault :=
  if kind = .year then
    .year number
  else
    .value (String.ofList item)

/-
  Read a list.  The first number out of bounds is reported,
  once all items are known to be numbers.
-/
def readList
    (text : List Char) : Except Fault Selection :=
  let items := text.splitOn ','
  match items.mapM Numeral.short? with
  | none => unsupported text
  | some numbers =>
      let outside := (items.zip numbers).find?
        fun entry => ¬ kind.Allows entry.2
      match outside with
      | some (item, number) =>
          .error (listFault kind item number)
      | none => .ok (.list numbers)

/-
  Read a numeric field.  A step is looked for before a
  range, and a range before a list.
-/
def read
    (text : List Char) : Except Fault Selection :=
  match Text.splitFirst? '/' text with
  | some (base, step) =>
      match Text.splitFirst? '-' base with
      | some (first, last) =>
          readSteppedRange kind text first last step
      | none => readOpenStep kind text base step
  | none =>
      match Text.splitFirst? '-' text with
      | some (first, last) =>
          readRange kind text first last
      | none => readList kind text

end Selection

end Field

end CronSchedule
