import CronSchedule.Field.ValueSet
import CronSchedule.Text.Numeral

/-
  The phrases of an English description, and their wording.

  Key definitions include:
    * `Phrase`
    * `Phrase.enumerate`
    * `Phrase.text`
-/

------------------------------------------------------------
-- Phrases
------------------------------------------------------------

namespace CronSchedule

/- The parts of a time of day that a phrase can name. -/
inductive TimeUnit where
| second
| minute
| hour
deriving DecidableEq

/- The name of the part. -/
def TimeUnit.name : TimeUnit → String
| .second => "second"
| .minute => "minute"
| .hour => "hour"

/-
  The phrases of a description: times first, then days of
  the month, weekdays, months, and years.
-/
inductive Phrase where
| atTime (hour minute second : Nat)
| every (unit : TimeUnit)
| atUnits (unit : TimeUnit) (values : ValueSet)
| onDays (values : ValueSet)
| onLastDay
| beforeLastDay (offset : Nat)
| onNearestWorkday (day : Nat)
| onLastWorkday
| onWeekdays (values : ValueSet)
| onLastWeekday (weekday : Nat)
| onNthWeekday (weekday count : Nat)
| inMonths (values : ValueSet)
| inYears (values : ValueSet)
deriving DecidableEq

end CronSchedule

------------------------------------------------------------
-- Names
------------------------------------------------------------

namespace CronSchedule

namespace Phrase

/- The weekdays, the first one for `1`. -/
def weekdayNames : List String :=
  ["Sunday", "Monday", "Tuesday", "Wednesday",
    "Thursday", "Friday", "Saturday"]

/- The months, the first one for `1`. -/
def monthNames : List String :=
  ["January", "February", "March", "April", "May",
    "June", "July", "August", "September", "October",
    "November", "December"]

/- The ordinals, the first one for `1`. -/
def ordinals : List String :=
  ["first", "second", "third", "fourth", "fifth", "sixth"]

/- A number in decimal digits. -/
def numberText
    (number : Nat) : String :=
  String.ofList (Numeral.digits number)

/- The name for a number, or else its digits. -/
def nameOf
    (names : List String)
    (number : Nat) : String :=
  match number with
  | 0 => numberText 0
  | index + 1 =>
      names.getD index (numberText (index + 1))

/- The items as `a`, `a and b`, or `a, b and c`. -/
def enumerate : List String → String
| [] => ""
| [item] => item
| [item, last] => item ++ " and " ++ last
| item :: items => item ++ ", " ++ enumerate items

/- The elements of a set, enumerated. -/
def enumerateSet
    (wording : Nat → String)
    (values : ValueSet) : String :=
  enumerate (values.toList.map wording)

/- The ending of a noun with so many things. -/
def pluralEnding
    (values : ValueSet) : String :=
  if 1 < values.size then "s" else ""

end Phrase

end CronSchedule

------------------------------------------------------------
-- Wording
------------------------------------------------------------

namespace CronSchedule

namespace Phrase

/- The wording of the phrase. -/
def text : Phrase → String
| .atTime hour minute second =>
    "at " ++ Numeral.padded 2 hour ++ ":" ++
      Numeral.padded 2 minute ++ ":" ++
      Numeral.padded 2 second
| .every unit => "every " ++ unit.name
| .atUnits unit values =>
    "at " ++ unit.name ++ pluralEnding values ++ " " ++
      enumerateSet numberText values
| .onDays values =>
    "on day" ++ pluralEnding values ++ " " ++
      enumerateSet numberText values ++ " of the month"
| .onLastDay => "on the last day of the month"
| .beforeLastDay offset =>
    numberText offset ++
      (if offset = 1 then " day" else " days") ++
      " before the last day of the month"
| .onNearestWorkday day =>
    "on the weekday nearest day " ++ numberText day ++
      " of the month"
| .onLastWorkday => "on the last weekday of the month"
| .onWeekdays values =>
    "only on " ++
      enumerateSet (nameOf weekdayNames) values
| .onLastWeekday weekday =>
    "on the last " ++ nameOf weekdayNames weekday ++
      " of the month"
| .onNthWeekday weekday count =>
    "on the " ++ nameOf ordinals count ++ " " ++
      nameOf weekdayNames weekday ++ " of the month"
| .inMonths values =>
    "only in " ++ enumerateSet (nameOf monthNames) values
| .inYears values =>
    "only in " ++ enumerateSet numberText values

end Phrase

end CronSchedule
