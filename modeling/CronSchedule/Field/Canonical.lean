import CronSchedule.Field.Basic
import CronSchedule.Field.Kind
import CronSchedule.Text.Numeral

/-
  The canonical text of a field.

  Key definitions include:
    * `Field.isFull`
    * `Field.canonical`
-/

------------------------------------------------------------
-- Canonical Text
------------------------------------------------------------

namespace CronSchedule

namespace Field

/- The set has as many elements as the position has values. -/
def isFull
    (kind : Kind)
    (values : ValueSet) : Bool :=
  values.size == kind.extent

/- The elements of a set, with commas between them. -/
def listed
    (values : ValueSet) : List Char :=
  [','].intercalate (values.toList.map Numeral.digits)

/-
  The canonical text: a full set is `*`, any other set lists
  its elements, and an omitted year is empty.
-/
def canonical
    (kind : Kind) : Field → List Char
| .fixed values =>
    if isFull kind values then
      ['*']
    else
      listed values
| .unspecified => ['?']
| .lastDay => ['L']
| .lastDayOffset offset =>
    ['L', '-'] ++ Numeral.digits offset
| .nearestWorkday day => Numeral.digits day ++ ['W']
| .lastWorkday => ['L', 'W']
| .lastWeekday weekday =>
    Numeral.digits weekday ++ ['L']
| .nthWeekday weekday count =>
    Numeral.digits weekday ++ ['#'] ++
      Numeral.digits count
| .anyYear => []

end Field

end CronSchedule
