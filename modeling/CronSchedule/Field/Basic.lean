import CronSchedule.Field.ValueSet

/-
  The value of a single field, and the order of such values.

  Key definitions include:
    * `Field`
    * `Field.values?`
    * `Field.key`
-/

------------------------------------------------------------
-- Fields
------------------------------------------------------------

namespace CronSchedule

/-
  The value of a field.  Weekdays are numbered from `1`,
  which is Sunday, to `7`.
-/
inductive Field where
/- An explicit set of values. -/
| fixed (values : ValueSet)
/- `?`: the other day field decides. -/
| unspecified
/- `L`: the last day of the month. -/
| lastDay
/- `L-3`: so many days before the last day. -/
| lastDayOffset (offset : Nat)
/- `15W`: the working day nearest to the day. -/
| nearestWorkday (day : Nat)
/- `LW`: the last working day of the month. -/
| lastWorkday
/- `6L`: the last such weekday of the month. -/
| lastWeekday (weekday : Nat)
/- `6#3`: the n-th such weekday of the month. -/
| nthWeekday (weekday count : Nat)
/- An omitted year. -/
| anyYear
deriving DecidableEq

namespace Field

/- The explicit set, if the field is one. -/
def values? : Field → Option ValueSet
| .fixed values => some values
| _ => none

/- The field is `?`. -/
def isUnspecified : Field → Bool
| .unspecified => true
| _ => false

end Field

end CronSchedule

------------------------------------------------------------
-- Order
------------------------------------------------------------

namespace CronSchedule

namespace Field

/-
  The number of the form, followed by its contents.  Fields
  are ordered as their keys are, item by item.
-/
def key : Field → List Nat
| .fixed values => 0 :: values.toList
| .unspecified => [1]
| .lastDay => [2]
| .lastDayOffset offset => [3, offset]
| .nearestWorkday day => [4, day]
| .lastWorkday => [5]
| .lastWeekday weekday => [6, weekday]
| .nthWeekday weekday count => [7, weekday, count]
| .anyYear => [8]

instance : Ord Field :=
  ⟨fun left right => compare left.key right.key⟩

end Field

end CronSchedule
