import CronSchedule.Field.Reading

/-
  The field values that a position can have: nonempty sets
  within its bounds, and the marks of the day fields with
  their numbers in bounds.

  Key definitions include:
    * `Field.Selection.Fits`
    * `Field.Kind.AllowsSet`
    * `Field.Fits`
-/

------------------------------------------------------------
-- Selections
------------------------------------------------------------

namespace CronSchedule

namespace Field

namespace Selection

/- Some number is selected, and all are within bounds. -/
def Fits
    (kind : Kind) : Selection → Prop
| .list numbers =>
    numbers ≠ [] ∧ ∀ number ∈ numbers, kind.Allows number
| .range first last =>
    kind.Allows first ∧ kind.Allows last ∧ first ≤ last
| .stepped first last step =>
    kind.Allows first ∧ kind.Allows last ∧ first ≤ last ∧
      kind.AllowsStep step

/- The greatest value of a position is within its bounds. -/
theorem allows_greatest
    (kind : Kind) :
    kind.Allows kind.greatest := by
  cases kind <;> decide

end Selection

/- The set is not empty and within the bounds. -/
def Kind.AllowsSet
    (kind : Kind)
    (values : ValueSet) : Prop :=
  values.toList ≠ [] ∧
    ∀ number ∈ values, kind.Allows number

theorem Kind.allowsSet_of_mem
    (kind : Kind)
    (values : ValueSet)
    (number : Nat)
    (hMember : number ∈ values)
    (hAllows : ∀ other ∈ values, kind.Allows other) :
    kind.AllowsSet values :=
  ⟨List.ne_nil_of_mem hMember, hAllows⟩

end Field

end CronSchedule

------------------------------------------------------------
-- Fields
------------------------------------------------------------

namespace CronSchedule

namespace Field

/- The value is one that its position can have. -/
def Fits : Kind → Field → Prop
| kind, .fixed values => kind.AllowsSet values
| .dayOfMonth, .unspecified => True
| .dayOfMonth, .lastDay => True
| .dayOfMonth, .lastDayOffset offset => offset ≤ 31
| .dayOfMonth, .nearestWorkday day =>
    Kind.dayOfMonth.Allows day
| .dayOfMonth, .lastWorkday => True
| .dayOfWeek, .unspecified => True
| .dayOfWeek, .lastWeekday weekday =>
    Kind.dayOfWeek.Allows weekday
| .dayOfWeek, .nthWeekday weekday count =>
    Kind.dayOfWeek.Allows weekday ∧
      1 ≤ count ∧ count ≤ greatestCount
| .year, .anyYear => True
| _, _ => False

theorem fits_fixed
    (kind : Kind)
    (values : ValueSet) :
    Fits kind (.fixed values) ↔ kind.AllowsSet values := by
  cases kind <;> rfl

/- Beside the day fields and the year, a field has a set. -/
theorem exists_fixed_of_fits
    (kind : Kind)
    (field : Field)
    (hFits : field.Fits kind)
    (hKind :
      kind = .second ∨ kind = .minute ∨ kind = .hour ∨
        kind = .month) :
    ∃ values, field = .fixed values ∧
      kind.AllowsSet values := by
  cases field with
  | fixed values =>
      exact ⟨values, rfl, (fits_fixed kind values).mp hFits⟩
  | _ =>
      rcases hKind with rfl | rfl | rfl | rfl <;> cases hFits

end Field

end CronSchedule
