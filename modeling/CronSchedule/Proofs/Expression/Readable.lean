import CronSchedule.Proofs.Expression.RoundTrip

/-
  The expressions that some text denotes.  Nothing else
  comes out of reading, and all of it does: the canonical
  text is a text for each of them.

  Key definitions include:
    * `Field.IsSetWithin`
    * `Field.IsDayOfMonth`
    * `Field.IsDayOfWeek`

  Main declarations:
    * `Expression.wellFormed_iff`
    * `Expression.exists_parse_iff`
-/

------------------------------------------------------------
-- Values of a Position
------------------------------------------------------------

namespace CronSchedule

namespace Field

/- Some values, all of them from the first to the last. -/
def IsSetWithin
    (first last : Nat)
    (field : Field) : Prop :=
  ∃ values, field = .fixed values ∧ values.toList ≠ [] ∧
    ∀ number ∈ values, first ≤ number ∧ number ≤ last

/- A way to give the days of a month by their numbers. -/
def IsDayOfMonth : Field → Prop
| .fixed values => IsSetWithin 1 31 (.fixed values)
| .unspecified | .lastDay | .lastWorkday => True
| .lastDayOffset offset => offset ≤ 31
| .nearestWorkday day => 1 ≤ day ∧ day ≤ 31
| .lastWeekday _ | .nthWeekday _ _ | .anyYear => False

/- A way to give the days of a month by their weekdays. -/
def IsDayOfWeek : Field → Prop
| .fixed values => IsSetWithin 1 7 (.fixed values)
| .unspecified => True
| .lastWeekday weekday => 1 ≤ weekday ∧ weekday ≤ 7
| .nthWeekday weekday count =>
    (1 ≤ weekday ∧ weekday ≤ 7) ∧ 1 ≤ count ∧ count ≤ 6
| .lastDay | .lastDayOffset _ | .nearestWorkday _ => False
| .lastWorkday | .anyYear => False

/- A set fits its position if it is within the bounds. -/
theorem fits_fixed_iff
    (kind : Kind)
    (values : ValueSet) :
    Fits kind (.fixed values) ↔
      IsSetWithin kind.least kind.greatest
        (.fixed values) := by
  rw [fits_fixed]
  constructor
  · intro hSet
    exact ⟨values, rfl, hSet⟩
  · rintro ⟨_, hField, hSet⟩
    cases hField
    exact hSet

/- Beside the day fields and the year, only a set fits. -/
theorem fits_iff_isSetWithin
    (kind : Kind)
    (field : Field)
    (hKind :
      kind = .second ∨ kind = .minute ∨ kind = .hour ∨
        kind = .month) :
    field.Fits kind ↔
      field.IsSetWithin kind.least kind.greatest := by
  constructor
  · intro hFits
    exact exists_fixed_of_fits kind field hFits hKind
  · rintro ⟨values, rfl, hSet⟩
    exact (fits_fixed kind values).mpr hSet

theorem fits_dayOfMonth_iff
    (field : Field) :
    field.Fits .dayOfMonth ↔ field.IsDayOfMonth := by
  cases field with
  | fixed values => exact fits_fixed_iff .dayOfMonth values
  | _ => exact Iff.rfl

theorem fits_dayOfWeek_iff
    (field : Field) :
    field.Fits .dayOfWeek ↔ field.IsDayOfWeek := by
  cases field with
  | fixed values => exact fits_fixed_iff .dayOfWeek values
  | _ => exact Iff.rfl

theorem fits_year_iff
    (field : Field) :
    field.Fits .year ↔
      field = .anyYear ∨
        field.IsSetWithin firstYear lastYear := by
  constructor
  · intro hFits
    cases field with
    | fixed values =>
        exact Or.inr ((fits_fixed_iff .year values).mp hFits)
    | anyYear => exact Or.inl rfl
    | _ => cases hFits
  · rintro (rfl | ⟨values, rfl, hSet⟩)
    · trivial
    · exact (fits_fixed .year values).mpr hSet

end Field

end CronSchedule

------------------------------------------------------------
-- Expressions With a Text
------------------------------------------------------------

namespace CronSchedule

namespace Expression

/- The seven fields fit, and one of the day fields is `?`. -/
theorem wellFormed_iff
    (expression : Expression) :
    expression.WellFormed ↔
      expression.second.IsSetWithin 0 59 ∧
        expression.minute.IsSetWithin 0 59 ∧
        expression.hour.IsSetWithin 0 23 ∧
        expression.month.IsSetWithin 1 12 ∧
        (expression.year = .anyYear ∨
          expression.year.IsSetWithin 1970 2099) ∧
        expression.dayOfMonth.IsDayOfMonth ∧
        expression.dayOfWeek.IsDayOfWeek ∧
        (expression.dayOfMonth = .unspecified ↔
          expression.dayOfWeek ≠ .unspecified) := by
  have hSet (kind : Field.Kind) :=
    Field.fits_iff_isSetWithin kind (expression.field kind)
  have hSecond := hSet .second (by decide)
  have hMinute := hSet .minute (by decide)
  have hHour := hSet .hour (by decide)
  have hMonth := hSet .month (by decide)
  have hYear := Field.fits_year_iff expression.year
  have hDay := Field.fits_dayOfMonth_iff expression.dayOfMonth
  have hWeek := Field.fits_dayOfWeek_iff expression.dayOfWeek
  constructor
  · intro hWellFormed
    have hFits := hWellFormed.fits
    exact
      ⟨hSecond.mp (hFits .second), hMinute.mp (hFits .minute),
        hHour.mp (hFits .hour), hMonth.mp (hFits .month),
        hYear.mp (hFits .year), hDay.mp (hFits .dayOfMonth),
        hWeek.mp (hFits .dayOfWeek),
        hWellFormed.oneDayField⟩
  · rintro ⟨second, minute, hour, month, year, day, week,
      hOneDayField⟩
    refine ⟨?_, hOneDayField⟩
    intro kind
    cases kind with
    | second => exact hSecond.mpr second
    | minute => exact hMinute.mpr minute
    | hour => exact hHour.mpr hour
    | month => exact hMonth.mpr month
    | year => exact hYear.mpr year
    | dayOfMonth => exact hDay.mpr day
    | dayOfWeek => exact hWeek.mpr week

/-
  Exactly one of the day fields is `?`, and every field has
  a value of its position.  Of such an expression, and of no
  other, there is a text.
-/
theorem exists_parse_iff
    (expression : Expression) :
    (∃ text, parse text = .ok expression) ↔
      expression.second.IsSetWithin 0 59 ∧
        expression.minute.IsSetWithin 0 59 ∧
        expression.hour.IsSetWithin 0 23 ∧
        expression.month.IsSetWithin 1 12 ∧
        (expression.year = .anyYear ∨
          expression.year.IsSetWithin 1970 2099) ∧
        expression.dayOfMonth.IsDayOfMonth ∧
        expression.dayOfWeek.IsDayOfWeek ∧
        (expression.dayOfMonth = .unspecified ↔
          expression.dayOfWeek ≠ .unspecified) := by
  rw [← wellFormed_iff]
  constructor
  · rintro ⟨text, hParse⟩
    exact wellFormed_of_parse text expression hParse
  · intro hWellFormed
    exact
      ⟨expression.text, parse_text expression hWellFormed⟩

end Expression

end CronSchedule
