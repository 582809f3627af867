import CronSchedule.Calendar.Tabular
import CronSchedule.Occurrence.Search
import CronSchedule.Proofs.Calendar.Weekly
import CronSchedule.Proofs.Expression.WellFormed

/-
  A calendar that knows the length of every month and the
  weekday of every day also knows the days that a field
  selects, whatever the order of its weekdays.

  Key definitions include:
    * `Calendar.AlwaysAnswers`

  Main declarations:
    * `Calendar.alwaysAnswers_tabular`
    * `Calendar.AlwaysAnswers.exists_valuesIn`
    * `Calendar.AlwaysAnswers.exists_daysByNumber`
    * `Calendar.AlwaysAnswers.exists_daysByWeekday`
    * `Search.exists_days_of_alwaysAnswers`
-/

------------------------------------------------------------
-- Calendars That Answer
------------------------------------------------------------

namespace CronSchedule

namespace Calendar

/-
  Every month of a year has a week of days or more, and each
  day has a weekday.  The weekdays need not follow each
  other, nor the months be as long as those of the dates.
-/
structure AlwaysAnswers
    (calendar : Calendar) : Prop where
  length :
    ∀ year month, 1 ≤ month → month ≤ 12 →
      ∃ length, calendar.daysInMonth year month =
          .ok length ∧
        7 ≤ length
  weekday :
    ∀ year month day, 1 ≤ month → month ≤ 12 →
      ∃ weekday, calendar.weekday year month day =
          .ok weekday ∧
        1 ≤ weekday ∧ weekday ≤ 7

/- So is a calendar with a table of twelve such months. -/
theorem alwaysAnswers_tabular
    (lengths : List Nat)
    (rule : WeekdayRule)
    (hMonths : lengths.length = 12)
    (hWeek : ∀ length ∈ lengths, 7 ≤ length) :
    (tabular lengths rule).AlwaysAnswers where
  length year month hFirst hLast := by
    cases month with
    | zero => cases hFirst
    | succ index =>
        have hIndex : index < lengths.length := by omega
        refine ⟨lengths[index], ?_, ?_⟩
        · unfold tabular
          simp only [List.getElem?_eq_getElem hIndex]
        · exact hWeek _ (List.getElem_mem hIndex)
  weekday year month day _ _ := by
    refine ⟨rule.weekday year month day, rfl, ?_⟩
    unfold WeekdayRule.weekday
    dsimp only
    omega

end Calendar

end CronSchedule

------------------------------------------------------------
-- Single Days
------------------------------------------------------------

namespace CronSchedule

namespace Calendar

/- No day of a field is so late that counts run out. -/
theorem exists_settleOnWorkday
    (length day weekday : Nat)
    (hFirst : 1 ≤ day)
    (hLast : day ≤ 31) :
    ∃ settled,
      settleOnWorkday length day weekday = .ok settled := by
  have hLimit : 33 < countLimit := by decide
  unfold settleOnWorkday
  split
  · split
    · exact ⟨_, sub_eq_ok _ _ hFirst⟩
    · rw [add_eq_ok _ _ (by omega), ok_bind]
      exact ⟨_, rfl⟩
  · split
    · split
      · exact ⟨_, add_eq_ok _ _ (by omega)⟩
      · split
        · exact ⟨_, sub_eq_ok _ _ (by omega)⟩
        · exact ⟨_, rfl⟩
    · exact ⟨_, rfl⟩

namespace AlwaysAnswers

variable {calendar : Calendar}
variable (hAnswers : calendar.AlwaysAnswers)
variable (year : Int)
variable (month : Nat)
variable (hFirst : 1 ≤ month)
variable (hLast : month ≤ 12)

include hAnswers hFirst hLast

theorem exists_nearestWorkday
    (day : Nat)
    (hDay : day ≤ 31) :
    ∃ nearest,
      calendar.nearestWorkday year month day =
        .ok nearest := by
  rcases hAnswers.length year month hFirst hLast with
    ⟨length, hLength, hWeek⟩
  rcases hAnswers.weekday year month
    (min (max day 1) length) hFirst hLast with
    ⟨weekday, hWeekday, _⟩
  unfold nearestWorkday
  rw [hLength, ok_bind, if_neg (by omega)]
  dsimp only
  rw [hWeekday, ok_bind]
  exact
    exists_settleOnWorkday length _ weekday (by omega)
      (by omega)

theorem exists_lastWorkday :
    ∃ last,
      calendar.lastWorkday year month = .ok last := by
  rcases hAnswers.length year month hFirst hLast with
    ⟨length, hLength, hWeek⟩
  rcases hAnswers.weekday year month length hFirst hLast
    with ⟨weekday, hWeekday, _⟩
  unfold lastWorkday
  rw [hLength, ok_bind, hWeekday, ok_bind]
  split
  · exact ⟨_, sub_eq_ok _ _ (by omega)⟩
  · split
    · exact ⟨_, sub_eq_ok _ _ (by omega)⟩
    · exact ⟨_, rfl⟩

/- The way back to a weekday is shorter than a week. -/
theorem exists_lastWeekday
    (weekday : Nat) :
    ∃ last,
      calendar.lastWeekday year month weekday =
        .ok last := by
  have hLimit : 14 < countLimit := by decide
  rcases hAnswers.length year month hFirst hLast with
    ⟨length, hLength, hWeek⟩
  rcases hAnswers.weekday year month length hFirst hLast
    with ⟨ending, hEnding, _, _⟩
  unfold lastWeekday
  rw [hLength, ok_bind, hEnding, ok_bind,
    add_eq_ok _ _ (by omega), ok_bind,
    sub_eq_ok _ _ (by omega), ok_bind]
  exact ⟨_, sub_eq_ok _ _ (by omega)⟩

theorem exists_nthWeekday
    (weekday count : Nat)
    (hWeekday : weekday ≤ 7)
    (hCount : count ≤ Field.greatestCount) :
    ∃ day?,
      calendar.nthWeekday year month weekday count =
        .ok day? := by
  have hLimit : 49 < countLimit := by decide
  unfold Field.greatestCount at hCount
  rcases hAnswers.length year month hFirst hLast with
    ⟨length, hLength, _⟩
  rcases hAnswers.weekday year month 1 hFirst hLast with
    ⟨opening, hOpening, _, _⟩
  unfold nthWeekday
  rw [hOpening, ok_bind, add_eq_ok _ _ (by omega), ok_bind,
    sub_eq_ok _ _ (by omega), ok_bind,
    add_eq_ok _ _ (by omega), ok_bind]
  split
  · exact ⟨_, rfl⟩
  · rw [mul_eq_ok _ _ (by omega), ok_bind,
      add_eq_ok _ _ (by omega), ok_bind, hLength, ok_bind]
    exact ⟨_, rfl⟩

end AlwaysAnswers

end Calendar

end CronSchedule

------------------------------------------------------------
-- The Days of a Field
------------------------------------------------------------

namespace CronSchedule

namespace Calendar

namespace AlwaysAnswers

variable {calendar : Calendar}
variable (hAnswers : calendar.AlwaysAnswers)
variable (year : Int)
variable (month : Nat)
variable (hFirst : 1 ≤ month)
variable (hLast : month ≤ 12)

include hAnswers hFirst hLast

/- Every field that fits some position has its values. -/
theorem exists_valuesIn
    (kind : Field.Kind)
    (field : Field)
    (hFits : field.Fits kind) :
    ∃ values,
      field.valuesIn calendar year month = .ok values := by
  rcases hAnswers.length year month hFirst hLast with
    ⟨length, hLength, _⟩
  cases field with
  | fixed values => exact ⟨_, rfl⟩
  | unspecified => exact ⟨_, rfl⟩
  | anyYear => exact ⟨_, rfl⟩
  | lastDay =>
      refine ⟨[length], ?_⟩
      simp only [Field.valuesIn, hLength, ok_bind]
      rfl
  | lastDayOffset offset =>
      refine ⟨Field.dayBeforeLast offset length, ?_⟩
      simp only [Field.valuesIn, hLength, ok_bind]
      rfl
  | nearestWorkday day =>
      have hDay : day ≤ 31 := by
        cases kind with
        | dayOfMonth => exact hFits.2
        | _ => cases hFits
      rcases hAnswers.exists_nearestWorkday year month
        hFirst hLast day hDay with ⟨nearest, hNearest⟩
      refine ⟨[nearest], ?_⟩
      simp only [Field.valuesIn, hNearest, ok_bind]
      rfl
  | lastWorkday =>
      rcases hAnswers.exists_lastWorkday year month hFirst
        hLast with ⟨last, hWorkday⟩
      refine ⟨[last], ?_⟩
      simp only [Field.valuesIn, hWorkday, ok_bind]
      rfl
  | lastWeekday weekday =>
      rcases hAnswers.exists_lastWeekday year month hFirst
        hLast weekday with ⟨last, hWeekday⟩
      refine ⟨[last], ?_⟩
      simp only [Field.valuesIn, hWeekday, ok_bind]
      rfl
  | nthWeekday weekday count =>
      have hBounds :
          weekday ≤ 7 ∧ count ≤ Field.greatestCount := by
        cases kind with
        | dayOfWeek => exact ⟨hFits.1.2, hFits.2.2⟩
        | _ => cases hFits
      rcases hAnswers.exists_nthWeekday year month hFirst
        hLast weekday count hBounds.1 hBounds.2 with
        ⟨day?, hDay⟩
      refine ⟨day?.toList, ?_⟩
      simp only [Field.valuesIn, hDay, ok_bind]
      rfl

theorem exists_daysByNumber
    (field : Field)
    (hFits : field.Fits .dayOfMonth) :
    ∃ days,
      field.daysByNumber calendar year month =
        .ok days := by
  rcases hAnswers.length year month hFirst hLast with
    ⟨length, hLength, _⟩
  rcases hAnswers.exists_valuesIn year month hFirst hLast
    .dayOfMonth field hFits with ⟨values, hValues⟩
  unfold Field.daysByNumber
  rw [hLength, ok_bind, hValues, ok_bind]
  exact ⟨_, rfl⟩

theorem exists_daysOnWeekdays
    (weekdays : ValueSet)
    (days : List Nat) :
    ∃ selected,
      Field.daysOnWeekdays calendar year month weekdays
          days =
        .ok selected := by
  induction days with
  | nil => exact ⟨[], rfl⟩
  | cons day days ih =>
      rcases ih with ⟨later, hLater⟩
      rcases hAnswers.weekday year month day hFirst hLast
        with ⟨weekday, hWeekday, _⟩
      unfold Field.daysOnWeekdays
      rw [hWeekday, ok_bind, hLater, ok_bind]
      exact ⟨_, rfl⟩

theorem exists_daysByWeekday
    (field : Field)
    (hFits : field.Fits .dayOfWeek) :
    ∃ days,
      field.daysByWeekday calendar year month =
        .ok days := by
  unfold Field.daysByWeekday
  split
  · rename_i weekdays
    rcases hAnswers.length year month hFirst hLast with
      ⟨length, hLength, _⟩
    rw [hLength, ok_bind]
    exact
      hAnswers.exists_daysOnWeekdays year month hFirst hLast
        weekdays _
  · exact
      hAnswers.exists_valuesIn year month hFirst hLast
        .dayOfWeek field hFits

end AlwaysAnswers

end Calendar

namespace Search

/- Such a calendar selects the days of every month. -/
theorem exists_days_of_alwaysAnswers
    (search : Search)
    (year : Int)
    (month : Nat)
    (hAnswers : search.calendar.AlwaysAnswers)
    (hWellFormed : search.expression.WellFormed)
    (hFirst : 1 ≤ month)
    (hLast : month ≤ 12) :
    ∃ days, search.days year month = .ok days := by
  unfold Search.days
  split
  · exact
      hAnswers.exists_daysByWeekday year month hFirst hLast
        _ (hWellFormed.fits .dayOfWeek)
  · exact
      hAnswers.exists_daysByNumber year month hFirst hLast _
        (hWellFormed.fits .dayOfMonth)

end Search

end CronSchedule
