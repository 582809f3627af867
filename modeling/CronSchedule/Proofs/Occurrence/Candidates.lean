import CronSchedule.Proofs.Expression.Matching
import CronSchedule.Proofs.Expression.WellFormed
import CronSchedule.Proofs.Occurrence.EarliestTime

/-
  The instants that a search on any calendar may find: those
  whose time and month the expression allows, on the days
  that the calendar selects.

  Key definitions include:
    * `Search.Admits`
    * `Search.Timetable.IsOf`

  Main declarations:
    * `Search.exists_timetable`
    * `Search.ascending_of_days`
-/

------------------------------------------------------------
-- Admitted Instants
------------------------------------------------------------

namespace CronSchedule

namespace Search

/- The instant has an allowed time, on a selected day. -/
structure Admits
    (search : Search)
    (instant : Instant) : Prop where
  time : search.expression.AllowsTime instant
  day :
    ∃ days,
      search.days instant.date.year instant.date.month =
          .ok days ∧
        instant.date.day ∈ days

end Search

end CronSchedule

------------------------------------------------------------
-- Timetables
------------------------------------------------------------

namespace CronSchedule

namespace Search

/- The lists are the sets of the fields, in order. -/
structure Timetable.IsOf
    (timetable : Timetable)
    (expression : Expression) : Prop where
  mem_months :
    ∀ number, number ∈ timetable.months ↔
      expression.month.Has number
  mem_hours :
    ∀ number, number ∈ timetable.hours ↔
      expression.hour.Has number
  mem_minutes :
    ∀ number, number ∈ timetable.minutes ↔
      expression.minute.Has number
  mem_seconds :
    ∀ number, number ∈ timetable.seconds ↔
      expression.second.Has number
  months : timetable.months.Pairwise (· < ·)
  hours : AscendsTo 23 timetable.hours
  minutes : AscendsTo 59 timetable.minutes
  seconds : AscendsTo 59 timetable.seconds
  isMonth :
    ∀ month ∈ timetable.months, 1 ≤ month ∧ month ≤ 12

/- A set of a position ascends to its greatest value. -/
theorem ascendsTo_of_allowsSet
    (kind : Field.Kind)
    (values : ValueSet)
    (hValues : kind.AllowsSet values) :
    AscendsTo kind.greatest values.toList :=
  ⟨values.ascending,
    fun number hNumber => (hValues.2 number hNumber).2⟩

/- The sets of the fields do not depend on the calendar. -/
theorem exists_timetable
    (search : Search)
    (hWellFormed : search.expression.WellFormed) :
    ∃ timetable,
      search.timetable = .ok timetable ∧
        timetable.IsOf search.expression := by
  rcases hWellFormed.exists_fixed .second (by simp) with
    ⟨seconds, (hSeconds : search.expression.second = _),
      hSecondSet⟩
  rcases hWellFormed.exists_fixed .minute (by simp) with
    ⟨minutes, (hMinutes : search.expression.minute = _),
      hMinuteSet⟩
  rcases hWellFormed.exists_fixed .hour (by simp) with
    ⟨hours, (hHours : search.expression.hour = _),
      hHourSet⟩
  rcases hWellFormed.exists_fixed .month (by simp) with
    ⟨months, (hMonths : search.expression.month = _),
      hMonthSet⟩
  refine
    ⟨⟨months.toList, hours.toList, minutes.toList,
        seconds.toList⟩, ?_, ?_⟩
  · unfold timetable
    rw [hSeconds, hMinutes, hHours, hMonths]
    rfl
  · constructor
    · intro number
      rw [hMonths, Field.has_fixed]
    · intro number
      rw [hHours, Field.has_fixed]
    · intro number
      rw [hMinutes, Field.has_fixed]
    · intro number
      rw [hSeconds, Field.has_fixed]
    · exact months.ascending
    · exact ascendsTo_of_allowsSet .hour hours hHourSet
    · exact ascendsTo_of_allowsSet .minute minutes hMinuteSet
    · exact ascendsTo_of_allowsSet .second seconds hSecondSet
    · exact hMonthSet.2

variable {timetable : Timetable}
variable {expression : Expression}

/- An allowed time is on the lists. -/
theorem Timetable.IsOf.isListed
    (hTimetable : timetable.IsOf expression)
    {instant : Instant}
    (hTime : expression.AllowsTime instant) :
    instant.time.IsListed timetable.hours timetable.minutes
      timetable.seconds :=
  ⟨hTime.whole, (hTimetable.mem_hours _).mpr hTime.hour,
    (hTimetable.mem_minutes _).mpr hTime.minute,
    (hTimetable.mem_seconds _).mpr hTime.second⟩

end Search

end CronSchedule

------------------------------------------------------------
-- Selected Days
------------------------------------------------------------

namespace CronSchedule

namespace Field

variable (calendar : Calendar)
variable (year : Int)
variable (month : Nat)

theorem ascending_of_valuesIn
    (field : Field)
    (values : List Nat)
    (hValues :
      field.valuesIn calendar year month = .ok values) :
    values.Pairwise (· < ·) := by
  cases field with
  | fixed numbers =>
      cases hValues
      exact numbers.ascending
  | unspecified | anyYear =>
      cases hValues
      exact List.Pairwise.nil
  | lastDay | nearestWorkday _ | lastWorkday
  | lastWeekday _ =>
      rcases exists_ok_of_bind _ _ _ hValues with
        ⟨day, _, hDay⟩
      cases hDay
      exact List.pairwise_singleton _ _
  | lastDayOffset offset =>
      rcases exists_ok_of_bind _ _ _ hValues with
        ⟨day, _, hDay⟩
      cases hDay
      unfold dayBeforeLast
      split
      · exact List.pairwise_singleton _ _
      · exact List.Pairwise.nil
  | nthWeekday weekday count =>
      rcases exists_ok_of_bind _ _ _ hValues with
        ⟨day?, _, hDay⟩
      cases hDay
      cases day? with
      | none => exact List.Pairwise.nil
      | some day => exact List.pairwise_singleton _ _

/- Selecting by weekday keeps the order of the days. -/
theorem sublist_of_daysOnWeekdays
    (weekdays : ValueSet)
    (days selected : List Nat)
    (hSelected :
      daysOnWeekdays calendar year month weekdays days =
        .ok selected) :
    selected.Sublist days := by
  induction days generalizing selected with
  | nil =>
      cases hSelected
      exact List.Sublist.refl []
  | cons day days ih =>
      unfold daysOnWeekdays at hSelected
      rcases exists_ok_of_bind _ _ _ hSelected with
        ⟨weekday, _, hSelected⟩
      rcases exists_ok_of_bind _ _ _ hSelected with
        ⟨later, hLater, hSelected⟩
      have hSublist := ih later hLater
      split at hSelected
      · cases hSelected
        exact hSublist.cons_cons day
      · cases hSelected
        exact hSublist.cons day

end Field

namespace Search

/- The days of a month are selected in ascending order. -/
theorem ascending_of_days
    (search : Search)
    (year : Int)
    (month : Nat)
    (days : List Nat)
    (hDays : search.days year month = .ok days) :
    days.Pairwise (· < ·) := by
  unfold Search.days at hDays
  split at hDays
  · unfold Field.daysByWeekday at hDays
    split at hDays
    · rcases exists_ok_of_bind _ _ _ hDays with
        ⟨lastDay, _, hSelected⟩
      exact
        List.Pairwise.sublist
          (Field.sublist_of_daysOnWeekdays _ _ _ _ _ _
            hSelected)
          List.pairwise_lt_range'
    · exact Field.ascending_of_valuesIn _ _ _ _ _ hDays
  · unfold Field.daysByNumber at hDays
    rcases exists_ok_of_bind _ _ _ hDays with
      ⟨lastDay, _, hDays⟩
    rcases exists_ok_of_bind _ _ _ hDays with
      ⟨values, hValues, hDays⟩
    cases hDays
    exact
      List.Pairwise.sublist List.filter_sublist
        (Field.ascending_of_valuesIn _ _ _ _ _ hValues)

end Search

end CronSchedule
