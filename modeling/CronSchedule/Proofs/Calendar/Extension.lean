import CronSchedule.Occurrence.Search
import CronSchedule.Proofs.Calendar.Gregorian

/-
  Calendars that answer whenever another one does, and the
  same.  All that is computed with the other calendar is
  computed with them as well.

  Key definitions include:
    * `Calendar.ExtendedBy`
    * `Calendar.KnowsDates`
    * `Search.onCalendar`

  Main declarations:
    * `Calendar.ExtendedBy.valuesIn`
    * `Calendar.ExtendedBy.daysByNumber`
    * `Calendar.ExtendedBy.daysByWeekday`
    * `Calendar.KnowsDates.extends`
    * `Search.days_onCalendar`
    * `Search.timetable_onCalendar`
-/

------------------------------------------------------------
-- Single Days
------------------------------------------------------------

namespace CronSchedule

namespace Calendar

/- Every answer of the calendar is one of the other. -/
structure ExtendedBy
    (calendar other : Calendar) : Prop where
  daysInMonth :
    ∀ year month,
      CarriesOver (calendar.daysInMonth year month)
        (other.daysInMonth year month)
  weekday :
    ∀ year month day,
      CarriesOver (calendar.weekday year month day)
        (other.weekday year month day)

namespace ExtendedBy

variable {calendar other : Calendar}
variable (hExtended : calendar.ExtendedBy other)
variable (year : Int)
variable (month : Nat)

include hExtended

theorem lastWeekday
    (weekday : Nat) :
    CarriesOver (calendar.lastWeekday year month weekday)
      (other.lastWeekday year month weekday) := by
  unfold Calendar.lastWeekday
  apply (hExtended.daysInMonth year month).bind
  intro lastDay
  apply (hExtended.weekday year month lastDay).bind
  intro ending
  exact .refl _

theorem nthWeekday
    (weekday count : Nat) :
    CarriesOver
      (calendar.nthWeekday year month weekday count)
      (other.nthWeekday year month weekday count) := by
  unfold Calendar.nthWeekday
  apply (hExtended.weekday year month 1).bind
  intro opening
  -- The arithmetic up to the length of the month is the same.
  refine (CarriesOver.refl _).bind fun ahead => ?_
  refine (CarriesOver.refl _).bind fun ahead => ?_
  refine (CarriesOver.refl _).bind fun first => ?_
  split
  · exact .refl _
  · refine (CarriesOver.refl _).bind fun weeks => ?_
    refine (CarriesOver.refl _).bind fun day => ?_
    apply (hExtended.daysInMonth year month).bind
    intro lastDay
    exact .refl _

theorem nearestWorkday
    (day : Nat) :
    CarriesOver (calendar.nearestWorkday year month day)
      (other.nearestWorkday year month day) := by
  unfold Calendar.nearestWorkday
  apply (hExtended.daysInMonth year month).bind
  intro lastDay
  split
  · exact .refl _
  · apply (hExtended.weekday year month _).bind
    intro weekday
    exact .refl _

theorem lastWorkday :
    CarriesOver (calendar.lastWorkday year month)
      (other.lastWorkday year month) := by
  unfold Calendar.lastWorkday
  apply (hExtended.daysInMonth year month).bind
  intro lastDay
  apply (hExtended.weekday year month lastDay).bind
  intro weekday
  exact .refl _

end ExtendedBy

end Calendar

end CronSchedule

------------------------------------------------------------
-- The Days of a Field
------------------------------------------------------------

namespace CronSchedule

namespace Calendar

namespace ExtendedBy

variable {calendar other : Calendar}
variable (hExtended : calendar.ExtendedBy other)
variable (year : Int)
variable (month : Nat)

include hExtended

theorem valuesIn
    (field : Field) :
    CarriesOver (field.valuesIn calendar year month)
      (field.valuesIn other year month) := by
  cases field with
  | fixed values => exact .refl _
  | unspecified => exact .refl _
  | anyYear => exact .refl _
  | lastDay =>
      exact
        (hExtended.daysInMonth year month).bind
          fun _ => .refl _
  | lastDayOffset offset =>
      exact
        (hExtended.daysInMonth year month).bind
          fun _ => .refl _
  | nearestWorkday day =>
      exact
        (hExtended.nearestWorkday year month day).bind
          fun _ => .refl _
  | lastWorkday =>
      exact
        (hExtended.lastWorkday year month).bind
          fun _ => .refl _
  | lastWeekday weekday =>
      exact
        (hExtended.lastWeekday year month weekday).bind
          fun _ => .refl _
  | nthWeekday weekday count =>
      exact
        (hExtended.nthWeekday year month weekday
          count).bind fun _ => .refl _

theorem daysByNumber
    (field : Field) :
    CarriesOver (field.daysByNumber calendar year month)
      (field.daysByNumber other year month) := by
  unfold Field.daysByNumber
  apply (hExtended.daysInMonth year month).bind
  intro lastDay
  apply (hExtended.valuesIn year month field).bind
  intro days
  exact .refl _

theorem daysOnWeekdays
    (weekdays : ValueSet)
    (days : List Nat) :
    CarriesOver
      (Field.daysOnWeekdays calendar year month weekdays
        days)
      (Field.daysOnWeekdays other year month weekdays
        days) := by
  induction days with
  | nil => exact .refl _
  | cons day days ih =>
      unfold Field.daysOnWeekdays
      apply (hExtended.weekday year month day).bind
      intro weekday
      apply ih.bind
      intro later
      exact .refl _

theorem daysByWeekday
    (field : Field) :
    CarriesOver (field.daysByWeekday calendar year month)
      (field.daysByWeekday other year month) := by
  unfold Field.daysByWeekday
  split
  · apply (hExtended.daysInMonth year month).bind
    intro lastDay
    exact hExtended.daysOnWeekdays year month _ _
  · exact hExtended.valuesIn year month _

end ExtendedBy

end Calendar

end CronSchedule

------------------------------------------------------------
-- Calendars of the Existing Dates
------------------------------------------------------------

namespace CronSchedule

namespace Calendar

/-
  The calendar has the lengths of the months of dates, and
  the weekdays of dates.  Nothing is said about what it does
  with any other numbers.
-/
structure KnowsDates
    (calendar : Calendar) : Prop where
  daysInMonth :
    ∀ year month, HasMonth year month →
      calendar.daysInMonth year month =
        .ok (Date.monthLength year month)
  weekday :
    ∀ date : Date,
      calendar.weekday date.year date.month date.day =
        .ok date.weekday

theorem gregorianWeekday_eq_ok_iff
    (year : Int)
    (month day weekday : Nat) :
    gregorianWeekday year month day = .ok weekday ↔
      ∃ date, Date.of? year month day = some date ∧
        date.weekday = weekday := by
  unfold gregorianWeekday
  cases Date.of? year month day with
  | none => simp
  | some date => simp

theorem knowsDates_gregorian :
    gregorian.KnowsDates where
  daysInMonth year month hMonth :=
    gregorianDaysInMonth_eq year month hMonth
  weekday date :=
    (gregorianWeekday_eq_ok_iff _ _ _ _).mpr
      ⟨date, (Date.of?_eq_some_iff _ _ _ _).mpr
        ⟨rfl, rfl, rfl⟩, rfl⟩

/- The calendar of the dates answers nothing but that. -/
theorem KnowsDates.extends
    {calendar : Calendar}
    (hKnows : calendar.KnowsDates) :
    gregorian.ExtendedBy calendar where
  daysInMonth year month length hLength := by
    have hMonth :=
      hasMonth_of_gregorianDaysInMonth year month length
        hLength
    have hKnown :=
      knowsDates_gregorian.daysInMonth year month hMonth
    rw [hKnows.daysInMonth year month hMonth, ← hKnown]
    exact hLength
  weekday year month day weekday hWeekday := by
    rcases
      (gregorianWeekday_eq_ok_iff year month day
        weekday).mp hWeekday with ⟨date, hDate, rfl⟩
    rcases (Date.of?_eq_some_iff _ _ _ date).mp hDate with
      ⟨rfl, rfl, rfl⟩
    exact hKnows.weekday date

end Calendar

end CronSchedule

------------------------------------------------------------
-- Searches on Another Calendar
------------------------------------------------------------

namespace CronSchedule

namespace Search

variable (search : Search)
variable (calendar : Calendar)

/- The same search on another calendar. -/
def onCalendar : Search :=
  { search with calendar }

@[simp]
theorem expression_onCalendar :
    (search.onCalendar calendar).expression =
      search.expression :=
  rfl

variable (hExtended : search.calendar.ExtendedBy calendar)

include hExtended

theorem days_onCalendar
    (year : Int)
    (month : Nat) :
    CarriesOver (search.days year month)
      ((search.onCalendar calendar).days year month) := by
  unfold Search.days
  change
    CarriesOver _
      (if search.expression.dayOfMonth.isUnspecified then
        search.expression.dayOfWeek.daysByWeekday calendar
          year month
      else
        search.expression.dayOfMonth.daysByNumber calendar
          year month)
  split
  · exact hExtended.daysByWeekday year month _
  · exact hExtended.daysByNumber year month _

theorem timetable_onCalendar :
    CarriesOver search.timetable
      (search.onCalendar calendar).timetable := by
  have hValues (field : Field) :=
    hExtended.valuesIn search.origin.date.year
      search.origin.date.month field
  unfold Search.timetable
  refine (hValues _).bind fun months => ?_
  refine (hValues _).bind fun hours => ?_
  refine (hValues _).bind fun minutes => ?_
  refine (hValues _).bind fun seconds => ?_
  exact .refl _

end Search

end CronSchedule
