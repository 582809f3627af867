import CronSchedule.Proofs.Expression.MatchingDays
import CronSchedule.Proofs.Occurrence.Candidates

/-
  On the calendar of the existing dates the admitted
  instants are those that match the expression, up to the
  last month of the range, of which nothing is admitted.

  Key definitions include:
    * `Expression.searchFrom`

  Main declarations:
    * `Search.exists_daysInMonth_of_days`
    * `Expression.exists_days`
    * `Expression.matches_of_admits`
    * `Expression.admits_of_matches`
    * `Expression.isFirst_matches_of_isFirst_admits`
-/

------------------------------------------------------------
-- Months With Selected Days
------------------------------------------------------------

namespace CronSchedule

namespace Calendar

variable (calendar : Calendar)
variable (year : Int)
variable (month : Nat)

/- A last weekday takes a last day. -/
theorem exists_daysInMonth_of_lastWeekday
    (weekday day : Nat)
    (hDay :
      calendar.lastWeekday year month weekday = .ok day) :
    ∃ length, calendar.daysInMonth year month =
      .ok length := by
  rcases exists_ok_of_bind _ _ _ hDay with
    ⟨length, hLength, _⟩
  exact ⟨length, hLength⟩

/- So does an n-th weekday that is there. -/
theorem exists_daysInMonth_of_nthWeekday
    (weekday count day : Nat)
    (hDay :
      calendar.nthWeekday year month weekday count =
        .ok (some day)) :
    ∃ length, calendar.daysInMonth year month =
      .ok length := by
  unfold nthWeekday at hDay
  rcases exists_ok_of_bind _ _ _ hDay with ⟨_, _, hDay⟩
  rcases exists_ok_of_bind _ _ _ hDay with ⟨_, _, hDay⟩
  rcases exists_ok_of_bind _ _ _ hDay with ⟨_, _, hDay⟩
  rcases exists_ok_of_bind _ _ _ hDay with ⟨_, _, hDay⟩
  split at hDay
  · cases hDay
  · rcases exists_ok_of_bind _ _ _ hDay with ⟨_, _, hDay⟩
    rcases exists_ok_of_bind _ _ _ hDay with ⟨_, _, hDay⟩
    rcases exists_ok_of_bind _ _ _ hDay with
      ⟨length, hLength, _⟩
    exact ⟨length, hLength⟩

end Calendar

namespace Field

/- A day-of-week field that selects a day. -/
theorem exists_daysInMonth_of_daysByWeekday
    (calendar : Calendar)
    (year : Int)
    (month day : Nat)
    (field : Field)
    (days : List Nat)
    (hFits : field.Fits .dayOfWeek)
    (hDays :
      field.daysByWeekday calendar year month = .ok days)
    (hDay : day ∈ days) :
    ∃ length, calendar.daysInMonth year month =
      .ok length := by
  cases field with
  | fixed weekdays =>
      rcases exists_ok_of_bind _ _ _ hDays with
        ⟨length, hLength, _⟩
      exact ⟨length, hLength⟩
  | unspecified =>
      cases hDays
      cases hDay
  | lastWeekday weekday =>
      rcases exists_ok_of_bind _ _ _ hDays with
        ⟨last, hLast, _⟩
      exact
        calendar.exists_daysInMonth_of_lastWeekday year
          month weekday last hLast
  | nthWeekday weekday count =>
      rcases exists_ok_of_bind _ _ _ hDays with
        ⟨day?, hOk, hDays⟩
      cases hDays
      cases day? with
      | none => cases hDay
      | some nth =>
          exact
            calendar.exists_daysInMonth_of_nthWeekday year
              month weekday count nth hOk
  | _ =>
      cases hFits

end Field

namespace Search

/- A month with a selected day has a length. -/
theorem exists_daysInMonth_of_days
    (search : Search)
    (year : Int)
    (month day : Nat)
    (days : List Nat)
    (hWellFormed : search.expression.WellFormed)
    (hDays : search.days year month = .ok days)
    (hDay : day ∈ days) :
    ∃ length,
      search.calendar.daysInMonth year month =
        .ok length := by
  unfold Search.days at hDays
  split at hDays
  · exact
      Field.exists_daysInMonth_of_daysByWeekday _ year month
        day _ days (hWellFormed.fits .dayOfWeek) hDays hDay
  · rcases exists_ok_of_bind _ _ _ hDays with
      ⟨length, hLength, _⟩
    exact ⟨length, hLength⟩

end Search

end CronSchedule

------------------------------------------------------------
-- Searches on Existing Dates
------------------------------------------------------------

namespace CronSchedule

namespace Expression

open Calendar

/- The search on the calendar of the existing dates. -/
def searchFrom
    (expression : Expression)
    (origin : Instant) : Search :=
  { calendar := gregorian, expression, origin }

variable (expression : Expression)
variable (origin : Instant)

/- The days of a month are those that the fields hold of. -/
theorem exists_days
    (date : Date)
    (hWellFormed : expression.WellFormed)
    (hMonth : HasMonth date.year date.month) :
    ∃ days,
      (expression.searchFrom origin).days date.year
            date.month = .ok days ∧
        (date.day ∈ days ↔ expression.AllowsDay date) := by
  have hOneDay := hWellFormed.oneDayField
  unfold Search.days AllowsDay
  change
    ∃ days,
      (if expression.dayOfMonth.isUnspecified then
          expression.dayOfWeek.daysByWeekday gregorian
            date.year date.month
        else
          expression.dayOfMonth.daysByNumber gregorian
            date.year date.month) =
          .ok days ∧
        _
  by_cases hNumber : expression.dayOfMonth = .unspecified
  · have hWeekday := hOneDay.mp hNumber
    rcases Field.daysByWeekday_gregorian expression.dayOfWeek
        date hMonth (hWellFormed.fits .dayOfWeek) hWeekday
      with ⟨days, hDays, hMem⟩
    refine ⟨days, ?_, ?_⟩
    · rw [hNumber]
      exact hDays
    · simp [hNumber, hWeekday, hMem]
  · have hWeekday : expression.dayOfWeek = .unspecified := by
      apply Classical.byContradiction
      intro hWeekday
      exact hNumber (hOneDay.mpr hWeekday)
    rcases Field.daysByNumber_gregorian expression.dayOfMonth
        date hMonth (hWellFormed.fits .dayOfMonth) hNumber
      with ⟨days, hDays, hMem⟩
    refine ⟨days, ?_, ?_⟩
    · have hOther :
          expression.dayOfMonth.isUnspecified = false := by
        cases hField : expression.dayOfMonth with
        | unspecified => exact absurd hField hNumber
        | _ => rfl
      rw [hOther]
      exact hDays
    · simp [hNumber, hWeekday, hMem]

theorem hasMonth_of_admits
    (instant : Instant)
    (hWellFormed : expression.WellFormed)
    (hAdmits :
      (expression.searchFrom origin).Admits instant) :
    HasMonth instant.date.year instant.date.month := by
  rcases hAdmits.day with ⟨days, hDays, hDay⟩
  rcases Search.exists_daysInMonth_of_days _ _ _ _ days
    hWellFormed hDays hDay with ⟨length, hLength⟩
  exact
    hasMonth_of_gregorianDaysInMonth instant.date.year
      instant.date.month length hLength

/- What is admitted matches. -/
theorem matches_of_admits
    (instant : Instant)
    (hWellFormed : expression.WellFormed)
    (hAdmits :
      (expression.searchFrom origin).Admits instant) :
    expression.Matches instant := by
  have hMonth :=
    hasMonth_of_admits expression origin instant hWellFormed
      hAdmits
  rcases exists_days expression origin instant.date
    hWellFormed hMonth with ⟨days, hDays, hMem⟩
  rcases hAdmits.day with ⟨others, hOthers, hDay⟩
  rw [hDays] at hOthers
  cases hOthers
  exact ⟨hAdmits.time, hMem.mp hDay⟩

/- What matches before the last month is admitted. -/
theorem admits_of_matches
    (instant : Instant)
    (hWellFormed : expression.WellFormed)
    (hMonth :
      HasMonth instant.date.year instant.date.month)
    (hMatches : expression.Matches instant) :
    (expression.searchFrom origin).Admits instant := by
  rcases exists_days expression origin instant.date
    hWellFormed hMonth with ⟨days, hDays, hMem⟩
  exact
    ⟨hMatches.time, days, hDays, hMem.mpr hMatches.day⟩

/- All months up to one of the calendar are of it. -/
theorem hasMonth_of_not_lt
    (date other : Date)
    (hMonth : HasMonth date.year date.month)
    (hOther : ¬ date < other) :
    HasMonth other.year other.month := by
  have hExists := other.wellFormed
  have hBounds := other.month_bounds
  have hOtherDay := other.day_bounds
  have hDay := date.day_bounds
  rw [Date.lt_iff_rank_lt] at hOther
  unfold Date.rank Date.monthIndex at hOther
  unfold HasMonth at hMonth ⊢
  unfold Date.Exists at hExists
  omega

/- The first admitted instant is the first match. -/
theorem isFirst_matches_of_isFirst_admits
    (first : Instant)
    (hWellFormed : expression.WellFormed)
    (hFirst :
      Instant.IsFirst
        (expression.searchFrom origin).Admits origin
        first) :
    Instant.IsFirst expression.Matches origin first := by
  refine ⟨?_, hFirst.after, ?_⟩
  · exact
      matches_of_admits expression origin first hWellFormed
        hFirst.holds
  · intro other hOther hAfter hLess
    have hMonth :=
      hasMonth_of_not_lt first.date other.date
        (hasMonth_of_admits expression origin first
          hWellFormed hFirst.holds)
        (Instant.not_date_lt_of_lt hLess)
    exact
      hFirst.least other
        (admits_of_matches expression origin other
          hWellFormed hMonth hOther)
        hAfter hLess

end Expression

end CronSchedule
