import CronSchedule.Proofs.Calendar.Extension
import CronSchedule.Proofs.Occurrence.Loop

/-
  A search within the supported range returns.  It asks its
  calendar for nothing but the months and the weekdays of
  existing dates, and no move leads out of their range.

  Main declarations:
    * `Search.Runs.onCalendar`
    * `Search.next_onCalendar`
    * `Search.step_ne_rangeLeft`
    * `Expression.nextAfter_returns`
-/

------------------------------------------------------------
-- The Same Run on Another Calendar
------------------------------------------------------------

namespace CronSchedule

namespace Search

variable {search : Search}
variable {calendar : Calendar}
variable (hExtended : search.calendar.ExtendedBy calendar)

include hExtended

/- As long as the calendar answers, it goes the same way. -/
theorem stepInMonth_onCalendar
    (timetable : Timetable)
    (cursor : Date)
    (hAnswers :
      ∀ fault, search.stepInMonth timetable cursor ≠
        .stop (.failed fault)) :
    (search.onCalendar calendar).stepInMonth timetable
        cursor =
      search.stepInMonth timetable cursor := by
  cases hDays : search.days cursor.year cursor.month with
  | error fault =>
      apply absurd _ (hAnswers fault)
      unfold stepInMonth
      rw [hDays]
  | ok days =>
      have hSame :=
        search.days_onCalendar calendar hExtended
          cursor.year cursor.month days hDays
      unfold stepInMonth
      rw [hDays, hSame]
      rfl

theorem stepInYear_onCalendar
    (timetable : Timetable)
    (cursor : Date)
    (hAnswers :
      ∀ fault, search.stepInYear timetable cursor ≠
        .stop (.failed fault)) :
    (search.onCalendar calendar).stepInYear timetable
        cursor =
      search.stepInYear timetable cursor := by
  unfold stepInYear at hAnswers ⊢
  split
  · rename_i hMonth
    rw [if_pos hMonth] at hAnswers
    exact
      stepInMonth_onCalendar hExtended timetable cursor
        hAnswers
  · rfl

theorem step_onCalendar
    (timetable : Timetable)
    (cursor : Date)
    (hAnswers :
      ∀ fault, search.step timetable cursor ≠
        .stop (.failed fault)) :
    (search.onCalendar calendar).step timetable cursor =
      search.step timetable cursor := by
  unfold step at hAnswers ⊢
  rw [expression_onCalendar]
  cases hYear : search.expression.year.values? with
  | none =>
      rw [hYear] at hAnswers
      exact
        stepInYear_onCalendar hExtended timetable cursor
          hAnswers
  | some years =>
      rw [hYear] at hAnswers
      dsimp only at hAnswers ⊢
      split
      · rename_i hHas
        rw [if_pos hHas] at hAnswers
        exact
          stepInYear_onCalendar hExtended timetable cursor
            hAnswers
      · rfl

variable {timetable : Timetable}
variable {cursor : Instant}
variable {cursors : List Instant}
variable {trail : Trail}

theorem Loop.onCalendar
    (hLoop : search.Loop timetable cursor cursors trail)
    (hAnswers : ∀ fault, trail.ending ≠ .failed fault) :
    (search.onCalendar calendar).Loop timetable cursor
      cursors trail := by
  induction hLoop with
  | reached hReached => exact Loop.reached hReached
  | @stop cursor ending hBefore hStop =>
      have hSame :
          (search.onCalendar calendar).step timetable
              cursor.date =
            .stop ending := by
        rw [step_onCalendar hExtended, hStop]
        intro fault hFault
        rw [hStop] at hFault
        cases hFault
        exact hAnswers fault rfl
      exact Loop.stop hBefore hSame
  | @move cursor move target _ _ hBefore hMove _ ih =>
      have hSame :
          (search.onCalendar calendar).step timetable
              cursor.date =
            .move move target := by
        rw [step_onCalendar hExtended, hMove]
        intro fault hFault
        rw [hMove] at hFault
        cases hFault
      exact Loop.move hBefore hSame (ih hAnswers)

theorem Runs.onCalendar
    (hRuns : search.Runs cursors trail)
    (hAnswers : ∀ fault, trail.ending ≠ .failed fault) :
    (search.onCalendar calendar).Runs cursors trail := by
  have hTimes :=
    search.timetable_onCalendar calendar hExtended
  cases hRuns with
  | noTimetable _ => exact absurd rfl (hAnswers _)
  | noStart hTimetable hStart =>
      exact Runs.noStart (hTimes _ hTimetable) hStart
  | loop hTimetable hStart hLoop =>
      exact
        Runs.loop (hTimes _ hTimetable) hStart
          (hLoop.onCalendar hExtended hAnswers)

/- An answer on the calendar is one on the other. -/
theorem next_onCalendar :
    CarriesOver search.next
      (search.onCalendar calendar).next := by
  intro answer hNext
  rcases search.exists_runs with ⟨cursors, hRuns⟩
  have hSame :=
    hRuns.onCalendar hExtended
      (hRuns.ending_ne_failed hNext)
  rw [hSame.next_eq, ← hRuns.next_eq, hNext]

end Search

end CronSchedule

------------------------------------------------------------
-- Moves Within the Range
------------------------------------------------------------

namespace CronSchedule

namespace Search

/- Every month of the range has a first day to move to. -/
theorem moveTo_ne_rangeLeft
    (build : Date → Move)
    (year : Int)
    (month : Nat)
    (hYear : Date.firstYear ≤ year ∧ year ≤ Date.lastYear)
    (hMonth : 1 ≤ month ∧ month ≤ 12) :
    Step.moveTo build (Date.firstOf? year month) ≠
      .stop .rangeLeft := by
  have hLength :=
    Date.monthLength_bounds year month hMonth.1 hMonth.2
  have hExists : Date.Exists year month 1 := by
    unfold Date.Exists
    omega
  rcases Date.exists_of?_eq_some year month 1 hExists with
    ⟨first, hFirst, _⟩
  unfold Date.firstOf?
  rw [hFirst]
  intro hStop
  cases hStop

theorem stepPastMonth_ne_rangeLeft
    (cursor : Date)
    (hYear : cursor.year < Date.lastYear) :
    stepPastMonth cursor.year cursor.month ≠
      .stop .rangeLeft := by
  have hExists := cursor.wellFormed
  unfold Date.Exists at hExists
  unfold stepPastMonth
  split
  · exact
      moveTo_ne_rangeLeft _ (cursor.year + 1) 1 (by omega)
        (by omega)
  · exact
      moveTo_ne_rangeLeft _ cursor.year (cursor.month + 1)
        (by omega) (by omega)

theorem stepToMonth_ne_rangeLeft
    (months : List Nat)
    (cursor : Date)
    (hMonths : ∀ month ∈ months, 1 ≤ month ∧ month ≤ 12)
    (hYear : cursor.year < Date.lastYear) :
    stepToMonth months cursor.year cursor.month ≠
      .stop .rangeLeft := by
  have hExists := cursor.wellFormed
  unfold Date.Exists at hExists
  unfold stepToMonth
  dsimp only
  split
  · rename_i later hLater
    exact
      moveTo_ne_rangeLeft _ cursor.year later (by omega)
        (hMonths later (List.mem_of_find?_eq_some hLater))
  · exact
      moveTo_ne_rangeLeft _ (cursor.year + 1) 1 (by omega)
        (by omega)

/- The years of a year field are within the range. -/
theorem stepToYear_ne_rangeLeft
    (years : ValueSet)
    (year : Int)
    (hYears : Field.Kind.year.AllowsSet years) :
    stepToYear years year ≠ .stop .rangeLeft := by
  unfold stepToYear
  split
  · intro hStop
    cases hStop
  · rename_i target hTarget
    have hBounds :=
      hYears.2 target (List.mem_of_find?_eq_some hTarget)
    have hFirst : firstYear ≤ target := hBounds.1
    have hLast : target ≤ lastYear := hBounds.2
    unfold firstYear at hFirst
    unfold lastYear at hLast
    apply moveTo_ne_rangeLeft
    · unfold Date.firstYear Date.lastYear
      omega
    · omega

variable {search : Search}
variable {timetable : Timetable}

theorem stepInYear_ne_rangeLeft
    (cursor : Date)
    (hMonths :
      ∀ month ∈ timetable.months, 1 ≤ month ∧ month ≤ 12)
    (hYear : cursor.year < Date.lastYear) :
    search.stepInYear timetable cursor ≠
      .stop .rangeLeft := by
  unfold stepInYear
  split
  · unfold stepInMonth
    split
    · intro hStop
      cases hStop
    · dsimp only
      split
      · intro hStop
        cases hStop
      · exact stepPastMonth_ne_rangeLeft cursor hYear
  · exact
      stepToMonth_ne_rangeLeft timetable.months cursor
        hMonths hYear

/-
  In a year that the expression allows, a step needs the
  start of the next year.  From any other year it goes to
  one that the expression allows.
-/
theorem step_ne_rangeLeft
    (cursor : Date)
    (hWellFormed : search.expression.WellFormed)
    (hTimetable : timetable.IsOf search.expression)
    (hYear :
      search.expression.AllowsYear cursor.year →
        cursor.year < Date.lastYear) :
    search.step timetable cursor ≠ .stop .rangeLeft := by
  unfold step
  rcases hWellFormed.year_cases with hAny | ⟨years, hYears⟩
  · rw [hAny]
    exact
      stepInYear_ne_rangeLeft cursor hTimetable.isMonth
        (hYear (Or.inl hAny))
  · have hAllowed := allowsYear_iff_hasYear
      search.expression years cursor.year hYears
    rw [hYears]
    dsimp only [Field.values?]
    split
    · rename_i hHas
      exact
        stepInYear_ne_rangeLeft cursor hTimetable.isMonth
          (hYear (hAllowed.mpr hHas))
    · have hFits := hWellFormed.fits .year
      change search.expression.year.Fits .year at hFits
      rw [hYears, Field.fits_fixed] at hFits
      exact stepToYear_ne_rangeLeft years cursor.year hFits

variable {cursor : Instant}
variable {cursors : List Instant}
variable {trail : Trail}

theorem Loop.ending_ne_rangeLeft
    (hLoop : search.Loop timetable cursor cursors trail)
    (hWellFormed : search.expression.WellFormed)
    (hTimetable : timetable.IsOf search.expression)
    (hRange :
      search.expression.year = .anyYear →
        search.origin.date.year ≤ 262137) :
    trail.ending ≠ .rangeLeft := by
  -- The ending is that of the last step, before the horizon.
  induction hLoop with
  | reached _ =>
      intro hEnding
      cases hEnding
  | @stop cursor ending hBefore hStop =>
      rintro rfl
      rw [Expression.horizon_eq_searchLimit search
        hWellFormed] at hBefore
      apply
        step_ne_rangeLeft cursor.date hWellFormed hTimetable
          _ hStop
      intro hYear
      exact
        Expression.year_lt_of_lt_searchLimit
          search.expression search.origin cursor hWellFormed
          hRange hYear hBefore
  | move _ _ _ ih => exact ih

/- Only a search from the very end leaves the range. -/
theorem Runs.addSecond?_eq_none
    (hRuns : search.Runs cursors trail)
    (hWellFormed : search.expression.WellFormed)
    (hRange :
      search.expression.year = .anyYear →
        search.origin.date.year ≤ 262137)
    (hLeft : trail.ending = .rangeLeft) :
    search.origin.addSecond? = none := by
  cases hRuns with
  | noTimetable _ => cases hLeft
  | noStart _ hStart => exact hStart
  | loop hTimetable _ hLoop =>
      rcases exists_timetable search hWellFormed with
        ⟨timetable, hSame, hIsOf⟩
      rw [hTimetable] at hSame
      cases hSame
      exact
        absurd hLeft
          (hLoop.ending_ne_rangeLeft hWellFormed hIsOf
            hRange)

end Search

end CronSchedule

------------------------------------------------------------
-- Searches Return
------------------------------------------------------------

namespace CronSchedule

namespace Expression

open Calendar

/- Within the supported range there is an answer. -/
theorem exists_nextAfter
    (expression : Expression)
    (origin : Instant)
    (hWellFormed : expression.WellFormed)
    (hRange :
      expression.year = .anyYear →
        origin.date.year ≤ 262137) :
    ∃ answer,
      expression.nextAfter gregorian origin =
        .ok answer := by
  rcases next_cases expression origin hWellFormed hRange
    with ⟨first, hNext, _⟩ | ⟨hNext, _⟩
  · exact ⟨some first, hNext⟩
  · exact ⟨none, hNext⟩

/-
  With an explicit year, or up to the year 262137, there is
  an answer.  No calendar is asked for more than the lengths
  of the months of dates and the weekdays of dates, so that
  all calendars that know these give the same answer.
-/
theorem nextAfter_returns
    (text : String)
    (expression : Expression)
    (origin : Instant)
    (hParse : parse text = .ok expression)
    (hRange :
      expression.year = .anyYear →
        origin.date.year ≤ 262137) :
    ∃ cursors trail answer,
      (expression.searchFrom origin).Runs cursors trail ∧
        (trail.ending = .rangeLeft →
          origin.addSecond? = none) ∧
        (∀ cursor ∈ cursors,
          cursor.date.year + 1 ≤ greatestYear) ∧
        expression.nextAfter gregorian origin =
          .ok answer ∧
        ∀ calendar, calendar.KnowsDates →
          Search.Runs { calendar, expression, origin }
              cursors trail ∧
            expression.nextAfter calendar origin =
              .ok answer := by
  have hWellFormed :=
    wellFormed_of_parse text expression hParse
  rcases
    exists_nextAfter expression origin hWellFormed hRange
    with ⟨answer, hNext⟩
  rcases (expression.searchFrom origin).exists_runs with
    ⟨cursors, hRuns⟩
  refine
    ⟨cursors, _, answer, hRuns,
      hRuns.addSecond?_eq_none hWellFormed hRange, ?_,
      hNext, ?_⟩
  · intro cursor _
    have hExists := cursor.date.wellFormed
    unfold Date.Exists Date.lastYear at hExists
    unfold greatestYear
    omega
  · intro calendar hKnows
    have hExtended :
        (expression.searchFrom origin).calendar.ExtendedBy
          calendar :=
      hKnows.extends
    exact
      ⟨hRuns.onCalendar hExtended
          (hRuns.ending_ne_failed hNext),
        Search.next_onCalendar hExtended answer hNext⟩

def endOfYear262137 : Instant :=
  ⟨⟨262137, 12, 31, by decide⟩, ⟨23, 59, 59, 0, by decide⟩⟩

/- All the way to the year before the last one. -/
theorem nextAfter_returns_endOfYear262137 :
    noonOnSixthSunday.nextAfter gregorian endOfYear262137 =
        .ok none ∧
      ∃ cursors trail,
        (noonOnSixthSunday.searchFrom endOfYear262137).Runs
            cursors trail ∧
          trail.ending ≠ .rangeLeft := by
  refine ⟨rfl, ?_⟩
  rcases
    nextAfter_returns "0 0 12 ? * 1#6" noonOnSixthSunday
      endOfYear262137 rfl (fun _ => by decide) with
    ⟨cursors, trail, _, hRuns, hLeft, _⟩
  refine ⟨cursors, trail, hRuns, ?_⟩
  intro hEnding
  cases hLeft hEnding

end Expression

end CronSchedule
