import CronSchedule.Occurrence.Progress
import CronSchedule.Proofs.Occurrence.Candidates

/-
  What one step of a search tells about the admitted
  instants after the origin.  A move leaves none of them
  behind, and an ending is the right one.

  Key definitions include:
    * `Search.Pending`
    * `Search.IsCursor`
    * `Search.Step.IsSound`

  Main declarations:
    * `Search.isSound_of_moveTo`
    * `Search.isFirst_of_firstOnDays?`
    * `Search.isSound_of_step`
-/

------------------------------------------------------------
-- Sound Steps
------------------------------------------------------------

namespace CronSchedule

namespace Search

/- The instant is admitted and comes after the origin. -/
def Pending
    (search : Search)
    (instant : Instant) : Prop :=
  search.Admits instant ∧ search.origin < instant

/- The search has reached the date and left nothing behind. -/
structure IsCursor
    (search : Search)
    (date : Date) : Prop where
  notBefore : ¬ date < search.origin.date
  nothingBefore :
    ∀ instant, search.Pending instant →
      ¬ instant.date < date

/- What a step at a cursor may say, and be right. -/
def Step.IsSound
    (search : Search)
    (cursor : Date) : Step → Prop
| .move _ target => search.IsCursor target
| .stop (.found instant) =>
    Instant.IsFirst search.Admits search.origin instant ∧
      cursor.SharesMonth instant.date
| .stop (.noLaterYear _) =>
    ∀ instant, ¬ search.Pending instant
| .stop .rangeLeft =>
    ∀ instant, ¬ search.Pending instant
| .stop .horizonReached => False
| .stop (.failed fault) =>
    search.days cursor.year cursor.month = .error fault ∧
      search.expression.AllowsYear cursor.year

end Search

end CronSchedule

------------------------------------------------------------
-- Moves to the First Day of a Month
------------------------------------------------------------

namespace CronSchedule

namespace Search

variable (search : Search)
variable (cursor : Date)

/-
  A move to a later month is sound if it skips no month with
  a pending instant.  If there is no such month within the
  range of dates, then nothing is pending.
-/
theorem isSound_of_moveTo
    (build : Date → Move)
    (year : Int)
    (month : Nat)
    (hCursor : search.IsCursor cursor)
    (hMonth : 1 ≤ month ∧ month ≤ 12)
    (hLater :
      cursor.monthIndex < year * 12 + month - 1)
    (hSkipped :
      ∀ instant, search.Pending instant →
        year * 12 + month - 1 ≤ instant.date.monthIndex) :
    Step.IsSound search cursor
      (.moveTo build (Date.firstOf? year month)) := by
  have hBounds := cursor.wellFormed
  have hCursorMonth := cursor.month_bounds
  unfold Date.Exists at hBounds
  unfold Date.monthIndex at hLater
  cases hTarget : Date.firstOf? year month with
  | none =>
      intro instant hPending
      have hInstant := instant.date.wellFormed
      have hIndex := hSkipped instant hPending
      have hLength :=
        Date.monthLength_bounds year month hMonth.1 hMonth.2
      unfold Date.firstOf? at hTarget
      rw [Date.of?_eq_none_iff] at hTarget
      unfold Date.Exists at hTarget hInstant
      unfold Date.monthIndex at hIndex
      omega
  | some target =>
      have hIndex :=
        (Date.monthIndex_of_firstOf? year month target
          hTarget).1
      have hNumbers :=
        (Date.of?_eq_some_iff year month 1 target).mp
          hTarget
      have hCursorDay := cursor.day_bounds
      constructor
      · have hNotBefore := hCursor.notBefore
        rw [Date.lt_iff_rank_lt] at hNotBefore ⊢
        unfold Date.rank at hNotBefore ⊢
        unfold Date.monthIndex at hNotBefore hIndex ⊢
        omega
      · intro instant hPending
        have hInstant := hSkipped instant hPending
        have hDay := instant.date.day_bounds
        rw [Date.lt_iff_rank_lt]
        unfold Date.rank
        rw [hIndex, hNumbers.2.2]
        omega

/- A pending instant is not in a month before the cursor. -/
theorem IsCursor.monthIndex_le
    {search : Search}
    {cursor : Date}
    (hCursor : search.IsCursor cursor)
    {instant : Instant}
    (hPending : search.Pending instant) :
    cursor.monthIndex ≤ instant.date.monthIndex :=
  Date.monthIndex_le_of_not_lt
    (hCursor.nothingBefore instant hPending)

/- What is pending and not in this month comes later. -/
theorem isSound_of_stepPastMonth
    (hCursor : search.IsCursor cursor)
    (hMonth :
      ∀ instant, search.Pending instant →
        ¬ cursor.SharesMonth instant.date) :
    Step.IsSound search cursor
      (stepPastMonth cursor.year cursor.month) := by
  have hBounds := cursor.month_bounds
  have hSkipped (instant : Instant)
      (hPending : search.Pending instant) :
      cursor.monthIndex < instant.date.monthIndex := by
    have hNotBefore := hCursor.monthIndex_le hPending
    have hOther := hMonth instant hPending
    have hDiffer :
        instant.date.monthIndex ≠ cursor.monthIndex :=
      fun hSame =>
        hOther (Date.month_eq_of_monthIndex_eq hSame)
    omega
  unfold Date.monthIndex at hSkipped
  unfold stepPastMonth
  split
  · apply isSound_of_moveTo search cursor _ _ _ hCursor
    · omega
    · unfold Date.monthIndex
      omega
    · intro instant hPending
      have hAfter := hSkipped instant hPending
      unfold Date.monthIndex
      omega
  · apply isSound_of_moveTo search cursor _ _ _ hCursor
    · omega
    · unfold Date.monthIndex
      omega
    · intro instant hPending
      have hAfter := hSkipped instant hPending
      unfold Date.monthIndex
      omega

/- No element with a property is before the first found. -/
theorem le_of_find?
    (numbers : List Nat)
    (accept : Nat → Bool)
    (first : Nat)
    (hAscending : numbers.Pairwise (· < ·))
    (hFirst : numbers.find? accept = some first) :
    ∀ other ∈ numbers, accept other → first ≤ other := by
  intro other hOther hAccept
  rcases List.find?_eq_some_iff_append.mp hFirst with
    ⟨_, before, after, rfl, hBefore⟩
  rcases List.mem_append.mp hOther with hMem | hMem
  · have hReject := hBefore other hMem
    rw [hAccept] at hReject
    cases hReject
  · rcases List.mem_cons.mp hMem with rfl | hAfter
    · exact Nat.le_refl other
    · have hOrder := List.pairwise_append.mp hAscending
      exact
        Nat.le_of_lt
          ((List.pairwise_cons.mp hOrder.2.1).1 other
            hAfter)

end Search

end CronSchedule

------------------------------------------------------------
-- Steps to Other Months and Years
------------------------------------------------------------

namespace CronSchedule

namespace Search

variable (search : Search)
variable (cursor : Date)

/- The months in between are not on the list. -/
theorem isSound_of_stepToMonth
    (timetable : Timetable)
    (hTimetable : timetable.IsOf search.expression)
    (hCursor : search.IsCursor cursor)
    (hMonth : cursor.month ∉ timetable.months) :
    Step.IsSound search cursor
      (stepToMonth timetable.months cursor.year
        cursor.month) := by
  have hListed (instant : Instant)
      (hPending : search.Pending instant) :
      instant.date.month ∈ timetable.months ∧
        instant.date.month ≠ cursor.month := by
    have hMem :=
      (hTimetable.mem_months _).mpr hPending.1.time.month
    refine ⟨hMem, ?_⟩
    intro hSame
    rw [hSame] at hMem
    exact hMonth hMem
  unfold stepToMonth
  cases hFind :
      timetable.months.find?
        (fun other => cursor.month < other) with
  | none =>
      have hNone := List.find?_eq_none.mp hFind
      apply isSound_of_moveTo search cursor _ _ _ hCursor
      · omega
      · have hBounds := cursor.month_bounds
        unfold Date.monthIndex
        omega
      · intro instant hPending
        have hInstant := hListed instant hPending
        have hOther := hInstant.2
        have hReject := hNone _ hInstant.1
        have hIndex := hCursor.monthIndex_le hPending
        have hBounds := instant.date.month_bounds
        simp only [decide_eq_true_eq] at hReject
        unfold Date.monthIndex at hIndex ⊢
        omega
  | some later =>
      have hLater := List.find?_some hFind
      have hMem := List.mem_of_find?_eq_some hFind
      have hIsMonth := hTimetable.isMonth later hMem
      simp only [decide_eq_true_eq] at hLater
      apply isSound_of_moveTo search cursor _ _ _ hCursor
      · exact hIsMonth
      · unfold Date.monthIndex
        omega
      · intro instant hPending
        have hInstant := hListed instant hPending
        have hOther := hInstant.2
        have hLeast :=
          le_of_find? _ _ later hTimetable.months hFind _
            hInstant.1
        have hIndex := hCursor.monthIndex_le hPending
        have hBounds := instant.date.month_bounds
        have hCursorMonth := cursor.month_bounds
        simp only [decide_eq_true_eq] at hLeast
        unfold Date.monthIndex at hIndex ⊢
        omega

/- An explicit year field allows the years of its set. -/
theorem allowsYear_iff_hasYear
    (expression : Expression)
    (years : ValueSet)
    (year : Int)
    (hYears : expression.year = .fixed years) :
    expression.AllowsYear year ↔ HasYear years year := by
  unfold Expression.AllowsYear HasYear
  rw [hYears]
  constructor
  · rintro (hAny | ⟨number, hHas, rfl⟩)
    · cases hAny
    · exact ⟨by omega, (Field.has_fixed years _).mp hHas⟩
  · rintro ⟨hPositive, hMem⟩
    right
    refine ⟨year.toNat, ?_, by omega⟩
    exact (Field.has_fixed years _).mpr hMem

/- The years in between are not in the set. -/
theorem isSound_of_stepToYear
    (years : ValueSet)
    (hYears : search.expression.year = .fixed years)
    (hCursor : search.IsCursor cursor)
    (hYear : ¬ HasYear years cursor.year) :
    Step.IsSound search cursor
      (stepToYear years cursor.year) := by
  have hListed (instant : Instant)
      (hPending : search.Pending instant) :
      instant.date.year.toNat ∈ years.toList ∧
        0 ≤ instant.date.year ∧
          cursor.year < instant.date.year := by
    have hHas :=
      (allowsYear_iff_hasYear _ years _ hYears).mp
        hPending.1.time.year
    have hIndex := hCursor.monthIndex_le hPending
    have hBounds := cursor.month_bounds
    have hOther := instant.date.month_bounds
    have hDiffer : instant.date.year ≠ cursor.year := by
      intro hSame
      rw [hSame] at hHas
      exact hYear hHas
    unfold Date.monthIndex at hIndex
    exact ⟨hHas.2, hHas.1, by omega⟩
  unfold stepToYear ValueSet.firstFrom?
  cases hFind :
      years.toList.find?
        (fun number =>
          (cursor.year + 1).toNat ≤ number) with
  | none =>
      have hNone := List.find?_eq_none.mp hFind
      intro instant hPending
      have hInstant := hListed instant hPending
      have hReject := hNone _ hInstant.1
      simp only [decide_eq_true_eq] at hReject
      omega
  | some target =>
      have hLater := List.find?_some hFind
      simp only [decide_eq_true_eq] at hLater
      apply isSound_of_moveTo search cursor _ _ _ hCursor
      · omega
      · have hBounds := cursor.month_bounds
        unfold Date.monthIndex
        omega
      · intro instant hPending
        have hInstant := hListed instant hPending
        have hLeast :=
          le_of_find? _ _ target years.ascending hFind _
            hInstant.1
        have hBounds := instant.date.month_bounds
        simp only [decide_eq_true_eq] at hLeast
        unfold Date.monthIndex
        omega

end Search

end CronSchedule

------------------------------------------------------------
-- Steps Within a Month
------------------------------------------------------------

namespace CronSchedule

namespace Search

variable (search : Search)
variable (cursor : Date)

/- The instants on a date of the month of the cursor. -/
theorem not_before_of_day_le
    (date : Date)
    (hCursor : search.IsCursor cursor)
    (hSame : cursor.SharesMonth date)
    (hDay : cursor.day ≤ date.day) :
    ¬ date < search.origin.date := by
  have hNotBefore := hCursor.notBefore
  rw [Date.lt_iff_rank_lt] at hNotBefore ⊢
  unfold Date.rank Date.monthIndex at hNotBefore ⊢
  rw [hSame.1, hSame.2]
  omega

/- A pending instant of this month is on a later day. -/
theorem day_le_of_pending
    (instant : Instant)
    (hCursor : search.IsCursor cursor)
    (hPending : search.Pending instant)
    (hSame : cursor.SharesMonth instant.date) :
    cursor.day ≤ instant.date.day := by
  have hNotBefore :=
    hCursor.nothingBefore instant hPending
  rw [Date.lt_iff_rank_lt] at hNotBefore
  unfold Date.rank Date.monthIndex at hNotBefore
  rw [hSame.1, hSame.2] at hNotBefore
  omega

/- What is pending up to a date of this month is in it. -/
theorem sharesMonth_of_not_lt
    (date : Date)
    (instant : Instant)
    (hCursor : search.IsCursor cursor)
    (hPending : search.Pending instant)
    (hSame : cursor.SharesMonth date)
    (hNotLater : ¬ date < instant.date) :
    cursor.SharesMonth instant.date ∧
      instant.date.day ≤ date.day := by
  have hIndex := hCursor.monthIndex_le hPending
  have hDateIndex := Date.monthIndex_of_sharesMonth hSame
  have hDay := date.day_bounds
  have hInstantDay := instant.date.day_bounds
  rw [Date.lt_iff_rank_lt] at hNotLater
  unfold Date.rank at hNotLater
  have hSameIndex :
      instant.date.monthIndex = cursor.monthIndex := by
    omega
  refine ⟨Date.month_eq_of_monthIndex_eq hSameIndex, ?_⟩
  omega

/- A day without an answer has nothing pending. -/
theorem not_pending_of_day
    (timetable : Timetable)
    (hTimetable : timetable.IsOf search.expression)
    (instant : Instant)
    (hCursor : search.IsCursor cursor)
    (hSame : cursor.SharesMonth instant.date)
    (hNone :
      (Date.of? cursor.year cursor.month
          instant.date.day).bind
        (fun date =>
          firstTimeOn? date search.origin timetable.hours
            timetable.minutes timetable.seconds) =
        none) :
    ¬ search.Pending instant := by
  intro hPending
  have hDate :=
    (Date.of?_eq_some_iff cursor.year cursor.month
      instant.date.day instant.date).mpr
      ⟨hSame.1, hSame.2, rfl⟩
  rw [hDate] at hNone
  have hDay :=
    day_le_of_pending search cursor instant hCursor hPending
      hSame
  exact
    not_lt_of_firstTimeOn?_eq_none search.origin instant _ _
      _
      (not_before_of_day_le search cursor instant.date
        hCursor hSame hDay)
      hTimetable.hours hTimetable.minutes hTimetable.seconds
      (hTimetable.isListed hPending.1.time) hNone
      hPending.2

/- The day of a pending instant of this month is looked at. -/
theorem mem_laterDays_of_pending
    (days : List Nat)
    (instant : Instant)
    (hCursor : search.IsCursor cursor)
    (hDays :
      search.days cursor.year cursor.month = .ok days)
    (hPending : search.Pending instant)
    (hSame : cursor.SharesMonth instant.date) :
    instant.date.day ∈
      days.filter fun day => cursor.day ≤ day := by
  rcases hPending.1.day with ⟨others, hOthers, hMem⟩
  rw [hSame.1, hSame.2, hDays] at hOthers
  cases hOthers
  have hDay :=
    day_le_of_pending search cursor instant hCursor hPending
      hSame
  exact List.mem_filter.mpr ⟨hMem, by simpa using hDay⟩

/- A listed time on a selected day of this month. -/
theorem admits_of_isListed
    (timetable : Timetable)
    (hTimetable : timetable.IsOf search.expression)
    (days : List Nat)
    (instant : Instant)
    (hYear : search.expression.AllowsYear cursor.year)
    (hMonth : cursor.month ∈ timetable.months)
    (hDays :
      search.days cursor.year cursor.month = .ok days)
    (hSame : cursor.SharesMonth instant.date)
    (hDay : instant.date.day ∈ days)
    (hListed :
      instant.time.IsListed timetable.hours
        timetable.minutes timetable.seconds) :
    search.Admits instant := by
  constructor
  · exact
      { whole := hListed.1
        second :=
          (hTimetable.mem_seconds _).mp hListed.2.2.2
        minute :=
          (hTimetable.mem_minutes _).mp hListed.2.2.1
        hour := (hTimetable.mem_hours _).mp hListed.2.1
        month := by
          rw [hSame.2]
          exact (hTimetable.mem_months _).mp hMonth
        year := by
          rw [hSame.1]
          exact hYear }
  · refine ⟨days, ?_, hDay⟩
    rw [hSame.1, hSame.2]
    exact hDays

/-
  The answer is the first pending instant: an earlier one is
  on the same day, where the answer is the first, or on an
  earlier day, which had no answer.
-/
theorem isFirst_of_firstOnDays?
    (timetable : Timetable)
    (hTimetable : timetable.IsOf search.expression)
    (days : List Nat)
    (instant : Instant)
    (hCursor : search.IsCursor cursor)
    (hYear : search.expression.AllowsYear cursor.year)
    (hMonth : cursor.month ∈ timetable.months)
    (hDays :
      search.days cursor.year cursor.month = .ok days)
    (hFound :
      search.firstOnDays? timetable cursor.year cursor.month
          (days.filter fun day => cursor.day ≤ day) =
        some instant) :
    Instant.IsFirst search.Admits search.origin instant ∧
      cursor.SharesMonth instant.date := by
  have hAscending :=
    (search.ascending_of_days _ _ days hDays).filter
      fun day => cursor.day ≤ day
  rcases least_of_findSome? _ _ instant hAscending hFound
    with ⟨day, hDay, hFirst, hEarlier⟩
  rcases Option.bind_eq_some_iff.mp hFirst with
    ⟨date, hDate, hFirst⟩
  have hNumbers :=
    (Date.of?_eq_some_iff _ _ _ date).mp hDate
  have hSameMonth : cursor.SharesMonth date :=
    ⟨hNumbers.1, hNumbers.2.1⟩
  rcases List.mem_filter.mp hDay with ⟨hMem, hLe⟩
  simp only [decide_eq_true_eq] at hLe
  have hNotBefore :=
    not_before_of_day_le search cursor date hCursor
      hSameMonth (by omega)
  have hIsFirst :=
    isFirst_of_firstTimeOn? date search.origin instant _ _ _
      hNotBefore hTimetable.hours.ascending
      hTimetable.minutes.ascending
      hTimetable.seconds.ascending hFirst
  rcases hIsFirst with ⟨⟨rfl, hListed⟩, hAfter, hLeast⟩
  refine ⟨⟨?_, hAfter, ?_⟩, hSameMonth⟩
  · apply admits_of_isListed search cursor timetable
      hTimetable days instant hYear hMonth hDays hSameMonth
    · rw [hNumbers.2.2]
      exact hMem
    · exact hListed
  · intro other hOther hOtherAfter hLess
    have hPending : search.Pending other :=
      ⟨hOther, hOtherAfter⟩
    have hOtherDay :=
      sharesMonth_of_not_lt search cursor instant.date other
        hCursor hPending hSameMonth
        (Instant.not_date_lt_of_lt hLess)
    by_cases hSameDay : other.date.day = day
    · have hSameDate : other.date = instant.date :=
        Date.eq_of_numbers
          (hOtherDay.1.1.trans hSameMonth.1.symm)
          (hOtherDay.1.2.trans hSameMonth.2.symm)
          (hSameDay.trans hNumbers.2.2.symm)
      exact
        hLeast other
          ⟨hSameDate, hTimetable.isListed hOther.time⟩
          hOtherAfter hLess
    · have hLater :=
        mem_laterDays_of_pending search cursor days other
          hCursor hDays hPending hOtherDay.1
      have hNone :=
        hEarlier other.date.day hLater (by omega)
      exact
        not_pending_of_day search cursor timetable
          hTimetable other hCursor hOtherDay.1 hNone
          hPending

/- Without an answer this month has nothing pending. -/
theorem isSound_of_stepInMonth
    (timetable : Timetable)
    (hTimetable : timetable.IsOf search.expression)
    (hCursor : search.IsCursor cursor)
    (hYear : search.expression.AllowsYear cursor.year)
    (hMonth : cursor.month ∈ timetable.months) :
    Step.IsSound search cursor
      (search.stepInMonth timetable cursor) := by
  unfold stepInMonth
  cases hDays : search.days cursor.year cursor.month with
  | error fault =>
      exact ⟨hDays, hYear⟩
  | ok days =>
      dsimp only
      split
      · rename_i instant hFound
        exact
          isFirst_of_firstOnDays? search cursor timetable
            hTimetable days instant hCursor hYear hMonth
            hDays hFound
      · rename_i hNone
        apply isSound_of_stepPastMonth search cursor hCursor
        intro instant hPending hSame
        have hLater :=
          mem_laterDays_of_pending search cursor days
            instant hCursor hDays hPending hSame
        unfold firstOnDays? at hNone
        rw [List.findSome?_eq_none_iff] at hNone
        exact
          not_pending_of_day search cursor timetable
            hTimetable instant hCursor hSame
            (hNone _ hLater) hPending

end Search

end CronSchedule

------------------------------------------------------------
-- Every Step
------------------------------------------------------------

namespace CronSchedule

namespace Search

variable (search : Search)
variable (cursor : Date)

theorem isSound_of_stepInYear
    (timetable : Timetable)
    (hTimetable : timetable.IsOf search.expression)
    (hCursor : search.IsCursor cursor)
    (hYear : search.expression.AllowsYear cursor.year) :
    Step.IsSound search cursor
      (search.stepInYear timetable cursor) := by
  unfold stepInYear
  split
  · rename_i hMonth
    exact
      isSound_of_stepInMonth search cursor timetable
        hTimetable hCursor hYear hMonth
  · rename_i hMonth
    exact
      isSound_of_stepToMonth search cursor timetable
        hTimetable hCursor hMonth

/- Every step at a cursor is sound. -/
theorem isSound_of_step
    (timetable : Timetable)
    (hWellFormed : search.expression.WellFormed)
    (hTimetable : timetable.IsOf search.expression)
    (hCursor : search.IsCursor cursor) :
    Step.IsSound search cursor
      (search.step timetable cursor) := by
  unfold step
  rcases hWellFormed.year_cases with hAny | ⟨years, hYear⟩
  · rw [hAny]
    exact
      isSound_of_stepInYear search cursor timetable
        hTimetable hCursor (Or.inl hAny)
  · rw [hYear]
    simp only [Field.values?]
    split
    · rename_i hHas
      apply isSound_of_stepInYear search cursor timetable
        hTimetable hCursor
      exact
        (allowsYear_iff_hasYear _ years _ hYear).mpr hHas
    · rename_i hHas
      exact
        isSound_of_stepToYear search cursor years hYear
          hCursor hHas

end Search

end CronSchedule
