import CronSchedule.Proofs.Calendar.Answers
import CronSchedule.Proofs.Occurrence.Next
import CronSchedule.Proofs.Time.NextSecond

/-
  Searching once more from before the occurrence that was
  found.  It stays in reach, although the limit of a later
  search need not be later, and so it is found again.

  Key definitions include:
    * `Search.restartAt`

  Main declarations:
    * `Instant.monthIndex_mono_of_addSecond?`
    * `Expression.InReach.of_later`
    * `Search.next_restartAt`
    * `Expression.nextAfter_restart`
    * `Expression.nextAfter_gregorian_restart`
-/

------------------------------------------------------------
-- Starting Later
------------------------------------------------------------

namespace CronSchedule

namespace Instant

/- A later origin does not start in an earlier month. -/
theorem monthIndex_mono_of_addSecond?
    (origin later cursor laterCursor : Instant)
    (hOrder : ¬ later < origin)
    (hCursor : origin.addSecond? = some cursor)
    (hLaterCursor : later.addSecond? = some laterCursor) :
    cursor.date.monthIndex ≤
      laterCursor.date.monthIndex := by
  -- The whole second of the later cursor is after both.
  have hSecond :
      later.nextSecond? = some laterCursor.wholeSecond := by
    unfold nextSecond?
    rw [hLaterCursor]
    rfl
  have hAfter :=
    lt_of_not_lt_of_lt hOrder
      (isFirst_nextSecond? later _ hSecond).after
  have hDate :=
    (not_date_lt_of_addSecond? origin cursor hCursor).2
      laterCursor.wholeSecond
      (isWhole_wholeSecond laterCursor) hAfter
  exact Date.monthIndex_le_of_not_lt hDate

end Instant

end CronSchedule

------------------------------------------------------------
-- Staying in Reach
------------------------------------------------------------

namespace CronSchedule

namespace Expression

variable {expression : Expression}
variable {origin later first : Instant}

/-
  The limit of the later search may be the earlier one, but
  only on the last of its month, which is not the first day.
-/
theorem monthStart_lt_searchLimit_of_later
    (date : Date)
    (hOrder : ¬ later < origin)
    (hRange :
      later.date.year + expression.yearsAhead ≤
        Date.lastYear)
    (hStart :
      date.monthStart.midnight <
        expression.searchLimit origin) :
    date.monthStart.midnight <
      expression.searchLimit later := by
  have hYear :=
    Date.year_le_of_not_lt
      (Instant.not_date_lt_of_not_lt hOrder)
  rcases searchLimit_numbers expression origin (by omega)
    with ⟨hLimitYear, hLimitMonth, hLimitDay, hLimitTime⟩
  rcases searchLimit_numbers expression later hRange with
    ⟨hLaterYear, hLaterMonth, hLaterDay, hLaterTime⟩
  have hMonth := later.date.month_bounds
  have hLength :=
    Date.monthLength_bounds
      (later.date.year + expression.yearsAhead)
      later.date.month hMonth.1 hMonth.2
  have hDays := origin.date.day_bounds
  have hLaterDays := later.date.day_bounds
  have hRank := origin.time.rank_lt
  have hLaterRank := later.time.rank_lt
  rw [Instant.lt_iff_rank_lt] at hOrder
  rw [Instant.lt_iff_rank_lt, Instant.rank_midnight,
    Date.rank_monthStart] at hStart ⊢
  unfold Instant.rank Date.rank at hOrder hStart ⊢
  rw [hLimitTime] at hStart
  rw [hLaterTime]
  by_cases hSame :
      origin.date.monthIndex = later.date.monthIndex
  · -- The days are cut to the length of the same month, so
    -- that only the times of the limits can be reversed.
    rcases Date.month_eq_of_monthIndex_eq hSame with
      ⟨hSameYear, hSameMonth⟩
    rw [hSameYear, hSameMonth] at hLimitDay
    unfold Date.monthIndex at *
    omega
  · -- The later limit is in a later month.
    unfold Date.monthIndex at *
    omega

/- What was in reach before the occurrence still is. -/
theorem InReach.of_later
    (hInReach : expression.InReach origin first.date)
    (hOrder : ¬ later < origin)
    (hBefore : later < first)
    (hWhole : first.IsWhole)
    (hRange :
      later.date.year + expression.yearsAhead ≤
        Date.lastYear) :
    expression.InReach later first.date := by
  rcases hInReach with ⟨cursor, hCursor, hSame⟩ | hStart
  · cases hLater : later.addSecond? with
    | none =>
        exact
          absurd hBefore
            (Instant.not_lt_of_addSecond?_eq_none later
              first hLater hWhole)
    | some laterCursor =>
        refine Or.inl ⟨laterCursor, hLater, ?_⟩
        have hIndex :=
          Instant.monthIndex_mono_of_addSecond? origin later
            cursor laterCursor hOrder hCursor hLater
        have hLaterIndex :=
          Date.monthIndex_le_of_not_lt
            ((Instant.not_date_lt_of_addSecond? later
              laterCursor hLater).2 first hWhole hBefore)
        have hFirst := Date.monthIndex_of_sharesMonth hSame
        apply Date.month_eq_of_monthIndex_eq
        omega
  · exact
      Or.inr
        (monthStart_lt_searchLimit_of_later first.date
          hOrder hRange hStart)

end Expression

end CronSchedule

------------------------------------------------------------
-- Searching Again
------------------------------------------------------------

namespace CronSchedule

namespace Search

variable (search : Search)

/- The same search from another origin. -/
def restartAt
    (later : Instant) : Search :=
  { search with origin := later }

/- A calendar that always answers knows the days. -/
theorem knowsDays_of_alwaysAnswers
    (hAnswers : search.calendar.AlwaysAnswers)
    (hWellFormed : search.expression.WellFormed) :
    search.KnowsDays := by
  intro cursor date _ _ _
  have hMonth := date.month_bounds
  exact
    search.exists_days_of_alwaysAnswers date.year date.month
      hAnswers hWellFormed hMonth.1 hMonth.2

/- What is admitted does not depend on the origin. -/
theorem admits_restartAt_iff
    (later instant : Instant) :
    (search.restartAt later).Admits instant ↔
      search.Admits instant := by
  constructor
  · rintro ⟨hTime, hDay⟩
    exact ⟨hTime, hDay⟩
  · rintro ⟨hTime, hDay⟩
    exact ⟨hTime, hDay⟩

/-
  The first admitted instant after the origin is also the
  first one after any instant in between.
-/
theorem isFirst_restartAt
    (later first : Instant)
    (hFirst :
      Instant.IsFirst search.Admits search.origin first)
    (hOrder : ¬ later < search.origin)
    (hBefore : later < first) :
    Instant.IsFirst (search.restartAt later).Admits later
      first := by
  refine
    ⟨(search.admits_restartAt_iff later first).mpr
        hFirst.holds, hBefore, ?_⟩
  intro other hOther hAfter
  exact
    hFirst.least other
      ((search.admits_restartAt_iff later other).mp hOther)
      (Instant.lt_of_not_lt_of_lt hOrder hAfter)

/- The search is started again before it has found anything. -/
theorem next_restartAt
    (later first : Instant)
    (hWellFormed : search.expression.WellFormed)
    (hRange :
      search.expression.year = .anyYear →
        later.date.year ≤ 262137)
    (hDays : search.KnowsDays)
    (hLaterDays : (search.restartAt later).KnowsDays)
    (hOrder : ¬ later < search.origin)
    (hBefore : later < first)
    (hNext : search.next = .ok (some first)) :
    (search.restartAt later).next = .ok (some first) := by
  have hYear :=
    Date.year_le_of_not_lt
      (Instant.not_date_lt_of_not_lt hOrder)
  have hFirst :=
    search.isFirst_of_next first hWellFormed hNext
  have hRestart :=
    search.isFirst_restartAt later first hFirst hOrder
      hBefore
  have hTime := hFirst.holds.time
  have hInReach :
      search.expression.InReach later first.date := by
    rcases search.next_cases hWellFormed
        (fun hAny => Int.le_trans hYear (hRange hAny)) hDays
      with ⟨other, hOther, _, hInReach⟩ | ⟨hNone, _⟩
    · rw [hNext] at hOther
      cases hOther
      exact
        hInReach.of_later hOrder hBefore hTime.whole
          (Expression.range_of_match _ later first
            hWellFormed hRange hTime.year hBefore)
    · rw [hNext] at hNone
      cases hNone
  rcases (search.restartAt later).next_cases hWellFormed
      hRange hLaterDays with
    ⟨other, hOther, hOtherFirst, _⟩ | ⟨_, hFar⟩
  · rw [hOther, hOtherFirst.unique hRestart]
  · exact
      absurd hInReach
        (hFar first ⟨hRestart.holds, hBefore⟩)

end Search

namespace Expression

open Calendar

/-
  On a calendar that always answers, the occurrence that was
  found is found again from every instant before it.
-/
theorem nextAfter_restart
    (calendar : Calendar)
    (text : String)
    (expression : Expression)
    (origin later first : Instant)
    (hAnswers : calendar.AlwaysAnswers)
    (hParse : parse text = .ok expression)
    (hOrder : ¬ later < origin)
    (hBefore : later < first)
    (hRange : first.date.year ≤ 262137)
    (hNext :
      expression.nextAfter calendar origin =
        .ok (some first)) :
    expression.nextAfter calendar later =
      .ok (some first) := by
  have hWellFormed :=
    wellFormed_of_parse text expression hParse
  have hYear :=
    Date.year_le_of_not_lt
      (Instant.not_date_lt_of_lt hBefore)
  let search : Search := { calendar, expression, origin }
  exact
    search.next_restartAt later first hWellFormed
      (fun _ => Int.le_trans hYear hRange)
      (search.knowsDays_of_alwaysAnswers hAnswers
        hWellFormed)
      ((search.restartAt later).knowsDays_of_alwaysAnswers
        hAnswers hWellFormed)
      hOrder hBefore hNext

/- Twelve months of 31 days. -/
def longMonths : Calendar :=
  .tabular (List.replicate 12 31)
    { perYear := 1, perMonth := 3, perDay := 1, shift := 0 }

/- Midnight of February 28 in the year 2098. -/
def february2098 : Expression where
  second := .fixed (.ofList [0])
  minute := .fixed (.ofList [0])
  hour := .fixed (.ofList [0])
  dayOfMonth := .fixed (.ofList [28])
  month := .fixed (.ofList [2])
  dayOfWeek := .unspecified
  year := .fixed (.ofList [2098])

def noonOfFebruary28 : Instant :=
  ⟨⟨1968, 2, 28, by decide⟩, .noon⟩

def nightOfFebruary29 : Instant :=
  ⟨⟨1968, 2, 29, by decide⟩,
    ⟨1, 0, 0, 1333333333, by decide⟩⟩

/-
  The year 2098 has no February 29, so that the later search
  has the earlier limit.
-/
theorem nextAfter_restart_clamped :
    let first : Instant :=
      ⟨⟨2098, 2, 28, by decide⟩, .midnight⟩
    noonOfFebruary28 < nightOfFebruary29 ∧
      february2098.searchLimit nightOfFebruary29 <
        february2098.searchLimit noonOfFebruary28 ∧
      february2098.nextAfter longMonths nightOfFebruary29 =
        .ok (some first) := by
  refine ⟨by decide, by decide, ?_⟩
  exact
    nextAfter_restart longMonths "0 0 0 28 2 ? 2098"
      february2098 noonOfFebruary28 nightOfFebruary29 _
      (alwaysAnswers_tabular _ _ rfl (by decide)) rfl
      (by decide) (by decide) (by decide) rfl

/- So it is on the calendar of the existing dates. -/
theorem nextAfter_gregorian_restart
    (text : String)
    (expression : Expression)
    (origin later first : Instant)
    (hParse : parse text = .ok expression)
    (hOrder : ¬ later < origin)
    (hBefore : later < first)
    (hRange : first.date.year ≤ 262137)
    (hNext :
      expression.nextAfter gregorian origin =
        .ok (some first)) :
    expression.nextAfter gregorian later =
      .ok (some first) := by
  have hWellFormed :=
    wellFormed_of_parse text expression hParse
  have hOriginYear :=
    Date.year_le_of_not_lt
      (Instant.not_date_lt_of_not_lt hOrder)
  have hYear :=
    Date.year_le_of_not_lt
      (Instant.not_date_lt_of_lt hBefore)
  exact
    (expression.searchFrom origin).next_restartAt later
      first hWellFormed
      (fun _ => Int.le_trans hYear hRange)
      (knowsDays_searchFrom expression origin hWellFormed
        (fun _ => by omega))
      (knowsDays_searchFrom expression later hWellFormed
        (fun _ => by omega))
      hOrder hBefore hNext

end Expression

end CronSchedule
