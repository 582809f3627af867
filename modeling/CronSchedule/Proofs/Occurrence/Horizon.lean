import CronSchedule.Proofs.Occurrence.Next

/-
  How far the horizon of an explicit year field reaches.  It
  covers all years that the field can name from every origin
  after the start of December 1969, and from no earlier one.

  Key definitions include:
    * `Expression.lastShortOrigin`
    * `Expression.december2099`

  Main declarations:
    * `Expression.inReach_of_lastShortOrigin_lt`
    * `Expression.not_inReach_december2099`
    * `Expression.explicitYear_complete_iff`
    * `Expression.explicitYear_missed`
-/

------------------------------------------------------------
-- Origins From Which All Explicit Years Are in Reach
------------------------------------------------------------

namespace CronSchedule

namespace Expression

/-
  The last origin from which 130 years fall short of the
  last month that a year field can name.
-/
def lastShortOrigin : Instant :=
  ⟨⟨1969, 12, 1, by decide⟩, .midnight⟩

variable {expression : Expression}
variable {origin : Instant}

theorem rank_lastShortOrigin :
    lastShortOrigin.rank =
      ((1969 * 12 + 11) * 32 + 1) * 172800000000000 :=
  rfl

/- The limit of an explicit year field, by its numbers. -/
theorem searchLimit_of_explicit
    (expression : Expression)
    (origin : Instant)
    (hExplicit : expression.year ≠ .anyYear)
    (hRange : origin.date.year + 130 ≤ Date.lastYear) :
    (expression.searchLimit origin).date.year =
        origin.date.year + 130 ∧
      (expression.searchLimit origin).date.month =
        origin.date.month ∧
      (expression.searchLimit origin).date.day =
        min origin.date.day
          (Date.monthLength (origin.date.year + 130)
            origin.date.month) ∧
      (expression.searchLimit origin).time =
        origin.time := by
  have hAhead : expression.yearsAhead = 130 :=
    if_neg hExplicit
  rcases origin.exists_yearsLater? 130 hRange with
    ⟨limit, hLimit, hParts⟩
  unfold searchLimit
  rw [hAhead, hLimit]
  exact hParts

/-
  A later origin has its limit after the start of December
  2099.  In December no day is cut off, so that the rest of
  the month counts in full.
-/
theorem monthStart_lt_searchLimit
    (date : Date)
    (hExplicit : expression.year ≠ .anyYear)
    (hOrigin : lastShortOrigin < origin)
    (hRange : origin.date.year + 130 ≤ Date.lastYear)
    (hLast : date.year ≤ lastYear) :
    date.monthStart.midnight <
      expression.searchLimit origin := by
  rcases searchLimit_of_explicit expression origin hExplicit
    hRange with ⟨hYear, hMonth, hDay, hTime⟩
  have hBounds := date.month_bounds
  have hOriginMonth := origin.date.month_bounds
  have hOriginDay := origin.date.day_bounds
  have hLimitDay :=
    (expression.searchLimit origin).date.day_bounds
  have hOriginTime := origin.time.rank_lt
  have hDecember (hMonth : origin.date.month = 12) :
      Date.monthLength (origin.date.year + 130)
          origin.date.month =
        31 := by
    rw [hMonth]
    rfl
  unfold lastYear at hLast
  rw [Instant.lt_iff_rank_lt, rank_lastShortOrigin]
    at hOrigin
  rw [Instant.lt_iff_rank_lt, Instant.rank_midnight,
    Date.rank_monthStart]
  unfold Instant.rank Date.rank Date.monthIndex at hOrigin ⊢
  rw [hYear, hMonth, hTime]
  omega

/- From a later origin every explicit year is in reach. -/
theorem inReach_of_lastShortOrigin_lt
    (instant : Instant)
    (hWellFormed : expression.WellFormed)
    (hExplicit : expression.year ≠ .anyYear)
    (hOrigin : lastShortOrigin < origin)
    (hYear : expression.AllowsYear instant.date.year)
    (hAfter : origin < instant) :
    expression.InReach origin instant.date := by
  have hAhead : expression.yearsAhead = 130 :=
    if_neg hExplicit
  have hRange :=
    range_of_match expression origin instant hWellFormed
      (fun hAny => absurd hAny hExplicit) hYear hAfter
  rw [hAhead] at hRange
  right
  exact
    monthStart_lt_searchLimit instant.date hExplicit hOrigin
      hRange
      (year_le_of_allowsYear expression instant.date.year
        hWellFormed hExplicit hYear)

end Expression

end CronSchedule

------------------------------------------------------------
-- The Last Month of a Year Field
------------------------------------------------------------

namespace CronSchedule

namespace Expression

open Calendar

/- The start of the last month that can be named. -/
def december2099 : Expression where
  second := .fixed (.ofList [0])
  minute := .fixed (.ofList [0])
  hour := .fixed (.ofList [0])
  dayOfMonth := .fixed (.ofList [1])
  month := .fixed (.ofList [12])
  dayOfWeek := .unspecified
  year := .fixed (.ofList [2099])

def startOfDecember2099 : Instant :=
  ⟨⟨2099, 12, 1, by decide⟩, .midnight⟩

theorem matches_startOfDecember2099 :
    december2099.Matches startOfDecember2099 where
  time :=
    { whole := rfl
      second := ⟨.ofList [0], rfl, by decide⟩
      minute := ⟨.ofList [0], rfl, by decide⟩
      hour := ⟨.ofList [0], rfl, by decide⟩
      month := ⟨.ofList [12], rfl, by decide⟩
      year :=
        Or.inr ⟨2099, ⟨.ofList [2099], rfl, by decide⟩,
          rfl⟩ }
  day := by
    refine ⟨fun _ => ?_, fun hOther => absurd rfl hOther⟩
    change 1 ∈ ValueSet.ofList [1]
    decide

/- Up to the last short origin that month is out of reach. -/
theorem not_inReach_december2099
    (origin : Instant)
    (date : Date)
    (hOrigin : ¬ lastShortOrigin < origin)
    (hYear : date.year = 2099)
    (hMonth : date.month = 12) :
    ¬ december2099.InReach origin date := by
  have hOriginMonth := origin.date.month_bounds
  have hOriginDay := origin.date.day_bounds
  have hOriginTime := origin.time.rank_lt
  rw [Instant.lt_iff_rank_lt, rank_lastShortOrigin]
    at hOrigin
  unfold Instant.rank Date.rank Date.monthIndex at hOrigin
  rintro (⟨cursor, hCursor, hSame⟩ | hStart)
  · have hIndex :=
      Instant.monthIndex_le_of_addSecond? origin cursor
        hCursor
    have hCursorYear := hSame.1
    have hCursorMonth := hSame.2
    unfold Date.monthIndex at hIndex
    omega
  · rcases searchLimit_of_explicit december2099 origin
      (by decide) (by unfold Date.lastYear; omega) with
      ⟨hLimitYear, hLimitMonth, hLimitDay, hLimitTime⟩
    rw [Instant.lt_iff_rank_lt, Instant.rank_midnight,
      Date.rank_monthStart] at hStart
    unfold Instant.rank Date.rank Date.monthIndex at hStart
    rw [hLimitYear, hLimitMonth, hLimitTime] at hStart
    omega

/- So it is not found from there. -/
theorem nextAfter_december2099
    (origin : Instant)
    (hOrigin : ¬ lastShortOrigin < origin) :
    december2099.nextAfter gregorian origin = .ok none := by
  have hWellFormed :=
    wellFormed_of_parse "0 0 0 1 12 ? 2099" december2099 rfl
  rcases december2099.next_cases origin hWellFormed
      (fun hAny => absurd hAny (by decide)) with
    ⟨first, _, hFirst, hInReach⟩ | ⟨hNext, _⟩
  · exfalso
    have hTime := hFirst.holds.time
    apply not_inReach_december2099 origin first.date hOrigin
      _ _ hInReach
    · rcases hTime.year with hAny | ⟨number, hHas, hSame⟩
      · cases hAny
      · have hNumber := (Field.has_fixed _ number).mp hHas
        change number ∈ [2099] at hNumber
        rw [List.mem_singleton] at hNumber
        omega
    · have hMonth := (Field.has_fixed _ _).mp hTime.month
      change first.date.month ∈ [12] at hMonth
      exact List.mem_singleton.mp hMonth
  · exact hNext

end Expression

end CronSchedule

------------------------------------------------------------
-- Complete Searches
------------------------------------------------------------

namespace CronSchedule

namespace Expression

open Calendar

/- From a later origin no match is missed. -/
theorem not_lt_of_nextAfter_eq_none
    (expression : Expression)
    (origin instant : Instant)
    (hWellFormed : expression.WellFormed)
    (hExplicit : expression.year ≠ .anyYear)
    (hOrigin : lastShortOrigin < origin)
    (hNext :
      expression.nextAfter gregorian origin = .ok none)
    (hMatches : expression.Matches instant) :
    ¬ origin < instant := by
  intro hAfter
  rcases expression.next_cases origin hWellFormed
      (fun hAny => absurd hAny hExplicit) with
    ⟨first, hFound, _⟩ | ⟨_, hFar⟩
  · rw [hFound] at hNext
    cases hNext
  · exact
      hFar instant hMatches hAfter
        (inReach_of_lastShortOrigin_lt instant hWellFormed
          hExplicit hOrigin hMatches.time.year hAfter)

/-
  The origins from which a search for an explicit year gives
  nothing only if there is no later match at all are those
  after the start of December 1969.
-/
theorem explicitYear_complete_iff
    (origin : Instant) :
    (∀ text expression,
        parse text = .ok expression →
          expression.year ≠ .anyYear →
            expression.nextAfter gregorian origin =
                .ok none →
              ∀ instant, expression.Matches instant →
                ¬ origin < instant) ↔
      lastShortOrigin < origin := by
  constructor
  · intro hComplete
    apply Classical.byContradiction
    intro hOrigin
    apply
      hComplete "0 0 0 1 12 ? 2099" december2099 rfl
        (by decide)
        (nextAfter_december2099 origin hOrigin)
        startOfDecember2099 matches_startOfDecember2099
    have hLater : lastShortOrigin < startOfDecember2099 := by
      decide
    exact Instant.lt_of_not_lt_of_lt hOrigin hLater
  · intro hOrigin text expression hParse hExplicit hNext
      instant hMatches
    exact
      not_lt_of_nextAfter_eq_none expression origin instant
        (wellFormed_of_parse text expression hParse)
        hExplicit hOrigin hNext hMatches

/- From the last short origin a match is missed. -/
theorem explicitYear_missed :
    parse "0 0 0 1 12 ? 2099" = .ok december2099 ∧
      december2099.year ≠ .anyYear ∧
      december2099.nextAfter gregorian lastShortOrigin =
        .ok none ∧
      december2099.Matches startOfDecember2099 ∧
      lastShortOrigin < startOfDecember2099 := by
  refine
    ⟨rfl, by decide, ?_, matches_startOfDecember2099,
      by decide⟩
  exact
    nextAfter_december2099 lastShortOrigin
      (Instant.lt_irrefl lastShortOrigin)

end Expression

end CronSchedule
