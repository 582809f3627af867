import CronSchedule.Proofs.Occurrence.Admitted
import CronSchedule.Proofs.Occurrence.Walk

/-
  The next occurrence is the first admitted instant after
  the origin, if its month is in reach.  On the calendar of
  the existing dates it is the first match.

  Key definitions include:
    * `Expression.searchLimit`
    * `Expression.InReach`
    * `Search.KnowsDays`

  Main declarations:
    * `Expression.horizon_eq_searchLimit`
    * `Expression.year_lt_of_lt_searchLimit`
    * `Expression.hasMonth_of_reaches`
    * `Search.next_cases`
    * `Expression.next_cases`
    * `Expression.nextAfter_sound`
    * `Expression.nextAfter_exact`
-/

------------------------------------------------------------
-- The Limit of a Search
------------------------------------------------------------

namespace CronSchedule

namespace Expression

/- How many years ahead an expression is searched for. -/
def yearsAhead
    (expression : Expression) : Nat :=
  if expression.year = .anyYear then 4 else 130

/-
  The instant so many years after the origin, or the last
  one of all if the range of dates ends before.
-/
def searchLimit
    (expression : Expression)
    (origin : Instant) : Instant :=
  (origin.yearsLater? expression.yearsAhead).getD
    Instant.latest

/-
  The month of the date is the one in which the search
  starts, or it starts before the limit.
-/
def InReach
    (expression : Expression)
    (origin : Instant)
    (date : Date) : Prop :=
  (∃ cursor, origin.addSecond? = some cursor ∧
      cursor.date.SharesMonth date) ∨
    date.monthStart.midnight < expression.searchLimit origin

variable (expression : Expression)
variable (origin : Instant)

/- The horizon of a search is the limit. -/
theorem horizon_eq_searchLimit
    (search : Search)
    (hWellFormed : search.expression.WellFormed) :
    search.horizon =
      search.expression.searchLimit search.origin := by
  have hYears :
      search.horizonYears =
        search.expression.yearsAhead := by
    unfold Search.horizonYears yearsAhead
    rcases hWellFormed.year_cases with
      hAny | ⟨years, hYear⟩
    · rw [hAny]
      rfl
    · rw [hYear]
      rfl
  unfold Search.horizon searchLimit
  rw [hYears, Instant.addMonths?_eq_yearsLater?]

/- The limit is on the same day, or the last of its month. -/
theorem searchLimit_numbers
    (hRange :
      origin.date.year + expression.yearsAhead ≤
        Date.lastYear) :
    let limit := expression.searchLimit origin
    let year := origin.date.year + expression.yearsAhead
    limit.date.year = year ∧
      limit.date.month = origin.date.month ∧
      limit.date.day =
        min origin.date.day
          (Date.monthLength year origin.date.month) ∧
      limit.time = origin.time := by
  rcases origin.exists_yearsLater? expression.yearsAhead
    hRange with ⟨limit, hLimit, hNumbers⟩
  unfold searchLimit
  rw [hLimit, Option.getD_some]
  exact hNumbers

/- The limit is so many years after the origin. -/
theorem monthIndex_searchLimit
    (hRange :
      origin.date.year + expression.yearsAhead ≤
        Date.lastYear) :
    (expression.searchLimit origin).date.monthIndex =
      origin.date.monthIndex +
        expression.yearsAhead * 12 := by
  rcases searchLimit_numbers expression origin hRange with
    ⟨hYear, hMonth, _⟩
  unfold Date.monthIndex
  rw [hYear, hMonth]
  omega

/- The limit is no more than so many years ahead. -/
theorem monthIndex_searchLimit_le :
    (expression.searchLimit origin).date.monthIndex ≤
      origin.date.monthIndex +
        expression.yearsAhead * 12 := by
  by_cases hRange :
      origin.date.year + expression.yearsAhead ≤
        Date.lastYear
  · exact
      Int.le_of_eq
        (monthIndex_searchLimit expression origin hRange)
  · -- The range of dates ends before.
    have hLimit :=
      (expression.searchLimit origin).date.wellFormed
    have hOrigin := origin.date.month_bounds
    unfold Date.Exists at hLimit
    unfold Date.monthIndex
    omega

/- A search starts before such a limit. -/
theorem start_lt_searchLimit
    (cursor : Instant)
    (hCursor : origin.addSecond? = some cursor)
    (hRange :
      origin.date.year + expression.yearsAhead ≤
        Date.lastYear) :
    cursor < expression.searchLimit origin := by
  have hIndex :=
    Instant.monthIndex_le_of_addSecond? origin cursor
      hCursor
  have hLimit :=
    monthIndex_searchLimit expression origin hRange
  have hYears : 4 ≤ expression.yearsAhead := by
    unfold yearsAhead
    split
    · exact Nat.le_refl 4
    · decide
  have hDay := cursor.date.day_bounds
  have hLimitDay :=
    (expression.searchLimit origin).date.day_bounds
  apply Instant.lt_of_date_lt
  rw [Date.lt_iff_rank_lt]
  unfold Date.rank
  omega

end Expression

end CronSchedule

------------------------------------------------------------
-- Months in Reach
------------------------------------------------------------

namespace CronSchedule

namespace Expression

open Calendar

variable (expression : Expression)
variable (origin : Instant)

/- An explicit year is no later than the last one. -/
theorem year_le_of_allowsYear
    (year : Int)
    (hWellFormed : expression.WellFormed)
    (hExplicit : expression.year ≠ .anyYear)
    (hYear : expression.AllowsYear year) :
    year ≤ lastYear := by
  rcases hYear with hAny | ⟨number, ⟨years, hYears, hMem⟩,
    rfl⟩
  · exact absurd hAny hExplicit
  · have hFits := hWellFormed.fits .year
    change expression.year.Fits .year at hFits
    rw [hYears, Field.fits_fixed] at hFits
    have hBounds := (hFits.2 number hMem).2
    change number ≤ lastYear at hBounds
    omega

/- Explicit years are far from the end of the range. -/
theorem range_of_match
    (instant : Instant)
    (hWellFormed : expression.WellFormed)
    (hRange :
      expression.year = .anyYear →
        origin.date.year ≤ 262137)
    (hYear : expression.AllowsYear instant.date.year)
    (hAfter : origin < instant) :
    origin.date.year + expression.yearsAhead ≤
      Date.lastYear := by
  unfold yearsAhead Date.lastYear
  split
  · rename_i hAny
    have hOrigin := hRange hAny
    omega
  · rename_i hExplicit
    have hLast :=
      year_le_of_allowsYear expression instant.date.year
        hWellFormed hExplicit hYear
    have hOrder :=
      Date.year_le_of_not_lt
        (Instant.not_date_lt_of_lt hAfter)
    unfold lastYear at hLast
    omega

/- Before the limit it is not yet the last year of all. -/
theorem year_lt_of_lt_searchLimit
    (instant : Instant)
    (hWellFormed : expression.WellFormed)
    (hRange :
      expression.year = .anyYear →
        origin.date.year ≤ 262137)
    (hYear : expression.AllowsYear instant.date.year)
    (hBefore : instant < expression.searchLimit origin) :
    instant.date.year < Date.lastYear := by
  unfold Date.lastYear
  by_cases hAny : expression.year = .anyYear
  · have hOrigin := hRange hAny
    have hAhead : expression.yearsAhead = 4 := if_pos hAny
    have hLimit :=
      monthIndex_searchLimit_le expression origin
    have hLate :=
      Date.year_le_of_not_lt
        (Instant.not_date_lt_of_lt hBefore)
    have hMonth := origin.date.month_bounds
    have hLimitMonth :=
      (expression.searchLimit origin).date.month_bounds
    rw [hAhead] at hLimit
    unfold Date.monthIndex at hLimit
    omega
  · have hLast :=
      year_le_of_allowsYear expression instant.date.year
        hWellFormed hAny hYear
    unfold lastYear at hLast
    omega

/- Every month that the search reaches is of the calendar. -/
theorem hasMonth_of_reaches
    (cursor : Instant)
    (date : Date)
    (hWellFormed : expression.WellFormed)
    (hRange :
      expression.year = .anyYear →
        origin.date.year ≤ 262137)
    (hYear : expression.AllowsYear date.year)
    (hReaches :
      (expression.searchFrom origin).Reaches cursor date) :
    HasMonth date.year date.month := by
  have hExists := date.wellFormed
  have hMonth := date.month_bounds
  have hLimit :=
    horizon_eq_searchLimit (expression.searchFrom origin)
      hWellFormed
  have hEarly : date.year < Date.lastYear := by
    rcases hReaches with ⟨hCursor, hSame | hStart⟩
    · rw [hLimit] at hCursor
      rw [hSame.1] at hYear ⊢
      exact
        year_lt_of_lt_searchLimit expression origin cursor
          hWellFormed hRange hYear hCursor
    · rw [hLimit] at hStart
      exact
        year_lt_of_lt_searchLimit expression origin
          date.monthStart.midnight hWellFormed hRange hYear
          hStart
  unfold Date.Exists at hExists
  unfold HasMonth
  omega

end Expression

end CronSchedule

------------------------------------------------------------
-- The First Admitted Instant
------------------------------------------------------------

namespace CronSchedule

namespace Search

variable (search : Search)

/- The calendar knows the days of every month reached. -/
def KnowsDays : Prop :=
  ∀ cursor date,
    search.origin.addSecond? = some cursor →
      search.Reaches cursor date →
        search.expression.AllowsYear date.year →
          ∃ days,
            search.days date.year date.month = .ok days

/- What is in reach, the search reaches. -/
theorem reaches_of_inReach
    (cursor instant : Instant)
    (hWellFormed : search.expression.WellFormed)
    (hRange :
      search.expression.year = .anyYear →
        search.origin.date.year ≤ 262137)
    (hCursor : search.origin.addSecond? = some cursor)
    (hYear :
      search.expression.AllowsYear instant.date.year)
    (hAfter : search.origin < instant)
    (hInReach :
      search.expression.InReach search.origin
        instant.date) :
    search.Reaches cursor instant.date := by
  unfold Reaches
  rw [Expression.horizon_eq_searchLimit search hWellFormed]
  constructor
  · apply Expression.start_lt_searchLimit _ _ cursor hCursor
    exact
      Expression.range_of_match _ _ instant hWellFormed
        hRange hYear hAfter
  · rcases hInReach with ⟨other, hOther, hSame⟩ | hStart
    · rw [hCursor] at hOther
      cases hOther
      exact Or.inl hSame
    · exact Or.inr hStart

/-
  The search gives the first admitted instant, which is in
  reach, or nothing if no admitted instant is in reach.
-/
theorem next_cases
    (hWellFormed : search.expression.WellFormed)
    (hRange :
      search.expression.year = .anyYear →
        search.origin.date.year ≤ 262137)
    (hDays : search.KnowsDays) :
    (∃ first,
        search.next = .ok (some first) ∧
          Instant.IsFirst search.Admits search.origin
            first ∧
          search.expression.InReach search.origin
            first.date) ∨
      search.next = .ok none ∧
        ∀ instant, search.Pending instant →
          ¬ search.expression.InReach search.origin
            instant.date := by
  unfold next
  cases hCursor : search.origin.addSecond? with
  | none =>
      have hTrail :=
        trail_of_addSecond?_eq_none search hWellFormed
          hCursor
      right
      rw [hTrail.1]
      refine ⟨rfl, ?_⟩
      intro instant hPending _
      exact hTrail.2 instant hPending
  | some cursor =>
      have hSound :=
        isSound_of_trail search cursor hWellFormed hCursor
      cases hEnding : search.trail.ending with
      | found first =>
          rw [hEnding] at hSound
          refine Or.inl ⟨first, rfl, hSound.1, ?_⟩
          rcases hSound.2 with ⟨_, hSame | hStart⟩
          · exact Or.inl ⟨cursor, hCursor, hSame⟩
          · rw [Expression.horizon_eq_searchLimit search
              hWellFormed] at hStart
            exact Or.inr hStart
      | noLaterYear _ | rangeLeft | horizonReached =>
          rw [hEnding] at hSound
          have hNone :=
            not_reaches_of_answer search cursor _ hSound rfl
          refine Or.inr ⟨rfl, ?_⟩
          intro instant hPending hInReach
          apply hNone instant hPending
          exact
            reaches_of_inReach search cursor instant
              hWellFormed hRange hCursor
              hPending.1.time.year hPending.2 hInReach
      | failed fault =>
          rw [hEnding] at hSound
          rcases hSound with
            ⟨date, hReaches, hYear, hFault⟩
          rcases hDays cursor date hCursor hReaches hYear
            with ⟨days, hOk⟩
          rw [hOk] at hFault
          cases hFault

end Search

end CronSchedule

------------------------------------------------------------
-- The First Match
------------------------------------------------------------

namespace CronSchedule

namespace Expression

open Calendar

variable (expression : Expression)
variable (origin : Instant)

/-
  Every month that the search reaches is of the calendar,
  which knows all days of it.
-/
theorem knowsDays_searchFrom
    (hWellFormed : expression.WellFormed)
    (hRange :
      expression.year = .anyYear →
        origin.date.year ≤ 262137) :
    (expression.searchFrom origin).KnowsDays := by
  intro cursor date hCursor hReaches hYear
  have hMonth :=
    hasMonth_of_reaches expression origin cursor date
      hWellFormed hRange hYear hReaches
  rcases exists_days expression origin date hWellFormed
    hMonth with ⟨days, hDays, _⟩
  exact ⟨days, hDays⟩

/- A match in reach is pending. -/
theorem pending_of_inReach
    (instant : Instant)
    (hWellFormed : expression.WellFormed)
    (hRange :
      expression.year = .anyYear →
        origin.date.year ≤ 262137)
    (hMatches : expression.Matches instant)
    (hAfter : origin < instant)
    (hInReach : expression.InReach origin instant.date) :
    (expression.searchFrom origin).Pending instant := by
  refine ⟨?_, hAfter⟩
  cases hCursor : origin.addSecond? with
  | none =>
      exact
        absurd hAfter
          (Instant.not_lt_of_addSecond?_eq_none origin
            instant hCursor hMatches.time.whole)
  | some cursor =>
      apply
        admits_of_matches expression origin instant
          hWellFormed _ hMatches
      apply
        hasMonth_of_reaches expression origin cursor
          instant.date hWellFormed hRange
          hMatches.time.year
      exact
        Search.reaches_of_inReach
          (expression.searchFrom origin) cursor instant
          hWellFormed hRange hCursor hMatches.time.year
          hAfter hInReach

/-
  The search gives the first match after the origin, which
  is in reach, or nothing if there is no match in reach.
-/
theorem next_cases
    (hWellFormed : expression.WellFormed)
    (hRange :
      expression.year = .anyYear →
        origin.date.year ≤ 262137) :
    (∃ first,
        expression.nextAfter gregorian origin =
            .ok (some first) ∧
          Instant.IsFirst expression.Matches origin first ∧
          expression.InReach origin first.date) ∨
      expression.nextAfter gregorian origin = .ok none ∧
        ∀ instant, expression.Matches instant →
          origin < instant →
            ¬ expression.InReach origin instant.date := by
  rcases Search.next_cases (expression.searchFrom origin)
      hWellFormed hRange
      (knowsDays_searchFrom expression origin hWellFormed
        hRange) with
    ⟨first, hNext, hFirst, hInReach⟩ | ⟨hNext, hFar⟩
  · left
    refine ⟨first, hNext, ?_, hInReach⟩
    exact
      isFirst_matches_of_isFirst_admits expression origin
        first hWellFormed hFirst
  · right
    refine ⟨hNext, ?_⟩
    intro instant hMatches hAfter hInReach
    exact
      hFar instant
        (pending_of_inReach expression origin instant
          hWellFormed hRange hMatches hAfter hInReach)
        hInReach

end Expression

end CronSchedule

------------------------------------------------------------
-- Accepted Texts
------------------------------------------------------------

namespace CronSchedule

namespace Expression

open Calendar

/-
  What is found is a whole second after the origin that
  matches, and no other match lies in between.
-/
theorem nextAfter_sound
    (text : String)
    (expression : Expression)
    (origin first : Instant)
    (hParse : parse text = .ok expression)
    (hNext :
      expression.nextAfter gregorian origin =
        .ok (some first)) :
    first.IsWhole ∧ origin < first ∧
      expression.Matches first ∧
      ∀ other, expression.Matches other →
        origin < other → ¬ other < first := by
  have hWellFormed :=
    wellFormed_of_parse text expression hParse
  have hFirst :=
    isFirst_matches_of_isFirst_admits expression origin
      first hWellFormed
      (Search.isFirst_of_next
        (expression.searchFrom origin) first hWellFormed
        hNext)
  exact
    ⟨hFirst.holds.time.whole, hFirst.after, hFirst.holds,
      hFirst.least⟩

/- Noon on the last working day of every month. -/
def noonOnLastWorkday : Expression where
  second := .fixed (.ofList [0])
  minute := .fixed (.ofList [0])
  hour := .fixed (.ofList [12])
  dayOfMonth := .lastWorkday
  month := .fixed (.interval 1 12)
  dayOfWeek := .unspecified
  year := .anyYear

/-
  From a leap second after noon on February 29, once the
  match at noon has passed, to noon on March 29.
-/
theorem nextAfter_sound_leapDay :
    let origin : Instant :=
      ⟨⟨2024, 2, 29, by decide⟩,
        ⟨12, 0, 0, 1333333333, by decide⟩⟩
    let first : Instant :=
      ⟨⟨2024, 3, 29, by decide⟩, ⟨12, 0, 0, 0, by decide⟩⟩
    first.IsWhole ∧ origin < first ∧
      noonOnLastWorkday.Matches first ∧
      ∀ other, noonOnLastWorkday.Matches other →
        origin < other → ¬ other < first :=
  nextAfter_sound "0 0 12 LW * ?" noonOnLastWorkday _ _ rfl
    rfl

/-
  The first match after the origin is found if and only if
  its month is in reach.  Otherwise, and if there is no
  match at all, nothing is found.
-/
theorem nextAfter_exact
    (text : String)
    (expression : Expression)
    (origin : Instant)
    (hParse : parse text = .ok expression)
    (hRange :
      expression.year = .anyYear →
        origin.date.year ≤ 262137) :
    ((∃ later, expression.Matches later ∧ origin < later) →
        ∃ first,
          Instant.IsFirst expression.Matches origin first ∧
            (expression.nextAfter gregorian origin =
                .ok (some first) ↔
              expression.InReach origin first.date) ∧
            (expression.nextAfter gregorian origin =
                .ok none ↔
              ¬ expression.InReach origin first.date)) ∧
      ((∀ later, expression.Matches later →
            ¬ origin < later) →
        expression.nextAfter gregorian origin =
          .ok none) := by
  have hWellFormed :=
    wellFormed_of_parse text expression hParse
  rcases next_cases expression origin hWellFormed hRange
    with ⟨first, hNext, hFirst, hInReach⟩ | ⟨hNext, hFar⟩
  · rw [hNext]
    constructor
    · intro _
      exact
        ⟨first, hFirst, ⟨fun _ => hInReach, fun _ => rfl⟩,
          by simp [hInReach]⟩
    · intro hNone
      exact
        absurd hFirst.after (hNone first hFirst.holds)
  · rw [hNext]
    refine ⟨?_, fun _ => rfl⟩
    rintro ⟨later, hLater, hAfter⟩
    rcases Instant.exists_isFirst origin later hLater hAfter
      with ⟨first, hFirst⟩
    have hOut := hFar first hFirst.holds hFirst.after
    exact
      ⟨first, hFirst, by simp [hOut],
        ⟨fun _ => hOut, fun _ => rfl⟩⟩

/- Midnight of every leap day. -/
def midnightOnLeapDay : Expression where
  second := .fixed (.ofList [0])
  minute := .fixed (.ofList [0])
  hour := .fixed (.ofList [0])
  dayOfMonth := .fixed (.ofList [29])
  month := .fixed (.ofList [2])
  dayOfWeek := .unspecified
  year := .anyYear

/-
  The two leap days next to the year 2100, the earlier one
  in a leap second after midnight.
-/
def leapDay2096 : Instant :=
  ⟨⟨2096, 2, 29, by decide⟩,
    ⟨0, 0, 0, 1333333333, by decide⟩⟩

def leapDay2104 : Instant :=
  ⟨⟨2104, 2, 29, by decide⟩, .midnight⟩

theorem matches_leapDay2104 :
    midnightOnLeapDay.Matches leapDay2104 where
  time :=
    { whole := rfl
      second := ⟨.ofList [0], rfl, by decide⟩
      minute := ⟨.ofList [0], rfl, by decide⟩
      hour := ⟨.ofList [0], rfl, by decide⟩
      month := ⟨.ofList [2], rfl, by decide⟩
      year := Or.inl rfl }
  day := by
    refine ⟨fun _ => ?_, fun hOther => absurd rfl hOther⟩
    change 29 ∈ ValueSet.ofList [29]
    decide

/- From the first of them the other one is out of reach. -/
theorem nextAfter_exact_leapDay :
    (midnightOnLeapDay.year = .anyYear →
        leapDay2096.date.year ≤ 262137) ∧
      midnightOnLeapDay.nextAfter gregorian leapDay2096 =
          .ok none ∧
      ∃ first,
        Instant.IsFirst midnightOnLeapDay.Matches
            leapDay2096 first ∧
          ¬ midnightOnLeapDay.InReach leapDay2096
              first.date := by
  have hRange :
      midnightOnLeapDay.year = .anyYear →
        leapDay2096.date.year ≤ 262137 := by
    decide
  have hNext :
      midnightOnLeapDay.nextAfter gregorian leapDay2096 =
        .ok none := by
    rfl
  have hExact :=
    nextAfter_exact "0 0 0 29 2 ?" midnightOnLeapDay
      leapDay2096 rfl hRange
  rcases hExact.1
    ⟨leapDay2104, matches_leapDay2104, by decide⟩ with
    ⟨first, hFirst, _, hNone⟩
  exact
    ⟨hRange, hNext, first, hFirst, hNone.mp hNext⟩

end Expression

end CronSchedule
