import CronSchedule.Proofs.Calendar.Answers
import CronSchedule.Proofs.Occurrence.Next
import CronSchedule.Proofs.Time.NextSecond

/-
  The search compared with a scan that tries every second,
  on any calendar that answers.

  The calendar need not be that of the existing dates.  Its
  months may be longer or shorter, and its weekdays need not
  follow each other.

  Key definitions include:
    * `Search.scanAfter`
    * `Search.scan`
    * `Search.IsScanned`

  Main declarations:
    * `Search.isScanned_scanAfter`
    * `Search.next_eq_scan`
    * `Expression.nextAfter_eq_scan`
-/

------------------------------------------------------------
-- Decidable Admission
------------------------------------------------------------

namespace CronSchedule

namespace Field

/- The set of the field decides, if it has one. -/
theorem has_iff_exists_values?
    (field : Field)
    (number : Nat) :
    (∃ values ∈ field.values?, number ∈ values) ↔
      field.Has number := by
  unfold Has
  cases field <;> simp [values?]

instance
    (field : Field)
    (number : Nat) :
    Decidable (field.Has number) :=
  decidable_of_iff _ (has_iff_exists_values? field number)

end Field

instance
    (date other : Date) :
    Decidable (date.SharesMonth other) :=
  inferInstanceAs (Decidable (_ ∧ _))

namespace Expression

variable (expression : Expression)

theorem allowsYear_iff_toNat
    (year : Int) :
    (expression.year = .anyYear ∨
        0 ≤ year ∧ expression.year.Has year.toNat) ↔
      expression.AllowsYear year := by
  unfold AllowsYear
  constructor
  · rintro (hAny | ⟨hSign, hHas⟩)
    · exact Or.inl hAny
    · exact
        Or.inr ⟨_, hHas, Int.toNat_of_nonneg hSign⟩
  · rintro (hAny | ⟨number, hHas, rfl⟩)
    · exact Or.inl hAny
    · exact Or.inr ⟨Int.natCast_nonneg number, hHas⟩

instance
    (year : Int) :
    Decidable (expression.AllowsYear year) :=
  decidable_of_iff _ (allowsYear_iff_toNat expression year)

theorem allowsTime_iff
    (instant : Instant) :
    (instant.time.nano = 0 ∧
        expression.second.Has instant.time.second ∧
        expression.minute.Has instant.time.minute ∧
        expression.hour.Has instant.time.hour ∧
        expression.month.Has instant.date.month ∧
        expression.AllowsYear instant.date.year) ↔
      expression.AllowsTime instant :=
  ⟨fun ⟨hWhole, hSecond, hMinute, hHour, hMonth, hYear⟩ =>
      ⟨hWhole, hSecond, hMinute, hHour, hMonth, hYear⟩,
    fun hTime =>
      ⟨hTime.whole, hTime.second, hTime.minute, hTime.hour,
        hTime.month, hTime.year⟩⟩

instance
    (instant : Instant) :
    Decidable (expression.AllowsTime instant) :=
  decidable_of_iff _ (allowsTime_iff expression instant)

instance
    (origin : Instant)
    (date : Date) :
    Decidable (expression.InReach origin date) :=
  inferInstanceAs
    (Decidable
      ((∃ cursor ∈ origin.addSecond?,
          cursor.date.SharesMonth date) ∨
        date.monthStart.midnight <
          expression.searchLimit origin))

end Expression

namespace Search

variable (search : Search)

theorem admits_iff
    (instant : Instant) :
    (search.expression.AllowsTime instant ∧
        ∃ days ∈
            (search.days instant.date.year
              instant.date.month).toOption,
          instant.date.day ∈ days) ↔
      search.Admits instant := by
  constructor
  · rintro ⟨hTime, days, hDays, hDay⟩
    refine ⟨hTime, days, ?_, hDay⟩
    cases hResult :
        search.days instant.date.year
          instant.date.month with
    | error fault =>
        rw [hResult] at hDays
        cases hDays
    | ok others =>
        rw [hResult] at hDays
        cases hDays
        rfl
  · rintro ⟨hTime, days, hDays, hDay⟩
    refine ⟨hTime, days, ?_, hDay⟩
    rw [hDays]
    rfl

instance
    (instant : Instant) :
    Decidable (search.Admits instant) :=
  decidable_of_iff _ (admits_iff search instant)

end Search

end CronSchedule

------------------------------------------------------------
-- The Scan
------------------------------------------------------------

namespace CronSchedule

namespace Search

/-
  Try every whole second after an instant in its order, up
  to the end of the last month in reach, and stop at the
  first one that is admitted.
-/
def scanAfter
    (search : Search)
    (instant : Instant) : Option Instant :=
  match _ : instant.nextSecond? with
  | none => none
  | some second =>
      if search.expression.InReach search.origin
          second.date then
        if search.Admits second then
          some second
        else
          search.scanAfter second
      else
        none
termination_by instant.remaining
decreasing_by
  exact Instant.remaining_nextSecond? _ _ ‹_›

/- Try every whole second after the origin. -/
def scan
    (search : Search) : Option Instant :=
  search.scanAfter search.origin

/- What a scan that starts after an instant may give. -/
def IsScanned
    (search : Search)
    (instant : Instant) : Option Instant → Prop
| some first =>
    Instant.IsFirst search.Admits instant first ∧
      search.expression.InReach search.origin first.date
| none =>
    ∀ other, search.Admits other → instant < other →
      ¬ search.expression.InReach search.origin other.date

variable {search : Search}

/- What a scan may give, it gives. -/
theorem IsScanned.unique
    {instant : Instant}
    {left right : Option Instant}
    (hLeft : search.IsScanned instant left)
    (hRight : search.IsScanned instant right) :
    left = right := by
  cases left with
  | none =>
      cases right with
      | none => rfl
      | some first =>
          exact
            absurd hRight.2
              (hLeft first hRight.1.holds hRight.1.after)
  | some first =>
      cases right with
      | none =>
          exact
            absurd hLeft.2
              (hRight first hLeft.1.holds hLeft.1.after)
      | some other =>
          rw [hLeft.1.unique hRight.1]

end Search

end CronSchedule

------------------------------------------------------------
-- Seconds in Their Order
------------------------------------------------------------

namespace CronSchedule

namespace Expression

/- All seconds before one in reach are in reach. -/
theorem inReach_of_not_lt
    (expression : Expression)
    (origin second later : Instant)
    (hWhole : second.IsWhole)
    (hAfter : origin < second)
    (hOrder : ¬ later < second)
    (hInReach : expression.InReach origin later.date) :
    expression.InReach origin second.date := by
  have hIndex :=
    Date.monthIndex_le_of_not_lt
      (Instant.not_date_lt_of_not_lt hOrder)
  rcases hInReach with ⟨cursor, hCursor, hSame⟩ | hStart
  · have hCursorIndex :=
      Date.monthIndex_le_of_not_lt
        ((Instant.not_date_lt_of_addSecond? origin cursor
          hCursor).2 second hWhole hAfter)
    have hLater := Date.monthIndex_of_sharesMonth hSame
    refine Or.inl ⟨cursor, hCursor, ?_⟩
    exact Date.month_eq_of_monthIndex_eq (by omega)
  · right
    rw [Instant.lt_iff_rank_lt, Instant.rank_midnight,
      Date.rank_monthStart] at hStart ⊢
    omega

end Expression

namespace Search

variable {search : Search}
variable {instant second : Instant}

/- A second that is not admitted may be passed. -/
theorem IsScanned.pass
    {result : Option Instant}
    (hSecond : Instant.IsFirst Instant.IsWhole instant second)
    (hRefused : ¬ search.Admits second)
    (hLater : search.IsScanned second result) :
    search.IsScanned instant result := by
  have hAfter (other : Instant)
      (hOther : search.Admits other)
      (hLess : instant < other) :
      second < other := by
    have hNotBefore :=
      hSecond.least other hOther.time.whole hLess
    apply Classical.byContradiction
    intro hNotAfter
    have hSame : second = other :=
      Instant.eq_of_not_lt_of_not_lt hNotAfter hNotBefore
    rw [hSame] at hRefused
    exact hRefused hOther
  cases result with
  | none =>
      intro other hOther hLess
      exact hLater other hOther (hAfter other hOther hLess)
  | some first =>
      refine ⟨⟨hLater.1.holds, ?_, ?_⟩, hLater.2⟩
      · exact Instant.lt_trans hSecond.after hLater.1.after
      · intro other hOther hLess
        exact
          hLater.1.least other hOther
            (hAfter other hOther hLess)

/- A scan gives what it may. -/
theorem isScanned_scanAfter
    (search : Search)
    (instant : Instant)
    (hOrigin : ¬ instant < search.origin) :
    search.IsScanned instant (search.scanAfter instant) := by
  -- The cases are those of the scan: the range ends, the
  -- next second is admitted, or refused, or out of reach.
  -- In the last one all that follows is out of reach, too.
  fun_induction search.scanAfter instant with
  | case1 instant hNone =>
      intro other hOther hLess
      exact
        absurd hLess
          (Instant.not_lt_of_nextSecond?_eq_none instant
            other hNone hOther.time.whole)
  | case2 instant second hNext hInReach hAdmits =>
      have hSecond :=
        Instant.isFirst_nextSecond? instant second hNext
      refine ⟨⟨hAdmits, hSecond.after, ?_⟩, hInReach⟩
      intro other hOther hLess
      exact hSecond.least other hOther.time.whole hLess
  | case3 instant second hNext hInReach hRefused ih =>
      have hSecond :=
        Instant.isFirst_nextSecond? instant second hNext
      have hLess : search.origin < second :=
        Instant.lt_of_not_lt_of_lt hOrigin hSecond.after
      apply IsScanned.pass hSecond hRefused
      apply ih
      intro hBefore
      exact
        Instant.lt_irrefl second
          (Instant.lt_trans hBefore hLess)
  | case4 instant second hNext hFar =>
      have hSecond :=
        Instant.isFirst_nextSecond? instant second hNext
      intro other hOther hLess hInReach
      apply hFar
      exact
        search.expression.inReach_of_not_lt search.origin
          second other hSecond.holds
          (Instant.lt_of_not_lt_of_lt hOrigin hSecond.after)
          (hSecond.least other hOther.time.whole hLess)
          hInReach

end Search

end CronSchedule

------------------------------------------------------------
-- Search and Scan
------------------------------------------------------------

namespace CronSchedule

namespace Search

/- Where the days are known, the search finds no other. -/
theorem next_eq_scan
    (search : Search)
    (hWellFormed : search.expression.WellFormed)
    (hRange :
      search.expression.year = .anyYear →
        search.origin.date.year ≤ 262137)
    (hDays : search.KnowsDays) :
    search.next = .ok search.scan := by
  have hScan :=
    isScanned_scanAfter search search.origin
      (Instant.lt_irrefl search.origin)
  rcases search.next_cases hWellFormed hRange hDays with
    ⟨first, hNext, hFirst⟩ | ⟨hNext, hFar⟩
  · have hResult :
        search.IsScanned search.origin (some first) :=
      hFirst
    rw [hNext, hResult.unique hScan]
    rfl
  · have hResult : search.IsScanned search.origin none :=
      fun instant hAdmits hAfter =>
        hFar instant ⟨hAdmits, hAfter⟩
    rw [hNext, hResult.unique hScan]
    rfl

end Search

namespace Expression

/-
  On any calendar that answers, the next occurrence is the
  first second that a scan of all of them stops at.
-/
theorem nextAfter_eq_scan
    (calendar : Calendar)
    (text : String)
    (expression : Expression)
    (origin : Instant)
    (hAnswers : calendar.AlwaysAnswers)
    (hParse : parse text = .ok expression)
    (hRange : origin.date.year ≤ 262137) :
    expression.nextAfter calendar origin =
      .ok (Search.scan { calendar, expression, origin }) := by
  have hWellFormed :=
    wellFormed_of_parse text expression hParse
  apply
    Search.next_eq_scan { calendar, expression, origin }
      hWellFormed (fun _ => hRange)
  intro cursor date _ _ _
  have hMonth := date.month_bounds
  exact
    Search.exists_days_of_alwaysAnswers
      { calendar, expression, origin } date.year date.month
      hAnswers hWellFormed hMonth.1 hMonth.2

/-
  Months from a week to 45 days, and weekdays that go round
  five at a time.
-/
def unevenCalendar : Calendar :=
  .tabular [31, 7, 45, 28, 31, 29, 40, 31, 8, 31, 30, 12]
    { perYear := 3, perMonth := 2, perDay := 5, shift := 4 }

/- In the leap second after noon. -/
def noonFebruary28 : Instant :=
  ⟨⟨2024, 2, 28, by decide⟩,
    ⟨12, 0, 0, 1333333333, by decide⟩⟩

def noonApril28 : Instant :=
  ⟨⟨2024, 4, 28, by decide⟩, .noon⟩

/-
  The last working day of March is the 43rd there, which no
  second is on.
-/
theorem nextAfter_eq_scan_uneven :
    unevenCalendar.AlwaysAnswers ∧
      unevenCalendar.lastWorkday 2024 3 = .ok 43 ∧
      noonOnLastWorkday.nextAfter unevenCalendar
          noonFebruary28 =
        .ok (some noonApril28) ∧
      Search.scan
          ⟨unevenCalendar, noonOnLastWorkday,
            noonFebruary28⟩ =
        some noonApril28 := by
  have hAnswers : unevenCalendar.AlwaysAnswers :=
    Calendar.alwaysAnswers_tabular _ _ rfl (by decide)
  have hNext :
      noonOnLastWorkday.nextAfter unevenCalendar
          noonFebruary28 =
        .ok (some noonApril28) := rfl
  have hScan :=
    nextAfter_eq_scan unevenCalendar "0 0 12 LW * ?"
      noonOnLastWorkday noonFebruary28 hAnswers rfl
      (by decide)
  rw [hNext] at hScan
  exact ⟨hAnswers, rfl, hNext, (Except.ok.inj hScan).symm⟩

end Expression

end CronSchedule
