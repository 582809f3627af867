import CronSchedule.Calendar.Gregorian
import CronSchedule.Proofs.Calendar.Weekly
import CronSchedule.Proofs.Time.Successor

/-
  The months of the existing dates have their lengths, and
  weekdays that follow each other, also from one month or
  year to the next.

  Key definitions include:
    * `Date.weekdayOn`
    * `Calendar.HasMonth`

  Main declarations:
    * `Date.dayNumber_next?`
    * `Date.weekday_next?`
    * `Calendar.isWeekly_gregorian`
    * `Calendar.hasMonth_of_gregorianDaysInMonth`
-/

------------------------------------------------------------
-- Weekdays of a Month
------------------------------------------------------------

namespace CronSchedule

namespace Date

/- The weekday of a day of a month, given by its number. -/
def weekdayOn
    (year : Int)
    (month day : Nat) : Nat :=
  ((daysBeforeYear year + daysBeforeMonth year month +
    day) % 7).toNat + 1

theorem weekday_eq_weekdayOn
    (date : Date) :
    date.weekday =
      weekdayOn date.year date.month date.day :=
  rfl

theorem weekdayOn_bounds
    (year : Int)
    (month day : Nat) :
    1 ≤ weekdayOn year month day ∧
      weekdayOn year month day ≤ 7 := by
  unfold weekdayOn
  omega

theorem weekdayOn_succ
    (year : Int)
    (month day : Nat) :
    weekdayOn year month (day + 1) =
      weekdayOn year month day % 7 + 1 := by
  unfold weekdayOn
  omega

end Date

end CronSchedule

------------------------------------------------------------
-- Weekdays of Successive Dates
------------------------------------------------------------

namespace CronSchedule

namespace Date

variable (year : Int)

/- Days to start with may also be added at the end. -/
theorem foldr_monthLength_add
    (months : List Nat)
    (days : Nat) :
    months.foldr
        (fun month sum => monthLength year month + sum)
        days =
      months.foldr
          (fun month sum => monthLength year month + sum)
          0 +
        days := by
  induction months with
  | nil => exact (Nat.zero_add days).symm
  | cons first rest ih =>
      rw [List.foldr_cons, List.foldr_cons, ih,
        Nat.add_assoc]

theorem daysBeforeMonth_succ
    (month : Nat)
    (hMonth : 1 ≤ month) :
    daysBeforeMonth year (month + 1) =
      daysBeforeMonth year month +
        monthLength year month := by
  cases month with
  | zero => cases hMonth
  | succ earlier =>
      unfold daysBeforeMonth
      rw [Nat.add_sub_cancel, Nat.add_sub_cancel,
        List.range'_concat, List.foldr_append,
        foldr_monthLength_add, List.foldr_cons,
        List.foldr_nil, Nat.one_mul, Nat.add_comm 1,
        Nat.add_zero]

/- A leap year has one more day. -/
theorem daysBeforeMonth_december :
    daysBeforeMonth year 12 + 31 =
      if IsLeap year then 366 else 365 := by
  unfold daysBeforeMonth
  by_cases hLeap : IsLeap year
  · simp [List.range', monthLength, hLeap]
  · simp [List.range', monthLength, hLeap]

/- And its days are counted before the year that follows. -/
theorem daysBeforeYear_succ :
    daysBeforeYear (year + 1) =
      daysBeforeYear year + daysBeforeMonth year 12 + 31 := by
  have hDays := daysBeforeMonth_december year
  unfold daysBeforeYear
  dsimp only
  by_cases hLeap : IsLeap year
  · rw [if_pos hLeap] at hDays
    unfold IsLeap at hLeap
    omega
  · rw [if_neg hLeap] at hDays
    unfold IsLeap at hLeap
    omega

/- The next date has the next number. -/
theorem dayNumber_next?
    (date later : Date)
    (hNext : date.next? = some later) :
    later.dayNumber = date.dayNumber + 1 := by
  have hDate := date.wellFormed
  unfold Exists at hDate
  unfold next? at hNext
  unfold dayNumber
  split at hNext
  · rcases (of?_eq_some_iff _ _ _ later).mp hNext with
      ⟨hYear, hMonth, hDay⟩
    rw [hYear, hMonth, hDay]
    omega
  · rename_i hEnd
    split at hNext
    · rcases (of?_eq_some_iff _ _ _ later).mp hNext with
        ⟨hYear, hMonth, hDay⟩
      have hDays :=
        daysBeforeMonth_succ date.year date.month (by omega)
      rw [hYear, hMonth, hDay, hDays]
      omega
    · rcases (of?_eq_some_iff _ _ _ later).mp hNext with
        ⟨hYear, hMonth, hDay⟩
      have hDecember : date.month = 12 := by omega
      have hLength : monthLength date.year 12 = 31 := rfl
      have hFirst : daysBeforeMonth (date.year + 1) 1 = 0 :=
        rfl
      have hDays := daysBeforeYear_succ date.year
      rw [hDecember] at hDate hEnd
      rw [hYear, hMonth, hDay, hDecember, hFirst, hDays]
      omega

/- And the next weekday, whichever month or year it is in. -/
theorem weekday_next?
    (date later : Date)
    (hNext : date.next? = some later) :
    later.weekday = date.weekday % 7 + 1 := by
  unfold weekday
  rw [dayNumber_next? date later hNext]
  omega

/- The first day of 1970 was a Thursday. -/
example :
    weekday ⟨1970, 1, 1, by decide⟩ = 5 := by
  decide

end Date

end CronSchedule

------------------------------------------------------------
-- Months of the Calendar
------------------------------------------------------------

namespace CronSchedule

namespace Calendar

/-
  The month is in the range of dates and not the last one of
  it, which is followed by no first day.
-/
def HasMonth
    (year : Int)
    (month : Nat) : Prop :=
  Date.firstYear ≤ year ∧ year ≤ Date.lastYear ∧
    1 ≤ month ∧ month ≤ 12 ∧
    ¬ (year = Date.lastYear ∧ month = 12)

/- The day before the first of the next month is the last. -/
theorem exists_last_of_next_month
    (year : Int)
    (month : Nat)
    (hMonth : HasMonth year month)
    (hDecember : month ≠ 12) :
    ∃ first last,
      Date.firstOf? year (month + 1) = some first ∧
        first.previous? = some last ∧
        last.day = Date.monthLength year month := by
  unfold HasMonth at hMonth
  have hLength :=
    Date.monthLength_bounds year month (by omega) (by omega)
  have hNextLength :=
    Date.monthLength_bounds year (month + 1) (by omega)
      (by omega)
  have hFirst : Date.Exists year (month + 1) 1 := by
    unfold Date.Exists
    omega
  have hLast :
      Date.Exists year month
        (Date.monthLength year month) := by
    unfold Date.Exists
    omega
  rcases Date.exists_of?_eq_some _ _ _ hFirst with
    ⟨first, hFirst, hYear, hFirstMonth, hDay⟩
  rcases Date.exists_of?_eq_some _ _ _ hLast with
    ⟨last, hLast, _, _, hLastDay⟩
  refine ⟨first, last, hFirst, ?_, hLastDay⟩
  unfold Date.previous?
  rw [if_neg (by omega), if_pos (by omega), hYear,
    hFirstMonth, Nat.add_sub_cancel]
  exact hLast

theorem exists_last_of_next_year
    (year : Int)
    (hMonth : HasMonth year 12) :
    ∃ first last,
      Date.firstOf? (year + 1) 1 = some first ∧
        first.previous? = some last ∧
        last.day = Date.monthLength year 12 := by
  unfold HasMonth at hMonth
  have hLength :=
    Date.monthLength_bounds (year + 1) 1 (by omega)
      (by omega)
  have hFirst : Date.Exists (year + 1) 1 1 := by
    unfold Date.Exists
    omega
  have hDecember : Date.monthLength year 12 = 31 := rfl
  have hLast : Date.Exists year 12 31 := by
    unfold Date.Exists
    omega
  rcases Date.exists_of?_eq_some _ _ _ hFirst with
    ⟨first, hFirst, hYear, hFirstMonth, hDay⟩
  rcases Date.exists_of?_eq_some _ _ _ hLast with
    ⟨last, hLast, _, _, hLastDay⟩
  refine ⟨first, last, hFirst, ?_, hLastDay⟩
  unfold Date.previous?
  rw [if_neg (by omega), if_neg (by omega), hYear]
  rw [show year + 1 - 1 = year by omega]
  exact hLast

theorem gregorianDaysInMonth_eq
    (year : Int)
    (month : Nat)
    (hMonth : HasMonth year month) :
    gregorianDaysInMonth year month =
      .ok (Date.monthLength year month) := by
  have hBounds := hMonth
  unfold HasMonth Date.lastYear at hBounds
  unfold gregorianDaysInMonth monthAfter greatestYear
  rw [if_neg (by omega)]
  by_cases hDecember : month = 12
  · subst hDecember
    rcases exists_last_of_next_year year hMonth with
      ⟨first, last, hFirst, hLast, hDay⟩
    rw [if_pos rfl, if_pos (by omega), ok_bind]
    simp only [hFirst, hLast, Option.bind_eq_bind,
      Option.bind_some, hDay]
    rfl
  · rcases exists_last_of_next_month year month hMonth
      hDecember with ⟨first, last, hFirst, hLast, hDay⟩
    rw [if_neg hDecember, ok_bind]
    simp only [hFirst, hLast, Option.bind_eq_bind,
      Option.bind_some, hDay]
    rfl

/- The first day of the next month has a day before it. -/
theorem hasMonth_of_last
    (year nextYear : Int)
    (month nextMonth : Nat)
    (first last : Date)
    (hMonth : 1 ≤ month ∧ month ≤ 12)
    (hNext :
      monthAfter year month = .ok (nextYear, nextMonth))
    (hFirst :
      Date.firstOf? nextYear nextMonth = some first)
    (hLast : first.previous? = some last) :
    HasMonth year month := by
  have hNumbers :=
    (Date.of?_eq_some_iff nextYear nextMonth 1 first).mp
      hFirst
  have hFirstExists := first.wellFormed
  have hLastExists := last.wellFormed
  unfold Date.Exists at hFirstExists hLastExists
  unfold monthAfter at hNext
  unfold HasMonth
  split at hNext
  · split at hNext
    · cases hNext
      unfold Date.previous? at hLast
      rw [if_neg (by omega), if_neg (by omega),
        Date.of?_eq_some_iff] at hLast
      omega
    · cases hNext
  · cases hNext
    omega

/- No other months have a length. -/
theorem hasMonth_of_gregorianDaysInMonth
    (year : Int)
    (month length : Nat)
    (hLength :
      gregorianDaysInMonth year month = .ok length) :
    HasMonth year month := by
  unfold gregorianDaysInMonth at hLength
  split at hLength
  · cases hLength
  · rename_i hMonth
    rcases exists_ok_of_bind _ _ _ hLength with
      ⟨⟨nextYear, nextMonth⟩, hNext, hLast⟩
    dsimp only at hLast
    split at hLast
    · rename_i last hDate
      rw [Option.bind_eq_bind,
        Option.bind_eq_some_iff] at hDate
      rcases hDate with ⟨first, hFirst, hPrevious⟩
      exact
        hasMonth_of_last year nextYear month nextMonth first
          last (by omega) hNext hFirst hPrevious
    · cases hLast

/- The existing dates make up months with weeks. -/
theorem isWeekly_gregorian
    (year : Int)
    (month : Nat)
    (hMonth : HasMonth year month) :
    IsWeekly gregorian year month
      (Date.monthLength year month)
      (Date.weekdayOn year month) := by
  have hBounds := hMonth
  unfold HasMonth at hBounds
  have hLength :=
    Date.monthLength_bounds year month (by omega) (by omega)
  have hLimit : 31 < countLimit := by decide
  constructor
  · exact gregorianDaysInMonth_eq year month hMonth
  · omega
  · intro day hFirst hLast
    have hExists : Date.Exists year month day := by
      unfold Date.Exists
      omega
    rcases Date.exists_of?_eq_some _ _ _ hExists with
      ⟨date, hDate, rfl, rfl, rfl⟩
    change gregorianWeekday _ _ _ = _
    unfold gregorianWeekday
    rw [hDate]
    rfl
  · intro day _ _
    exact Date.weekdayOn_bounds year month day
  · intro day _ _
    exact Date.weekdayOn_succ year month day

end Calendar

end CronSchedule
