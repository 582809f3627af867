import Mathlib.Order.Bounds.Defs
import CronSchedule.Calendar.Tabular
import CronSchedule.Proofs.Calendar.Weekly

/-
  The days of a month that have a weekday, one after the
  other.

  The n-th of them is the one with n - 1 others before it.
  The last of them is found from the end of the month, and
  is the one with the greatest number.

  Main declarations:
    * `Calendar.IsWeekly.nthWeekday_eq_some_iff`
    * `Calendar.IsWeekly.nthWeekday_eq_none_iff`
    * `Calendar.IsWeekly.isGreatest_lastWeekday`
    * `Calendar.weekdays_enumerated`
-/

------------------------------------------------------------
-- The N-th Day With a Weekday
------------------------------------------------------------

namespace CronSchedule

namespace Calendar

namespace IsWeekly

variable {calendar : Calendar}
variable {year : Int}
variable {month length : Nat}
variable {weekdayOf : Nat → Nat}

variable
  (hMonth : IsWeekly calendar year month length weekdayOf)
variable (hLength : 7 ≤ length)
variable (weekday count : Nat)
variable (hFirst : 1 ≤ weekday)
variable (hLast : weekday ≤ 7)

include hMonth hLength hFirst hLast

/- No day is the one with the number zero. -/
theorem nthWeekday_zero :
    calendar.nthWeekday year month weekday 0 =
      .ok none := by
  rw [hMonth.nthWeekday_eq_ite hLength weekday 0 hFirst
    hLast, if_pos rfl]

/- A day beyond all counts is not computed. -/
theorem nthWeekday_ne_ok
    (hBeyond :
      countLimit ≤
        1 + (weekday + 7 - weekdayOf 1) % 7 +
          (count - 1) * 7)
    (day? : Option Nat) :
    calendar.nthWeekday year month weekday count ≠
      .ok day? := by
  have hLimit : 14 < countLimit := by decide
  rw [hMonth.nthWeekday_eq_ite hLength weekday count hFirst
    hLast, if_neg (by omega)]
  intro hResult
  rcases exists_ok_of_bind _ _ _ hResult with
    ⟨weeks, hWeeks, hDay⟩
  rcases exists_ok_of_bind _ _ _ hDay with
    ⟨day, hSum, _⟩
  unfold mul at hWeeks
  split at hWeeks
  · cases hWeeks
    unfold add at hSum
    rw [if_neg (by omega)] at hSum
    cases hSum
  · cases hWeeks

/-
  The day with n - 1 others before it is the n-th one, as
  long as there is such a day.
-/
theorem nthWeekday_eq_some_iff
    (day : Nat) :
    calendar.nthWeekday year month weekday count =
        .ok (some day) ↔
      1 ≤ day ∧ day ≤ length ∧ weekdayOf day = weekday ∧
        weekdayTally weekdayOf weekday (day - 1) + 1 =
          count := by
  have hBounds := hMonth.length_lt
  have hOpening :=
    hMonth.weekday_bounds 1 (by omega) (by omega)
  have hPlace :
      (1 ≤ day ∧ day ≤ length ∧ weekdayOf day = weekday ∧
          weekdayTally weekdayOf weekday (day - 1) + 1 =
            count) ↔
        1 ≤ count ∧ day ≤ length ∧
          day =
            1 + (weekday + 7 - weekdayOf 1) % 7 +
              (count - 1) * 7 := by
    constructor
    · rintro ⟨hDayFirst, hDayLast, hWeekday, hTally⟩
      rw [hMonth.weekdayTally_eq weekday _ hFirst hLast
        (by omega)] at hTally
      rw [hMonth.weekdayOf_eq day hDayFirst hDayLast]
        at hWeekday
      omega
    · rintro ⟨hPositive, hDayLast, hDay⟩
      rw [hMonth.weekdayTally_eq weekday _ hFirst hLast
          (by omega),
        hMonth.weekdayOf_eq day (by omega) hDayLast]
      omega
  rw [hPlace]
  by_cases hPositive : 1 ≤ count
  · by_cases hCount :
        1 + (weekday + 7 - weekdayOf 1) % 7 +
          (count - 1) * 7 < countLimit
    · rw [hMonth.nthWeekday_eq hLength weekday count hFirst
        hLast hPositive hCount, Except.ok.injEq]
      split
      · rw [Option.some.injEq]
        omega
      · simp only [reduceCtorEq, false_iff]
        omega
    · have hNot :=
        hMonth.nthWeekday_ne_ok hLength weekday count hFirst
          hLast (by omega) (some day)
      simp only [hNot, false_iff]
      omega
  · have hZero : count = 0 := by omega
    rw [hZero,
      hMonth.nthWeekday_zero hLength weekday hFirst hLast]
    simp

/- There is no n-th day if there are fewer than n. -/
theorem nthWeekday_eq_none_iff
    (hCount : 7 * count + 7 < countLimit) :
    calendar.nthWeekday year month weekday count =
        .ok none ↔
      count = 0 ∨
        weekdayTally weekdayOf weekday length < count := by
  have hOpening :=
    hMonth.weekday_bounds 1 (by omega) (by omega)
  by_cases hZero : count = 0
  · rw [hZero,
      hMonth.nthWeekday_zero hLength weekday hFirst hLast]
    simp
  · rw [hMonth.nthWeekday_eq hLength weekday count hFirst
        hLast (by omega) (by omega),
      hMonth.weekdayTally_eq weekday length hFirst hLast
        (Nat.le_refl length),
      Except.ok.injEq]
    split
    · simp only [reduceCtorEq, false_iff]
      omega
    · simp only [true_iff]
      omega

end IsWeekly

end Calendar

end CronSchedule

------------------------------------------------------------
-- The Last Day With a Weekday
------------------------------------------------------------

namespace CronSchedule

namespace Calendar

/- The days of a month that have a weekday, modulo 7. -/
def daysWith
    (weekdayOf : Nat → Nat)
    (length weekday : Nat) : Set Nat :=
  {day |
    1 ≤ day ∧ day ≤ length ∧
      weekdayOf day % 7 = weekday % 7}

namespace IsWeekly

variable {calendar : Calendar}
variable {year : Int}
variable {month length : Nat}
variable {weekdayOf : Nat → Nat}

/- The last day with a weekday is the greatest one. -/
theorem isGreatest_lastWeekday
    (hMonth :
      IsWeekly calendar year month length weekdayOf)
    (hLength : 7 ≤ length)
    (weekday : Nat) :
    ∃ last,
      calendar.lastWeekday year month weekday = .ok last ∧
        IsGreatest (daysWith weekdayOf length weekday)
          last := by
  rcases hMonth.lastWeekday_spec hLength weekday with
    ⟨last, hResult, hFirst, hLast, hWeekday, hAfter⟩
  refine ⟨last, hResult, ⟨hFirst, hLast, hWeekday⟩, ?_⟩
  rintro other ⟨_, hOther, hSame⟩
  apply Nat.le_of_not_lt
  intro hLess
  exact hAfter other hLess hOther hSame

/- It is the n-th one for the greatest n that gives a day. -/
theorem exists_nthWeekday_last
    (hMonth :
      IsWeekly calendar year month length weekdayOf)
    (hLength : 7 ≤ length)
    (weekday last : Nat)
    (hFirst : 1 ≤ weekday)
    (hLast : weekday ≤ 7)
    (hGreatest :
      IsGreatest (daysWith weekdayOf length weekday) last) :
    ∃ count,
      calendar.nthWeekday year month weekday count =
          .ok (some last) ∧
        IsGreatest
          {number |
            ∃ day,
              calendar.nthWeekday year month weekday
                number = .ok (some day)}
          count := by
  rcases hGreatest with
    ⟨⟨hLastFirst, hLastLength, hSame⟩, hUpper⟩
  have hBounds :=
    hMonth.weekday_bounds last hLastFirst hLastLength
  have hCount :=
    hMonth.weekdayTally_eq weekday (last - 1) hFirst hLast
      (by omega)
  have hNth (number day : Nat) :=
    hMonth.nthWeekday_eq_some_iff hLength weekday number
      hFirst hLast day
  have hResult :=
    (hNth _ last).mpr
      ⟨hLastFirst, hLastLength, by omega, rfl⟩
  refine ⟨_, hResult, ⟨last, hResult⟩, ?_⟩
  rintro number ⟨day, hDay⟩
  rw [hNth] at hDay
  rcases hDay with
    ⟨hDayFirst, hDayLast, hWeekday, hTally⟩
  have hDayLe : day ≤ last :=
    hUpper ⟨hDayFirst, hDayLast, congrArg (· % 7) hWeekday⟩
  rw [hMonth.weekdayTally_eq weekday _ hFirst hLast
    (by omega)] at hTally
  omega

end IsWeekly

/-
  The months of a table have weeks if the weekday goes on by
  one a day.
-/
theorem isWeekly_tabular
    (lengths : List Nat)
    (rule : WeekdayRule)
    (year : Int)
    (index length : Nat)
    (hDay : rule.perDay = 1)
    (hLength : lengths[index]? = some length)
    (hLimit : length < countLimit) :
    IsWeekly (tabular lengths rule) year (index + 1) length
      (rule.weekday year (index + 1)) where
  length_eq := by
    unfold tabular
    simp only [hLength]
  length_lt := hLimit
  weekday_eq _ _ _ := rfl
  weekday_bounds day _ _ := by
    unfold WeekdayRule.weekday
    dsimp only
    omega
  weekday_succ day _ _ := by
    unfold WeekdayRule.weekday
    dsimp only
    rw [hDay]
    omega

/-
  In a month whose weekdays follow each other, counting them
  gives the n-th day with a weekday, and the last one is the
  greatest that counting gives.
-/
theorem weekdays_enumerated
    {calendar : Calendar}
    {year : Int}
    {month length : Nat}
    {weekdayOf : Nat → Nat}
    (hMonth :
      IsWeekly calendar year month length weekdayOf)
    (hLength : 7 ≤ length) :
    (∀ weekday count, 1 ≤ weekday → weekday ≤ 7 →
        (∀ day,
          calendar.nthWeekday year month weekday count =
              .ok (some day) ↔
            1 ≤ day ∧ day ≤ length ∧
              weekdayOf day = weekday ∧
              weekdayTally weekdayOf weekday (day - 1) + 1 =
                count) ∧
          (7 * count + 7 < countLimit →
            (calendar.nthWeekday year month weekday count =
                .ok none ↔
              count = 0 ∨
                weekdayTally weekdayOf weekday length <
                  count))) ∧
      ∀ weekday, ∃ last,
        calendar.lastWeekday year month weekday =
            .ok last ∧
          IsGreatest (daysWith weekdayOf length weekday)
            last ∧
          (1 ≤ weekday → weekday ≤ 7 →
            ∃ count,
              calendar.nthWeekday year month weekday count =
                  .ok (some last) ∧
                IsGreatest
                  {number |
                    ∃ day,
                      calendar.nthWeekday year month weekday
                        number = .ok (some day)}
                  count) := by
  constructor
  · intro weekday count hFirst hLast
    exact
      ⟨hMonth.nthWeekday_eq_some_iff hLength weekday count
          hFirst hLast,
        hMonth.nthWeekday_eq_none_iff hLength weekday count
          hFirst hLast⟩
  · intro weekday
    rcases hMonth.isGreatest_lastWeekday hLength weekday
      with ⟨last, hResult, hGreatest⟩
    refine ⟨last, hResult, hGreatest, ?_⟩
    intro hFirst hLast
    exact
      hMonth.exists_nthWeekday_last hLength weekday last
        hFirst hLast hGreatest

/-
  A month of forty days that starts with a Saturday has six
  of them, of which the last one is also found as `0`.
-/
theorem weekdays_enumerated_sixSaturdays :
    let rule : WeekdayRule := ⟨0, 0, 1, 5⟩
    let calendar := tabular [40] rule
    IsWeekly calendar 2024 1 40 (rule.weekday 2024 1) ∧
      calendar.nthWeekday 2024 1 7 6 = .ok (some 36) ∧
      calendar.nthWeekday 2024 1 7 7 = .ok none ∧
      ∃ last, calendar.lastWeekday 2024 1 0 = .ok last ∧
        36 ≤ last := by
  intro rule calendar
  have hMonth :
      IsWeekly calendar 2024 1 40 (rule.weekday 2024 1) :=
    isWeekly_tabular [40] rule 2024 0 40 rfl rfl (by decide)
  have hCounted := weekdays_enumerated hMonth (by decide)
  have hSixth :=
    (hCounted.1 7 6 (by decide) (by decide)).1 36
  have hSeventh :=
    (hCounted.1 7 7 (by decide) (by decide)).2 (by decide)
  rcases hCounted.2 0 with ⟨last, hResult, hGreatest, _⟩
  refine
    ⟨hMonth,
      hSixth.mpr ⟨by decide, by decide, rfl, rfl⟩,
      hSeventh.mpr (Or.inr (by decide)), last, hResult, ?_⟩
  exact hGreatest.2 ⟨by decide, by decide, by decide⟩

end Calendar

end CronSchedule
