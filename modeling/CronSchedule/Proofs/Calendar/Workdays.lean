import CronSchedule.Proofs.Calendar.Weekdays

/-
  The working days of a month, and the two ways to find one
  of them: nearest to a day, and last in the month.  From
  the last day of the month on, both find the same one.

  Key definitions include:
    * `Calendar.workdays`

  Main declarations:
    * `Calendar.IsWeekly.isGreatest_lastWorkday`
    * `Calendar.nearest_eq_greatest`
    * `Calendar.nearestWorkday_optimal`
-/

------------------------------------------------------------
-- Working Days of a Month
------------------------------------------------------------

namespace CronSchedule

namespace Calendar

/- The days of a month that are from Monday to Friday. -/
def workdays
    (weekdayOf : Nat → Nat)
    (length : Nat) : Set Nat :=
  {day |
    1 ≤ day ∧ day ≤ length ∧ IsWorkday (weekdayOf day)}

/- Every other day of the set is further from the target. -/
def IsNearest
    (days : Set Nat)
    (target nearest : Nat) : Prop :=
  nearest ∈ days ∧
    ∀ other ∈ days, other ≠ nearest →
      ((nearest : Int) - target).natAbs <
        ((other : Int) - target).natAbs

/- Seen from beyond all days, the nearest is the greatest. -/
theorem nearest_eq_greatest
    {days : Set Nat}
    {target nearest greatest : Nat}
    (hNearest : IsNearest days target nearest)
    (hGreatest : IsGreatest days greatest)
    (hBeyond : ∀ day ∈ days, day ≤ target) :
    nearest = greatest := by
  apply Classical.byContradiction
  intro hNe
  have hLe := hGreatest.2 hNearest.1
  have hTarget := hBeyond greatest hGreatest.1
  have hLess :=
    hNearest.2 greatest hGreatest.1
      (fun hSame => hNe hSame.symm)
  omega

namespace IsWeekly

variable {calendar : Calendar}
variable {year : Int}
variable {month length : Nat}
variable {weekdayOf : Nat → Nat}

theorem isGreatest_lastWorkday
    (hMonth :
      IsWeekly calendar year month length weekdayOf)
    (hLength : 3 ≤ length) :
    ∃ last,
      calendar.lastWorkday year month = .ok last ∧
        IsGreatest (workdays weekdayOf length) last := by
  rcases hMonth.lastWorkday_spec hLength with
    ⟨last, hResult, hFirst, hLast, hWorkday, hAfter⟩
  refine ⟨last, hResult, ⟨hFirst, hLast, hWorkday⟩, ?_⟩
  rintro other ⟨_, hOther, hOtherWorkday⟩
  apply Nat.le_of_not_lt
  intro hLess
  exact hAfter other hLess hOther hOtherWorkday

theorem isNearest_nearestWorkday
    (hMonth :
      IsWeekly calendar year month length weekdayOf)
    (hLength : 3 ≤ length)
    (day : Nat) :
    ∃ nearest,
      calendar.nearestWorkday year month day =
          .ok nearest ∧
        IsNearest (workdays weekdayOf length)
          (min (max day 1) length) nearest := by
  rcases hMonth.nearestWorkday_spec hLength day _ rfl with
    ⟨nearest, hResult, hFirst, hLast, hWorkday, hNear⟩
  refine ⟨nearest, hResult, ⟨hFirst, hLast, hWorkday⟩, ?_⟩
  rintro other ⟨hOtherFirst, hOtherLast, hOtherWorkday⟩
  exact hNear other hOtherFirst hOtherLast hOtherWorkday

end IsWeekly

/-
  In a month whose weekdays follow each other, the last
  working day is the greatest one, and the working day
  nearest to a day, taken within the month, is nearer than
  all others.  From the last day on they are the same.
-/
theorem nearestWorkday_optimal
    {calendar : Calendar}
    {year : Int}
    {month length : Nat}
    {weekdayOf : Nat → Nat}
    (hMonth :
      IsWeekly calendar year month length weekdayOf)
    (hLength : 3 ≤ length) :
    ∃ last,
      calendar.lastWorkday year month = .ok last ∧
        IsGreatest (workdays weekdayOf length) last ∧
        ∀ day, ∃ nearest,
          calendar.nearestWorkday year month day =
              .ok nearest ∧
            IsNearest (workdays weekdayOf length)
              (min (max day 1) length) nearest ∧
            (length ≤ day → nearest = last) := by
  rcases hMonth.isGreatest_lastWorkday hLength with
    ⟨last, hLast, hGreatest⟩
  refine ⟨last, hLast, hGreatest, ?_⟩
  intro day
  rcases hMonth.isNearest_nearestWorkday hLength day with
    ⟨nearest, hResult, hNearest⟩
  refine ⟨nearest, hResult, hNearest, ?_⟩
  intro hBeyond
  apply nearest_eq_greatest hNearest hGreatest
  rintro other ⟨_, hOther, _⟩
  omega

/-
  A month of three days that starts with a Saturday has one
  working day, to which every day of it moves.
-/
theorem nearestWorkday_optimal_onlyMonday :
    let rule : WeekdayRule := ⟨0, 0, 1, 5⟩
    let calendar := tabular [3] rule
    IsWeekly calendar 2024 1 3 (rule.weekday 2024 1) ∧
      calendar.lastWorkday 2024 1 = .ok 3 ∧
      ∀ day, calendar.nearestWorkday 2024 1 day = .ok 3 := by
  intro rule calendar
  have hMonth :
      IsWeekly calendar 2024 1 3 (rule.weekday 2024 1) :=
    isWeekly_tabular [3] rule 2024 0 3 rfl rfl (by decide)
  have hOnly (day : Nat)
      (hWorkday : day ∈ workdays (rule.weekday 2024 1) 3) :
      day = 3 := by
    rcases hWorkday with ⟨hFirst, hLast, hDay⟩
    match day, hFirst, hLast with
    | 1, _, _ => exact absurd hDay (by decide)
    | 2, _, _ => exact absurd hDay (by decide)
    | 3, _, _ => rfl
  rcases nearestWorkday_optimal hMonth (by decide) with
    ⟨last, hLast, hGreatest, hNearest⟩
  refine ⟨hMonth, ?_, ?_⟩
  · rw [hLast, hOnly last hGreatest.1]
  · intro day
    rcases hNearest day with ⟨nearest, hResult, hDay, _⟩
    rw [hResult, hOnly nearest hDay.1]

end Calendar

end CronSchedule
