import CronSchedule.Calendar.Basic
import CronSchedule.Proofs.Outcome

/-
  The days that a calendar singles out in a month in which
  the weekdays follow each other.

  Key definitions include:
    * `Calendar.IsWeekly`
    * `Calendar.IsWorkday`
    * `Calendar.weekdayTally`

  Main declarations:
    * `Calendar.IsWeekly.weekdayTally_eq`
    * `Calendar.IsWeekly.lastWeekday_spec`
    * `Calendar.IsWeekly.nthWeekday_eq`
    * `Calendar.IsWeekly.nearestWorkday_spec`
    * `Calendar.IsWeekly.lastWorkday_spec`
-/

------------------------------------------------------------
-- Months With Weeks
------------------------------------------------------------

namespace CronSchedule

namespace Calendar

/- The month has so many days, and weekdays in their order. -/
structure IsWeekly
    (calendar : Calendar)
    (year : Int)
    (month length : Nat)
    (weekdayOf : Nat → Nat) : Prop where
  length_eq : calendar.daysInMonth year month = .ok length
  length_lt : length < countLimit
  weekday_eq :
    ∀ day, 1 ≤ day → day ≤ length →
      calendar.weekday year month day = .ok (weekdayOf day)
  weekday_bounds :
    ∀ day, 1 ≤ day → day ≤ length →
      1 ≤ weekdayOf day ∧ weekdayOf day ≤ 7
  weekday_succ :
    ∀ day, 1 ≤ day → day < length →
      weekdayOf (day + 1) = weekdayOf day % 7 + 1

/- The weekday is neither Saturday nor Sunday. -/
def IsWorkday
    (weekday : Nat) : Prop :=
  weekday ≠ sunday ∧ weekday ≠ saturday

instance
    (weekday : Nat) :
    Decidable (IsWorkday weekday) := by
  unfold IsWorkday
  infer_instance

theorem add_eq_ok
    (left right : Nat)
    (hSum : left + right < countLimit) :
    add left right = .ok (left + right) :=
  if_pos hSum

theorem sub_eq_ok
    (left right : Nat)
    (hLe : right ≤ left) :
    sub left right = .ok (left - right) :=
  if_pos hLe

theorem mul_eq_ok
    (left right : Nat)
    (hProduct : left * right < countLimit) :
    mul left right = .ok (left * right) :=
  if_pos hProduct

namespace IsWeekly

variable {calendar : Calendar}
variable {year : Int}
variable {month length : Nat}
variable {weekdayOf : Nat → Nat}

/- The weekday of the first day decides all the others. -/
theorem weekdayOf_eq
    (hMonth :
      IsWeekly calendar year month length weekdayOf)
    (day : Nat)
    (hFirst : 1 ≤ day)
    (hLast : day ≤ length) :
    weekdayOf day = (weekdayOf 1 + day + 5) % 7 + 1 := by
  induction day with
  | zero =>
      omega
  | succ day ih =>
      by_cases hZero : day = 0
      · subst hZero
        have hBounds :=
          hMonth.weekday_bounds 1 (by omega) (by omega)
        change weekdayOf 1 = _
        omega
      · have hDay := ih (by omega) (by omega)
        have hStep :=
          hMonth.weekday_succ day (by omega) (by omega)
        omega

end IsWeekly

end Calendar

end CronSchedule

------------------------------------------------------------
-- Counting Weekdays
------------------------------------------------------------

namespace CronSchedule

namespace Calendar

/- How many of the first days have the weekday. -/
def weekdayTally
    (weekdayOf : Nat → Nat)
    (weekday days : Nat) : Nat :=
  (List.range' 1 days).countP fun day =>
    weekdayOf day = weekday

/- How many of the first numbers leave some remainder. -/
theorem countP_remainder
    (count remainder : Nat)
    (hRemainder : remainder < 7) :
    (List.range' 1 count).countP
        (fun day => day % 7 = remainder) =
      (count + (7 - remainder) % 7) / 7 := by
  induction count with
  | zero =>
      simp only [List.range'_zero, List.countP_nil]
      omega
  | succ count ih =>
      rw [List.range'_1_concat, List.countP_append, ih,
        List.countP_singleton]
      by_cases hLast : (1 + count) % 7 = remainder
      · rw [if_pos (by simpa using hLast)]
        omega
      · rw [if_neg (by simpa using hLast)]
        omega

namespace IsWeekly

variable {calendar : Calendar}
variable {year : Int}
variable {month length : Nat}
variable {weekdayOf : Nat → Nat}

/- From its first day on, a weekday comes once a week. -/
theorem weekdayTally_eq
    (hMonth :
      IsWeekly calendar year month length weekdayOf)
    (weekday days : Nat)
    (hFirst : 1 ≤ weekday)
    (hLast : weekday ≤ 7)
    (hDays : days ≤ length) :
    weekdayTally weekdayOf weekday days =
      (days + 7 -
          (1 + (weekday + 7 - weekdayOf 1) % 7)) / 7 := by
  by_cases hNone : days = 0
  · subst hNone
    change 0 = _
    omega
  · have hOpening :=
      hMonth.weekday_bounds 1 (by omega) (by omega)
    have hTally :
        weekdayTally weekdayOf weekday days =
          (List.range' 1 days).countP
            (fun day =>
              day % 7 =
                (1 + (weekday + 7 - weekdayOf 1)) % 7) := by
      apply List.countP_congr
      intro day hDay
      rw [List.mem_range'_1] at hDay
      rw [decide_eq_true_iff, decide_eq_true_iff,
        hMonth.weekdayOf_eq day (by omega) (by omega)]
      omega
    rw [hTally, countP_remainder _ _ (by omega)]
    omega

end IsWeekly

end Calendar

end CronSchedule

------------------------------------------------------------
-- Weekdays
------------------------------------------------------------

namespace CronSchedule

namespace Calendar

namespace IsWeekly

variable {calendar : Calendar}
variable {year : Int}
variable {month length : Nat}
variable {weekdayOf : Nat → Nat}

/- The last day with a weekday is in the last seven days. -/
theorem lastWeekday_spec
    (hMonth :
      IsWeekly calendar year month length weekdayOf)
    (hLength : 7 ≤ length)
    (weekday : Nat) :
    ∃ day,
      calendar.lastWeekday year month weekday = .ok day ∧
        1 ≤ day ∧ day ≤ length ∧
        weekdayOf day % 7 = weekday % 7 ∧
        ∀ other, day < other → other ≤ length →
          weekdayOf other % 7 ≠ weekday % 7 := by
  have hEnding :=
    hMonth.weekday_bounds length (by omega) (by omega)
  have hCount : 14 < countLimit := by decide
  refine
    ⟨length - (weekdayOf length + 7 - weekday % 7) % 7, ?_,
      by omega, by omega, ?_, ?_⟩
  · unfold lastWeekday
    rw [hMonth.length_eq, ok_bind,
      hMonth.weekday_eq length (by omega) (by omega),
      ok_bind, add_eq_ok _ _ (by omega), ok_bind,
      sub_eq_ok _ _ (by omega), ok_bind,
      sub_eq_ok _ _ (by omega)]
  · rw [hMonth.weekdayOf_eq length (by omega)
        (by omega),
      hMonth.weekdayOf_eq _ (by omega) (by omega)]
    omega
  · intro other hAfter hOther
    rw [hMonth.weekdayOf_eq length (by omega)
      (by omega)] at hAfter
    rw [hMonth.weekdayOf_eq other (by omega) hOther]
    omega

/- The first day with a weekday is in the first week. -/
theorem nthWeekday_eq_ite
    (hMonth :
      IsWeekly calendar year month length weekdayOf)
    (hLength : 7 ≤ length)
    (weekday count : Nat)
    (hFirst : 1 ≤ weekday)
    (hLast : weekday ≤ 7) :
    calendar.nthWeekday year month weekday count =
      if count = 0 then
        .ok none
      else do
        let weeks ← mul (count - 1) 7
        let day ←
          add (1 + (weekday + 7 - weekdayOf 1) % 7) weeks
        return if day ≤ length then some day else none := by
  have hOpening :=
    hMonth.weekday_bounds 1 (by omega) (by omega)
  have hLimit : 14 < countLimit := by decide
  unfold nthWeekday
  rw [hMonth.weekday_eq 1 (by omega) (by omega), ok_bind,
    add_eq_ok _ _ (by omega), ok_bind,
    sub_eq_ok _ _ (by omega), ok_bind,
    add_eq_ok _ _ (by omega), ok_bind]
  simp only [hMonth.length_eq, ok_bind]
  rfl

/- The others follow in steps of a week. -/
theorem nthWeekday_eq
    (hMonth :
      IsWeekly calendar year month length weekdayOf)
    (hLength : 7 ≤ length)
    (weekday count : Nat)
    (hFirst : 1 ≤ weekday)
    (hLast : weekday ≤ 7)
    (hPositive : 1 ≤ count)
    (hCount :
      1 + (weekday + 7 - weekdayOf 1) % 7 +
        (count - 1) * 7 < countLimit) :
    calendar.nthWeekday year month weekday count =
      .ok
        (if
            1 + (weekday + 7 - weekdayOf 1) % 7 +
              (count - 1) * 7 ≤ length then
          some
            (1 + (weekday + 7 - weekdayOf 1) % 7 +
              (count - 1) * 7)
        else
          none) := by
  rw [hMonth.nthWeekday_eq_ite hLength weekday count hFirst
      hLast,
    if_neg (by omega), mul_eq_ok _ _ (by omega), ok_bind,
    add_eq_ok _ _ (by omega), ok_bind]
  rfl

end IsWeekly

end Calendar

end CronSchedule

------------------------------------------------------------
-- Working Days
------------------------------------------------------------

namespace CronSchedule

namespace Calendar

/-
  The working day beside a weekend day, on its own side of
  the weekend unless that leaves the month.
-/
def settledDay
    (lastDay day weekday : Nat) : Nat :=
  if weekday = saturday then
    if 1 < day then day - 1 else day + 2
  else if weekday = sunday then
    if day < lastDay then day + 1 else day - 2
  else
    day

theorem settleOnWorkday_eq_ok
    (lastDay day weekday : Nat)
    (hLength : 3 ≤ lastDay)
    (hLimit : lastDay < countLimit)
    (hFirst : 1 ≤ day)
    (hLast : day ≤ lastDay) :
    settleOnWorkday lastDay day weekday =
      .ok (settledDay lastDay day weekday) := by
  unfold settleOnWorkday settledDay
  by_cases hSaturday : weekday = saturday
  · rw [if_pos hSaturday, if_pos hSaturday]
    by_cases hBefore : 1 < day
    · rw [if_pos hBefore, if_pos hBefore]
      exact sub_eq_ok _ _ (by omega)
    · rw [if_neg hBefore, if_neg hBefore,
        add_eq_ok _ _ (by omega), ok_bind,
        if_pos (by omega)]
      rfl
  · rw [if_neg hSaturday, if_neg hSaturday]
    by_cases hSunday : weekday = sunday
    · rw [if_pos hSunday, if_pos hSunday]
      by_cases hAfter : day < lastDay
      · rw [if_pos hAfter, if_pos hAfter]
        exact add_eq_ok _ _ (by omega)
      · rw [if_neg hAfter, if_neg hAfter,
          if_pos (by omega)]
        exact sub_eq_ok _ _ (by omega)
    · rw [if_neg hSunday, if_neg hSunday]
      rfl

namespace IsWeekly

variable {calendar : Calendar}
variable {year : Int}
variable {month length : Nat}
variable {weekdayOf : Nat → Nat}

theorem settledDay_spec
    (hMonth :
      IsWeekly calendar year month length weekdayOf)
    (hLength : 3 ≤ length)
    (day : Nat)
    (hFirst : 1 ≤ day)
    (hLast : day ≤ length) :
    1 ≤ settledDay length day (weekdayOf day) ∧
      settledDay length day (weekdayOf day) ≤ length ∧
      IsWorkday
        (weekdayOf
          (settledDay length day (weekdayOf day))) := by
  have hDay := hMonth.weekdayOf_eq day hFirst hLast
  unfold IsWorkday settledDay saturday sunday
  split
  · split
    · rw [hMonth.weekdayOf_eq (day - 1) (by omega)
        (by omega)]
      omega
    · rw [hMonth.weekdayOf_eq (day + 2) (by omega)
        (by omega)]
      omega
  · split
    · split
      · rw [hMonth.weekdayOf_eq (day + 1) (by omega)
          (by omega)]
        omega
      · rw [hMonth.weekdayOf_eq (day - 2) (by omega)
          (by omega)]
        omega
    · omega

/- Every other working day is further away. -/
theorem settledDay_nearest
    (hMonth :
      IsWeekly calendar year month length weekdayOf)
    (day other : Nat)
    (hFirst : 1 ≤ day)
    (hLast : day ≤ length)
    (hOtherFirst : 1 ≤ other)
    (hOtherLast : other ≤ length)
    (hWorkday : IsWorkday (weekdayOf other))
    (hOther :
      other ≠ settledDay length day (weekdayOf day)) :
    ((settledDay length day (weekdayOf day) : Int) -
          day).natAbs <
      ((other : Int) - day).natAbs := by
  have hDay := hMonth.weekdayOf_eq day hFirst hLast
  have hWeekday :=
    hMonth.weekdayOf_eq other hOtherFirst hOtherLast
  unfold IsWorkday saturday sunday at hWorkday
  revert hOther
  unfold settledDay saturday sunday
  split
  · split
    · omega
    · omega
  · split
    · split
      · omega
      · omega
    · omega

/-
  The nearest working day is strictly nearer to the day than
  every other working day of the month.
-/
theorem nearestWorkday_spec
    (hMonth :
      IsWeekly calendar year month length weekdayOf)
    (hLength : 3 ≤ length)
    (day target : Nat)
    (hTarget : target = min (max day 1) length) :
    ∃ nearest,
      calendar.nearestWorkday year month day =
          .ok nearest ∧
        1 ≤ nearest ∧ nearest ≤ length ∧
        IsWorkday (weekdayOf nearest) ∧
        ∀ other, 1 ≤ other → other ≤ length →
          IsWorkday (weekdayOf other) → other ≠ nearest →
            ((nearest : Int) - target).natAbs <
              ((other : Int) - target).natAbs := by
  have hBounds : 1 ≤ target ∧ target ≤ length := by omega
  have hSettled :=
    hMonth.settledDay_spec hLength target hBounds.1
      hBounds.2
  refine
    ⟨settledDay length target (weekdayOf target), ?_,
      hSettled.1, hSettled.2.1, hSettled.2.2, ?_⟩
  · unfold nearestWorkday
    rw [hMonth.length_eq, ok_bind, if_neg (by omega)]
    dsimp only
    rw [← hTarget,
      hMonth.weekday_eq target hBounds.1 hBounds.2, ok_bind]
    exact
      settleOnWorkday_eq_ok length target _ hLength
        hMonth.length_lt hBounds.1 hBounds.2
  · intro other hFirst hLast hWorkday hOther
    exact
      hMonth.settledDay_nearest target other hBounds.1
        hBounds.2 hFirst hLast hWorkday hOther

/- The last working day is the greatest one. -/
theorem lastWorkday_spec
    (hMonth :
      IsWeekly calendar year month length weekdayOf)
    (hLength : 3 ≤ length) :
    ∃ last,
      calendar.lastWorkday year month = .ok last ∧
        1 ≤ last ∧ last ≤ length ∧
        IsWorkday (weekdayOf last) ∧
        ∀ other, last < other → other ≤ length →
          ¬ IsWorkday (weekdayOf other) := by
  have hEnding :=
    hMonth.weekdayOf_eq length (by omega) (by omega)
  have hLast :
      calendar.lastWorkday year month =
        .ok
          (if weekdayOf length = saturday then
            length - 1
          else if weekdayOf length = sunday then
            length - 2
          else
            length) := by
    unfold lastWorkday
    rw [hMonth.length_eq, ok_bind,
      hMonth.weekday_eq length (by omega) (by omega),
      ok_bind]
    split
    · exact sub_eq_ok _ _ (by omega)
    · split
      · exact sub_eq_ok _ _ (by omega)
      · rfl
  refine ⟨_, hLast, ?_⟩
  have hWeekday (day : Nat) :=
    hMonth.weekdayOf_eq day
  unfold IsWorkday saturday sunday
  split
  · rw [hWeekday (length - 1) (by omega) (by omega)]
    refine ⟨by omega, by omega, by omega, ?_⟩
    intro other hAfter hOther
    rw [hWeekday other (by omega) hOther]
    omega
  · split
    · rw [hWeekday (length - 2) (by omega) (by omega)]
      refine ⟨by omega, by omega, by omega, ?_⟩
      intro other hAfter hOther
      rw [hWeekday other (by omega) hOther]
      omega
    · refine ⟨by omega, by omega, by omega, ?_⟩
      intro other hAfter hOther
      omega

end IsWeekly

end Calendar

end CronSchedule
