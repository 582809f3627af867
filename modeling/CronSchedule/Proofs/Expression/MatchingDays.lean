import CronSchedule.Field.Days
import CronSchedule.Proofs.Expression.Matching
import CronSchedule.Proofs.Expression.WellFormed

/-
  The days that the day fields select in a month are those
  whose dates they hold of.

  Main declarations:
    * `Field.daysByNumber_gregorian`
    * `Field.daysByWeekday_gregorian`
-/

------------------------------------------------------------
-- Counting Weekdays
------------------------------------------------------------

namespace CronSchedule

namespace Date

/- Every week up to the date counts its weekday once. -/
theorem weekdayCount_eq
    (date : Date) :
    date.weekdayCount = (date.day - 1) / 7 + 1 := by
  have hDate := date.wellFormed
  have hDay := date.day_bounds
  unfold Exists at hDate
  have hCount :
      date.weekdayCount =
        (List.range' 1 date.day).countP
          (fun day => day % 7 = date.day % 7) := by
    unfold weekdayCount
    apply List.countP_congr
    intro day hMember
    rw [List.mem_range'_1] at hMember
    have hExists : Exists date.year date.month day := by
      unfold Exists
      omega
    rcases exists_of?_eq_some _ _ _ hExists with
      ⟨other, hOther, hYear, hMonth, hOtherDay⟩
    rw [hOther, Option.map_some, decide_eq_true_iff,
      decide_eq_true_iff, Option.some.injEq,
      weekday_eq_weekdayOn, weekday_eq_weekdayOn, hYear,
      hMonth, hOtherDay]
    unfold weekdayOn
    omega
  rw [hCount, Calendar.countP_remainder _ _ (by omega)]
  omega

/- Dates of a month are told apart by their days. -/
theorem eq_of_sharesMonth
    {date other : Date}
    (hMonth : date.SharesMonth other)
    (hDay : other.day = date.day) :
    other = date :=
  eq_of_numbers hMonth.1 hMonth.2 hDay

theorem day_lt_of_sharesMonth
    {date other : Date}
    (hMonth : date.SharesMonth other) :
    date < other ↔ date.day < other.day := by
  rw [lt_iff_rank_lt]
  unfold rank monthIndex
  rw [hMonth.1, hMonth.2]
  omega

/- Every day up to the length of the month has a date. -/
theorem exists_sharesMonth
    (date : Date)
    (day : Nat)
    (hFirst : 1 ≤ day)
    (hLast : day ≤ date.lastOfMonth) :
    ∃ other, date.SharesMonth other ∧ other.day = day := by
  have hDate := date.wellFormed
  unfold Exists at hDate
  unfold lastOfMonth at hLast
  have hExists : Exists date.year date.month day := by
    unfold Exists
    omega
  rcases exists_of?_eq_some _ _ _ hExists with
    ⟨other, _, hYear, hMonth, hDay⟩
  exact ⟨other, ⟨hYear, hMonth⟩, hDay⟩

theorem day_le_lastOfMonth
    (date : Date) :
    date.day ≤ date.lastOfMonth :=
  day_le_of_same_month date date rfl rfl

theorem weekday_of_sharesMonth
    {date other : Date}
    (hMonth : date.SharesMonth other) :
    other.weekday =
      weekdayOn date.year date.month other.day := by
  rw [weekday_eq_weekdayOn, hMonth.1, hMonth.2]

end Date

end CronSchedule

------------------------------------------------------------
-- The Days of the Calendar
------------------------------------------------------------

namespace CronSchedule

namespace Date

open Calendar

/- The nearest working day is found by the calendar. -/
theorem exists_nearestWorkday
    (date : Date)
    (day : Nat)
    (hMonth : HasMonth date.year date.month)
    (hDay : 1 ≤ day) :
    ∃ nearest,
      gregorian.nearestWorkday date.year date.month day =
          .ok nearest ∧
        (date.day = nearest ↔ date.IsNearestWorkday day) := by
  have hWeekly :=
    isWeekly_gregorian date.year date.month hMonth
  have hLength :=
    monthLength_bounds date.year date.month
      date.month_bounds.1 date.month_bounds.2
  have hTarget :
      min (max day 1) (monthLength date.year date.month) =
        min day date.lastOfMonth := by
    unfold lastOfMonth
    omega
  rcases hWeekly.nearestWorkday_spec (by omega) day _ rfl
    with ⟨nearest, hOk, hFirst, hLast, hWorkday, hNear⟩
  rw [hTarget] at hNear
  refine ⟨nearest, hOk, ?_⟩
  constructor
  · intro hSame
    refine ⟨?_, ?_⟩
    · unfold IsWorkday
      rw [weekday_eq_weekdayOn, hSame]
      exact hWorkday
    · intro other hShares hOther hNe
      unfold IsWorkday at hOther
      rw [weekday_of_sharesMonth hShares] at hOther
      rw [hSame]
      apply hNear other.day other.day_bounds.1 _ hOther
      · intro hEqual
        apply hNe
        exact
          eq_of_sharesMonth hShares (hEqual.trans hSame.symm)
      · exact day_le_of_same_month date other hShares.1
          hShares.2
  · rintro ⟨hDate, hNearest⟩
    apply Classical.byContradiction
    intro hNe
    rcases exists_sharesMonth date nearest hFirst hLast with
      ⟨other, hShares, hOther⟩
    have hOtherWorkday : other.IsWorkday := by
      unfold IsWorkday
      rw [weekday_of_sharesMonth hShares, hOther]
      exact hWorkday
    have hOtherNe : other ≠ date := by
      rintro rfl
      exact hNe hOther
    have hLess :=
      hNearest other hShares hOtherWorkday hOtherNe
    have hGreater :=
      hNear date.day date.day_bounds.1
        date.day_le_lastOfMonth hDate hNe
    rw [hOther] at hLess
    exact absurd hLess (Nat.lt_asymm hGreater)

/- Of its month the date is the last with a property. -/
theorem day_eq_last_iff
    (date : Date)
    (property : Nat → Prop)
    (last : Nat)
    (hFirst : 1 ≤ last)
    (hLast : last ≤ date.lastOfMonth)
    (hProperty :
      property (weekdayOn date.year date.month last))
    (hAfter :
      ∀ other, last < other → other ≤ date.lastOfMonth →
        ¬ property
          (weekdayOn date.year date.month other)) :
    date.day = last ↔
      property date.weekday ∧
        ∀ other, date.SharesMonth other → date < other →
          ¬ property other.weekday := by
  constructor
  · intro hSame
    refine ⟨?_, ?_⟩
    · rw [weekday_eq_weekdayOn, hSame]
      exact hProperty
    · intro other hShares hLess
      rw [weekday_of_sharesMonth hShares]
      rw [day_lt_of_sharesMonth hShares, hSame] at hLess
      apply hAfter other.day hLess
      exact
        day_le_of_same_month date other hShares.1 hShares.2
  · rintro ⟨hDate, hNone⟩
    rcases exists_sharesMonth date last hFirst hLast with
      ⟨other, hShares, hOther⟩
    have hNotLess : ¬ date.day < last := by
      intro hLess
      rw [← hOther, ← day_lt_of_sharesMonth hShares]
        at hLess
      apply hNone other hShares hLess
      rw [weekday_of_sharesMonth hShares, hOther]
      exact hProperty
    have hNotGreater : ¬ last < date.day := by
      intro hGreater
      exact
        hAfter date.day hGreater date.day_le_lastOfMonth
          hDate
    omega

theorem exists_lastWorkday
    (date : Date)
    (hMonth : HasMonth date.year date.month) :
    ∃ last,
      gregorian.lastWorkday date.year date.month =
          .ok last ∧
        (date.day = last ↔ date.IsLastWorkday) := by
  have hLength :=
    monthLength_bounds date.year date.month
      date.month_bounds.1 date.month_bounds.2
  rcases (isWeekly_gregorian date.year date.month
      hMonth).lastWorkday_spec (by omega) with
    ⟨last, hOk, hFirst, hLast, hWorkday, hAfter⟩
  exact
    ⟨last, hOk,
      day_eq_last_iff date Calendar.IsWorkday last hFirst
        hLast hWorkday hAfter⟩

theorem exists_lastWeekday
    (date : Date)
    (weekday : Nat)
    (hMonth : HasMonth date.year date.month)
    (hFits : Field.Kind.dayOfWeek.Allows weekday) :
    ∃ last,
      gregorian.lastWeekday date.year date.month weekday =
          .ok last ∧
        (date.day = last ↔ date.IsLastWeekday weekday) := by
  have hLength :=
    monthLength_bounds date.year date.month
      date.month_bounds.1 date.month_bounds.2
  have hWeekday : 1 ≤ weekday ∧ weekday ≤ 7 := hFits
  rcases (isWeekly_gregorian date.year date.month
      hMonth).lastWeekday_spec (by omega) weekday with
    ⟨last, hOk, hFirst, hLast, hSame, hAfter⟩
  have hBounds (day : Nat) :=
    weekdayOn_bounds date.year date.month day
  refine
    ⟨last, hOk,
      day_eq_last_iff date (· = weekday) last hFirst hLast
        ?_ ?_⟩
  · have hDay := hBounds last
    omega
  · intro other hLess hOther hEqual
    exact hAfter other hLess hOther (congrArg (· % 7) hEqual)

theorem exists_nthWeekday
    (date : Date)
    (weekday count : Nat)
    (hMonth : HasMonth date.year date.month)
    (hFits : Field.Kind.dayOfWeek.Allows weekday)
    (hPositive : 1 ≤ count)
    (hCount : count ≤ Field.greatestCount) :
    ∃ day?,
      gregorian.nthWeekday date.year date.month weekday
            count = .ok day? ∧
        (day? = some date.day ↔
          date.IsNthWeekday weekday count) := by
  have hLength :=
    monthLength_bounds date.year date.month
      date.month_bounds.1 date.month_bounds.2
  have hWeekday : 1 ≤ weekday ∧ weekday ≤ 7 := hFits
  have hLimit : 49 < countLimit := by decide
  unfold Field.greatestCount at hCount
  refine
    ⟨_,
      (isWeekly_gregorian date.year date.month
        hMonth).nthWeekday_eq (by omega) weekday count
        hWeekday.1 hWeekday.2 hPositive (by omega), ?_⟩
  have hDay := date.day_bounds
  have hLast := date.day_le_lastOfMonth
  unfold lastOfMonth at hLast
  unfold IsNthWeekday
  rw [weekdayCount_eq, weekday_eq_weekdayOn]
  have hFirst := weekdayOn_bounds date.year date.month 1
  have hSame :
      weekdayOn date.year date.month date.day =
        (weekdayOn date.year date.month 1 + date.day + 5) %
            7 + 1 :=
    (isWeekly_gregorian date.year date.month
      hMonth).weekdayOf_eq date.day hDay.1 hLast
  rw [hSame]
  split
  · rw [Option.some.injEq]
    omega
  · simp only [reduceCtorEq, false_iff]
    omega

end Date

end CronSchedule

------------------------------------------------------------
-- The Days of the Fields
------------------------------------------------------------

namespace CronSchedule

namespace Field

open Calendar

/- A day-of-month field has the days that it holds of. -/
theorem daysByNumber_gregorian
    (field : Field)
    (date : Date)
    (hMonth : HasMonth date.year date.month)
    (hFits : field.Fits .dayOfMonth)
    (hSpecified : field ≠ .unspecified) :
    ∃ days,
      field.daysByNumber gregorian date.year date.month =
          .ok days ∧
        (date.day ∈ days ↔ field.HoldsByNumber date) := by
  have hLength :
      gregorian.daysInMonth date.year date.month =
        .ok (Date.monthLength date.year date.month) :=
    gregorianDaysInMonth_eq date.year date.month hMonth
  have hValues (values : List Nat)
      (hValues :
        field.valuesIn gregorian date.year date.month =
          .ok values)
      (hMember :
        date.day ∈ values ↔ field.HoldsByNumber date) :
      ∃ days,
        field.daysByNumber gregorian date.year date.month =
            .ok days ∧
          (date.day ∈ days ↔ field.HoldsByNumber date) := by
    have hDay := date.day_bounds
    have hLast := date.day_le_lastOfMonth
    unfold Date.lastOfMonth at hLast
    unfold daysByNumber
    rw [hLength, ok_bind, hValues, ok_bind]
    refine ⟨_, rfl, ?_⟩
    rw [List.mem_filter, ← hMember]
    simp [hDay.1, hLast]
  cases field with
  | fixed values =>
      exact hValues values.toList rfl Iff.rfl
  | unspecified =>
      exact absurd rfl hSpecified
  | lastDay =>
      apply hValues [Date.monthLength date.year date.month]
      · simp only [valuesIn, hLength, ok_bind]
        rfl
      · exact List.mem_singleton
  | lastDayOffset offset =>
      apply hValues
        (dayBeforeLast offset
          (Date.monthLength date.year date.month))
      · simp only [valuesIn, hLength, ok_bind]
        rfl
      · have hDay := date.day_bounds
        unfold HoldsByNumber Date.lastOfMonth dayBeforeLast
        split
        · rw [List.mem_singleton]
          omega
        · simp only [List.not_mem_nil, false_iff]
          omega
  | nearestWorkday day =>
      have hDay : 1 ≤ day ∧ day ≤ 31 := hFits
      rcases date.exists_nearestWorkday day hMonth hDay.1
        with ⟨nearest, hOk, hNearest⟩
      apply hValues [nearest]
      · simp only [valuesIn, hOk, ok_bind]
        rfl
      · rw [List.mem_singleton]
        exact hNearest
  | lastWorkday =>
      rcases date.exists_lastWorkday hMonth with
        ⟨last, hOk, hLast⟩
      apply hValues [last]
      · simp only [valuesIn, hOk, ok_bind]
        rfl
      · rw [List.mem_singleton]
        exact hLast
  | lastWeekday weekday => cases hFits
  | nthWeekday weekday count => cases hFits
  | anyYear => cases hFits

/- The days with weekdays of a set are filtered out. -/
theorem daysOnWeekdays_eq
    {calendar : Calendar}
    {year : Int}
    {month length : Nat}
    {weekdayOf : Nat → Nat}
    (hMonth :
      IsWeekly calendar year month length weekdayOf)
    (weekdays : ValueSet)
    (days : List Nat)
    (hDays : ∀ day ∈ days, 1 ≤ day ∧ day ≤ length) :
    daysOnWeekdays calendar year month weekdays days =
      .ok
        (days.filter fun day =>
          weekdayOf day ∈ weekdays) := by
  induction days with
  | nil =>
      rfl
  | cons day days ih =>
      have hDay := hDays day List.mem_cons_self
      unfold daysOnWeekdays
      rw [hMonth.weekday_eq day hDay.1 hDay.2, ok_bind,
        ih fun other hOther =>
          hDays other (List.mem_cons_of_mem day hOther),
        ok_bind, List.filter_cons]
      by_cases hMember : weekdayOf day ∈ weekdays
      · rw [if_pos hMember, if_pos (decide_eq_true hMember)]
        rfl
      · rw [if_neg hMember, if_neg (by simpa using hMember)]
        rfl

/- A day-of-week field has the days that it holds of. -/
theorem daysByWeekday_gregorian
    (field : Field)
    (date : Date)
    (hMonth : HasMonth date.year date.month)
    (hFits : field.Fits .dayOfWeek)
    (hSpecified : field ≠ .unspecified) :
    ∃ days,
      field.daysByWeekday gregorian date.year date.month =
          .ok days ∧
        (date.day ∈ days ↔ field.HoldsByWeekday date) := by
  have hWeekly :=
    isWeekly_gregorian date.year date.month hMonth
  cases field with
  | fixed weekdays =>
      simp only [daysByWeekday, hWeekly.length_eq, ok_bind]
      refine ⟨_, daysOnWeekdays_eq hWeekly weekdays _ ?_, ?_⟩
      · intro day hMember
        rw [List.mem_range'_1] at hMember
        omega
      · have hDay := date.day_bounds
        have hLast := date.day_le_lastOfMonth
        unfold Date.lastOfMonth at hLast
        rw [List.mem_filter, List.mem_range'_1,
          decide_eq_true_iff]
        constructor
        · exact And.right
        · intro hHolds
          exact ⟨by omega, hHolds⟩
  | unspecified =>
      exact absurd rfl hSpecified
  | lastWeekday weekday =>
      rcases date.exists_lastWeekday weekday hMonth hFits
        with ⟨last, hOk, hLast⟩
      refine ⟨[last], ?_, ?_⟩
      · simp only [daysByWeekday, valuesIn, hOk, ok_bind]
        rfl
      · rw [List.mem_singleton]
        exact hLast
  | nthWeekday weekday count =>
      rcases date.exists_nthWeekday weekday count hMonth
        hFits.1 hFits.2.1 hFits.2.2 with ⟨day?, hOk, hDay⟩
      refine ⟨day?.toList, ?_, ?_⟩
      · simp only [daysByWeekday, valuesIn, hOk, ok_bind]
        rfl
      · rw [Option.mem_toList]
        exact hDay
  | lastDay => cases hFits
  | lastDayOffset offset => cases hFits
  | nearestWorkday day => cases hFits
  | lastWorkday => cases hFits
  | anyYear => cases hFits

end Field

end CronSchedule
