import CronSchedule.Proofs.Description.Accepted
import CronSchedule.Proofs.Expression.Matching

/-
  What the phrases of a description say of an instant.

  A field that has no phrase allows all instants of the
  years that an expression may name, and every phrase says
  what its field does.  So the phrases of an expression hold
  of a whole second if and only if the expression matches.

  Key definitions include:
    * `Phrase.Holds`
    * `Phrase.AllHold`

  Main declarations:
    * `Phrase.allHold_timePhrases_iff`
    * `Phrase.allHold_dayOfMonthPhrase_iff`
    * `Phrase.allHold_dayOfWeekPhrase_iff`
    * `Expression.matches_iff_allHold`
-/

------------------------------------------------------------
-- What a Phrase Says
------------------------------------------------------------

namespace CronSchedule

namespace TimeUnit

/- The number of a part of a time. -/
def of
    (unit : TimeUnit)
    (time : TimeOfDay) : Nat :=
  match unit with
  | .second => time.second
  | .minute => time.minute
  | .hour => time.hour

/- The position of the numbers of a part. -/
def kind : TimeUnit → Field.Kind
| .second => .second
| .minute => .minute
| .hour => .hour

theorem allows_of
    (unit : TimeUnit)
    (time : TimeOfDay) :
    unit.kind.Allows (unit.of time) := by
  have hTime := time.wellFormed
  unfold TimeOfDay.Exists at hTime
  cases unit with
  | second =>
      change 0 ≤ time.second ∧ time.second ≤ 59
      omega
  | minute =>
      change 0 ≤ time.minute ∧ time.minute ≤ 59
      omega
  | hour =>
      change 0 ≤ time.hour ∧ time.hour ≤ 23
      omega

end TimeUnit

namespace Phrase

/- What a phrase says of an instant. -/
def Holds : Phrase → Instant → Prop
| .atTime hour minute second, instant =>
    hour = instant.time.hour ∧
      minute = instant.time.minute ∧
      second = instant.time.second
| .every _, _ => True
| .atUnits unit values, instant =>
    unit.of instant.time ∈ values
| .onDays days, instant => instant.date.day ∈ days
| .onLastDay, instant =>
    instant.date.day = instant.date.lastOfMonth
| .beforeLastDay offset, instant =>
    instant.date.day + offset = instant.date.lastOfMonth
| .onNearestWorkday day, instant =>
    instant.date.IsNearestWorkday day
| .onLastWorkday, instant => instant.date.IsLastWorkday
| .onWeekdays weekdays, instant =>
    instant.date.weekday ∈ weekdays
| .onLastWeekday weekday, instant =>
    instant.date.IsLastWeekday weekday
| .onNthWeekday weekday count, instant =>
    instant.date.IsNthWeekday weekday count
| .inMonths months, instant =>
    instant.date.month ∈ months
| .inYears years, instant =>
    ∃ number : Nat,
      number ∈ years ∧ number = instant.date.year

/- Every one of the phrases holds of the instant. -/
def AllHold
    (phrases : List Phrase)
    (instant : Instant) : Prop :=
  ∀ phrase ∈ phrases, phrase.Holds instant

variable (instant : Instant)

theorem allHold_nil :
    AllHold [] instant := by
  intro phrase hPhrase
  cases hPhrase

theorem allHold_singleton
    (phrase : Phrase) :
    AllHold [phrase] instant ↔ phrase.Holds instant :=
  List.forall_mem_singleton

theorem allHold_append
    (left right : List Phrase) :
    AllHold (left ++ right) instant ↔
      AllHold left instant ∧ AllHold right instant :=
  List.forall_mem_append

end Phrase

end CronSchedule

------------------------------------------------------------
-- Sets
------------------------------------------------------------

namespace CronSchedule

namespace Field

/- A full set has all numbers of the position. -/
theorem mem_of_isFull
    (kind : Kind)
    (values : ValueSet)
    (number : Nat)
    (hSet : kind.AllowsSet values)
    (hFull : isFull kind values = true)
    (hNumber : kind.Allows number) :
    number ∈ values := by
  have hSame := eq_full_of_isFull kind values hSet hFull
  unfold full at hSame
  rw [← Field.fixed.inj hSame, ValueSet.mem_interval]
  exact hNumber

end Field

namespace Phrase

open English

variable (instant : Instant)

/- An omitted phrase for a set would hold. -/
theorem allHold_setPhrase_iff
    (kind : Field.Kind)
    (phrase : ValueSet → Phrase)
    (values : ValueSet)
    (number : Nat)
    (hSet : kind.AllowsSet values)
    (hNumber : kind.Allows number)
    (hHolds :
      (phrase values).Holds instant ↔ number ∈ values) :
    AllHold (setPhrase kind phrase values) instant ↔
      number ∈ values := by
  unfold setPhrase
  split
  · rename_i hFull
    have hMember :=
      Field.mem_of_isFull kind values number hSet hFull
        hNumber
    exact ⟨fun _ => hMember, fun _ => allHold_nil instant⟩
  · rw [allHold_singleton, hHolds]

/- Whatever was said before, the set of a part is told. -/
theorem allHold_unitPhrase_iff
    (unit : TimeUnit)
    (values : ValueSet)
    (finerIsFull : Bool)
    (hSet : unit.kind.AllowsSet values) :
    AllHold
        (unitPhrase unit.kind unit (some (.fixed values))
          finerIsFull).1 instant ↔
      unit.of instant.time ∈ values := by
  unfold unitPhrase
  simp only [Option.bind_some, Field.values?]
  split
  · rename_i hFull
    have hMember :=
      Field.mem_of_isFull unit.kind values _ hSet hFull
        (unit.allows_of instant.time)
    refine ⟨fun _ => hMember, fun _ => ?_⟩
    dsimp only
    split
    · exact allHold_nil instant
    · exact (allHold_singleton instant _).mpr trivial
  · exact allHold_singleton instant _

end Phrase

end CronSchedule

------------------------------------------------------------
-- Times
------------------------------------------------------------

namespace CronSchedule

theorem ValueSet.mem_iff_of_only?
    (values : ValueSet)
    (only number : Nat)
    (hOnly : values.only? = some only) :
    number ∈ values ↔ only = number := by
  unfold ValueSet.only? at hOnly
  split at hOnly
  · rename_i first hList
    cases hOnly
    change number ∈ values.toList ↔ _
    rw [hList, List.mem_singleton]
    exact eq_comm
  · cases hOnly

namespace Phrase

open English

variable (instant : Instant)

/- The time of day, in one phrase or in parts. -/
theorem allHold_timePhrases_iff
    (expression : Expression)
    (hWellFormed : expression.WellFormed) :
    AllHold
        (timePhrases (LooseFields.ofExpression expression))
        instant ↔
      expression.second.Has instant.time.second ∧
        expression.minute.Has instant.time.minute ∧
        expression.hour.Has instant.time.hour := by
  rcases hWellFormed.exists_fixed .second (by simp) with
    ⟨seconds, (hSecond : expression.second = _), hSeconds⟩
  rcases hWellFormed.exists_fixed .minute (by simp) with
    ⟨minutes, (hMinute : expression.minute = _), hMinutes⟩
  rcases hWellFormed.exists_fixed .hour (by simp) with
    ⟨hours, (hHour : expression.hour = _), hHours⟩
  unfold timePhrases unitPhrases LooseFields.ofExpression
  rw [hSecond, hMinute, hHour, Field.has_fixed,
    Field.has_fixed, Field.has_fixed]
  dsimp only
  split
  · rename_i hour minute second hOnlyHour hOnlyMinute
      hOnlySecond
    change hours.only? = _ at hOnlyHour
    change minutes.only? = _ at hOnlyMinute
    change seconds.only? = _ at hOnlySecond
    rw [allHold_singleton]
    change
      (hour = _ ∧ minute = _ ∧ second = _) ↔ _
    rw [← hours.mem_iff_of_only? _ _ hOnlyHour,
      ← minutes.mem_iff_of_only? _ _ hOnlyMinute,
      ← seconds.mem_iff_of_only? _ _ hOnlySecond]
    constructor
    · rintro ⟨hHour, hMinute, hSecond⟩
      exact ⟨hSecond, hMinute, hHour⟩
    · rintro ⟨hSecond, hMinute, hHour⟩
      exact ⟨hHour, hMinute, hSecond⟩
  · have hPart (unit : TimeUnit) :=
      allHold_unitPhrase_iff instant unit
    rw [allHold_append, allHold_append, and_assoc]
    exact
      and_congr (hPart .second seconds _ hSeconds)
        (and_congr (hPart .minute minutes _ hMinutes)
          (hPart .hour hours _ hHours))

end Phrase

end CronSchedule

------------------------------------------------------------
-- Days, Months, and Years
------------------------------------------------------------

namespace CronSchedule

namespace Phrase

open English

variable (instant : Instant)

theorem allHold_dayOfMonthPhrase_iff
    (field : Field)
    (hFits : field.Fits .dayOfMonth) :
    AllHold (dayOfMonthPhrase field) instant ↔
      (field ≠ .unspecified →
        field.HoldsByNumber instant.date) := by
  cases field with
  | fixed days =>
      have hSet :=
        allHold_setPhrase_iff instant .dayOfMonth .onDays
          days instant.date.day hFits
          instant.date.day_bounds Iff.rfl
      refine hSet.trans ?_
      simp [Field.HoldsByNumber]
  | unspecified =>
      simp [dayOfMonthPhrase, allHold_nil]
  | lastDayOffset offset =>
      cases offset with
      | zero =>
          simp [dayOfMonthPhrase, allHold_singleton, Holds,
            Field.HoldsByNumber]
      | succ offset =>
          simp [dayOfMonthPhrase, allHold_singleton, Holds,
            Field.HoldsByNumber]
  | lastDay | nearestWorkday _ | lastWorkday =>
      simp [dayOfMonthPhrase, allHold_singleton, Holds,
        Field.HoldsByNumber]
  | _ => cases hFits

theorem allHold_dayOfWeekPhrase_iff
    (field : Field)
    (hFits : field.Fits .dayOfWeek) :
    AllHold (dayOfWeekPhrase field) instant ↔
      (field ≠ .unspecified →
        field.HoldsByWeekday instant.date) := by
  cases field with
  | fixed weekdays =>
      have hSet :=
        allHold_setPhrase_iff instant .dayOfWeek .onWeekdays
          weekdays instant.date.weekday hFits
          (Date.weekdayOn_bounds _ _ _) Iff.rfl
      refine hSet.trans ?_
      simp [Field.HoldsByWeekday]
  | unspecified =>
      simp [dayOfWeekPhrase, allHold_nil]
  | lastWeekday _ | nthWeekday _ _ =>
      simp [dayOfWeekPhrase, allHold_singleton, Holds,
        Field.HoldsByWeekday]
  | _ => cases hFits

theorem allHold_monthPhrase_iff
    (expression : Expression)
    (hWellFormed : expression.WellFormed) :
    AllHold (monthPhrase expression.month) instant ↔
      expression.month.Has instant.date.month := by
  rcases hWellFormed.exists_fixed .month (by simp) with
    ⟨months, (hMonth : expression.month = _), hMonths⟩
  rw [hMonth, Field.has_fixed]
  exact
    allHold_setPhrase_iff instant .month .inMonths months
      instant.date.month hMonths instant.date.month_bounds
      Iff.rfl

/- In the years that can be named, an omitted year is any. -/
theorem allHold_yearPhrase_iff
    (expression : Expression)
    (hWellFormed : expression.WellFormed)
    (hFirst : firstYear ≤ instant.date.year)
    (hLast : instant.date.year ≤ lastYear) :
    AllHold (yearPhrase expression.year) instant ↔
      expression.AllowsYear instant.date.year := by
  unfold Expression.AllowsYear
  rcases hWellFormed.year_cases with hAny | ⟨years, hYear⟩
  · rw [hAny]
    exact ⟨fun _ => Or.inl rfl, fun _ => allHold_nil _⟩
  · have hSet := hWellFormed.fits .year
    change expression.year.Fits .year at hSet
    rw [hYear] at hSet ⊢
    rcases Int.eq_ofNat_of_zero_le
      (Int.le_trans (Int.natCast_nonneg firstYear) hFirst)
      with ⟨number, hNumber⟩
    rw [hNumber] at hFirst hLast
    have hHolds :
        (inYears years).Holds instant ↔ number ∈ years := by
      change
        (∃ other : Nat,
          other ∈ years ∧
            (other : Int) = instant.date.year) ↔ _
      rw [hNumber]
      constructor
      · rintro ⟨other, hOther, hSame⟩
        rw [← Int.ofNat_inj.mp hSame]
        exact hOther
      · intro hMember
        exact ⟨number, hMember, rfl⟩
    refine
      (allHold_setPhrase_iff instant .year .inYears years
        number hSet
        ⟨Int.ofNat_le.mp hFirst, Int.ofNat_le.mp hLast⟩
        hHolds).trans ?_
    rw [← hHolds]
    constructor
    · rintro ⟨other, hOther, hSame⟩
      exact Or.inr ⟨other, ⟨years, rfl, hOther⟩, hSame⟩
    · rintro (hAny | ⟨other, ⟨others, hOthers, hOther⟩,
        hSame⟩)
      · cases hAny
      · cases hOthers
        exact ⟨other, hOther, hSame⟩

end Phrase

end CronSchedule

------------------------------------------------------------
-- Phrases and Matches
------------------------------------------------------------

namespace CronSchedule

namespace Expression

open Phrase

/- The phrases for the fields one after the other. -/
theorem phrases_eq
    (expression : Expression) :
    expression.phrases =
      English.timePhrases
          (LooseFields.ofExpression expression) ++
        English.dayOfMonthPhrase expression.dayOfMonth ++
        English.dayOfWeekPhrase expression.dayOfWeek ++
        English.monthPhrase expression.month ++
        English.yearPhrase expression.year := by
  simp [phrases, English.phrases, LooseFields.ofExpression]

/- The phrases say all that an expression does. -/
theorem matches_iff_allHold
    (expression : Expression)
    (instant : Instant)
    (hWellFormed : expression.WellFormed)
    (hFirst : firstYear ≤ instant.date.year)
    (hLast : instant.date.year ≤ lastYear) :
    expression.Matches instant ↔
      instant.IsWhole ∧
        AllHold expression.phrases instant := by
  rw [phrases_eq, allHold_append, allHold_append,
    allHold_append, allHold_append,
    allHold_timePhrases_iff instant expression hWellFormed,
    allHold_dayOfMonthPhrase_iff instant
      expression.dayOfMonth (hWellFormed.fits .dayOfMonth),
    allHold_dayOfWeekPhrase_iff instant expression.dayOfWeek
      (hWellFormed.fits .dayOfWeek),
    allHold_monthPhrase_iff instant expression hWellFormed,
    allHold_yearPhrase_iff instant expression hWellFormed
      hFirst hLast]
  constructor
  · rintro ⟨hTime, hDay⟩
    exact
      ⟨hTime.whole,
        ⟨⟨⟨⟨hTime.second, hTime.minute, hTime.hour⟩,
          hDay.1⟩, hDay.2⟩, hTime.month⟩, hTime.year⟩
  · rintro
      ⟨hWhole,
        ⟨⟨⟨⟨hSecond, hMinute, hHour⟩, hByNumber⟩,
          hByWeekday⟩, hMonth⟩, hYear⟩
    exact
      ⟨⟨hWhole, hSecond, hMinute, hHour, hMonth, hYear⟩,
        hByNumber, hByWeekday⟩

end Expression

end CronSchedule
