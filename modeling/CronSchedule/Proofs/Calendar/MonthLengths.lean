import CronSchedule.Proofs.Calendar.Extension

/-
  The length of a month, which is found from the first day
  of the next one, and the dates of the month, which are
  looked up by themselves.

  The two agree on every month that has a length.  The last
  month of the range has dates, but no length.

  Main declarations:
    * `Calendar.exists_date_iff`
    * `Calendar.exists_weekday_iff`
    * `Calendar.exists_fault_of_not_hasMonth`
    * `Calendar.daysInMonth_exact`
-/

------------------------------------------------------------
-- Dates of a Month
------------------------------------------------------------

namespace CronSchedule

namespace Calendar

variable (year : Int)
variable (month day : Nat)

/- A date is found where one exists. -/
theorem exists_date_iff :
    (∃ date, Date.of? year month day = some date) ↔
      Date.Exists year month day := by
  constructor
  · rintro ⟨date, hDate⟩
    rcases (Date.of?_eq_some_iff _ _ _ date).mp hDate with
      ⟨rfl, rfl, rfl⟩
    exact date.wellFormed
  · intro hExists
    rcases Date.exists_of?_eq_some _ _ _ hExists with
      ⟨date, hDate, _⟩
    exact ⟨date, hDate⟩

/- And there it has a weekday. -/
theorem exists_weekday_iff :
    (∃ weekday,
        gregorian.weekday year month day = .ok weekday) ↔
      Date.Exists year month day := by
  rw [← exists_date_iff]
  constructor
  · rintro ⟨weekday, hWeekday⟩
    rcases
      (gregorianWeekday_eq_ok_iff year month day
        weekday).mp hWeekday with ⟨date, hDate, _⟩
    exact ⟨date, hDate⟩
  · rintro ⟨date, hDate⟩
    refine ⟨date.weekday, ?_⟩
    exact
      (gregorianWeekday_eq_ok_iff year month day _).mpr
        ⟨date, hDate, rfl⟩

/- The dates of a month are its days up to the last one. -/
theorem exists_iff_of_hasMonth
    (hMonth : HasMonth year month) :
    Date.Exists year month day ↔
      1 ≤ day ∧ day ≤ Date.monthLength year month := by
  unfold HasMonth at hMonth
  unfold Date.Exists
  omega

/- All other months are refused. -/
theorem exists_fault_of_not_hasMonth
    (hMonth : ¬ HasMonth year month) :
    ∃ fault,
      gregorian.daysInMonth year month = .error fault := by
  cases hResult : gregorian.daysInMonth year month with
  | error fault => exact ⟨fault, rfl⟩
  | ok length =>
      exact
        absurd
          (hasMonth_of_gregorianDaysInMonth year month
            length hResult)
          hMonth

end Calendar

end CronSchedule

------------------------------------------------------------
-- Lengths and Dates
------------------------------------------------------------

namespace CronSchedule

namespace Calendar

/-
  A month of the range has a length, unless it is the last
  one.  The days up to it are those that are found as dates,
  and those that have a weekday.
-/
theorem daysInMonth_exact
    (year : Int)
    (month : Nat) :
    (HasMonth year month →
      ∃ length,
        gregorian.daysInMonth year month = .ok length ∧
          ∀ day,
            ((∃ date,
                Date.of? year month day = some date) ↔
              1 ≤ day ∧ day ≤ length) ∧
            ((∃ weekday,
                gregorian.weekday year month day =
                  .ok weekday) ↔
              1 ≤ day ∧ day ≤ length)) ∧
      (¬ HasMonth year month →
        ∃ fault,
          gregorian.daysInMonth year month =
            .error fault) := by
  refine ⟨?_, exists_fault_of_not_hasMonth year month⟩
  intro hMonth
  refine
    ⟨Date.monthLength year month,
      gregorianDaysInMonth_eq year month hMonth, ?_⟩
  intro day
  rw [exists_date_iff, exists_weekday_iff,
    exists_iff_of_hasMonth year month day hMonth]
  exact ⟨Iff.rfl, Iff.rfl⟩

/-
  Of the last two months of the range only the first has a
  length, although both have a last day.
-/
theorem daysInMonth_exact_endOfRange :
    HasMonth 262142 11 ∧
      (∃ weekday,
        gregorian.weekday 262142 11 30 = .ok weekday) ∧
      (¬ ∃ date, Date.of? 262142 11 31 = some date) ∧
      ¬ HasMonth 262142 12 ∧
      Date.Exists 262142 12 31 ∧
      ∃ fault,
        gregorian.daysInMonth 262142 12 = .error fault := by
  have hMonth : HasMonth 262142 11 := by
    unfold HasMonth
    decide
  have hLast : ¬ HasMonth 262142 12 := by
    unfold HasMonth
    decide
  have hLength :
      gregorian.daysInMonth 262142 11 = .ok 30 := rfl
  rcases (daysInMonth_exact 262142 11).1 hMonth with
    ⟨length, hSame, hDays⟩
  rw [hLength] at hSame
  cases hSame
  refine
    ⟨hMonth, (hDays 30).2.mpr (by decide), ?_, hLast,
      by decide, (daysInMonth_exact 262142 12).2 hLast⟩
  rw [(hDays 31).1]
  decide

end Calendar

end CronSchedule
