/-
  Dates of the proleptic Gregorian calendar, in which the
  year zero exists.

  Key definitions include:
    * `Date.IsLeap`
    * `Date.monthLength`
    * `Date.Exists`
    * `Date`
    * `Date.next?`
    * `Date.previous?`
    * `Date.addMonths?`
    * `Date.weekday`
-/

------------------------------------------------------------
-- Existing Dates
------------------------------------------------------------

namespace CronSchedule

namespace Date

/- The first year of the range of dates. -/
def firstYear : Int := -262143

/- The last year of the range of dates. -/
def lastYear : Int := 262142

/-
  Every fourth year is a leap year, but of the centuries
  only every fourth.
-/
def IsLeap
    (year : Int) : Prop :=
  year % 4 = 0 ∧ (year % 100 ≠ 0 ∨ year % 400 = 0)

instance
    (year : Int) :
    Decidable (IsLeap year) := by
  unfold IsLeap
  infer_instance

/- The number of days of a month, zero if there is none. -/
def monthLength
    (year : Int)
    (month : Nat) : Nat :=
  match month with
  | 2 => if IsLeap year then 29 else 28
  | 4 | 6 | 9 | 11 => 30
  | 1 | 3 | 5 | 7 | 8 | 10 | 12 => 31
  | _ => 0

/- The numbers name a date within the range of years. -/
def Exists
    (year : Int)
    (month day : Nat) : Prop :=
  firstYear ≤ year ∧ year ≤ lastYear ∧
    1 ≤ month ∧ month ≤ 12 ∧
    1 ≤ day ∧ day ≤ monthLength year month

instance
    (year : Int)
    (month day : Nat) :
    Decidable (Exists year month day) := by
  unfold Exists
  infer_instance

end Date

/- An existing date. -/
structure Date where
  year : Int
  month : Nat
  day : Nat
  wellFormed : Date.Exists year month day
deriving DecidableEq

namespace Date

/- The date with the given numbers, if it exists. -/
def of?
    (year : Int)
    (month day : Nat) : Option Date :=
  if hExists : Exists year month day then
    some ⟨year, month, day, hExists⟩
  else
    none

/- The first day of a month, if it exists. -/
def firstOf?
    (year : Int)
    (month : Nat) : Option Date :=
  of? year month 1

/- A date is found from its own numbers alone. -/
theorem of?_eq_some_iff
    (year : Int)
    (month day : Nat)
    (date : Date) :
    of? year month day = some date ↔
      date.year = year ∧ date.month = month ∧
        date.day = day := by
  unfold of?
  constructor
  · intro hSome
    split at hSome
    · cases hSome
      exact ⟨rfl, rfl, rfl⟩
    · cases hSome
  · rintro ⟨rfl, rfl, rfl⟩
    simp [date.wellFormed]

/- No date is found where none exists. -/
theorem of?_eq_none_iff
    (year : Int)
    (month day : Nat) :
    of? year month day = none ↔
      ¬ Exists year month day := by
  simp [of?]

end Date

end CronSchedule

------------------------------------------------------------
-- Order
------------------------------------------------------------

namespace CronSchedule

namespace Date

/-
  The earlier of two dates is the one with the lesser year,
  then month, then day.
-/
instance : LT Date :=
  ⟨fun left right =>
    left.year < right.year ∨
      left.year = right.year ∧
        (left.month < right.month ∨
          left.month = right.month ∧
            left.day < right.day)⟩

instance
    (left right : Date) :
    Decidable (left < right) :=
  inferInstanceAs (Decidable (_ ∨ _))

/- The months counted from the first one of year zero. -/
def monthIndex
    (date : Date) : Int :=
  date.year * 12 + date.month - 1

/- An earlier date is not in a later month. -/
theorem monthIndex_le_of_lt
    (left right : Date)
    (hLess : left < right) :
    left.monthIndex ≤ right.monthIndex := by
  have hLeft := left.wellFormed
  have hRight := right.wellFormed
  unfold Exists at hLeft hRight
  unfold monthIndex
  rcases hLess with hYear | ⟨hYear, hMonth | ⟨hMonth, _⟩⟩
  · omega
  · omega
  · omega

/- The month of the first day that is asked for. -/
theorem monthIndex_of_firstOf?
    (year : Int)
    (month : Nat)
    (date : Date)
    (hFirst : firstOf? year month = some date) :
    date.monthIndex = year * 12 + month - 1 ∧
      1 ≤ month ∧ month ≤ 12 := by
  have hNumbers :=
    (of?_eq_some_iff year month 1 date).mp hFirst
  have hWellFormed := date.wellFormed
  unfold Exists at hWellFormed
  unfold monthIndex
  omega

end Date

end CronSchedule

------------------------------------------------------------
-- Neighbours
------------------------------------------------------------

namespace CronSchedule

namespace Date

/- The day after a date, unless the range ends there. -/
def next?
    (date : Date) : Option Date :=
  if date.day < monthLength date.year date.month then
    of? date.year date.month (date.day + 1)
  else if date.month < 12 then
    firstOf? date.year (date.month + 1)
  else
    firstOf? (date.year + 1) 1

/- The day before a date, unless the range starts there. -/
def previous?
    (date : Date) : Option Date :=
  if 1 < date.day then
    of? date.year date.month (date.day - 1)
  else if 1 < date.month then
    of? date.year (date.month - 1)
      (monthLength date.year (date.month - 1))
  else
    of? (date.year - 1) 12 31

/-
  The same day so many months later, or the last day of that
  month if it is shorter.
-/
def addMonths?
    (date : Date)
    (count : Nat) : Option Date :=
  let index := date.monthIndex + count
  let year := index / 12
  let month := (index % 12).toNat + 1
  of? year month (min date.day (monthLength year month))

end Date

end CronSchedule

------------------------------------------------------------
-- Weekdays
------------------------------------------------------------

namespace CronSchedule

namespace Date

/- The number of days before a year, counted from year 1. -/
def daysBeforeYear
    (year : Int) : Int :=
  let past := year - 1
  past * 365 + past / 4 - past / 100 + past / 400

/- The number of days of a year before a month. -/
def daysBeforeMonth
    (year : Int)
    (month : Nat) : Nat :=
  (List.range' 1 (month - 1)).foldr
    (fun earlier days => monthLength year earlier + days) 0

/- The days counted from the last one before year 1. -/
def dayNumber
    (date : Date) : Int :=
  daysBeforeYear date.year +
    daysBeforeMonth date.year date.month + date.day

/-
  The weekday from `1`, which is Sunday, to `7`.  The first
  day of year 1 was a Monday.
-/
def weekday
    (date : Date) : Nat :=
  (date.dayNumber % 7).toNat + 1

end Date

end CronSchedule
