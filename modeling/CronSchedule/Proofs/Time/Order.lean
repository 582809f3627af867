import CronSchedule.Time.Instant

/-
  The order of dates, times, and instants, measured by
  numbers that grow with them.

  Key definitions include:
    * `Date.rank`
    * `Date.monthStart`
    * `TimeOfDay.noon`
    * `TimeOfDay.rank`
    * `Instant.rank`

  Main declarations:
    * `Date.lt_iff_rank_lt`
    * `Date.monthIndex_le_of_not_lt`
    * `Instant.lt_iff_rank_lt`
    * `Instant.eq_of_rank_eq`
-/

------------------------------------------------------------
-- Dates
------------------------------------------------------------

namespace CronSchedule

namespace Date

/- A month of the year has 28 to 31 days. -/
theorem monthLength_bounds
    (year : Int)
    (month : Nat)
    (hFirst : 1 ≤ month)
    (hLast : month ≤ 12) :
    28 ≤ monthLength year month ∧
      monthLength year month ≤ 31 := by
  unfold monthLength
  split
  · by_cases hLeap : IsLeap year <;> simp [hLeap]
  all_goals grind

theorem month_bounds
    (date : Date) :
    1 ≤ date.month ∧ date.month ≤ 12 := by
  have hDate := date.wellFormed
  unfold Exists at hDate
  omega

theorem day_bounds
    (date : Date) :
    1 ≤ date.day ∧ date.day ≤ 31 := by
  have hDate := date.wellFormed
  have hMonth := date.month_bounds
  have hLength :=
    monthLength_bounds date.year date.month hMonth.1
      hMonth.2
  unfold Exists at hDate
  omega

/- A number that grows with the date. -/
def rank
    (date : Date) : Int :=
  date.monthIndex * 32 + date.day

theorem lt_iff_rank_lt
    (left right : Date) :
    left < right ↔ left.rank < right.rank := by
  have hLeft := left.month_bounds
  have hRight := right.month_bounds
  have hLeftDay := left.day_bounds
  have hRightDay := right.day_bounds
  change
    (left.year < right.year ∨
      left.year = right.year ∧
        (left.month < right.month ∨
          left.month = right.month ∧
            left.day < right.day)) ↔ _
  unfold rank monthIndex
  omega

theorem lt_irrefl
    (date : Date) :
    ¬ date < date := by
  rw [lt_iff_rank_lt]
  omega

theorem lt_asymm
    {left right : Date}
    (hLess : left < right) :
    ¬ right < left := by
  rw [lt_iff_rank_lt] at hLess ⊢
  omega

/- A date that is not earlier is in no earlier month. -/
theorem monthIndex_le_of_not_lt
    {left right : Date}
    (hNotLess : ¬ right < left) :
    left.monthIndex ≤ right.monthIndex := by
  have hLeft := left.day_bounds
  have hRight := right.day_bounds
  rw [lt_iff_rank_lt] at hNotLess
  unfold rank at hNotLess
  omega

theorem year_le_of_not_lt
    {left right : Date}
    (hNotLess : ¬ right < left) :
    left.year ≤ right.year := by
  have hLeft := left.month_bounds
  have hRight := right.month_bounds
  have hIndex := monthIndex_le_of_not_lt hNotLess
  unfold monthIndex at hIndex
  omega

/- The numbers of a date are all that it is. -/
theorem eq_of_numbers
    {left right : Date}
    (hYear : left.year = right.year)
    (hMonth : left.month = right.month)
    (hDay : left.day = right.day) :
    left = right := by
  cases left
  cases right
  cases hYear
  cases hMonth
  cases hDay
  rfl

theorem eq_of_rank_eq
    {left right : Date}
    (hRank : left.rank = right.rank) :
    left = right := by
  have hLeft := left.month_bounds
  have hRight := right.month_bounds
  have hLeftDay := left.day_bounds
  have hRightDay := right.day_bounds
  unfold rank monthIndex at hRank
  apply eq_of_numbers
  · omega
  · omega
  · omega

/- Dates whose months have the same index share a month. -/
theorem month_eq_of_monthIndex_eq
    {left right : Date}
    (hIndex : left.monthIndex = right.monthIndex) :
    left.year = right.year ∧ left.month = right.month := by
  have hLeft := left.month_bounds
  have hRight := right.month_bounds
  unfold monthIndex at hIndex
  omega

/- The first day of the month of a date. -/
def monthStart
    (date : Date) : Date :=
  ⟨date.year, date.month, 1, by
    have hDate := date.wellFormed
    have hMonth := date.month_bounds
    have hLength :=
      monthLength_bounds date.year date.month hMonth.1
        hMonth.2
    unfold Exists at hDate ⊢
    omega⟩

@[simp]
theorem rank_monthStart
    (date : Date) :
    date.monthStart.rank = date.monthIndex * 32 + 1 :=
  rfl

end Date

end CronSchedule

------------------------------------------------------------
-- Times of Day
------------------------------------------------------------

namespace CronSchedule

namespace TimeOfDay

/- The middle of the day. -/
def noon : TimeOfDay :=
  ⟨12, 0, 0, 0, by decide⟩

/- A number that grows with the time. -/
def rank
    (time : TimeOfDay) : Nat :=
  time.secondOfDay * (2 * nanosPerSecond) + time.nano

theorem secondOfDay_lt
    (time : TimeOfDay) :
    time.secondOfDay < 86400 := by
  have hTime := time.wellFormed
  unfold Exists at hTime
  unfold secondOfDay
  omega

theorem nano_lt
    (time : TimeOfDay) :
    time.nano < 2000000000 := by
  have hTime := time.wellFormed
  unfold Exists nanosPerSecond at hTime
  omega

theorem lt_iff_rank_lt
    (left right : TimeOfDay) :
    left < right ↔ left.rank < right.rank := by
  have hLeft := left.nano_lt
  have hRight := right.nano_lt
  change
    (left.secondOfDay < right.secondOfDay ∨
      left.secondOfDay = right.secondOfDay ∧
        left.nano < right.nano) ↔ _
  unfold rank nanosPerSecond
  omega

theorem eq_of_rank_eq
    {left right : TimeOfDay}
    (hRank : left.rank = right.rank) :
    left = right := by
  have hLeft := left.wellFormed
  have hRight := right.wellFormed
  unfold Exists nanosPerSecond at hLeft hRight
  unfold rank secondOfDay nanosPerSecond at hRank
  have hHour : left.hour = right.hour := by omega
  have hMinute : left.minute = right.minute := by omega
  have hSecond : left.second = right.second := by omega
  have hNano : left.nano = right.nano := by omega
  cases left
  cases right
  cases hHour
  cases hMinute
  cases hSecond
  cases hNano
  rfl

theorem rank_lt
    (time : TimeOfDay) :
    time.rank < 172800000000000 := by
  have hSecond := time.secondOfDay_lt
  have hNano := time.nano_lt
  unfold rank nanosPerSecond
  omega

end TimeOfDay

end CronSchedule

------------------------------------------------------------
-- Instants
------------------------------------------------------------

namespace CronSchedule

namespace Instant

/- A number that grows with the instant. -/
def rank
    (instant : Instant) : Int :=
  instant.date.rank * 172800000000000 + instant.time.rank

theorem lt_iff_rank_lt
    (left right : Instant) :
    left < right ↔ left.rank < right.rank := by
  have hLeft := left.time.rank_lt
  have hRight := right.time.rank_lt
  have hSame :
      left.date = right.date ↔
        left.date.rank = right.date.rank :=
    ⟨congrArg Date.rank, Date.eq_of_rank_eq⟩
  change
    (left.date < right.date ∨
      left.date = right.date ∧
        left.time < right.time) ↔ _
  rw [Date.lt_iff_rank_lt, TimeOfDay.lt_iff_rank_lt, hSame]
  unfold rank
  omega

theorem eq_of_rank_eq
    {left right : Instant}
    (hRank : left.rank = right.rank) :
    left = right := by
  have hLeft := left.time.rank_lt
  have hRight := right.time.rank_lt
  unfold rank at hRank
  have hDate : left.date = right.date := by
    apply Date.eq_of_rank_eq
    omega
  have hTime : left.time = right.time := by
    apply TimeOfDay.eq_of_rank_eq
    omega
  cases left
  cases right
  cases hDate
  cases hTime
  rfl

theorem lt_irrefl
    (instant : Instant) :
    ¬ instant < instant := by
  rw [lt_iff_rank_lt]
  omega

theorem lt_trans
    {first second third : Instant}
    (hFirst : first < second)
    (hSecond : second < third) :
    first < third := by
  rw [lt_iff_rank_lt] at hFirst hSecond ⊢
  omega

theorem lt_of_not_lt_of_lt
    {first second third : Instant}
    (hFirst : ¬ second < first)
    (hSecond : second < third) :
    first < third := by
  rw [lt_iff_rank_lt] at hFirst hSecond ⊢
  omega

theorem eq_of_not_lt_of_not_lt
    {left right : Instant}
    (hLeft : ¬ left < right)
    (hRight : ¬ right < left) :
    left = right := by
  rw [lt_iff_rank_lt] at hLeft hRight
  apply eq_of_rank_eq
  omega

/- An earlier instant is not on a later date. -/
theorem not_date_lt_of_lt
    {left right : Instant}
    (hLess : left < right) :
    ¬ right.date < left.date := by
  have hLeft := left.time.rank_lt
  have hRight := right.time.rank_lt
  rw [lt_iff_rank_lt] at hLess
  rw [Date.lt_iff_rank_lt]
  unfold rank at hLess
  omega

/- An instant of an earlier date is earlier. -/
theorem lt_of_date_lt
    {left right : Instant}
    (hDate : left.date < right.date) :
    left < right :=
  Or.inl hDate

/- An instant that is not earlier has no earlier date. -/
theorem not_date_lt_of_not_lt
    {left right : Instant}
    (hNotLess : ¬ left < right) :
    ¬ left.date < right.date := by
  intro hDate
  exact hNotLess (lt_of_date_lt hDate)

@[simp]
theorem date_midnight
    (date : Date) :
    date.midnight.date = date :=
  rfl

@[simp]
theorem rank_midnight
    (date : Date) :
    date.midnight.rank = date.rank * 172800000000000 := by
  simp [rank, Date.midnight, TimeOfDay.midnight,
    TimeOfDay.rank, TimeOfDay.secondOfDay]

end Instant

end CronSchedule
