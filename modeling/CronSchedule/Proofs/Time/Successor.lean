import CronSchedule.Proofs.Time.Order

/-
  One second later, and so many years later.

  No date lies between a date and the next one, so that no
  whole second after an instant lies on a date before that
  of the instant one second later.

  Key definitions include:
    * `Instant.IsWhole`
    * `Instant.yearsLater?`

  Main declarations:
    * `Instant.not_date_lt_of_addSecond?`
    * `Instant.not_lt_of_addSecond?_eq_none`
    * `Instant.addMonths?_eq_yearsLater?`
-/

------------------------------------------------------------
-- The Next Date
------------------------------------------------------------

namespace CronSchedule

namespace Date

/- The date with some numbers, once they name one. -/
theorem exists_of?_eq_some
    (year : Int)
    (month day : Nat)
    (hExists : Exists year month day) :
    ∃ date, of? year month day = some date ∧
      date.year = year ∧ date.month = month ∧
        date.day = day := by
  refine ⟨⟨year, month, day, hExists⟩, ?_, rfl, rfl, rfl⟩
  rw [of?_eq_some_iff]
  exact ⟨rfl, rfl, rfl⟩

/- A later date in the same month is within its length. -/
theorem day_le_of_same_month
    (date other : Date)
    (hYear : other.year = date.year)
    (hMonth : other.month = date.month) :
    other.day ≤ monthLength date.year date.month := by
  have hOther := other.wellFormed
  unfold Exists at hOther
  rw [hYear, hMonth] at hOther
  omega

/- No date lies between a date and the next one. -/
theorem next?_spec
    (date later : Date)
    (hNext : date.next? = some later) :
    date < later ∧
      ∀ other, date < other → ¬ other < later := by
  have hDate := date.wellFormed
  have hMonth := date.month_bounds
  have hDay := date.day_bounds
  unfold Exists at hDate
  unfold next? at hNext
  simp only [lt_iff_rank_lt]
  split at hNext
  · have hLater :=
      (of?_eq_some_iff _ _ _ later).mp hNext
    unfold rank monthIndex
    rw [hLater.1, hLater.2.1, hLater.2.2]
    refine ⟨by omega, ?_⟩
    intro other hAfter
    omega
  · rename_i hEnd
    have hSame (other : Date) :=
      day_le_of_same_month date other
    split at hNext
    · have hLater :=
        (of?_eq_some_iff _ _ _ later).mp hNext
      unfold rank monthIndex
      rw [hLater.1, hLater.2.1, hLater.2.2]
      refine ⟨by omega, ?_⟩
      intro other hAfter hBefore
      have hOtherMonth := other.month_bounds
      have hOtherDay := other.day_bounds
      have hOther := hSame other (by omega) (by omega)
      omega
    · have hLater :=
        (of?_eq_some_iff _ _ _ later).mp hNext
      unfold rank monthIndex
      rw [hLater.1, hLater.2.1, hLater.2.2]
      refine ⟨by omega, ?_⟩
      intro other hAfter hBefore
      have hOtherMonth := other.month_bounds
      have hOtherDay := other.day_bounds
      have hOther := hSame other (by omega) (by omega)
      omega

/- Only the last date has no next one. -/
theorem not_lt_of_next?_eq_none
    (date other : Date)
    (hNext : date.next? = none) :
    ¬ date < other := by
  have hDate := date.wellFormed
  have hMonth := date.month_bounds
  have hOtherDate := other.wellFormed
  have hOtherMonth := other.month_bounds
  have hOtherDay := other.day_bounds
  have hSame := day_le_of_same_month date other
  unfold Exists at hDate hOtherDate
  unfold next? firstOf? at hNext
  rw [lt_iff_rank_lt]
  unfold rank monthIndex
  split at hNext
  · rw [of?_eq_none_iff] at hNext
    unfold Exists at hNext
    omega
  · split at hNext
    · have hLength :=
        monthLength_bounds date.year (date.month + 1)
          (by omega) (by omega)
      rw [of?_eq_none_iff] at hNext
      unfold Exists at hNext
      omega
    · have hLength :=
        monthLength_bounds (date.year + 1) 1
          (by omega) (by omega)
      rw [of?_eq_none_iff] at hNext
      unfold Exists at hNext
      intro hLess
      have hOther := hSame (by omega) (by omega)
      omega

/- The next date is in the same month or the next one. -/
theorem monthIndex_le_of_next?
    (date later : Date)
    (hNext : date.next? = some later) :
    later.monthIndex ≤ date.monthIndex + 1 := by
  have hMonth := date.month_bounds
  unfold next? firstOf? at hNext
  unfold monthIndex
  split at hNext
  · have hLater := (of?_eq_some_iff _ _ _ later).mp hNext
    omega
  · split at hNext
    · have hLater :=
        (of?_eq_some_iff _ _ _ later).mp hNext
      omega
    · have hLater :=
        (of?_eq_some_iff _ _ _ later).mp hNext
      omega

end Date

end CronSchedule

------------------------------------------------------------
-- One Second Later
------------------------------------------------------------

namespace CronSchedule

namespace TimeOfDay

theorem of?_eq_some_iff
    (hour minute second nano : Nat)
    (time : TimeOfDay) :
    of? hour minute second nano = some time ↔
      time.hour = hour ∧ time.minute = minute ∧
        time.second = second ∧ time.nano = nano := by
  unfold of?
  constructor
  · intro hSome
    split at hSome
    · cases hSome
      exact ⟨rfl, rfl, rfl, rfl⟩
    · cases hSome
  · rintro ⟨rfl, rfl, rfl, rfl⟩
    simp [time.wellFormed]

theorem of?_eq_none_iff
    (hour minute second nano : Nat) :
    of? hour minute second nano = none ↔
      ¬ Exists hour minute second nano := by
  simp [of?]

theorem settledNano_lt
    (time : TimeOfDay) :
    time.settledNano < nanosPerSecond :=
  Nat.mod_lt _ (by decide)

/- Only in the last second does the day end. -/
theorem secondOfDay_of_addSecond?_eq_none
    (time : TimeOfDay)
    (hNone : time.addSecond? = none) :
    time.secondOfDay = 86399 := by
  have hTime := time.wellFormed
  have hNano := time.settledNano_lt
  unfold Exists nanosPerSecond at hTime
  unfold nanosPerSecond at hNano
  unfold addSecond? at hNone
  unfold secondOfDay
  split at hNone
  · rw [of?_eq_none_iff] at hNone
    unfold Exists nanosPerSecond at hNone
    omega
  · split at hNone
    · rw [of?_eq_none_iff] at hNone
      unfold Exists nanosPerSecond at hNone
      omega
    · rw [of?_eq_none_iff] at hNone
      unfold Exists nanosPerSecond at hNone
      omega

end TimeOfDay

namespace Instant

/- The instant is at the very start of a second. -/
def IsWhole
    (instant : Instant) : Prop :=
  instant.time.nano = 0

/- A whole second is later only in a later second. -/
theorem not_lt_of_secondOfDay_le
    (origin instant : Instant)
    (hWhole : instant.IsWhole)
    (hDate : ¬ origin.date < instant.date)
    (hSecond :
      instant.time.secondOfDay ≤
        origin.time.secondOfDay) :
    ¬ origin < instant := by
  rintro (hLess | ⟨_, hSeconds | ⟨_, hNano⟩⟩)
  · exact hDate hLess
  · omega
  · rw [hWhole] at hNano
    omega

/-
  One second later is not on an earlier date, and no whole
  second after the instant is on a date before it.
-/
theorem not_date_lt_of_addSecond?
    (origin cursor : Instant)
    (hCursor : origin.addSecond? = some cursor) :
    ¬ cursor.date < origin.date ∧
      ∀ instant : Instant, instant.IsWhole →
        origin < instant →
          ¬ instant.date < cursor.date := by
  unfold addSecond? at hCursor
  split at hCursor
  · cases hCursor
    refine ⟨Date.lt_irrefl origin.date, ?_⟩
    intro instant _ hAfter
    change ¬ instant.date < origin.date
    exact not_date_lt_of_lt hAfter
  · rename_i hTime
    have hLast :=
      TimeOfDay.secondOfDay_of_addSecond?_eq_none
        origin.time hTime
    cases hNext : origin.date.next? with
    | none =>
        simp [hNext] at hCursor
    | some later =>
        have hDate : cursor.date = later := by
          simp only [hNext, Option.bind_eq_bind,
            Option.bind_some] at hCursor
          rw [Option.bind_eq_some_iff] at hCursor
          rcases hCursor with ⟨time, _, hCursor⟩
          cases hCursor
          rfl
        have hSpec := Date.next?_spec origin.date later hNext
        rw [hDate]
        refine ⟨?_, ?_⟩
        · exact Date.lt_asymm hSpec.1
        · intro instant hWhole hAfter
          apply hSpec.2
          apply Classical.byContradiction
          intro hDate
          have hSecond := instant.time.secondOfDay_lt
          exact
            not_lt_of_secondOfDay_le origin instant hWhole
              hDate (by omega) hAfter

/- Nothing whole follows if a second later is out of range. -/
theorem not_lt_of_addSecond?_eq_none
    (origin instant : Instant)
    (hNone : origin.addSecond? = none)
    (hWhole : instant.IsWhole) :
    ¬ origin < instant := by
  unfold addSecond? at hNone
  split at hNone
  · cases hNone
  · rename_i hTime
    have hLast :=
      TimeOfDay.secondOfDay_of_addSecond?_eq_none
        origin.time hTime
    have hSecond := instant.time.secondOfDay_lt
    apply not_lt_of_secondOfDay_le origin instant hWhole
    · cases hNext : origin.date.next? with
      | none =>
          exact
            Date.not_lt_of_next?_eq_none origin.date
              instant.date hNext
      | some later =>
          have hNano := origin.time.settledNano_lt
          unfold TimeOfDay.nanosPerSecond at hNano
          simp only [hNext, Option.bind_eq_bind,
            Option.bind_some] at hNone
          rw [Option.bind_eq_none_iff] at hNone
          have hExists :
              TimeOfDay.Exists 0 0 0
                origin.time.settledNano := by
            unfold TimeOfDay.Exists
              TimeOfDay.nanosPerSecond
            omega
          have hMidnight :=
            hNone ⟨0, 0, 0, origin.time.settledNano,
              hExists⟩
              ((TimeOfDay.of?_eq_some_iff _ _ _ _ _).mpr
                ⟨rfl, rfl, rfl, rfl⟩)
          cases hMidnight
    · omega

theorem monthIndex_le_of_addSecond?
    (origin cursor : Instant)
    (hCursor : origin.addSecond? = some cursor) :
    cursor.date.monthIndex ≤
      origin.date.monthIndex + 1 := by
  unfold addSecond? at hCursor
  split at hCursor
  · cases hCursor
    simp only
    omega
  · rw [Option.bind_eq_bind,
      Option.bind_eq_some_iff] at hCursor
    rcases hCursor with ⟨later, hNext, hCursor⟩
    rw [Option.bind_eq_bind,
      Option.bind_eq_some_iff] at hCursor
    rcases hCursor with ⟨time, _, hCursor⟩
    cases hCursor
    exact Date.monthIndex_le_of_next? origin.date later hNext

end Instant

end CronSchedule

------------------------------------------------------------
-- Years Later
------------------------------------------------------------

namespace CronSchedule

namespace Instant

/-
  The same day and time so many years later, or the last day
  of that month if it is shorter.
-/
def yearsLater?
    (instant : Instant)
    (years : Nat) : Option Instant :=
  let year := instant.date.year + years
  let month := instant.date.month
  let day :=
    min instant.date.day (Date.monthLength year month)
  (Date.of? year month day).map fun date =>
    ⟨date, instant.time⟩

/- Twelve months are a year. -/
theorem addMonths?_eq_yearsLater?
    (instant : Instant)
    (years : Nat) :
    instant.addMonths? (years * 12) =
      instant.yearsLater? years := by
  have hMonth := instant.date.month_bounds
  have hYear :
      (instant.date.monthIndex + ((years * 12 : Nat) : Int)) /
          12 =
        instant.date.year + years := by
    unfold Date.monthIndex
    omega
  have hSame :
      ((instant.date.monthIndex +
            ((years * 12 : Nat) : Int)) % 12).toNat + 1 =
        instant.date.month := by
    unfold Date.monthIndex
    omega
  unfold addMonths? Date.addMonths? yearsLater?
  simp only [hYear, hSame]

/- Within the range of years there is such an instant. -/
theorem exists_yearsLater?
    (instant : Instant)
    (years : Nat)
    (hRange :
      instant.date.year + years ≤ Date.lastYear) :
    ∃ limit, instant.yearsLater? years = some limit ∧
      limit.date.year = instant.date.year + years ∧
        limit.date.month = instant.date.month ∧
        limit.date.day =
          min instant.date.day
            (Date.monthLength (instant.date.year + years)
              instant.date.month) ∧
        limit.time = instant.time := by
  have hDate := instant.date.wellFormed
  have hMonth := instant.date.month_bounds
  have hLength :=
    Date.monthLength_bounds (instant.date.year + years)
      instant.date.month hMonth.1 hMonth.2
  have hExists :
      Date.Exists (instant.date.year + years)
        instant.date.month
        (min instant.date.day
          (Date.monthLength (instant.date.year + years)
            instant.date.month)) := by
    unfold Date.Exists at hDate ⊢
    omega
  rcases Date.exists_of?_eq_some _ _ _ hExists with
    ⟨date, hSome, hYear, hMonth, hDay⟩
  refine
    ⟨⟨date, instant.time⟩, ?_, hYear, hMonth, hDay, rfl⟩
  unfold yearsLater?
  simp only [hSome, Option.map_some]

end Instant

end CronSchedule
