import CronSchedule.Proofs.Time.First
import CronSchedule.Proofs.Time.Successor

/-
  The first whole second after an instant.  Each is nearer to
  the end of the range than the one before.

  Key definitions include:
    * `Instant.wholeSecond`
    * `Instant.nextSecond?`
    * `Instant.remaining`

  Main declarations:
    * `Instant.isFirst_nextSecond?`
    * `Instant.not_lt_of_nextSecond?_eq_none`
    * `Instant.remaining_nextSecond?`
-/

------------------------------------------------------------
-- The Next Whole Second
------------------------------------------------------------

namespace CronSchedule

namespace TimeOfDay

/- One second later is in the next second of the day. -/
theorem secondOfDay_of_addSecond?
    (time later : TimeOfDay)
    (hLater : time.addSecond? = some later) :
    later.secondOfDay = time.secondOfDay + 1 := by
  have hTime := time.wellFormed
  unfold Exists at hTime
  unfold addSecond? at hLater
  unfold secondOfDay
  split at hLater
  · rw [of?_eq_some_iff] at hLater
    omega
  · split at hLater
    · rw [of?_eq_some_iff] at hLater
      omega
    · rw [of?_eq_some_iff] at hLater
      omega

end TimeOfDay

namespace Instant

/- The very start of the second of an instant. -/
def wholeSecond
    (instant : Instant) : Instant :=
  { date := instant.date
    time :=
      { hour := instant.time.hour
        minute := instant.time.minute
        second := instant.time.second
        nano := 0
        wellFormed := by
          have hTime := instant.time.wellFormed
          unfold TimeOfDay.Exists at hTime ⊢
          unfold TimeOfDay.nanosPerSecond
          omega } }

theorem isWhole_wholeSecond
    (instant : Instant) :
    instant.wholeSecond.IsWhole :=
  rfl

/- The rank of a whole second is that of its second. -/
theorem rank_of_isWhole
    (instant : Instant)
    (hWhole : instant.IsWhole) :
    instant.rank =
      instant.date.rank * 172800000000000 +
        instant.time.secondOfDay * 2000000000 := by
  unfold IsWhole at hWhole
  unfold rank TimeOfDay.rank TimeOfDay.nanosPerSecond
  rw [hWhole]
  omega

/- The first whole second after an instant, if any. -/
def nextSecond?
    (instant : Instant) : Option Instant :=
  instant.addSecond?.map wholeSecond

/- Within a day it is in the next second of the day. -/
theorem isFirst_of_secondOfDay
    (origin second : Instant)
    (hWhole : second.IsWhole)
    (hDate : second.date = origin.date)
    (hSecond :
      second.time.secondOfDay =
        origin.time.secondOfDay + 1) :
    IsFirst IsWhole origin second := by
  have hNano := origin.time.nano_lt
  have hRank := rank_of_isWhole second hWhole
  have hOrigin : origin.rank =
      origin.date.rank * 172800000000000 +
        (origin.time.secondOfDay * 2000000000 +
          origin.time.nano : Nat) := rfl
  rw [hDate, hSecond] at hRank
  refine ⟨hWhole, ?_, ?_⟩
  · rw [lt_iff_rank_lt]
    omega
  · intro other hOther hAfter hBefore
    have hOtherRank := rank_of_isWhole other hOther
    have hOtherSecond := other.time.secondOfDay_lt
    rw [lt_iff_rank_lt] at hAfter hBefore
    omega

/- At the end of a day it starts the next date. -/
theorem isFirst_of_next?
    (origin second : Instant)
    (hWhole : second.IsWhole)
    (hNext : origin.date.next? = some second.date)
    (hLast : origin.time.secondOfDay = 86399)
    (hStart : second.time.secondOfDay = 0) :
    IsFirst IsWhole origin second := by
  have hSpec :=
    Date.next?_spec origin.date second.date hNext
  refine ⟨hWhole, lt_of_date_lt hSpec.1, ?_⟩
  intro other hOther hAfter hBefore
  have hOtherSecond := other.time.secondOfDay_lt
  have hDate : origin.date < other.date := by
    apply Classical.byContradiction
    intro hDate
    exact
      not_lt_of_secondOfDay_le origin other hOther hDate
        (by omega) hAfter
  have hNotBefore := hSpec.2 other.date hDate
  have hRank := rank_of_isWhole second hWhole
  have hOtherRank := rank_of_isWhole other hOther
  rw [Date.lt_iff_rank_lt] at hNotBefore
  rw [lt_iff_rank_lt] at hBefore
  omega

theorem isFirst_nextSecond?
    (origin second : Instant)
    (hSecond : origin.nextSecond? = some second) :
    IsFirst IsWhole origin second := by
  unfold nextSecond? at hSecond
  rw [Option.map_eq_some_iff] at hSecond
  rcases hSecond with ⟨cursor, hCursor, rfl⟩
  have hWhole := isWhole_wholeSecond cursor
  unfold addSecond? at hCursor
  split at hCursor
  · rename_i later hLater
    cases hCursor
    exact
      isFirst_of_secondOfDay origin _ hWhole rfl
        (TimeOfDay.secondOfDay_of_addSecond? origin.time
          later hLater)
  · rename_i hTime
    have hLast :=
      TimeOfDay.secondOfDay_of_addSecond?_eq_none
        origin.time hTime
    rw [Option.bind_eq_bind,
      Option.bind_eq_some_iff] at hCursor
    rcases hCursor with ⟨later, hNext, hCursor⟩
    rw [Option.bind_eq_bind,
      Option.bind_eq_some_iff] at hCursor
    rcases hCursor with ⟨time, hTime, hCursor⟩
    cases hCursor
    have hStart :=
      (TimeOfDay.of?_eq_some_iff _ _ _ _ time).mp hTime
    apply
      isFirst_of_next? origin _ hWhole hNext hLast
    change
      time.hour * 3600 + time.minute * 60 + time.second = 0
    omega

/- Without a next second, nothing whole follows. -/
theorem not_lt_of_nextSecond?_eq_none
    (origin instant : Instant)
    (hNone : origin.nextSecond? = none)
    (hWhole : instant.IsWhole) :
    ¬ origin < instant := by
  unfold nextSecond? at hNone
  rw [Option.map_eq_none_iff] at hNone
  exact
    not_lt_of_addSecond?_eq_none origin instant hNone hWhole

end Instant

end CronSchedule

------------------------------------------------------------
-- Seconds Left
------------------------------------------------------------

namespace CronSchedule

namespace Instant

/- How far it is to the year after the last one. -/
def remaining
    (instant : Instant) : Nat :=
  ((Date.lastYear + 1) * 12 * 32 * 172800000000000 -
    instant.rank).toNat

theorem rank_lt_of_lastYear
    (instant : Instant) :
    instant.rank <
      (Date.lastYear + 1) * 12 * 32 * 172800000000000 := by
  have hDate := instant.date.wellFormed
  have hMonth := instant.date.month_bounds
  have hDay := instant.date.day_bounds
  have hTime := instant.time.rank_lt
  unfold Date.Exists at hDate
  unfold rank Date.rank Date.monthIndex
  omega

theorem remaining_lt_of_lt
    {left right : Instant}
    (hLess : left < right) :
    right.remaining < left.remaining := by
  have hRight := right.rank_lt_of_lastYear
  rw [lt_iff_rank_lt] at hLess
  unfold remaining
  omega

/- The next second is nearer to the end. -/
theorem remaining_nextSecond?
    (origin second : Instant)
    (hSecond : origin.nextSecond? = some second) :
    second.remaining < origin.remaining :=
  remaining_lt_of_lt
    (isFirst_nextSecond? origin second hSecond).after

end Instant

end CronSchedule
