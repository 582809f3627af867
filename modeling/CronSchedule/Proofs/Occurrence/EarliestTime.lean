import CronSchedule.Occurrence.Search
import CronSchedule.Proofs.Time.First
import CronSchedule.Proofs.Time.Successor

/-
  The first listed time on a date after the origin is the
  least of all listed times on that date after the origin.

  Key definitions include:
    * `Search.AscendsTo`
    * `TimeOfDay.IsListed`
    * `Search.HasPassed`
    * `Search.answerAt?`

  Main declarations:
    * `Search.firstTimeOn?_eq_findSome?`
    * `Search.isFirst_of_firstTimeOn?`
    * `Search.not_lt_of_firstTimeOn?_eq_none`
    * `Search.firstTime_exact`
-/

------------------------------------------------------------
-- Ascending Lists
------------------------------------------------------------

namespace CronSchedule

namespace Search

/- Numbers in ascending order, up to a greatest one. -/
structure AscendsTo
    (greatest : Nat)
    (numbers : List Nat) : Prop where
  ascending : numbers.Pairwise (· < ·)
  le_greatest : ∀ number ∈ numbers, number ≤ greatest

/- The first answer comes from the least number with one. -/
theorem least_of_findSome?
    {β : Type}
    (numbers : List Nat)
    (answer? : Nat → Option β)
    (answer : β)
    (hAscending : numbers.Pairwise (· < ·))
    (hAnswer : numbers.findSome? answer? = some answer) :
    ∃ number ∈ numbers,
      answer? number = some answer ∧
        ∀ other ∈ numbers, other < number →
          answer? other = none := by
  rcases List.findSome?_eq_some_iff.mp hAnswer with
    ⟨before, number, after, rfl, hNumber, hBefore⟩
  refine ⟨number, by simp, hNumber, ?_⟩
  intro other hOther hLess
  have hOrder := List.pairwise_append.mp hAscending
  rcases List.mem_append.mp hOther with hMem | hMem
  · exact hBefore other hMem
  · rcases List.mem_cons.mp hMem with rfl | hAfter
    · omega
    · have hGreater :=
        (List.pairwise_cons.mp hOrder.2.1).1 other hAfter
      omega

end Search

end CronSchedule

------------------------------------------------------------
-- One Time After the Origin
------------------------------------------------------------

namespace CronSchedule

/- A whole second with its parts on three lists. -/
def TimeOfDay.IsListed
    (hours minutes seconds : List Nat)
    (time : TimeOfDay) : Prop :=
  time.nano = 0 ∧ time.hour ∈ hours ∧
    time.minute ∈ minutes ∧ time.second ∈ seconds

namespace Search

/- On the date of the origin, the numbers are not after it. -/
def HasPassed
    (date : Date)
    (origin : Instant)
    (hour minute second : Nat) : Prop :=
  date = origin.date ∧
    (hour < origin.time.hour ∨
      hour = origin.time.hour ∧
        (minute < origin.time.minute ∨
          minute = origin.time.minute ∧
            second ≤ origin.time.second))

instance
    (date : Date)
    (origin : Instant)
    (hour minute second : Nat) :
    Decidable (HasPassed date origin hour minute second) :=
  inferInstanceAs (Decidable (_ ∧ _))

/-
  On the date of the origin or a later one, a whole second
  is after the origin unless its second of the day is not.
-/
theorem lt_iff_of_not_date_lt
    (origin : Instant)
    (date : Date)
    (time : TimeOfDay)
    (hDate : ¬ date < origin.date)
    (hNano : time.nano = 0) :
    origin < ⟨date, time⟩ ↔
      (date = origin.date →
        origin.time.secondOfDay < time.secondOfDay) := by
  constructor
  · rintro (hLess | ⟨_, hSecond | ⟨_, hLess⟩⟩) hSame
    · rw [hSame] at hLess
      exact absurd hLess (Date.lt_irrefl origin.date)
    · exact hSecond
    · change origin.time.nano < time.nano at hLess
      omega
  · intro hSecond
    by_cases hSame : date = origin.date
    · exact Or.inr ⟨hSame.symm, Or.inl (hSecond hSame)⟩
    · left
      change origin.date < date
      rw [Date.lt_iff_rank_lt] at hDate ⊢
      have hRank : date.rank ≠ origin.date.rank :=
        fun hEq => hSame (Date.eq_of_rank_eq hEq)
      omega

/- So it has passed or is after the origin. -/
theorem not_hasPassed_iff
    (origin : Instant)
    (date : Date)
    (time : TimeOfDay)
    (hDate : ¬ date < origin.date)
    (hNano : time.nano = 0) :
    ¬ HasPassed date origin time.hour time.minute
        time.second ↔
      origin < ⟨date, time⟩ := by
  have hTime := time.wellFormed
  have hOrigin := origin.time.wellFormed
  unfold TimeOfDay.Exists at hTime hOrigin
  rw [lt_iff_of_not_date_lt origin date time hDate hNano]
  unfold HasPassed TimeOfDay.secondOfDay
  by_cases hSame : date = origin.date
  · simp only [hSame, true_and, forall_const]
    omega
  · simp only [hSame, false_and, not_false_eq_true,
      false_implies]

/-
  The answer of the numbers: none if they have passed, and
  else the time that they name, if they name one.
-/
def answerAt?
    (date : Date)
    (origin : Instant)
    (hour minute second : Nat) :
    Option (Option TimeOfDay) :=
  if HasPassed date origin hour minute second then
    none
  else
    some (TimeOfDay.of? hour minute second 0)

theorem answerAt?_eq_some_iff
    (date : Date)
    (origin : Instant)
    (hour minute second : Nat)
    (time? : Option TimeOfDay) :
    answerAt? date origin hour minute second =
        some time? ↔
      ¬ HasPassed date origin hour minute second ∧
        TimeOfDay.of? hour minute second 0 = time? := by
  unfold answerAt?
  split
  · rename_i hPassed
    simp only [reduceCtorEq, hPassed, not_true_eq_false,
      false_and]
  · rename_i hAhead
    simp only [Option.some.injEq, hAhead,
      not_false_eq_true, true_and]

/- A whole second after the origin answers for itself. -/
theorem answerAt?_of_lt
    (origin instant : Instant)
    (hDate : ¬ instant.date < origin.date)
    (hNano : instant.time.nano = 0)
    (hAfter : origin < instant) :
    answerAt? instant.date origin instant.time.hour
        instant.time.minute instant.time.second =
      some (some instant.time) := by
  rw [answerAt?_eq_some_iff,
    not_hasPassed_iff origin instant.date instant.time hDate
      hNano,
    TimeOfDay.of?_eq_some_iff]
  exact ⟨hAfter, rfl, rfl, rfl, hNano⟩

/-
  The parts of the origin that count are those that make a
  time pass.
-/
theorem firstTimeOn?_eq_findSome?
    (date : Date)
    (origin : Instant)
    (hours minutes seconds : List Nat) :
    firstTimeOn? date origin hours minutes seconds =
      (hours.findSome? fun hour =>
        minutes.findSome? fun minute =>
          seconds.findSome? fun second =>
            answerAt? date origin hour minute
              second).join.map
        fun time => ⟨date, time⟩ := by
  unfold firstTimeOn?
  dsimp only
  congr 3
  funext hour
  split
  · rename_i hHour
    symm
    rw [List.findSome?_eq_none_iff]
    intro minute _
    rw [List.findSome?_eq_none_iff]
    intro second _
    exact if_pos ⟨hHour.1, Or.inl hHour.2⟩
  · rename_i hHour
    congr 1
    funext minute
    split
    · rename_i hMinute
      symm
      rw [List.findSome?_eq_none_iff]
      intro second _
      exact
        if_pos
          ⟨hMinute.1.1,
            Or.inr ⟨hMinute.1.2, Or.inl hMinute.2⟩⟩
    · rename_i hMinute
      congr 1
      funext second
      unfold answerAt?
      congr 1
      rw [eq_iff_iff]
      constructor
      · rintro ⟨⟨⟨hSame, hSameHour⟩, hSameMinute⟩, hSecond⟩
        exact
          ⟨hSame,
            Or.inr
              ⟨hSameHour, Or.inr ⟨hSameMinute, hSecond⟩⟩⟩
      · rintro
          ⟨hSame, hLess | ⟨hSameHour, hLess | hSecond⟩⟩
        · exact absurd ⟨hSame, hLess⟩ hHour
        · exact absurd ⟨⟨hSame, hSameHour⟩, hLess⟩ hMinute
        · exact ⟨⟨⟨hSame, hSameHour⟩, hSecond.1⟩, hSecond.2⟩

end Search

end CronSchedule

------------------------------------------------------------
-- The First Time
------------------------------------------------------------

namespace CronSchedule

namespace Search

/- Numbers that have not passed name a time. -/
theorem ne_some_none_of_findSome?
    (date : Date)
    (origin : Instant)
    (hours minutes seconds : List Nat)
    (hHours : AscendsTo 23 hours)
    (hMinutes : AscendsTo 59 minutes)
    (hSeconds : AscendsTo 59 seconds) :
    (hours.findSome? fun hour =>
        minutes.findSome? fun minute =>
          seconds.findSome? fun second =>
            answerAt? date origin hour minute second) ≠
      some none := by
  intro hNone
  rcases List.exists_of_findSome?_eq_some hNone with
    ⟨hour, hHour, hNone⟩
  rcases List.exists_of_findSome?_eq_some hNone with
    ⟨minute, hMinute, hNone⟩
  rcases List.exists_of_findSome?_eq_some hNone with
    ⟨second, hSecond, hNone⟩
  have hMissing :=
    ((answerAt?_eq_some_iff _ _ _ _ _ _).mp hNone).2
  have hHourLe := hHours.le_greatest hour hHour
  have hMinuteLe := hMinutes.le_greatest minute hMinute
  have hSecondLe := hSeconds.le_greatest second hSecond
  rw [TimeOfDay.of?_eq_none_iff] at hMissing
  unfold TimeOfDay.Exists TimeOfDay.nanosPerSecond
    at hMissing
  omega

/- Without an answer no listed time is after the origin. -/
theorem not_lt_of_firstTimeOn?_eq_none
    (origin instant : Instant)
    (hours minutes seconds : List Nat)
    (hDate : ¬ instant.date < origin.date)
    (hHours : AscendsTo 23 hours)
    (hMinutes : AscendsTo 59 minutes)
    (hSeconds : AscendsTo 59 seconds)
    (hListed :
      instant.time.IsListed hours minutes seconds)
    (hNone :
      firstTimeOn? instant.date origin hours minutes
          seconds =
        none) :
    ¬ origin < instant := by
  intro hAfter
  rw [firstTimeOn?_eq_findSome?, Option.map_eq_none_iff,
    Option.join_eq_none_iff] at hNone
  have hNone :=
    hNone.resolve_right
      (ne_some_none_of_findSome? instant.date origin hours
        minutes seconds hHours hMinutes hSeconds)
  simp only [List.findSome?_eq_none_iff] at hNone
  have hTime :=
    hNone instant.time.hour hListed.2.1
      instant.time.minute hListed.2.2.1
      instant.time.second hListed.2.2.2
  rw [answerAt?_of_lt origin instant hDate hListed.1
    hAfter] at hTime
  cases hTime

/-
  An answer is the first of the listed times on the date:
  an earlier one has an earlier hour, minute, or second, for
  which there was no answer.
-/
theorem isFirst_of_firstTimeOn?
    (date : Date)
    (origin instant : Instant)
    (hours minutes seconds : List Nat)
    (hDate : ¬ date < origin.date)
    (hHours : hours.Pairwise (· < ·))
    (hMinutes : minutes.Pairwise (· < ·))
    (hSeconds : seconds.Pairwise (· < ·))
    (hSome :
      firstTimeOn? date origin hours minutes seconds =
        some instant) :
    Instant.IsFirst
      (fun other =>
        other.date = date ∧
          other.time.IsListed hours minutes seconds)
      origin instant := by
  rw [firstTimeOn?_eq_findSome?,
    Option.map_eq_some_iff] at hSome
  rcases hSome with ⟨time, hSome, rfl⟩
  rw [Option.join_eq_some_iff] at hSome
  rcases least_of_findSome? hours _ _ hHours hSome
    with ⟨hour, hHour, hSome, hNoHour⟩
  rcases least_of_findSome? minutes _ _ hMinutes hSome
    with ⟨minute, hMinute, hSome, hNoMinute⟩
  rcases least_of_findSome? seconds _ _ hSeconds hSome
    with ⟨second, hSecond, hSome, hNoSecond⟩
  simp only [List.findSome?_eq_none_iff] at hNoHour
  simp only [List.findSome?_eq_none_iff] at hNoMinute
  rcases (answerAt?_eq_some_iff _ _ _ _ _ _).mp hSome with
    ⟨hAhead, hTime⟩
  rcases (TimeOfDay.of?_eq_some_iff _ _ _ _ time).mp hTime
    with ⟨rfl, rfl, rfl, hNano⟩
  refine
    ⟨⟨rfl, hNano, hHour, hMinute, hSecond⟩,
      (not_hasPassed_iff origin date time hDate hNano).mp
        hAhead, ?_⟩
  rintro other ⟨rfl, hListed⟩ hOtherAfter hLess
  have hOther :=
    answerAt?_of_lt origin other hDate hListed.1 hOtherAfter
  have hWellFormed := time.wellFormed
  have hOtherTime := other.time.wellFormed
  unfold TimeOfDay.Exists at hWellFormed hOtherTime
  have hEarlier :
      other.time.secondOfDay < time.secondOfDay := by
    rcases hLess with hLess | ⟨_, hLess | ⟨_, hLess⟩⟩
    · exact absurd hLess (Date.lt_irrefl other.date)
    · exact hLess
    · change other.time.nano < time.nano at hLess
      omega
  unfold TimeOfDay.secondOfDay at hEarlier
  by_cases hHourLess : other.time.hour < time.hour
  · rw [hNoHour _ hListed.2.1 hHourLess _ hListed.2.2.1 _
      hListed.2.2.2] at hOther
    cases hOther
  · have hSameHour :
        other.time.hour = time.hour := by
      omega
    rw [hSameHour] at hOther
    by_cases hMinuteLess :
        other.time.minute < time.minute
    · rw [hNoMinute _ hListed.2.2.1 hMinuteLess _
        hListed.2.2.2] at hOther
      cases hOther
    · have hSameMinute :
          other.time.minute = time.minute := by
        omega
      rw [hSameMinute, hNoSecond _ hListed.2.2.2
        (by omega)] at hOther
      cases hOther

/-
  On a date that is not before the origin, there is an
  answer as soon as some listed time is after the origin,
  and it is the first one of them.
-/
theorem firstTime_exact
    (date : Date)
    (origin : Instant)
    (hours minutes seconds : List Nat)
    (hDate : ¬ date < origin.date)
    (hHours : AscendsTo 23 hours)
    (hMinutes : AscendsTo 59 minutes)
    (hSeconds : AscendsTo 59 seconds) :
    let IsListed (instant : Instant) : Prop :=
      instant.date = date ∧
        instant.time.IsListed hours minutes seconds
    let first? :=
      firstTimeOn? date origin hours minutes seconds
    ((∃ first, first? = some first) ↔
        ∃ instant, IsListed instant ∧ origin < instant) ∧
      ∀ first, first? = some first ↔
        Instant.IsFirst IsListed origin first := by
  intro IsListed first?
  have hFirst (first : Instant)
      (hSome : first? = some first) :
      Instant.IsFirst IsListed origin first :=
    isFirst_of_firstTimeOn? date origin first hours minutes
      seconds hDate hHours.ascending hMinutes.ascending
      hSeconds.ascending hSome
  have hExists (instant : Instant)
      (hListed : IsListed instant)
      (hAfter : origin < instant) :
      ∃ first, first? = some first := by
    rcases hListed with ⟨rfl, hListed⟩
    rw [← Option.ne_none_iff_exists']
    intro hNone
    exact
      not_lt_of_firstTimeOn?_eq_none origin instant hours
        minutes seconds hDate hHours hMinutes hSeconds
        hListed hNone hAfter
  refine ⟨⟨?_, ?_⟩, fun first => ⟨hFirst first, ?_⟩⟩
  · rintro ⟨first, hSome⟩
    have hIsFirst := hFirst first hSome
    exact ⟨first, hIsFirst.holds, hIsFirst.after⟩
  · rintro ⟨instant, hListed, hAfter⟩
    exact hExists instant hListed hAfter
  · intro hIsFirst
    rcases hExists first hIsFirst.holds hIsFirst.after with
      ⟨other, hSome⟩
    rw [hSome, (hFirst other hSome).unique hIsFirst]

def june30 : Date := ⟨2015, 6, 30, by decide⟩

/- In a leap second that does not end a minute. -/
def leapSecondOfJune30 : Instant :=
  ⟨june30, ⟨23, 56, 4, 1333333333, by decide⟩⟩

def afterLeapSecondOfJune30 : Instant :=
  ⟨june30, ⟨23, 56, 5, 0, by decide⟩⟩

/- The listed second of the leap second has passed. -/
theorem firstTime_exact_leapSecond :
    ¬ june30 < leapSecondOfJune30.date ∧
      AscendsTo 23 [10, 23] ∧
      AscendsTo 59 [0, 56] ∧
      AscendsTo 59 [4, 5] ∧
      Instant.IsFirst
        (fun instant =>
          instant.date = june30 ∧
            instant.time.IsListed [10, 23] [0, 56] [4, 5])
        leapSecondOfJune30 afterLeapSecondOfJune30 := by
  have hDate : ¬ june30 < leapSecondOfJune30.date :=
    Date.lt_irrefl june30
  have hHours : AscendsTo 23 [10, 23] :=
    ⟨by decide, by decide⟩
  have hMinutes : AscendsTo 59 [0, 56] :=
    ⟨by decide, by decide⟩
  have hSeconds : AscendsTo 59 [4, 5] :=
    ⟨by decide, by decide⟩
  have hFirst :=
    (firstTime_exact june30 leapSecondOfJune30 [10, 23]
      [0, 56] [4, 5] hDate hHours hMinutes hSeconds).2
      afterLeapSecondOfJune30
  exact
    ⟨hDate, hHours, hMinutes, hSeconds, hFirst.mp rfl⟩

end Search

end CronSchedule
