import CronSchedule.Occurrence.Search

/-
  The cursor of a search makes progress: every move leads to
  the first day of a later month.  So the months that are
  left up to the horizon get fewer with every move.

  Key definitions include:
    * `Search.IsLater`

  Main declarations:
    * `Search.isLater_of_step`
    * `Search.monthsLeft_lt_of_isLater`
-/

------------------------------------------------------------
-- Moves Lead to Later Months
------------------------------------------------------------

namespace CronSchedule

namespace Search

/- The target is the first day of a later month. -/
def IsLater
    (cursor target : Date) : Prop :=
  target.day = 1 ∧ cursor.monthIndex < target.monthIndex

/- A later month of the same year. -/
theorem isLater_of_month
    (cursor target : Date)
    (month : Nat)
    (hMonth : cursor.month < month)
    (hTarget :
      Date.firstOf? cursor.year month = some target) :
    IsLater cursor target := by
  have hIndex :=
    Date.monthIndex_of_firstOf? cursor.year month target
      hTarget
  have hNumbers :=
    (Date.of?_eq_some_iff cursor.year month 1 target).mp
      hTarget
  refine ⟨hNumbers.2.2, ?_⟩
  rw [hIndex.1]
  unfold Date.monthIndex
  omega

/- The first month of a later year. -/
theorem isLater_of_year
    (cursor target : Date)
    (year : Int)
    (hYear : cursor.year < year)
    (hTarget : Date.firstOf? year 1 = some target) :
    IsLater cursor target := by
  have hIndex :=
    Date.monthIndex_of_firstOf? year 1 target hTarget
  have hNumbers :=
    (Date.of?_eq_some_iff year 1 1 target).mp hTarget
  have hCursor := cursor.wellFormed
  unfold Date.Exists at hCursor
  refine ⟨hNumbers.2.2, ?_⟩
  rw [hIndex.1]
  unfold Date.monthIndex
  omega

/- A move is made only to a target that exists. -/
theorem target_of_moveTo
    (build : Date → Move)
    (goal : Option Date)
    (move : Move)
    (target : Date)
    (hStep : Step.moveTo build goal = .move move target) :
    goal = some target := by
  cases goal with
  | none =>
      cases hStep
  | some date =>
      cases hStep
      rfl

end Search

end CronSchedule

------------------------------------------------------------
-- Every Kind of Step
------------------------------------------------------------

namespace CronSchedule

namespace Search

theorem isLater_of_stepToYear
    (years : ValueSet)
    (cursor target : Date)
    (move : Move)
    (hStep :
      stepToYear years cursor.year = .move move target) :
    IsLater cursor target := by
  unfold stepToYear at hStep
  split at hStep
  · cases hStep
  · rename_i year hYear
    have hBound := List.find?_some hYear
    apply isLater_of_year cursor target year
    · have hLe :
          (cursor.year + 1).toNat ≤ year := by
        simpa using hBound
      omega
    · exact target_of_moveTo _ _ move target hStep

theorem isLater_of_stepToMonth
    (months : List Nat)
    (cursor target : Date)
    (move : Move)
    (hStep :
      stepToMonth months cursor.year cursor.month =
        .move move target) :
    IsLater cursor target := by
  unfold stepToMonth at hStep
  have hTarget :=
    target_of_moveTo _ _ move target hStep
  split at hTarget
  · rename_i month hMonth
    have hBound := List.find?_some hMonth
    exact
      isLater_of_month cursor target month
        (by simpa using hBound) hTarget
  · exact
      isLater_of_year cursor target (cursor.year + 1)
        (by omega) hTarget

theorem isLater_of_stepPastMonth
    (cursor target : Date)
    (move : Move)
    (hStep :
      stepPastMonth cursor.year cursor.month =
        .move move target) :
    IsLater cursor target := by
  unfold stepPastMonth at hStep
  have hTarget :=
    target_of_moveTo _ _ move target hStep
  split at hTarget
  · exact
      isLater_of_year cursor target (cursor.year + 1)
        (by omega) hTarget
  · exact
      isLater_of_month cursor target (cursor.month + 1)
        (by omega) hTarget

theorem isLater_of_stepInMonth
    (search : Search)
    (timetable : Timetable)
    (cursor target : Date)
    (move : Move)
    (hStep :
      search.stepInMonth timetable cursor =
        .move move target) :
    IsLater cursor target := by
  unfold stepInMonth at hStep
  split at hStep
  · cases hStep
  · simp only at hStep
    split at hStep
    · cases hStep
    · exact
        isLater_of_stepPastMonth cursor target move hStep

theorem isLater_of_stepInYear
    (search : Search)
    (timetable : Timetable)
    (cursor target : Date)
    (move : Move)
    (hStep :
      search.stepInYear timetable cursor =
        .move move target) :
    IsLater cursor target := by
  unfold stepInYear at hStep
  split at hStep
  · exact
      isLater_of_stepInMonth search timetable cursor
        target move hStep
  · exact
      isLater_of_stepToMonth timetable.months cursor
        target move hStep

/- Every move leads to the first day of a later month. -/
theorem isLater_of_step
    (search : Search)
    (timetable : Timetable)
    (cursor target : Date)
    (move : Move)
    (hStep :
      search.step timetable cursor = .move move target) :
    IsLater cursor target := by
  unfold step at hStep
  split at hStep
  · exact
      isLater_of_stepInYear search timetable cursor target
        move hStep
  · split at hStep
    · exact
        isLater_of_stepInYear search timetable cursor
          target move hStep
    · exact
        isLater_of_stepToYear _ cursor target move hStep

end Search

end CronSchedule

------------------------------------------------------------
-- The Months Left
------------------------------------------------------------

namespace CronSchedule

namespace Search

/- Before the horizon there is at least one month left. -/
theorem monthsLeft_pos_of_lt
    (search : Search)
    (cursor : Instant)
    (hBefore : cursor < search.horizon) :
    0 < search.monthsLeft cursor.date := by
  have hIndex :
      cursor.date.monthIndex ≤
        search.horizon.date.monthIndex := by
    rcases hBefore with hDate | ⟨hDate, _⟩
    · exact
        Date.monthIndex_le_of_lt cursor.date
          search.horizon.date hDate
    · exact
        Int.le_of_eq (congrArg Date.monthIndex hDate)
  unfold monthsLeft
  omega

/- A later month has fewer months left. -/
theorem monthsLeft_lt_of_isLater
    (search : Search)
    (cursor target : Date)
    (hLater : IsLater cursor target)
    (hLeft : 0 < search.monthsLeft cursor) :
    search.monthsLeft target <
      search.monthsLeft cursor := by
  have hIndex := hLater.2
  unfold monthsLeft at hLeft ⊢
  omega

end Search

end CronSchedule
