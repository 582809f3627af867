import CronSchedule.Proofs.Occurrence.Step

/-
  What the ending of a search tells.  A walk reaches the
  month of its cursor, and every later month whose first
  instant is before the horizon.

  Key definitions include:
    * `Search.Reaches`
    * `Search.Ending.IsSound`

  Main declarations:
    * `Search.reaches_move_iff`
    * `Search.isSound_of_walk`
    * `Search.isSound_of_trail`
-/

------------------------------------------------------------
-- Reached Months
------------------------------------------------------------

namespace CronSchedule

namespace Search

/- A walk from the cursor comes to the month of the date. -/
def Reaches
    (search : Search)
    (cursor : Instant)
    (date : Date) : Prop :=
  cursor < search.horizon ∧
    (cursor.date.SharesMonth date ∨
      date.monthStart.midnight < search.horizon)

variable {search : Search}
variable {cursor : Instant}
variable {target : Date}

/- What the target reaches, the cursor reaches. -/
theorem reaches_of_move
    (date : Date)
    (hBefore : cursor < search.horizon)
    (hLater : IsLater cursor.date target)
    (hReaches : search.Reaches target.midnight date) :
    search.Reaches cursor date := by
  refine ⟨hBefore, Or.inr ?_⟩
  rcases hReaches.2 with hSame | hStart
  · have hTarget : date.monthStart = target :=
      Date.eq_of_numbers hSame.1 hSame.2 hLater.1.symm
    rw [hTarget]
    exact hReaches.1
  · exact hStart

/- What the cursor reaches from the target's month on. -/
theorem reaches_move_iff
    (date : Date)
    (hBefore : cursor < search.horizon)
    (hLater : IsLater cursor.date target)
    (hDate : ¬ date < target) :
    search.Reaches target.midnight date ↔
      search.Reaches cursor date := by
  constructor
  · exact reaches_of_move date hBefore hLater
  · intro hReaches
    have hIndex := Date.monthIndex_le_of_not_lt hDate
    have hCursorIndex := hLater.2
    rcases hReaches.2 with hSame | hStart
    · rw [Date.monthIndex_of_sharesMonth hSame] at hIndex
      omega
    · refine ⟨?_, Or.inr hStart⟩
      rw [Instant.lt_iff_rank_lt] at hStart ⊢
      rw [Instant.rank_midnight] at hStart ⊢
      rw [Date.rank_monthStart] at hStart
      unfold Date.rank
      rw [hLater.1]
      omega

end Search

end CronSchedule

------------------------------------------------------------
-- Sound Endings
------------------------------------------------------------

namespace CronSchedule

namespace Search

/- What the ending of a walk may say, and be right. -/
def Ending.IsSound
    (search : Search)
    (cursor : Instant) : Ending → Prop
| .found instant =>
    Instant.IsFirst search.Admits search.origin instant ∧
      search.Reaches cursor instant.date
| .noLaterYear _ => ∀ instant, ¬ search.Pending instant
| .rangeLeft => ∀ instant, ¬ search.Pending instant
| .horizonReached =>
    ∀ instant, search.Pending instant →
      ¬ search.Reaches cursor instant.date
| .failed fault =>
    ∃ date : Date,
      search.Reaches cursor date ∧
        search.expression.AllowsYear date.year ∧
        search.days date.year date.month = .error fault

/- A sound ending without an instant leaves none in reach. -/
theorem not_reaches_of_answer
    (search : Search)
    (cursor : Instant)
    (ending : Ending)
    (hSound : ending.IsSound search cursor)
    (hNone : ending.answer = .ok none) :
    ∀ instant, search.Pending instant →
      ¬ search.Reaches cursor instant.date := by
  intro instant hPending
  cases ending with
  | found first => cases hNone
  | failed fault => cases hNone
  | noLaterYear year =>
      exact absurd hPending (hSound instant)
  | rangeLeft =>
      exact absurd hPending (hSound instant)
  | horizonReached =>
      exact hSound instant hPending

variable (search : Search)
variable (timetable : Timetable)

/- A sound stop is a sound ending. -/
theorem isSound_of_stop
    (cursor : Instant)
    (ending : Ending)
    (hBefore : cursor < search.horizon)
    (hStop :
      Step.IsSound search cursor.date (.stop ending)) :
    ending.IsSound search cursor := by
  cases ending with
  | found instant =>
      exact ⟨hStop.1, hBefore, Or.inl hStop.2⟩
  | noLaterYear year =>
      exact hStop
  | rangeLeft =>
      exact hStop
  | horizonReached =>
      cases hStop
  | failed fault =>
      exact
        ⟨cursor.date, ⟨hBefore, Or.inl ⟨rfl, rfl⟩⟩, hStop.2,
          hStop.1⟩

/- What is sound after a move is sound before it. -/
theorem isSound_of_move
    (cursor : Instant)
    (target : Date)
    (ending : Ending)
    (hBefore : cursor < search.horizon)
    (hLater : IsLater cursor.date target)
    (hTarget : search.IsCursor target)
    (hEnding : ending.IsSound search target.midnight) :
    ending.IsSound search cursor := by
  cases ending with
  | found instant =>
      exact
        ⟨hEnding.1,
          reaches_of_move _ hBefore hLater hEnding.2⟩
  | noLaterYear year =>
      exact hEnding
  | rangeLeft =>
      exact hEnding
  | horizonReached =>
      intro instant hPending hReaches
      apply hEnding instant hPending
      rw [reaches_move_iff _ hBefore hLater
        (hTarget.nothingBefore instant hPending)]
      exact hReaches
  | failed fault =>
      rcases hEnding with ⟨date, hReaches, hDate⟩
      exact
        ⟨date, reaches_of_move _ hBefore hLater hReaches,
          hDate⟩

/-
  Every walk that may take a step for each month left has a
  sound ending.
-/
theorem isSound_of_walk
    (steps : Nat)
    (cursor : Instant)
    (hWellFormed : search.expression.WellFormed)
    (hTimetable : timetable.IsOf search.expression)
    (hCursor : search.IsCursor cursor.date)
    (hSteps : search.monthsLeft cursor.date ≤ steps) :
    (search.walk timetable steps cursor).ending.IsSound
      search cursor := by
  -- A cursor before the horizon has a month left, and a
  -- move leaves fewer, so that the steps never run out.
  induction steps generalizing cursor with
  | zero =>
      intro instant hPending hReaches
      have hLeft :=
        monthsLeft_pos_of_lt search cursor hReaches.1
      omega
  | succ steps ih =>
      unfold walk
      split
      · rename_i hBefore
        have hSound :=
          isSound_of_step search cursor.date timetable
            hWellFormed hTimetable hCursor
        split
        · rename_i ending hStep
          rw [hStep] at hSound
          exact
            isSound_of_stop search cursor ending hBefore
              hSound
        · rename_i move target hStep
          rw [hStep] at hSound
          have hLater :=
            isLater_of_step search timetable cursor.date
              target move hStep
          have hFewer :=
            monthsLeft_lt_of_isLater search cursor.date
              target hLater
              (monthsLeft_pos_of_lt search cursor hBefore)
          apply isSound_of_move search cursor target _
            hBefore hLater hSound
          exact
            ih target.midnight hSound
              (by rw [Instant.date_midnight]; omega)
      · rename_i hReached
        intro instant hPending hReaches
        exact hReached hReaches.1

end Search

end CronSchedule

------------------------------------------------------------
-- The Whole Search
------------------------------------------------------------

namespace CronSchedule

namespace Search

variable (search : Search)

/- A search that starts at the end of the range. -/
theorem trail_of_addSecond?_eq_none
    (hWellFormed : search.expression.WellFormed)
    (hNone : search.origin.addSecond? = none) :
    search.trail.ending = .rangeLeft ∧
      ∀ instant, ¬ search.Pending instant := by
  rcases exists_timetable search hWellFormed with
    ⟨timetable, hTimetable, _⟩
  constructor
  · unfold trail
    rw [hTimetable, hNone]
  · intro instant hPending
    exact
      Instant.not_lt_of_addSecond?_eq_none search.origin
        instant hNone hPending.1.time.whole hPending.2

/- The ending of every other search is sound. -/
theorem isSound_of_trail
    (cursor : Instant)
    (hWellFormed : search.expression.WellFormed)
    (hCursor : search.origin.addSecond? = some cursor) :
    search.trail.ending.IsSound search cursor := by
  rcases exists_timetable search hWellFormed with
    ⟨timetable, hTimetable, hIsOf⟩
  have hStart :=
    Instant.not_date_lt_of_addSecond? search.origin cursor
      hCursor
  unfold trail
  rw [hTimetable, hCursor]
  apply isSound_of_walk search timetable _ cursor
    hWellFormed hIsOf
  · constructor
    · exact hStart.1
    · intro instant hPending
      exact
        hStart.2 instant hPending.1.time.whole hPending.2
  · exact Nat.le_refl _

/- What the search finds is the first admitted instant. -/
theorem isFirst_of_next
    (instant : Instant)
    (hWellFormed : search.expression.WellFormed)
    (hNext : search.next = .ok (some instant)) :
    Instant.IsFirst search.Admits search.origin
      instant := by
  unfold next at hNext
  cases hCursor : search.origin.addSecond? with
  | none =>
      rw [(trail_of_addSecond?_eq_none search hWellFormed
        hCursor).1] at hNext
      cases hNext
  | some cursor =>
      have hSound :=
        isSound_of_trail search cursor hWellFormed hCursor
      cases hEnding : search.trail.ending with
      | found other =>
          rw [hEnding] at hNext hSound
          cases hNext
          exact hSound.1
      | _ =>
          rw [hEnding] at hNext
          cases hNext

end Search

end CronSchedule
