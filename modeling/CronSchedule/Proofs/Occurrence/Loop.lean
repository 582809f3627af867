import CronSchedule.Proofs.Occurrence.Next

/-
  The loop of a search as a relation, one iteration after
  the other and without a bound on their number.  There is
  always such a run, there is only one, and it has at most
  one iteration for each month up to the horizon.

  Key definitions include:
    * `Search.nextCursor?`
    * `Search.Loop`
    * `Search.Runs`

  Main declarations:
    * `Search.isLater_of_nextCursor?`
    * `Search.exists_runs`
    * `Search.Runs.unique`
    * `Search.Runs.next_eq`
    * `Search.Runs.length_le`
    * `Expression.nextAfter_terminates`
-/

------------------------------------------------------------
-- One Iteration
------------------------------------------------------------

namespace CronSchedule

namespace Search

/- The cursor after an iteration, if the search goes on. -/
def nextCursor?
    (search : Search)
    (timetable : Timetable)
    (cursor : Instant) : Option Instant :=
  match search.step timetable cursor.date with
  | .move _ target => some target.midnight
  | .stop _ => none

/- An iteration ends the search or goes on in a later month. -/
theorem isLater_of_nextCursor?
    (search : Search)
    (timetable : Timetable)
    (cursor later : Instant)
    (hNext :
      search.nextCursor? timetable cursor = some later) :
    later.time = .midnight ∧
      IsLater cursor.date later.date := by
  unfold nextCursor? at hNext
  split at hNext
  · rename_i move target hStep
    cases hNext
    exact
      ⟨rfl,
        isLater_of_step search timetable cursor.date target
          move hStep⟩
  · cases hNext

end Search

end CronSchedule

------------------------------------------------------------
-- Runs of the Loop
------------------------------------------------------------

namespace CronSchedule

namespace Search

/-
  The loop from a cursor on, with the cursor of every
  iteration, and its trail.
-/
inductive Loop
    (search : Search)
    (timetable : Timetable) :
    Instant → List Instant → Trail → Prop where
/- There is no iteration once the horizon is reached. -/
| reached
    {cursor : Instant}
    (hReached : ¬ cursor < search.horizon) :
    Loop search timetable cursor [] ⟨[], .horizonReached⟩
/- The iteration ends the search. -/
| stop
    {cursor : Instant}
    {ending : Ending}
    (hBefore : cursor < search.horizon)
    (hStop :
      search.step timetable cursor.date = .stop ending) :
    Loop search timetable cursor [cursor] ⟨[], ending⟩
/- The iteration moves the cursor. -/
| move
    {cursor : Instant}
    {move : Move}
    {target : Date}
    {cursors : List Instant}
    {trail : Trail}
    (hBefore : cursor < search.horizon)
    (hMove :
      search.step timetable cursor.date =
        .move move target)
    (hLater :
      Loop search timetable target.midnight cursors trail) :
    Loop search timetable cursor (cursor :: cursors)
      (trail.after move)

/-
  A whole search, with the cursor of every iteration.  There
  is none if the fields have no values, or if nothing comes
  after the origin.
-/
inductive Runs
    (search : Search) : List Instant → Trail → Prop where
| noTimetable
    {fault : Calendar.Fault}
    (hTimetable : search.timetable = .error fault) :
    Runs search [] ⟨[], .failed fault⟩
| noStart
    {timetable : Timetable}
    (hTimetable : search.timetable = .ok timetable)
    (hStart : search.origin.addSecond? = none) :
    Runs search [] ⟨[], .rangeLeft⟩
| loop
    {timetable : Timetable}
    {cursor : Instant}
    {cursors : List Instant}
    {trail : Trail}
    (hTimetable : search.timetable = .ok timetable)
    (hStart : search.origin.addSecond? = some cursor)
    (hLoop : search.Loop timetable cursor cursors trail) :
    Runs search cursors trail

variable {search : Search}
variable {timetable : Timetable}
variable {cursor : Instant}
variable {cursors others : List Instant}
variable {trail other : Trail}

/- Every iteration is decided by its cursor. -/
theorem Loop.unique
    (hLoop : search.Loop timetable cursor cursors trail)
    (hOther : search.Loop timetable cursor others other) :
    cursors = others ∧ trail = other := by
  induction hLoop generalizing others other with
  | reached hReached =>
      cases hOther with
      | reached _ => exact ⟨rfl, rfl⟩
      | stop hBefore _ => exact absurd hBefore hReached
      | move hBefore _ _ => exact absurd hBefore hReached
  | stop hBefore hStop =>
      cases hOther with
      | reached hReached => exact absurd hBefore hReached
      | stop _ hOtherStop =>
          rw [hStop] at hOtherStop
          cases hOtherStop
          exact ⟨rfl, rfl⟩
      | move _ hMove _ =>
          rw [hStop] at hMove
          cases hMove
  | move hBefore hMove _ ih =>
      cases hOther with
      | reached hReached => exact absurd hBefore hReached
      | stop _ hStop =>
          rw [hMove] at hStop
          cases hStop
      | move _ hOtherMove hLater =>
          rw [hMove] at hOtherMove
          cases hOtherMove
          rcases ih hLater with ⟨rfl, rfl⟩
          exact ⟨rfl, rfl⟩

theorem Runs.unique
    (hRuns : search.Runs cursors trail)
    (hOther : search.Runs others other) :
    cursors = others ∧ trail = other := by
  cases hRuns with
  | noTimetable hTimetable =>
      cases hOther with
      | noTimetable hSame =>
          rw [hTimetable] at hSame
          cases hSame
          exact ⟨rfl, rfl⟩
      | noStart hOk _ | loop hOk _ _ =>
          rw [hTimetable] at hOk
          cases hOk
  | noStart hTimetable hStart =>
      cases hOther with
      | noTimetable hFault =>
          rw [hTimetable] at hFault
          cases hFault
      | noStart _ _ => exact ⟨rfl, rfl⟩
      | loop _ hSome _ =>
          rw [hStart] at hSome
          cases hSome
  | loop hTimetable hStart hLoop =>
      cases hOther with
      | noTimetable hFault =>
          rw [hTimetable] at hFault
          cases hFault
      | noStart _ hNone =>
          rw [hStart] at hNone
          cases hNone
      | loop hSame hSome hOtherLoop =>
          rw [hTimetable] at hSame
          rw [hStart] at hSome
          cases hSame
          cases hSome
          exact hLoop.unique hOtherLoop

end Search

end CronSchedule

------------------------------------------------------------
-- The Walk Is a Run
------------------------------------------------------------

namespace CronSchedule

namespace Search

variable (search : Search)

/-
  A walk that may take a step for each month left is a run
  of the loop: the steps do not run out before the horizon.
-/
theorem exists_loop_walk
    (timetable : Timetable)
    (steps : Nat)
    (cursor : Instant)
    (hSteps : search.monthsLeft cursor.date ≤ steps) :
    ∃ cursors,
      search.Loop timetable cursor cursors
        (search.walk timetable steps cursor) := by
  induction steps generalizing cursor with
  | zero =>
      refine ⟨[], Loop.reached ?_⟩
      intro hBefore
      have hLeft :=
        monthsLeft_pos_of_lt search cursor hBefore
      omega
  | succ steps ih =>
      unfold walk
      split
      · rename_i hBefore
        split
        · rename_i ending hStop
          exact ⟨[cursor], Loop.stop hBefore hStop⟩
        · rename_i move target hMove
          have hLater :=
            isLater_of_step search timetable cursor.date
              target move hMove
          have hFewer :=
            monthsLeft_lt_of_isLater search cursor.date
              target hLater
              (monthsLeft_pos_of_lt search cursor hBefore)
          rcases ih target.midnight
            (by rw [Instant.date_midnight]; omega) with
            ⟨cursors, hLoop⟩
          exact
            ⟨cursor :: cursors,
              Loop.move hBefore hMove hLoop⟩
      · rename_i hReached
        exact ⟨[], Loop.reached hReached⟩

/- Every search has a run, and its trail is that of it. -/
theorem exists_runs :
    ∃ cursors, search.Runs cursors search.trail := by
  unfold trail
  cases hTimetable : search.timetable with
  | error fault => exact ⟨[], Runs.noTimetable hTimetable⟩
  | ok timetable =>
      cases hStart : search.origin.addSecond? with
      | none => exact ⟨[], Runs.noStart hTimetable hStart⟩
      | some cursor =>
          rcases search.exists_loop_walk timetable _ cursor
            (Nat.le_refl _) with ⟨cursors, hLoop⟩
          exact
            ⟨cursors, Runs.loop hTimetable hStart hLoop⟩

/- So the answer is that of any run. -/
theorem Runs.next_eq
    {search : Search}
    {cursors : List Instant}
    {trail : Trail}
    (hRuns : search.Runs cursors trail) :
    search.next = trail.ending.answer := by
  rcases search.exists_runs with ⟨others, hOthers⟩
  rw [(hRuns.unique hOthers).2]
  rfl

theorem Runs.ending_ne_failed
    {search : Search}
    {cursors : List Instant}
    {trail : Trail}
    {answer : Option Instant}
    (hRuns : search.Runs cursors trail)
    (hNext : search.next = .ok answer)
    (fault : Calendar.Fault) :
    trail.ending ≠ .failed fault := by
  intro hFailed
  rw [hRuns.next_eq, hFailed] at hNext
  cases hNext

end Search

end CronSchedule

------------------------------------------------------------
-- The Number of Iterations
------------------------------------------------------------

namespace CronSchedule

namespace Search

variable {search : Search}
variable {timetable : Timetable}
variable {cursor : Instant}
variable {cursors : List Instant}
variable {trail : Trail}

/- There is at most one iteration for each month left. -/
theorem Loop.length_le
    (hLoop : search.Loop timetable cursor cursors trail) :
    cursors.length ≤ search.monthsLeft cursor.date := by
  induction hLoop with
  | reached _ => exact Nat.zero_le _
  | @stop cursor _ hBefore _ =>
      exact monthsLeft_pos_of_lt search cursor hBefore
  | @move cursor move target cursors _ hBefore hMove _ ih =>
      have hLater :=
        isLater_of_step search timetable cursor.date target
          move hMove
      have hFewer :=
        monthsLeft_lt_of_isLater search cursor.date target
          hLater (monthsLeft_pos_of_lt search cursor hBefore)
      rw [Instant.date_midnight] at ih
      rw [List.length_cons]
      omega

/- From the start these are the months of so many years. -/
theorem monthsLeft_le_of_addSecond?
    (cursor : Instant)
    (hWellFormed : search.expression.WellFormed)
    (hStart : search.origin.addSecond? = some cursor) :
    search.monthsLeft cursor.date ≤
      12 * search.expression.yearsAhead + 1 := by
  have hLimit :=
    search.expression.monthIndex_searchLimit_le
      search.origin
  have hIndex :=
    Date.monthIndex_le_of_not_lt
      (Instant.not_date_lt_of_addSecond? search.origin
        cursor hStart).1
  unfold monthsLeft
  rw [Expression.horizon_eq_searchLimit search hWellFormed]
  omega

theorem Runs.length_le
    (hRuns : search.Runs cursors trail)
    (hWellFormed : search.expression.WellFormed) :
    cursors.length ≤
      12 * search.expression.yearsAhead + 1 := by
  cases hRuns with
  | noTimetable _ => exact Nat.zero_le _
  | noStart _ _ => exact Nat.zero_le _
  | @loop timetable cursor _ _ _ hStart hLoop =>
      exact
        Nat.le_trans hLoop.length_le
          (monthsLeft_le_of_addSecond? cursor hWellFormed
            hStart)

end Search

end CronSchedule

------------------------------------------------------------
-- Searches End
------------------------------------------------------------

namespace CronSchedule

namespace Expression

/-
  Every iteration ends the search, or moves the cursor to
  the start of a later month.  So on every calendar the loop
  ends, after no more than one iteration for each month up
  to the horizon.
-/
theorem nextAfter_terminates
    (calendar : Calendar)
    (text : String)
    (expression : Expression)
    (origin : Instant)
    (hParse : parse text = .ok expression) :
    let search : Search := { calendar, expression, origin }
    (∀ timetable cursor later,
        search.nextCursor? timetable cursor = some later →
          later.time = .midnight ∧ later.date.day = 1 ∧
            cursor.date.monthIndex <
              later.date.monthIndex) ∧
      ∃ cursors trail,
        search.Runs cursors trail ∧
          (∀ others other, search.Runs others other →
            others = cursors ∧ other = trail) ∧
          expression.nextAfter calendar origin =
            trail.ending.answer ∧
          cursors.length ≤
            12 * expression.yearsAhead + 1 := by
  intro search
  have hWellFormed :=
    wellFormed_of_parse text expression hParse
  constructor
  · intro timetable cursor later hNext
    exact
      search.isLater_of_nextCursor? timetable cursor later
        hNext
  · rcases search.exists_runs with ⟨cursors, hRuns⟩
    refine
      ⟨cursors, search.trail, hRuns, ?_, hRuns.next_eq,
        hRuns.length_le hWellFormed⟩
    intro others other hOther
    exact hOther.unique hRuns

/- Noon on the sixth Sunday of a month, which none has. -/
def noonOnSixthSunday : Expression where
  second := .fixed (.ofList [0])
  minute := .fixed (.ofList [0])
  hour := .fixed (.ofList [12])
  dayOfMonth := .unspecified
  month := .fixed (.interval 1 12)
  dayOfWeek := .nthWeekday 1 6
  year := .anyYear

def midJanuary2024 : Instant :=
  ⟨⟨2024, 1, 15, by decide⟩, .midnight⟩

/- Four years of months, with both Januaries at the ends. -/
theorem nextAfter_terminates_sixthSunday :
    noonOnSixthSunday.nextAfter .gregorian midJanuary2024 =
        .ok none ∧
      ∃ cursors trail,
        Search.Runs
            ⟨.gregorian, noonOnSixthSunday, midJanuary2024⟩
            cursors trail ∧
          cursors.length ≤ 49 := by
  refine ⟨rfl, ?_⟩
  rcases
    (nextAfter_terminates .gregorian "0 0 12 ? * 1#6"
      noonOnSixthSunday midJanuary2024 rfl).2 with
    ⟨cursors, trail, hRuns, _, _, hLength⟩
  exact ⟨cursors, trail, hRuns, hLength⟩

end Expression

end CronSchedule
