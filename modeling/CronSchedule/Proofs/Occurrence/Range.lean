import CronSchedule.Occurrence.Stream
import CronSchedule.Proofs.Occurrence.Horizon

/-
  One occurrence after the other.  As long as every match is
  in reach of the one before, none is left out.

  Key definitions include:
    * `Expression.LeavesNoGap`
    * `Expression.HasShortGaps`

  Main declarations:
    * `Occurrences.result_takeBefore`
    * `Occurrences.exists_found_of_pullMany`
    * `Expression.between_exact`
-/

------------------------------------------------------------
-- Results of Answers
------------------------------------------------------------

namespace CronSchedule

variable {α β : Type}

@[simp]
theorem Answer.result_pure
    (value : α) :
    (pure value : Answer α).result = .ok value :=
  rfl

@[simp]
theorem Answer.result_bind
    (first : Answer α)
    (second : α → Answer β) :
    (first >>= second).result =
      (do
        let value ← first.result
        (second value).result) := by
  change
    Journal.result (ExceptT.run first >>= fun answer =>
      ExceptT.bindCont second answer) = _
  rw [Journal.result_bind]
  unfold Answer.result
  cases (ExceptT.run first).result with
  | error fault => rfl
  | ok value => rfl

namespace Occurrences

/- A pull is a search from the cursor. -/
@[simp]
theorem result_pull_after
    (calendar : Calendar)
    (expression : Expression)
    (origin : Instant) :
    (after calendar expression origin).pull.result =
      expression.nextAfter calendar origin :=
  rfl

/- Nothing is pulled without a cursor. -/
@[simp]
theorem result_pull_none
    (occurrences : Occurrences) :
    (occurrences.withCursor none).pull.result = .ok none :=
  rfl

/- The search goes on from the occurrence before. -/
@[simp]
theorem withCursor_after
    (calendar : Calendar)
    (expression : Expression)
    (origin instant : Instant) :
    (after calendar expression origin).withCursor
        (some instant) =
      after calendar expression instant :=
  rfl

end Occurrences

end CronSchedule

------------------------------------------------------------
-- Finite Parts
------------------------------------------------------------

namespace CronSchedule

namespace Occurrences

variable {calendar : Calendar}
variable {expression : Expression}
variable {origin bound : Instant}

theorem result_takeBefore_zero :
    ((after calendar expression origin).takeBefore bound
        0).result =
      .ok [] :=
  rfl

/- The part ends where nothing is found. -/
theorem result_takeBefore_none
    (count : Nat)
    (hNext :
      expression.nextAfter calendar origin = .ok none) :
    ((after calendar expression origin).takeBefore bound
        (count + 1)).result =
      .ok [] := by
  unfold takeBefore takeWhile
  rw [Answer.result_bind, result_pull_after, hNext, ok_bind]
  rfl

/- The part ends before the bound. -/
theorem result_takeBefore_of_not_lt
    (count : Nat)
    (first : Instant)
    (hNext :
      expression.nextAfter calendar origin =
        .ok (some first))
    (hBound : ¬ first < bound) :
    ((after calendar expression origin).takeBefore bound
        (count + 1)).result =
      .ok [] := by
  unfold takeBefore takeWhile
  rw [Answer.result_bind, result_pull_after, hNext, ok_bind]
  simp only [decide_eq_true_eq, if_neg hBound]
  rfl

/- The part goes on from what was found. -/
theorem result_takeBefore_of_lt
    (count : Nat)
    (first : Instant)
    (later : List Instant)
    (hNext :
      expression.nextAfter calendar origin =
        .ok (some first))
    (hBound : first < bound)
    (hLater :
      ((after calendar expression first).takeBefore bound
          count).result =
        .ok later) :
    ((after calendar expression origin).takeBefore bound
        (count + 1)).result =
      .ok (first :: later) := by
  unfold takeBefore takeWhile
  rw [Answer.result_bind, result_pull_after, hNext, ok_bind]
  simp only [decide_eq_true_eq, if_pos hBound]
  rw [Answer.result_bind, withCursor_after]
  unfold takeBefore at hLater
  rw [hLater, ok_bind]
  rfl

end Occurrences

end CronSchedule

------------------------------------------------------------
-- Matches in Reach of One Another
------------------------------------------------------------

namespace CronSchedule

namespace Expression

/-
  From the origin and from every match in between, the next
  match is in reach, if it is before the bound.
-/
def LeavesNoGap
    (expression : Expression)
    (origin bound : Instant) : Prop :=
  ∀ start,
    start = origin ∨
        expression.Matches start ∧ origin < start ∧
          start < bound →
      ∀ next,
        Instant.IsFirst expression.Matches start next →
          next < bound →
            expression.InReach start next.date

/-
  From the origin and from every match in between, the next
  match is less than four years ahead, if it is before the
  bound.
-/
def HasShortGaps
    (expression : Expression)
    (origin bound : Instant) : Prop :=
  ∀ start,
    start = origin ∨
        expression.Matches start ∧ origin < start ∧
          start < bound →
      ∀ next,
        Instant.IsFirst expression.Matches start next →
          next < bound →
            ∀ limit, start.yearsLater? 4 = some limit →
              next < limit

/- The start of the year 1970. -/
def epoch : Instant :=
  ⟨⟨1970, 1, 1, by decide⟩, .midnight⟩

variable {expression : Expression}
variable {origin bound : Instant}

/- No instant is before the start of its month. -/
theorem not_lt_monthStart
    (instant : Instant) :
    ¬ instant < instant.date.monthStart.midnight := by
  have hDay := instant.date.day_bounds
  rw [Instant.lt_iff_rank_lt, Instant.rank_midnight,
    Date.rank_monthStart]
  unfold Instant.rank Date.rank
  omega

/- What leaves no gap leaves none from the next match on. -/
theorem LeavesNoGap.tail
    {first : Instant}
    (hNoGap : expression.LeavesNoGap origin bound)
    (hFirst :
      Instant.IsFirst expression.Matches origin first)
    (hBound : first < bound) :
    expression.LeavesNoGap first bound := by
  intro start hStart
  apply hNoGap start
  right
  rcases hStart with rfl | ⟨hMatches, hAfter, hEarlier⟩
  · exact ⟨hFirst.holds, hFirst.after, hBound⟩
  · exact
      ⟨hMatches, Instant.lt_trans hFirst.after hAfter,
        hEarlier⟩

/- From 1970 on all explicit years are in reach. -/
theorem inReach_of_explicit
    (instant : Instant)
    (hWellFormed : expression.WellFormed)
    (hExplicit : expression.year ≠ .anyYear)
    (hOrigin : ¬ origin < epoch)
    (hYear : expression.AllowsYear instant.date.year)
    (hAfter : origin < instant) :
    expression.InReach origin instant.date := by
  apply
    inReach_of_lastShortOrigin_lt instant hWellFormed
      hExplicit _ hYear hAfter
  have hEarlier : lastShortOrigin < epoch := by decide
  rw [Instant.lt_iff_rank_lt] at hOrigin hEarlier ⊢
  omega

theorem leavesNoGap_of_explicit
    (hWellFormed : expression.WellFormed)
    (hExplicit : expression.year ≠ .anyYear)
    (hOrigin : ¬ origin < epoch) :
    expression.LeavesNoGap origin bound := by
  intro start hStart next hNext _
  apply inReach_of_explicit next hWellFormed hExplicit _
    hNext.holds.time.year hNext.after
  intro hEarly
  rcases hStart with rfl | ⟨_, hAfter, _⟩
  · exact hOrigin hEarly
  · exact hOrigin (Instant.lt_trans hAfter hEarly)

/- Less than four years ahead every match is in reach. -/
theorem leavesNoGap_of_hasShortGaps
    (hAny : expression.year = .anyYear)
    (hOrigin : origin.date.year ≤ 262137)
    (hBound : bound.date.year ≤ 262137)
    (hGaps : expression.HasShortGaps origin bound) :
    expression.LeavesNoGap origin bound := by
  intro start hStart next hNext hBefore
  have hYear : start.date.year ≤ 262137 := by
    rcases hStart with rfl | ⟨_, _, hEarlier⟩
    · exact hOrigin
    · have hOrder :=
        Date.year_le_of_not_lt
          (Instant.not_date_lt_of_lt hEarlier)
      omega
  rcases start.exists_yearsLater? 4
    (by unfold Date.lastYear; omega) with
    ⟨limit, hLimit, _⟩
  have hAhead : expression.yearsAhead = 4 := if_pos hAny
  have hSame : expression.searchLimit start = limit := by
    unfold searchLimit
    rw [hAhead, hLimit]
    rfl
  right
  rw [hSame]
  exact
    Instant.lt_of_not_lt_of_lt (not_lt_monthStart next)
      (hGaps start hStart next hNext hBefore limit hLimit)

end Expression

end CronSchedule

------------------------------------------------------------
-- All Matches of an Interval
------------------------------------------------------------

namespace CronSchedule

namespace Occurrences

open Calendar

variable {expression : Expression}
variable {origin bound : Instant}

/-
  If the matches leave no gap, then none is left out: every
  search finds the first of the matches that are left.
-/
theorem result_takeBefore
    (count : Nat)
    (all : List Instant)
    (hWellFormed : expression.WellFormed)
    (hOrigin : origin.date.year ≤ 262137)
    (hBound : bound.date.year ≤ 262137)
    (hNoGap : expression.LeavesNoGap origin bound)
    (hAll :
      Instant.Lists expression.Matches origin bound all) :
    ((after gregorian expression origin).takeBefore bound
        count).result =
      .ok (all.take count) := by
  -- The matches after the first one are those of the
  -- interval that starts there.
  induction count generalizing origin all with
  | zero =>
      rw [result_takeBefore_zero, List.take_zero]
  | succ count ih =>
      rcases expression.next_cases origin hWellFormed
        (fun _ => hOrigin) with
        ⟨first, hNext, hFirst, _⟩ | ⟨hNext, hFar⟩
      · cases all with
        | nil =>
            apply result_takeBefore_of_not_lt count first
              hNext
            intro hBefore
            have hMem :=
              (hAll.mem_iff first).mpr
                ⟨hFirst.holds, hFirst.after, hBefore⟩
            cases hMem
        | cons least later =>
            have hLeast := hAll.isFirst
            have hSame := hFirst.unique hLeast.1
            subst hSame
            have hYear :=
              Date.year_le_of_not_lt
                (Instant.not_date_lt_of_lt hLeast.2)
            apply result_takeBefore_of_lt count first _
              hNext hLeast.2
            exact
              ih later (by omega)
                (hNoGap.tail hFirst hLeast.2) hAll.tail
      · rw [result_takeBefore_none count hNext]
        cases all with
        | nil =>
            rfl
        | cons least later =>
            have hLeast := hAll.isFirst
            have hInReach :=
              hNoGap origin (Or.inl rfl) least hLeast.1
                hLeast.2
            exact
              absurd hInReach
                (hFar least hLeast.1.holds hLeast.1.after)

end Occurrences

end CronSchedule

------------------------------------------------------------
-- Pulled Occurrences
------------------------------------------------------------

namespace CronSchedule

namespace Occurrences

open Calendar

variable {expression : Expression}

/- Once there is no cursor, nothing more is pulled. -/
theorem result_pullMany_none
    (count : Nat)
    (occurrences : Occurrences) :
    (pullMany count
        (occurrences.withCursor none)).result =
      .ok
        (List.replicate count none,
          occurrences.withCursor none) := by
  induction count with
  | zero =>
      rfl
  | succ count ih =>
      unfold pullMany
      rw [Answer.result_bind, result_pull_none, ok_bind,
        Answer.result_bind]
      change
        (pullMany count
            (occurrences.withCursor none)).result >>= _ = _
      rw [ih, ok_bind]
      rfl

/-
  What is pulled is an ascending run of occurrences after
  the origin, and then nothing for ever.
-/
theorem exists_found_of_pullMany
    (count : Nat)
    (origin : Instant)
    (items : List (Option Instant))
    (rest : Occurrences)
    (hWellFormed : expression.WellFormed)
    (hItems :
      (pullMany count
          (after gregorian expression origin)).result =
        .ok (items, rest)) :
    ∃ found missing,
      items =
          found.map some ++ List.replicate missing none ∧
        (origin :: found).Pairwise (· < ·) := by
  induction count generalizing origin items rest with
  | zero =>
      cases hItems
      exact ⟨[], 0, rfl, List.pairwise_singleton _ _⟩
  | succ count ih =>
      unfold pullMany at hItems
      rw [Answer.result_bind, result_pull_after] at hItems
      rcases exists_ok_of_bind _ _ _ hItems with
        ⟨next, hNext, hItems⟩
      rw [Answer.result_bind] at hItems
      rcases exists_ok_of_bind _ _ _ hItems with
        ⟨⟨later, left⟩, hLater, hItems⟩
      cases hItems
      cases next with
      | none =>
          rw [result_pullMany_none] at hLater
          cases hLater
          exact
            ⟨[], count + 1, rfl,
              List.pairwise_singleton _ _⟩
      | some first =>
          rw [withCursor_after] at hLater
          rcases ih first later _ hLater with
            ⟨found, missing, hLater, hAscending⟩
          subst hLater
          refine ⟨first :: found, missing, rfl, ?_⟩
          have hFirst :=
            Search.isFirst_of_next
              (expression.searchFrom origin) first
              hWellFormed hNext
          refine List.pairwise_cons.mpr ⟨?_, hAscending⟩
          intro instant hMem
          rcases List.mem_cons.mp hMem with rfl | hFound
          · exact hFirst.after
          · exact
              Instant.lt_trans hFirst.after
                ((List.pairwise_cons.mp hAscending).1
                  instant hFound)

end Occurrences

end CronSchedule

------------------------------------------------------------
-- Accepted Texts
------------------------------------------------------------

namespace CronSchedule

namespace Expression

open Calendar

/-
  A range has the first of all the matches strictly between
  its ends, in order, up to the count.  And what is pulled
  one after the other ascends from the origin on, until
  nothing more is ever pulled.
-/
theorem between_exact
    (text : String)
    (expression : Expression)
    (origin : Instant)
    (hParse : parse text = .ok expression) :
    (∀ bound count,
        origin.date.year ≤ 262137 →
          bound.date.year ≤ 262137 →
          (expression.year ≠ .anyYear ∧ ¬ origin < epoch ∨
            expression.year = .anyYear ∧
              expression.HasShortGaps origin bound) →
          ∃ all,
            Instant.Lists expression.Matches origin bound
                all ∧
              (expression.between gregorian origin bound
                  count).result =
                .ok (all.take count)) ∧
      ∀ count items rest,
        (Occurrences.pullMany count
              (Occurrences.after gregorian expression
                origin)).result =
            .ok (items, rest) →
          ∃ found missing,
            items =
                found.map some ++
                  List.replicate missing none ∧
              (origin :: found).Pairwise (· < ·) := by
  have hWellFormed :=
    wellFormed_of_parse text expression hParse
  constructor
  · intro bound count hOrigin hBound hCases
    have hNoGap : expression.LeavesNoGap origin bound := by
      rcases hCases with ⟨hExplicit, hEpoch⟩ | ⟨hAny, hGaps⟩
      · exact
          leavesNoGap_of_explicit hWellFormed hExplicit
            hEpoch
      · exact
          leavesNoGap_of_hasShortGaps hAny hOrigin hBound
            hGaps
    rcases Instant.exists_lists expression.Matches origin
      bound with ⟨all, hAll⟩
    refine ⟨all, hAll, ?_⟩
    exact
      Occurrences.result_takeBefore count all hWellFormed
        hOrigin hBound hNoGap hAll
  · intro count items rest hItems
    exact
      Occurrences.exists_found_of_pullMany count origin
        items rest hWellFormed hItems

/- The starts of three years. -/
def newYears : Expression where
  second := .fixed (.ofList [0])
  minute := .fixed (.ofList [0])
  hour := .fixed (.ofList [0])
  dayOfMonth := .fixed (.ofList [1])
  month := .fixed (.ofList [1])
  dayOfWeek := .unspecified
  year := .fixed (.ofList [2024, 2025, 2026])

/- In the middle of the leap second after midnight. -/
def newYear2024 : Instant :=
  ⟨⟨2024, 1, 1, by decide⟩,
    ⟨0, 0, 0, 1500000000, by decide⟩⟩

def newYear2025 : Instant :=
  ⟨⟨2025, 1, 1, by decide⟩, .midnight⟩

def newYear2026 : Instant :=
  ⟨⟨2026, 1, 1, by decide⟩, .midnight⟩

def newYear2027 : Instant :=
  ⟨⟨2027, 1, 1, by decide⟩, .midnight⟩

theorem between_exact_newYears :
    Instant.Lists newYears.Matches newYear2024 newYear2027
        [newYear2025, newYear2026] ∧
      ∃ found missing,
        [some newYear2025, some newYear2026, none] =
            found.map some ++ List.replicate missing none ∧
          (newYear2024 :: found).Pairwise (· < ·) := by
  have hExact :=
    between_exact "0 0 0 1 1 ? 2024-2026" newYears
      newYear2024 rfl
  have hYears :
      (newYears.between gregorian newYear2024 newYear2027
          10).result =
        .ok [newYear2025, newYear2026] := by
    rfl
  have hPulled :
      (Occurrences.pullMany 3
          (Occurrences.after gregorian newYears
            newYear2024)).result =
        .ok
          ([some newYear2025, some newYear2026, none],
            (Occurrences.after gregorian newYears
              newYear2024).withCursor none) := by
    rfl
  rcases hExact.1 newYear2027 10 (by decide) (by decide)
      (Or.inl ⟨by decide, by decide⟩) with
    ⟨all, hAll, hResult⟩
  rw [hYears] at hResult
  have hTake := (Except.ok.inj hResult).symm
  have hLength := congrArg List.length hTake
  rw [List.length_take, List.length_cons, List.length_cons,
    List.length_nil] at hLength
  rw [List.take_of_length_le (by omega)] at hTake
  subst hTake
  exact ⟨hAll, hExact.2 3 _ _ hPulled⟩

end Expression

end CronSchedule
