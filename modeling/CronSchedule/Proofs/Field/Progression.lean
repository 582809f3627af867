import CronSchedule.Proofs.Field.Grammar

/-
  The iteration of a progression as a relation, one term
  after the other and without a bound on their number.

  The step is added once for each term, also for the last
  one, whose sum is no term any more.  If a step more than
  the bounds is still a machine word, so is every sum.

  Key definitions include:
    * `Progression.Yields`
    * `Progression.Iterates`
    * `Progression.HasRoom`

  Main declarations:
    * `Progression.exists_yields`
    * `Progression.Yields.mem_iff`
    * `Progression.Yields.sum_le`
    * `Field.Selection.hasRoom_of_read`
    * `Field.Selection.iteration_exact`
-/

------------------------------------------------------------
-- Iterations
------------------------------------------------------------

namespace CronSchedule

namespace Progression

/-
  The terms that a series gives until it ends, and the sums
  that it computes for them.
-/
inductive Yields :
    Progression → List Nat → List Nat → Prop where
/- The series has ended. -/
| done
    {series : Progression}
    (hDone : series.advance? = none) :
    Yields series [] []
/- A term is given, and the sum with it is kept. -/
| term
    {series later : Progression}
    {term : Nat}
    {terms sums : List Nat}
    (hTerm : series.advance? = some (term, later))
    (hLater : Yields later terms sums) :
    Yields series (term :: terms) (later.next :: sums)

/-
  The whole iteration.  At its start a sum is computed and
  compared with the first number, which refuses a zero step.
-/
inductive Iterates
    (first last step : Nat) :
    List Nat → List Nat → Prop where
| start
    {terms sums : List Nat}
    (hStep : first + step ≠ first)
    (hYields : Yields ⟨first, last, step⟩ terms sums) :
    Iterates first last step terms
      ((first + step) :: sums)

variable {series later : Progression}
variable {term : Nat}
variable {terms sums others computed : List Nat}

theorem advance?_eq_none_iff :
    series.advance? = none ↔ series.last < series.next := by
  unfold advance?
  split
  · simp only [reduceCtorEq, false_iff]
    omega
  · simp only [true_iff]
    omega

theorem advance?_eq_some_iff :
    series.advance? = some (term, later) ↔
      series.next ≤ series.last ∧ term = series.next ∧
        later =
          ⟨series.next + series.step, series.last,
            series.step⟩ := by
  unfold advance?
  split
  · rename_i hLast
    simp only [Option.some.injEq, Prod.mk.injEq, hLast,
      true_and, eq_comm]
  · rename_i hLast
    simp only [reduceCtorEq, hLast, false_and]

/- Each state of the series decides what comes next. -/
theorem Yields.unique
    (hYields : Yields series terms sums)
    (hOther : Yields series others computed) :
    others = terms ∧ computed = sums := by
  induction hYields generalizing others computed with
  | done hDone =>
      cases hOther with
      | done _ => exact ⟨rfl, rfl⟩
      | term hTerm _ =>
          rw [hDone] at hTerm
          cases hTerm
  | term hTerm _ ih =>
      cases hOther with
      | done hDone =>
          rw [hTerm] at hDone
          cases hDone
      | term hOtherTerm hLater =>
          rw [hTerm] at hOtherTerm
          cases hOtherTerm
          rcases ih hLater with ⟨rfl, rfl⟩
          exact ⟨rfl, rfl⟩

/- A positive step passes the last number at some time. -/
theorem exists_yields_take
    (count : Nat)
    (series : Progression)
    (hStep : 0 < series.step)
    (hCount : series.last + 1 - series.next ≤ count) :
    ∃ sums, Yields series (series.take count) sums := by
  induction count generalizing series with
  | zero =>
      exact
        ⟨[], .done (advance?_eq_none_iff.mpr (by omega))⟩
  | succ count ih =>
      unfold take
      cases hNext : series.advance? with
      | none => exact ⟨[], .done hNext⟩
      | some entry =>
          rcases entry with ⟨term, later⟩
          rcases advance?_eq_some_iff.mp hNext with
            ⟨hLast, _, hLater⟩
          have hMore :
              ∃ sums, Yields later (later.take count) sums := by
            apply ih
            · rw [hLater]
              exact hStep
            · rw [hLater]
              change
                series.last + 1 -
                  (series.next + series.step) ≤ count
              omega
          rcases hMore with ⟨sums, hYields⟩
          exact ⟨later.next :: sums, .term hNext hYields⟩

/- So the iteration ends, and gives all terms. -/
theorem exists_yields
    (series : Progression)
    (hStep : 0 < series.step) :
    ∃ sums, Yields series series.toList sums :=
  exists_yields_take _ series hStep (Nat.le_refl _)

end Progression

end CronSchedule

------------------------------------------------------------
-- Terms and Sums
------------------------------------------------------------

namespace CronSchedule

namespace Progression

variable {series : Progression}
variable {terms sums : List Nat}

/- The terms are the first number and so many steps more. -/
theorem Yields.mem_iff
    (hYields : Yields series terms sums)
    (number : Nat) :
    number ∈ terms ↔
      number ≤ series.last ∧
        ∃ index,
          number = series.next + index * series.step := by
  induction hYields with
  | @done series hDone =>
      have hPassed := advance?_eq_none_iff.mp hDone
      simp only [List.not_mem_nil, false_iff]
      rintro ⟨hLast, index, rfl⟩
      omega
  | @term series later term terms sums hTerm _ ih =>
      rcases advance?_eq_some_iff.mp hTerm with
        ⟨hLast, rfl, rfl⟩
      rw [List.mem_cons, ih]
      constructor
      · rintro (rfl | ⟨hBound, index, rfl⟩)
        · exact ⟨hLast, 0, by simp⟩
        · refine ⟨hBound, index + 1, ?_⟩
          simp only [Nat.succ_mul]
          omega
      · rintro ⟨hBound, index, rfl⟩
        cases index with
        | zero => exact Or.inl (by simp)
        | succ index =>
            refine Or.inr ⟨hBound, index, ?_⟩
            simp only [Nat.succ_mul]
            omega

/- All later terms are a step or more ahead. -/
theorem Yields.ascending
    (hYields : Yields series terms sums)
    (hStep : 0 < series.step) :
    terms.Pairwise (· < ·) := by
  induction hYields with
  | done _ => exact List.Pairwise.nil
  | @term series later term terms sums hTerm hLater ih =>
      rcases advance?_eq_some_iff.mp hTerm with
        ⟨_, rfl, rfl⟩
      refine List.pairwise_cons.mpr ⟨?_, ih hStep⟩
      intro number hNumber
      rcases ((hLater.mem_iff number).mp hNumber).2 with
        ⟨index, rfl⟩
      change series.next < series.next + series.step + _
      omega

/- A sum is at most one step more than the last number. -/
theorem Yields.sum_le
    (hYields : Yields series terms sums) :
    ∀ sum ∈ sums, sum ≤ series.last + series.step := by
  induction hYields with
  | done _ =>
      intro sum hSum
      cases hSum
  | @term series later term terms sums hTerm _ ih =>
      rcases advance?_eq_some_iff.mp hTerm with
        ⟨hLast, rfl, rfl⟩
      exact
        List.forall_mem_cons.mpr
          ⟨Nat.add_le_add_right hLast series.step, ih⟩

/-
  The step is positive, and from each bound there is room
  for one more step among the words of 32 bits.
-/
structure HasRoom
    (first last step : Nat) : Prop where
  moves : 1 ≤ step
  afterFirst : first + step < UInt32.size
  afterLast : last + step < UInt32.size

end Progression

end CronSchedule

------------------------------------------------------------
-- Iterations of Fields
------------------------------------------------------------

namespace CronSchedule

namespace Field

/- No value with a step added comes near the limit. -/
theorem Kind.greatest_add_extent_lt
    (kind : Kind) :
    kind.greatest + kind.extent < UInt32.size := by
  cases kind <;> decide

namespace Selection

open Progression

/- The bounds and the step that are read leave room. -/
theorem hasRoom_of_read
    (kind : Kind)
    (text : List Char)
    (first last step : Nat)
    (hRead :
      read kind text = .ok (.stepped first last step)) :
    first ≤ last ∧ HasRoom first last step := by
  rcases (spells_of_read kind text _ hRead).2 with
    ⟨hFirst, hLast, hOrder, hStep⟩
  have hLimit := kind.greatest_add_extent_lt
  unfold Kind.Allows at hFirst hLast
  unfold Kind.AllowsStep at hStep
  exact
    ⟨hOrder, hStep.1, by omega, by omega⟩

/-
  With room for one more step the iteration ends.  It gives
  the numbers from the first to the last that are whole
  steps apart, in order, and every sum on the way is a word
  of 32 bits.  There is room whenever a text is read.
-/
theorem iteration_exact :
    (∀ first last step, HasRoom first last step →
      ∃ terms sums,
        (∀ others computed,
          Iterates first last step others computed ↔
            others = terms ∧ computed = sums) ∧
          terms = toList ⟨first, last, step⟩ ∧
          terms.Pairwise (· < ·) ∧
          (∀ number,
            number ∈ terms ↔
              number ≤ last ∧
                ∃ index, number = first + index * step) ∧
          ∀ sum ∈ sums, sum < UInt32.size) ∧
      ∀ kind text first last step,
        read kind text = .ok (.stepped first last step) →
          first ≤ last ∧ HasRoom first last step := by
  refine ⟨?_, hasRoom_of_read⟩
  intro first last step hRoom
  have hPositive : 0 < step := hRoom.moves
  have hStep : first + step ≠ first := by omega
  rcases exists_yields ⟨first, last, step⟩ hPositive with
    ⟨sums, hYields⟩
  refine
    ⟨toList ⟨first, last, step⟩, (first + step) :: sums,
      ?_, rfl, hYields.ascending hPositive, hYields.mem_iff,
      ?_⟩
  · intro others computed
    constructor
    · rintro ⟨_, hOther⟩
      rcases hYields.unique hOther with ⟨rfl, rfl⟩
      exact ⟨rfl, rfl⟩
    · rintro ⟨rfl, rfl⟩
      exact .start hStep hYields
  · rw [List.forall_mem_cons]
    refine ⟨hRoom.afterFirst, ?_⟩
    intro sum hSum
    exact
      Nat.lt_of_le_of_lt (hYields.sum_le sum hSum)
        hRoom.afterLast

/- Close to the limit, and in a field of years. -/
theorem iteration_exact_nearLimit :
    HasRoom 4294967290 4294967293 2 ∧
      (∃ sums,
        Iterates 4294967290 4294967293 2
            [4294967290, 4294967292] sums ∧
          ∀ sum ∈ sums, sum < UInt32.size) ∧
      read .year "2090/4".toList =
        .ok (.stepped 2090 2099 4) ∧
      HasRoom 2090 2099 4 := by
  have hRoom : HasRoom 4294967290 4294967293 2 :=
    ⟨by decide, by decide, by decide⟩
  have hRead :
      read .year "2090/4".toList =
        .ok (.stepped 2090 2099 4) := rfl
  rcases iteration_exact.1 4294967290 4294967293 2 hRoom
    with ⟨terms, sums, hRuns, hTerms, _, _, hSums⟩
  have hIterates := (hRuns terms sums).mpr ⟨rfl, rfl⟩
  rw [hTerms] at hIterates
  refine ⟨hRoom, ⟨sums, hIterates, hSums⟩, hRead, ?_⟩
  exact (iteration_exact.2 .year _ 2090 2099 4 hRead).2

end Selection

end Field

end CronSchedule
