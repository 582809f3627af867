/-
  Stepped progressions, produced one term at a time.

  Key definitions include:
    * `Progression`
    * `Progression.advance?`
    * `Progression.toList`

  The terms are exactly the numbers between the bounds that
  are whole steps away from the first one:
    * `Progression.mem_toList`
-/

------------------------------------------------------------
-- Progressions
------------------------------------------------------------

namespace CronSchedule

/-
  The terms `next`, `next + step`, and so on, as far as they
  do not exceed `last`.
-/
structure Progression where
  next : Nat
  last : Nat
  step : Nat
deriving DecidableEq

namespace Progression

/-
  The next term and the progression of the later terms.  The
  step is added once more after the last term.
-/
def advance?
    (series : Progression) :
    Option (Nat × Progression) :=
  if series.next ≤ series.last then
    some
      (series.next,
        { series with next := series.next + series.step })
  else
    none

/- At most the given number of terms. -/
def take : Nat → Progression → List Nat
| 0, _ => []
| count + 1, series =>
    match series.advance? with
    | none => []
    | some (term, later) => term :: take count later

/-
  All terms.  A positive step passes the last term after at
  most as many terms as there are numbers up to it.
-/
def toList
    (series : Progression) : List Nat :=
  series.take (series.last + 1 - series.next)

end Progression

end CronSchedule

------------------------------------------------------------
-- Terms
------------------------------------------------------------

namespace CronSchedule

namespace Progression

/- The terms among so many first ones. -/
theorem mem_take
    (count : Nat)
    (series : Progression)
    (number : Nat) :
    number ∈ series.take count ↔
      ∃ index, index < count ∧
        number = series.next + index * series.step ∧
        ∀ other, other ≤ index →
          series.next + other * series.step ≤
            series.last := by
  induction count generalizing series with
  | zero =>
      simp [take]
  | succ count ih =>
      unfold take advance?
      by_cases hLast : series.next ≤ series.last
      · simp only [hLast, if_true, List.mem_cons, ih]
        constructor
        · rintro (rfl | ⟨index, hIndex, rfl, hAll⟩)
          · refine ⟨0, Nat.succ_pos _, by simp, ?_⟩
            intro other hOther
            have hZero : other = 0 := by omega
            simpa [hZero] using hLast
          · refine ⟨index + 1, by omega, ?_, ?_⟩
            · simp only [Nat.succ_mul]
              omega
            · intro other hOther
              cases other with
              | zero =>
                  simpa using hLast
              | succ other =>
                  have hTerm := hAll other (by omega)
                  simp only [Nat.succ_mul]
                  omega
        · rintro ⟨index, hIndex, rfl, hAll⟩
          cases index with
          | zero =>
              left
              simp
          | succ index =>
              right
              refine ⟨index, by omega, ?_, ?_⟩
              · simp only [Nat.succ_mul]
                omega
              · intro other hOther
                have hTerm :=
                  hAll (other + 1) (by omega)
                simp only [Nat.succ_mul] at hTerm
                omega
      · simp only [hLast, if_false, List.not_mem_nil,
          false_iff]
        rintro ⟨index, _, _, hAll⟩
        exact hLast (by simpa using hAll 0 (Nat.zero_le _))

/-
  With a positive step the terms are the numbers that lie
  whole steps after the first one, up to the last one.
-/
theorem mem_toList
    (series : Progression)
    (hStep : 0 < series.step)
    (number : Nat) :
    number ∈ series.toList ↔
      number ≤ series.last ∧
        ∃ index,
          number = series.next + index * series.step := by
  unfold toList
  rw [mem_take]
  constructor
  · rintro ⟨index, _, hNumber, hAll⟩
    have hTerm := hAll index (Nat.le_refl _)
    exact ⟨by omega, index, hNumber⟩
  · rintro ⟨hLast, index, hNumber⟩
    have hIndex : index ≤ index * series.step :=
      Nat.le_mul_of_pos_right index hStep
    refine ⟨index, by omega, hNumber, ?_⟩
    intro other hOther
    have hTerm :
        other * series.step ≤ index * series.step :=
      Nat.mul_le_mul_right series.step hOther
    omega

end Progression

end CronSchedule
