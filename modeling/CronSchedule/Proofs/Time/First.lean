import CronSchedule.Proofs.Time.Order

/-
  The first instant after another one that has a property,
  and the ascending list of all of them before a bound.

  Key definitions include:
    * `Instant.IsFirst`
    * `Instant.Lists`

  Main declarations:
    * `Instant.IsFirst.unique`
    * `Instant.exists_isFirst`
    * `Instant.exists_lists`
-/

------------------------------------------------------------
-- The First Instant
------------------------------------------------------------

namespace CronSchedule

namespace Instant

/- The first instant after the origin with a property. -/
structure IsFirst
    (property : Instant → Prop)
    (origin first : Instant) : Prop where
  holds : property first
  after : origin < first
  least :
    ∀ other, property other → origin < other →
      ¬ other < first

variable {property : Instant → Prop}

theorem IsFirst.unique
    {origin left right : Instant}
    (hLeft : IsFirst property origin left)
    (hRight : IsFirst property origin right) :
    left = right :=
  eq_of_not_lt_of_not_lt
    (hRight.least left hLeft.holds hLeft.after)
    (hLeft.least right hRight.holds hRight.after)

/- Only finitely many instants lie between two others. -/
theorem exists_isFirst
    (origin later : Instant)
    (hHolds : property later)
    (hAfter : origin < later) :
    ∃ first, IsFirst property origin first := by
  induction hSize : (later.rank - origin.rank).toNat
      using Nat.strongRecOn generalizing later with
  | ind size ih =>
      by_cases hEarlier :
          ∃ other, property other ∧ origin < other ∧
            other < later
      · rcases hEarlier with
          ⟨other, hOther, hOtherAfter, hLess⟩
        refine ih _ ?_ other hOther hOtherAfter rfl
        rw [lt_iff_rank_lt] at hLess hOtherAfter
        omega
      · refine ⟨later, hHolds, hAfter, ?_⟩
        intro other hOther hOtherAfter hLess
        exact hEarlier ⟨other, hOther, hOtherAfter, hLess⟩

end Instant

end CronSchedule

------------------------------------------------------------
-- All Instants of an Interval
------------------------------------------------------------

namespace CronSchedule

namespace Instant

/-
  The instants strictly between two others that have a
  property, in ascending order.
-/
structure Lists
    (property : Instant → Prop)
    (origin bound : Instant)
    (all : List Instant) : Prop where
  ascending : all.Pairwise (· < ·)
  mem_iff :
    ∀ instant, instant ∈ all ↔
      property instant ∧ origin < instant ∧ instant < bound

variable {property : Instant → Prop}

theorem Lists.nil
    {origin bound : Instant}
    (hNone :
      ∀ instant, property instant → origin < instant →
        ¬ instant < bound) :
    Lists property origin bound [] := by
  refine ⟨List.Pairwise.nil, ?_⟩
  intro instant
  constructor
  · intro hMem
    cases hMem
  · rintro ⟨hHolds, hAfter, hBefore⟩
    exact absurd hBefore (hNone instant hHolds hAfter)

/- The first instant is followed by those after it. -/
theorem Lists.cons
    {origin bound first : Instant}
    {later : List Instant}
    (hFirst : IsFirst property origin first)
    (hBefore : first < bound)
    (hLater : Lists property first bound later) :
    Lists property origin bound (first :: later) := by
  refine ⟨List.pairwise_cons.mpr ⟨?_, hLater.ascending⟩, ?_⟩
  · intro instant hMem
    exact ((hLater.mem_iff instant).mp hMem).2.1
  · intro instant
    rw [List.mem_cons, hLater.mem_iff]
    constructor
    · rintro (rfl | ⟨hHolds, hAfter, hBound⟩)
      · exact ⟨hFirst.holds, hFirst.after, hBefore⟩
      · exact
          ⟨hHolds, lt_trans hFirst.after hAfter, hBound⟩
    · rintro ⟨hHolds, hAfter, hBound⟩
      by_cases hLess : first < instant
      · exact Or.inr ⟨hHolds, hLess, hBound⟩
      · exact
          Or.inl
            (eq_of_not_lt_of_not_lt
              (hFirst.least instant hHolds hAfter) hLess)

/- The first of the listed instants is the first at all. -/
theorem Lists.isFirst
    {origin bound first : Instant}
    {later : List Instant}
    (hAll : Lists property origin bound (first :: later)) :
    IsFirst property origin first ∧ first < bound := by
  have hFirst :=
    (hAll.mem_iff first).mp List.mem_cons_self
  refine ⟨⟨hFirst.1, hFirst.2.1, ?_⟩, hFirst.2.2⟩
  intro other hOther hAfter hLess
  have hMem :=
    (hAll.mem_iff other).mpr
      ⟨hOther, hAfter, lt_trans hLess hFirst.2.2⟩
  rcases List.mem_cons.mp hMem with rfl | hLater
  · exact lt_irrefl other hLess
  · have hGreater :=
      (List.pairwise_cons.mp hAll.ascending).1 other hLater
    exact lt_irrefl other (lt_trans hLess hGreater)

theorem Lists.tail
    {origin bound first : Instant}
    {later : List Instant}
    (hAll : Lists property origin bound (first :: later)) :
    Lists property first bound later := by
  have hFirst :=
    (hAll.mem_iff first).mp List.mem_cons_self
  have hOrder := List.pairwise_cons.mp hAll.ascending
  refine ⟨hOrder.2, ?_⟩
  intro instant
  constructor
  · intro hMem
    have hInstant :=
      (hAll.mem_iff instant).mp
        (List.mem_cons_of_mem first hMem)
    exact
      ⟨hInstant.1, hOrder.1 instant hMem, hInstant.2.2⟩
  · rintro ⟨hHolds, hAfter, hBound⟩
    have hMem :=
      (hAll.mem_iff instant).mpr
        ⟨hHolds, lt_trans hFirst.2.1 hAfter, hBound⟩
    rcases List.mem_cons.mp hMem with rfl | hLater
    · exact absurd hAfter (lt_irrefl instant)
    · exact hLater

/- Every interval has such a list. -/
theorem exists_lists
    (property : Instant → Prop)
    (origin bound : Instant) :
    ∃ all, Lists property origin bound all := by
  induction hSize : (bound.rank - origin.rank).toNat
      using Nat.strongRecOn generalizing origin with
  | ind size ih =>
      by_cases hSome :
          ∃ instant, property instant ∧ origin < instant ∧
            instant < bound
      · rcases hSome with
          ⟨instant, hHolds, hAfter, hBound⟩
        rcases exists_isFirst origin instant hHolds hAfter
          with ⟨first, hFirst⟩
        have hBefore : first < bound :=
          lt_of_not_lt_of_lt
            (hFirst.least instant hHolds hAfter) hBound
        have hLess := hFirst.after
        rw [lt_iff_rank_lt] at hLess hBefore
        rcases ih _ (by omega) first rfl with
          ⟨later, hLater⟩
        rw [← lt_iff_rank_lt] at hBefore
        exact
          ⟨first :: later, Lists.cons hFirst hBefore hLater⟩
      · refine ⟨[], Lists.nil ?_⟩
        intro instant hHolds hAfter hBound
        exact hSome ⟨instant, hHolds, hAfter, hBound⟩

end Instant

end CronSchedule
