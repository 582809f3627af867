/-
  Finite sets of numbers, held as ascending lists.

  Key definitions include:
    * `ValueSet`
    * `ValueSet.insert`
    * `ValueSet.ofList`
    * `ValueSet.interval`
    * `ValueSet.firstFrom?`
-/

------------------------------------------------------------
-- Ascending Lists
------------------------------------------------------------

namespace CronSchedule

/- A finite set of numbers as its ascending list. -/
structure ValueSet where
  toList : List Nat
  ascending : toList.Pairwise (· < ·)
deriving DecidableEq

namespace ValueSet

instance : Membership Nat ValueSet :=
  ⟨fun values number => number ∈ values.toList⟩

instance
    (number : Nat)
    (values : ValueSet) :
    Decidable (number ∈ values) :=
  inferInstanceAs (Decidable (number ∈ values.toList))

/- Put a number at its place in an ascending list. -/
def insertAscending
    (number : Nat) : List Nat → List Nat
| [] => [number]
| first :: rest =>
    if number < first then
      number :: first :: rest
    else if number = first then
      first :: rest
    else
      first :: insertAscending number rest

theorem mem_insertAscending
    (number : Nat)
    (numbers : List Nat)
    (other : Nat) :
    other ∈ insertAscending number numbers ↔
      other = number ∨ other ∈ numbers := by
  induction numbers with
  | nil =>
      simp [insertAscending]
  | cons first rest ih =>
      unfold insertAscending
      split
      · simp
      · split
        · rename_i hEq
          simp [hEq]
        · simp only [List.mem_cons, ih]
          exact or_left_comm

theorem pairwise_insertAscending
    (number : Nat)
    (numbers : List Nat)
    (hNumbers : numbers.Pairwise (· < ·)) :
    (insertAscending number numbers).Pairwise (· < ·) := by
  induction numbers with
  | nil =>
      simp [insertAscending]
  | cons first rest ih =>
      have hParts := List.pairwise_cons.mp hNumbers
      unfold insertAscending
      split
      · rename_i hLess
        refine List.pairwise_cons.mpr ⟨?_, hNumbers⟩
        intro other hOther
        rcases List.mem_cons.mp hOther with rfl | hRest
        · exact hLess
        · exact Nat.lt_trans hLess (hParts.1 other hRest)
      · split
        · exact hNumbers
        · refine List.pairwise_cons.mpr
            ⟨?_, ih hParts.2⟩
          intro other hOther
          rcases (mem_insertAscending
            number rest other).mp hOther with rfl | hRest
          · omega
          · exact hParts.1 other hRest

end ValueSet

end CronSchedule

------------------------------------------------------------
-- Building Sets
------------------------------------------------------------

namespace CronSchedule

namespace ValueSet

/- The set without elements. -/
def empty : ValueSet :=
  ⟨[], List.Pairwise.nil⟩

/- The set with one more element. -/
def insert
    (number : Nat)
    (values : ValueSet) : ValueSet :=
  ⟨insertAscending number values.toList,
    pairwise_insertAscending
      number values.toList values.ascending⟩

theorem mem_insert
    (number other : Nat)
    (values : ValueSet) :
    other ∈ values.insert number ↔
      other = number ∨ other ∈ values :=
  mem_insertAscending number values.toList other

/- The set of the numbers of a list. -/
def ofList
    (numbers : List Nat) : ValueSet :=
  numbers.foldr insert empty

theorem mem_ofList
    (numbers : List Nat)
    (number : Nat) :
    number ∈ ofList numbers ↔ number ∈ numbers := by
  induction numbers with
  | nil =>
      simp [ofList, empty, Membership.mem]
  | cons first rest ih =>
      have hInsert :=
        mem_insert first number (ofList rest)
      rw [ih] at hInsert
      exact hInsert.trans List.mem_cons.symm

/- The set of the numbers between two bounds. -/
def interval
    (first last : Nat) : ValueSet :=
  ⟨List.range' first (last + 1 - first),
    List.pairwise_lt_range'⟩

theorem mem_interval
    (first last number : Nat) :
    number ∈ interval first last ↔
      first ≤ number ∧ number ≤ last := by
  have hRange :
      number ∈ interval first last ↔
        number ∈
          List.range' first (last + 1 - first) :=
    Iff.rfl
  rw [hRange, List.mem_range'_1]
  omega

end ValueSet

end CronSchedule

------------------------------------------------------------
-- Queries
------------------------------------------------------------

namespace CronSchedule

namespace ValueSet

/- The number of elements. -/
def size
    (values : ValueSet) : Nat :=
  values.toList.length

/- The least element that is not below a bound. -/
def firstFrom?
    (values : ValueSet)
    (bound : Nat) : Option Nat :=
  values.toList.find? fun number => bound ≤ number

/- The only element of a set of size one. -/
def only?
    (values : ValueSet) : Option Nat :=
  match values.toList with
  | [number] => some number
  | _ => none

end ValueSet

end CronSchedule
