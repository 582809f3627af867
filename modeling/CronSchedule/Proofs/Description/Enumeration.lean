import CronSchedule.Description.Phrase
import CronSchedule.Proofs.Text.Numeral

/-
  The items of a phrase are found again in its wording.

  An item is a run of characters of one kind, which ends
  before a space, a comma, or the end.  After a comma there
  is either another item or another phrase, which starts in
  another way.

  Key definitions include:
    * `Phrase.IsWording`
    * `Phrase.continuation`

  Main declarations:
    * `Text.run_append_inj`
    * `Phrase.enumerate_append_inj`
    * `Phrase.enumerate_append_inj_of_ends`
    * `Phrase.isWording_numberText`
    * `Phrase.isWording_nameOf`
-/

------------------------------------------------------------
-- Runs
------------------------------------------------------------

namespace CronSchedule

namespace Text

/- The text does not go on with a part of a run. -/
def Stops
    (isPart : Char → Bool)
    (text : List Char) : Prop :=
  ∀ first ∈ text.head?, isPart first = false

variable {isPart : Char → Bool}

theorem stops_nil :
    Stops isPart [] := by
  intro first hFirst
  cases hFirst

theorem stops_cons
    (first : Char)
    (rest : List Char)
    (hFirst : isPart first = false) :
    Stops isPart (first :: rest) := by
  intro other hOther
  cases hOther
  exact hFirst

theorem takeWhile_run
    (run rest : List Char)
    (hRun : ∀ c ∈ run, isPart c = true)
    (hRest : Stops isPart rest) :
    (run ++ rest).takeWhile isPart = run := by
  rw [List.takeWhile_append_of_pos hRun]
  cases rest with
  | nil => rw [List.takeWhile_nil, List.append_nil]
  | cons first rest =>
      have hFirst := hRest first rfl
      rw [List.takeWhile_cons_of_neg (by simp [hFirst]),
        List.append_nil]

/- A run is known from the text that starts with it. -/
theorem run_append_inj
    {left right rest others : List Char}
    (hLeft : ∀ c ∈ left, isPart c = true)
    (hRight : ∀ c ∈ right, isPart c = true)
    (hRest : Stops isPart rest)
    (hOthers : Stops isPart others)
    (hSame : left ++ rest = right ++ others) :
    left = right ∧ rest = others := by
  have hRun := takeWhile_run left rest hLeft hRest
  rw [hSame, takeWhile_run right others hRight hOthers]
    at hRun
  rw [← hRun] at hSame
  exact ⟨hRun.symm, List.append_cancel_left hSame⟩

end Text

end CronSchedule

------------------------------------------------------------
-- Items
------------------------------------------------------------

namespace CronSchedule

namespace Phrase

open Text

/-
  Some numbers have words of their own, whose characters are
  of one kind and neither spaces nor commas.  The first one
  is of a narrower kind.
-/
structure IsWording
    (isFirst isPart : Char → Bool)
    (allowed : Nat → Prop)
    (wording : Nat → String) : Prop where
  space : isPart ' ' = false
  comma : isPart ',' = false
  first :
    ∀ number, allowed number →
      ∃ c rest, (wording number).toList = c :: rest ∧
        isFirst c = true
  parts :
    ∀ number, allowed number →
      ∀ c ∈ (wording number).toList, isPart c = true
  injective :
    ∀ left right, allowed left → allowed right →
      wording left = wording right → left = right

section

variable {isFirst isPart : Char → Bool}
variable {allowed : Nat → Prop}
variable {wording : Nat → String}
variable (hWording :
  IsWording isFirst isPart allowed wording)

include hWording

/- A number is known from the text that starts with it. -/
theorem IsWording.append_inj
    {left right : Nat}
    {rest others : List Char}
    (hLeft : allowed left)
    (hRight : allowed right)
    (hRest : Stops isPart rest)
    (hOthers : Stops isPart others)
    (hSame :
      (wording left).toList ++ rest =
        (wording right).toList ++ others) :
    left = right ∧ rest = others := by
  have hRun :=
    run_append_inj (hWording.parts left hLeft)
      (hWording.parts right hRight) hRest hOthers hSame
  refine ⟨?_, hRun.2⟩
  exact
    hWording.injective left right hLeft hRight
      (String.toList_inj.mp hRun.1)

end

end Phrase

end CronSchedule

------------------------------------------------------------
-- Enumerations
------------------------------------------------------------

namespace CronSchedule

namespace Phrase

open Text

/- What follows the first item of an enumeration. -/
def continuation
    (wording : Nat → String) : List Nat → List Char
| [] => []
| [last] => " and ".toList ++ (wording last).toList
| next :: later =>
    ", ".toList ++
      ((wording next).toList ++ continuation wording later)

@[simp]
theorem continuation_last
    (wording : Nat → String)
    (last : Nat) :
    continuation wording [last] =
      " and ".toList ++ (wording last).toList :=
  rfl

@[simp]
theorem continuation_next
    (wording : Nat → String)
    (next second : Nat)
    (later : List Nat) :
    continuation wording (next :: second :: later) =
      ", ".toList ++
        ((wording next).toList ++
          continuation wording (second :: later)) :=
  rfl

theorem toList_enumerate
    (wording : Nat → String)
    (first : Nat)
    (later : List Nat) :
    (enumerate ((first :: later).map wording)).toList =
      (wording first).toList ++
        continuation wording later := by
  induction later generalizing first with
  | nil => exact (List.append_nil _).symm
  | cons second later ih =>
      cases later with
      | nil =>
          change
            (wording first ++ " and " ++
                wording second).toList =
              (wording first).toList ++
                (" and ".toList ++ (wording second).toList)
          rw [String.toList_append, String.toList_append,
            List.append_assoc]
      | cons third later =>
          change
            (wording first ++ ", " ++
                enumerate
                  ((second :: third :: later).map
                    wording)).toList =
              (wording first).toList ++
                (", ".toList ++
                  ((wording second).toList ++
                    continuation wording (third :: later)))
          rw [String.toList_append, String.toList_append,
            ih, List.append_assoc]

section

variable {isFirst isPart : Char → Bool}
variable {allowed : Nat → Prop}
variable {wording : Nat → String}
variable (hWording :
  IsWording isFirst isPart allowed wording)

include hWording

theorem stops_continuation
    (later : List Nat)
    (rest : List Char)
    (hRest : Stops isPart rest) :
    Stops isPart (continuation wording later ++ rest) := by
  cases later with
  | nil => exact hRest
  | cons next later =>
      cases later with
      | nil => exact stops_cons ' ' _ hWording.space
      | cons second later =>
          exact stops_cons ',' _ hWording.comma

/- If there are more items, they are all found. -/
theorem continuation_append_inj
    (left right : List Nat)
    (rest others : List Char)
    (hLeft : ∀ number ∈ left, allowed number)
    (hRight : ∀ number ∈ right, allowed number)
    (hMore : left ≠ [] ∧ right ≠ [])
    (hRest : Stops isPart rest)
    (hOthers : Stops isPart others)
    (hSame :
      continuation wording left ++ rest =
        continuation wording right ++ others) :
    left = right ∧ rest = others := by
  -- Both sides are at their last item, which follows `and`,
  -- or both are not: a comma is no space.
  induction left generalizing right with
  | nil => exact absurd rfl hMore.1
  | cons next later ih =>
      cases right with
      | nil => exact absurd rfl hMore.2
      | cons other more =>
          have hNext := hLeft next List.mem_cons_self
          have hOther := hRight other List.mem_cons_self
          cases later with
          | nil =>
              cases more with
              | nil =>
                  have hItem :=
                    hWording.append_inj hNext hOther hRest
                      hOthers
                      (by simpa using hSame)
                  rw [hItem.1]
                  exact ⟨rfl, hItem.2⟩
              | cons second more =>
                  simp at hSame
          | cons third later =>
              cases more with
              | nil => simp at hSame
              | cons second more =>
                  have hItem :=
                    hWording.append_inj hNext hOther
                      (stops_continuation hWording
                        (third :: later) rest hRest)
                      (stops_continuation hWording
                        (second :: more) others hOthers)
                      (by simpa using hSame)
                  have hLater :=
                    ih (second :: more)
                      (List.forall_mem_cons.mp hLeft).2
                      (List.forall_mem_cons.mp hRight).2
                      ⟨List.cons_ne_nil _ _,
                        List.cons_ne_nil _ _⟩
                      hItem.2
                  rw [hItem.1, hLater.1]
                  exact ⟨rfl, hLater.2⟩

/- The first item is found, and what follows it is left. -/
theorem enumerate_cons_append_inj
    (first other : Nat)
    (later more : List Nat)
    (rest others : List Char)
    (hFirst : allowed first)
    (hOther : allowed other)
    (hRest : Stops isPart rest)
    (hOthers : Stops isPart others)
    (hSame :
      (enumerate ((first :: later).map wording)).toList ++
          rest =
        (enumerate ((other :: more).map wording)).toList ++
          others) :
    first = other ∧
      continuation wording later ++ rest =
        continuation wording more ++ others := by
  rw [toList_enumerate, toList_enumerate,
    List.append_assoc, List.append_assoc] at hSame
  exact
    hWording.append_inj hFirst hOther
      (stops_continuation hWording later rest hRest)
      (stops_continuation hWording more others hOthers)
      hSame

/- A set starts as its first item does. -/
theorem exists_enumerateSet_cons
    (values : ValueSet)
    (hValues :
      values.toList ≠ [] ∧ ∀ n ∈ values, allowed n) :
    ∃ c rest, (enumerateSet wording values).toList =
        c :: rest ∧
      isFirst c = true := by
  rcases List.exists_cons_of_ne_nil hValues.1 with
    ⟨first, later, hList⟩
  have hFirst : first ∈ values := by
    change first ∈ values.toList
    rw [hList]
    exact List.mem_cons_self
  rcases hWording.first first (hValues.2 first hFirst) with
    ⟨c, word, hWord, hKind⟩
  refine ⟨c, word ++ continuation wording later, ?_, hKind⟩
  unfold enumerateSet
  rw [hList, toList_enumerate, hWord, List.cons_append]

/-
  The items are known from the text that starts with them,
  if it is known whether there is more than one.
-/
theorem enumerate_append_inj
    (left right : List Nat)
    (rest others : List Char)
    (hLeft : left ≠ [] ∧ ∀ n ∈ left, allowed n)
    (hRight : right ≠ [] ∧ ∀ n ∈ right, allowed n)
    (hLength : 1 < left.length ↔ 1 < right.length)
    (hRest : Stops isPart rest)
    (hOthers : Stops isPart others)
    (hSame :
      (enumerate (left.map wording)).toList ++ rest =
        (enumerate (right.map wording)).toList ++ others) :
    left = right ∧ rest = others := by
  rcases List.exists_cons_of_ne_nil hLeft.1 with
    ⟨first, later, rfl⟩
  rcases List.exists_cons_of_ne_nil hRight.1 with
    ⟨other, more, rfl⟩
  have hLeftItems := List.forall_mem_cons.mp hLeft.2
  have hRightItems := List.forall_mem_cons.mp hRight.2
  have hFirst :=
    enumerate_cons_append_inj hWording first other later
      more rest others hLeftItems.1 hRightItems.1 hRest
      hOthers hSame
  rw [List.length_cons, List.length_cons] at hLength
  cases later with
  | nil =>
      cases more with
      | nil =>
          rw [hFirst.1]
          exact ⟨rfl, hFirst.2⟩
      | cons second more => simp at hLength
  | cons third later =>
      cases more with
      | nil => simp at hLength
      | cons second more =>
          have hLater :=
            continuation_append_inj hWording _ _ rest others
              hLeftItems.2 hRightItems.2
              ⟨List.cons_ne_nil _ _, List.cons_ne_nil _ _⟩
              hRest hOthers hFirst.2
          rw [hFirst.1, hLater.1]
          exact ⟨rfl, hLater.2⟩

end

end Phrase

end CronSchedule

------------------------------------------------------------
-- Ends of Enumerations
------------------------------------------------------------

namespace CronSchedule

namespace Phrase

open Text

/-
  The text does not go on with another item.  It ends, or
  has something else after a comma.
-/
def Ends
    (isFirst : Char → Bool)
    (text : List Char) : Prop :=
  text = [] ∨
    ∃ next rest, text = ',' :: ' ' :: next :: rest ∧
      isFirst next = false

variable {isFirst isPart : Char → Bool}
variable {allowed : Nat → Prop}
variable {wording : Nat → String}
variable (hWording :
  IsWording isFirst isPart allowed wording)

include hWording

theorem stops_of_ends
    (text : List Char)
    (hEnds : Ends isFirst text) :
    Stops isPart text := by
  rcases hEnds with rfl | ⟨next, rest, rfl, _⟩
  · exact stops_nil
  · exact stops_cons ',' _ hWording.comma

theorem continuation_ne_of_ends
    (next : Nat)
    (later : List Nat)
    (rest others : List Char)
    (hNext : allowed next)
    (hEnds : Ends isFirst rest) :
    continuation wording (next :: later) ++ others ≠
      rest := by
  intro hSame
  rcases hEnds with rfl | ⟨other, more, rfl, hOther⟩
  · cases later <;> simp at hSame
  · cases later with
    | nil => simp at hSame
    | cons second later =>
        rcases hWording.first next hNext with
          ⟨c, word, hWord, hFirst⟩
        have hSameStart : c = other := by
          have hThird := congrArg (·[2]?) hSame
          simpa [hWord] using hThird
        rw [← hSameStart, hFirst] at hOther
        cases hOther

/- The items are known from the text up to such an end. -/
theorem enumerate_append_inj_of_ends
    (left right : List Nat)
    (rest others : List Char)
    (hLeft : left ≠ [] ∧ ∀ n ∈ left, allowed n)
    (hRight : right ≠ [] ∧ ∀ n ∈ right, allowed n)
    (hRest : Ends isFirst rest)
    (hOthers : Ends isFirst others)
    (hSame :
      (enumerate (left.map wording)).toList ++ rest =
        (enumerate (right.map wording)).toList ++ others) :
    left = right ∧ rest = others := by
  have hRestStops := stops_of_ends hWording rest hRest
  have hOthersStops := stops_of_ends hWording others hOthers
  apply
    enumerate_append_inj hWording left right rest others
      hLeft hRight _ hRestStops hOthersStops hSame
  rcases List.exists_cons_of_ne_nil hLeft.1 with
    ⟨first, later, rfl⟩
  rcases List.exists_cons_of_ne_nil hRight.1 with
    ⟨other, more, rfl⟩
  have hLeftItems := List.forall_mem_cons.mp hLeft.2
  have hRightItems := List.forall_mem_cons.mp hRight.2
  have hLater :=
    (enumerate_cons_append_inj hWording first other later
      more rest others hLeftItems.1 hRightItems.1
      hRestStops hOthersStops hSame).2
  cases later with
  | nil =>
      cases more with
      | nil => exact Iff.rfl
      | cons second more =>
          exact
            absurd hLater.symm
              (continuation_ne_of_ends hWording second more
                rest others
                (List.forall_mem_cons.mp hRightItems.2).1
                hRest)
  | cons third later =>
      cases more with
      | nil =>
          exact
            absurd hLater
              (continuation_ne_of_ends hWording third later
                others rest
                (List.forall_mem_cons.mp hLeftItems.2).1
                hOthers)
      | cons second more => simp

end Phrase

end CronSchedule

------------------------------------------------------------
-- Numbers and Names
------------------------------------------------------------

namespace CronSchedule

namespace Phrase

@[simp]
theorem toList_numberText
    (number : Nat) :
    (numberText number).toList = Numeral.digits number :=
  String.toList_ofList

/- All numbers have their digits. -/
theorem isWording_numberText :
    IsWording Char.isDigit Char.isDigit (fun _ => True)
      numberText where
  space := rfl
  comma := rfl
  first number _ := by
    rcases List.exists_cons_of_ne_nil
      (Numeral.digits_ne_nil number) with
      ⟨c, rest, hDigits⟩
    refine ⟨c, rest, ?_, ?_⟩
    · rw [toList_numberText, hDigits]
    · apply Numeral.isDigit_of_mem_digits number
      rw [hDigits]
      exact List.mem_cons_self
  parts number _ := by
    rw [toList_numberText]
    exact Numeral.isDigit_of_mem_digits number
  injective left right _ _ hSame := by
    have hDigits := String.ofList_inj.mp hSame
    rw [← Numeral.value_digits left, hDigits,
      Numeral.value_digits]

/- So they have if short ones are filled up with zeros. -/
theorem isWording_padded
    (width : Nat) :
    IsWording Char.isDigit Char.isDigit (fun _ => True)
      (Numeral.padded width) where
  space := rfl
  comma := rfl
  first number _ := by
    have hDigits :=
      Numeral.isDigit_of_mem_padded width number
    cases hWord : (Numeral.padded width number).toList with
    | nil =>
        have hNotEmpty := Numeral.digits_ne_nil number
        rw [Numeral.toList_padded] at hWord
        exact
          absurd (List.append_eq_nil_iff.mp hWord).2
            hNotEmpty
    | cons c rest =>
        rw [hWord] at hDigits
        exact
          ⟨c, rest, rfl, hDigits c List.mem_cons_self⟩
  parts number _ :=
    Numeral.isDigit_of_mem_padded width number
  injective left right _ _ hSame := by
    rw [← Numeral.value_padded width left, hSame,
      Numeral.value_padded]

/- The numbers that a list has names for. -/
def IsNamed
    (names : List String)
    (number : Nat) : Prop :=
  1 ≤ number ∧ number ≤ names.length

theorem exists_nameOf
    (names : List String)
    (number : Nat)
    (hNamed : IsNamed names number) :
    ∃ index, ∃ hIndex : index < names.length,
      number = index + 1 ∧
        nameOf names number = names[index] := by
  cases number with
  | zero => cases hNamed.1
  | succ index =>
      refine ⟨index, hNamed.2, rfl, ?_⟩
      unfold nameOf
      simp only [List.getD_eq_getElem?_getD,
        List.getElem?_eq_getElem hNamed.2,
        Option.getD_some]

/- So do those that a list has different names for. -/
theorem isWording_nameOf
    (isFirst : Char → Bool)
    (names : List String)
    (hFirst :
      ∀ name ∈ names, ∃ c rest,
        name.toList = c :: rest ∧ isFirst c = true)
    (hParts :
      ∀ name ∈ names, ∀ c ∈ name.toList, c.isAlpha = true)
    (hNames : names.Nodup) :
    IsWording isFirst Char.isAlpha (IsNamed names)
      (nameOf names) where
  space := rfl
  comma := rfl
  first number hNumber := by
    rcases exists_nameOf names number hNumber with
      ⟨index, hIndex, _, hName⟩
    rw [hName]
    exact hFirst _ (List.getElem_mem hIndex)
  parts number hNumber := by
    rcases exists_nameOf names number hNumber with
      ⟨index, hIndex, _, hName⟩
    rw [hName]
    exact hParts _ (List.getElem_mem hIndex)
  injective left right hLeft hRight hSame := by
    rcases exists_nameOf names left hLeft with
      ⟨index, hIndex, rfl, hName⟩
    rcases exists_nameOf names right hRight with
      ⟨other, hOther, rfl, hOtherName⟩
    rw [hName, hOtherName] at hSame
    rw [(List.getElem_inj hNames).mp hSame]

/- Weekdays and months have capital letters. -/
theorem isWording_weekdays :
    IsWording Char.isUpper Char.isAlpha
      (IsNamed weekdayNames) (nameOf weekdayNames) := by
  apply isWording_nameOf
  · simp [weekdayNames]
  · simp [weekdayNames]
  · decide

theorem isWording_months :
    IsWording Char.isUpper Char.isAlpha
      (IsNamed monthNames) (nameOf monthNames) := by
  apply isWording_nameOf
  · simp [monthNames]
  · simp [monthNames]
  · decide

/- No ordinal starts as `last` or `weekday` do. -/
theorem isWording_ordinals :
    IsWording (fun c => c != 'l' && c != 'w') Char.isAlpha
      (IsNamed ordinals) (nameOf ordinals) := by
  apply isWording_nameOf
  · simp [ordinals]
  · simp [ordinals]
  · decide

end Phrase

end CronSchedule
