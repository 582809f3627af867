import CronSchedule.Proofs.Field.WellFormed
import CronSchedule.Proofs.Outcome
import CronSchedule.Proofs.Text.Numeral
import Mathlib.Data.List.Forall2
import Mathlib.Data.List.Sort

/-
  The grammar of numeric fields.  A text is read as a
  selection exactly if it spells the selection in one of
  five forms and the selection is within bounds.

  Key definitions include:
    * `Field.Selection.Spells`
    * `Field.Selection.Selects`
    * `Field.Kind.Gives`

  Main declarations:
    * `Field.Selection.read_eq_ok_iff`
    * `Field.Selection.mem_values_iff`
    * `Field.readSelection_eq_ok_iff`
-/

------------------------------------------------------------
-- The Forms
------------------------------------------------------------

namespace CronSchedule

namespace Field

namespace Selection

/-
  The text spells the selection.  All numbers are runs of
  one to four digits.
-/
inductive Spells
    (kind : Kind) : List Char → Selection → Prop where
/- `3,1,59`: one number or more, with commas between. -/
| list
    (items : List (List Char))
    (numbers : List Nat)
    (hNotEmpty : items ≠ [])
    (hItems : items.Forall₂ Numeral.IsOperand numbers) :
    Spells kind ([','].intercalate items) (.list numbers)
/- `2-5` -/
| range
    (first last : List Char)
    (a b : Nat)
    (hFirst : Numeral.IsOperand first a)
    (hLast : Numeral.IsOperand last b) :
    Spells kind (first ++ '-' :: last) (.range a b)
/- `15/30`, which goes on to the greatest value. -/
| openStep
    (start step : List Char)
    (a n : Nat)
    (hStart : Numeral.IsOperand start a)
    (hStep : Numeral.IsOperand step n) :
    Spells kind (start ++ '/' :: step)
      (.stepped a kind.greatest n)
/- `*/10`, which starts at the least value. -/
| fullStep
    (step : List Char)
    (n : Nat)
    (hStep : Numeral.IsOperand step n) :
    Spells kind ('*' :: '/' :: step)
      (.stepped kind.least kind.greatest n)
/- `0-30/5` -/
| rangeStep
    (first last step : List Char)
    (a b n : Nat)
    (hFirst : Numeral.IsOperand first a)
    (hLast : Numeral.IsOperand last b)
    (hStep : Numeral.IsOperand step n) :
    Spells kind (first ++ '-' :: last ++ '/' :: step)
      (.stepped a b n)

end Selection

end Field

end CronSchedule

------------------------------------------------------------
-- Reading the Forms
------------------------------------------------------------

namespace CronSchedule

namespace Field

namespace Selection

theorem mapM_short?_eq_some_iff
    (items : List (List Char))
    (numbers : List Nat) :
    items.mapM Numeral.short? = some numbers ↔
      items.Forall₂ Numeral.IsOperand numbers := by
  induction items generalizing numbers with
  | nil =>
      rw [List.mapM_nil, List.forall₂_nil_left_iff]
      exact Option.some_inj.trans eq_comm
  | cons item items ih =>
      rw [List.mapM_cons, List.forall₂_cons_left_iff]
      simp only [Option.bind_eq_bind,
        Option.bind_eq_some_iff, Numeral.short?_eq_some_iff,
        ih]
      constructor
      · rintro ⟨first, hFirst, rest, hRest, hNumbers⟩
        cases hNumbers
        exact ⟨first, rest, hFirst, hRest, rfl⟩
      · rintro ⟨first, rest, hFirst, hRest, rfl⟩
        exact ⟨first, hFirst, rest, hRest, rfl⟩

variable (kind : Kind)

/- The numbers of a list are those of its items. -/
theorem exists_zip_of_forall₂
    (items : List (List Char))
    (numbers : List Nat)
    (hItems : items.Forall₂ Numeral.IsOperand numbers)
    (number : Nat)
    (hNumber : number ∈ numbers) :
    ∃ item, (item, number) ∈ items.zip numbers := by
  have hNumbers :
      (items.zip numbers).map Prod.snd = numbers :=
    List.map_snd_zip hItems.length_eq.ge
  rw [← hNumbers] at hNumber
  rcases List.mem_map.mp hNumber with
    ⟨⟨item, _⟩, hEntry, rfl⟩
  exact ⟨item, hEntry⟩

theorem spells_of_readList
    (text : List Char)
    (selection : Selection)
    (hRead : readList kind text = .ok selection) :
    Spells kind text selection ∧ selection.Fits kind := by
  unfold readList at hRead
  dsimp only at hRead
  split at hRead
  · cases hRead
  · rename_i numbers hNumbers
    rw [mapM_short?_eq_some_iff] at hNumbers
    have hNotEmpty := List.splitOn_ne_nil ',' text
    split at hRead
    · cases hRead
    · rename_i hInside
      cases hRead
      have hSpells :
          Spells kind ([','].intercalate (text.splitOn ','))
            (.list numbers) :=
        .list (text.splitOn ',') numbers hNotEmpty hNumbers
      rw [List.intercalate_splitOn] at hSpells
      refine ⟨hSpells, ?_, ?_⟩
      · rintro rfl
        exact
          hNotEmpty (List.forall₂_nil_right_iff.mp hNumbers)
      · intro number hNumber
        rcases exists_zip_of_forall₂ _ numbers hNumbers
          number hNumber with ⟨item, hEntry⟩
        rw [List.find?_eq_none] at hInside
        simpa using hInside (item, number) hEntry

theorem spells_of_readRange
    (text first last : List Char)
    (selection : Selection)
    (hRead :
      readRange kind text first last = .ok selection) :
    Spells kind (first ++ '-' :: last) selection ∧
      selection.Fits kind := by
  unfold readRange at hRead
  split at hRead
  · rename_i a b hFirst hLast
    rw [Numeral.short?_eq_some_iff] at hFirst hLast
    split at hRead
    · rename_i hBounds
      cases hRead
      exact ⟨.range first last a b hFirst hLast, hBounds⟩
    · cases hRead
  · cases hRead

theorem spells_of_readSteppedRange
    (text first last step : List Char)
    (selection : Selection)
    (hRead :
      readSteppedRange kind text first last step =
        .ok selection) :
    Spells kind (first ++ '-' :: last ++ '/' :: step)
        selection ∧
      selection.Fits kind := by
  unfold readSteppedRange at hRead
  split at hRead
  · rename_i a b n hFirst hLast hStep
    rw [Numeral.short?_eq_some_iff] at hFirst hLast hStep
    split at hRead
    · rename_i hBounds
      cases hRead
      exact
        ⟨.rangeStep first last step a b n hFirst hLast
          hStep, hBounds⟩
    · cases hRead
  · cases hRead

theorem spells_of_readOpenStep
    (text start step : List Char)
    (selection : Selection)
    (hRead :
      readOpenStep kind text start step = .ok selection) :
    Spells kind (start ++ '/' :: step) selection ∧
      selection.Fits kind := by
  unfold readOpenStep at hRead
  split at hRead
  · rename_i a n hStart hStep
    rw [Numeral.short?_eq_some_iff] at hStep
    split at hRead
    · cases hRead
    · rename_i hStepBounds
      split at hRead
      · cases hRead
      · rename_i hStartBounds
        cases hRead
        rw [Classical.not_not] at hStepBounds hStartBounds
        refine
          ⟨?_, hStartBounds, allows_greatest kind,
            hStartBounds.2, hStepBounds⟩
        unfold stepStart? at hStart
        split at hStart
        · rename_i hAll
          cases hStart
          cases hAll
          exact .fullStep step n hStep
        · rw [Numeral.short?_eq_some_iff] at hStart
          exact .openStep start step a n hStart hStep
  · cases hRead

/-
  What is read was spelled in one of the forms, within the
  bounds.
-/
theorem spells_of_read
    (text : List Char)
    (selection : Selection)
    (hRead : read kind text = .ok selection) :
    Spells kind text selection ∧ selection.Fits kind := by
  unfold read at hRead
  split at hRead
  · rename_i base step hSlash
    rw [Text.splitFirst?_eq_some_iff] at hSlash
    rw [hSlash.1]
    split at hRead
    · rename_i first last hDash
      rw [Text.splitFirst?_eq_some_iff] at hDash
      rw [hDash.1]
      exact
        spells_of_readSteppedRange kind text first last step
          selection hRead
    · exact
        spells_of_readOpenStep kind text base step selection
          hRead
  · split at hRead
    · rename_i first last hDash
      rw [Text.splitFirst?_eq_some_iff] at hDash
      rw [hDash.1]
      exact
        spells_of_readRange kind text first last selection
          hRead
    · exact spells_of_readList kind text selection hRead

end Selection

end Field

end CronSchedule

------------------------------------------------------------
-- Spelled Texts Are Read
------------------------------------------------------------

namespace CronSchedule

namespace Field

/- Between commas there are the characters of the items. -/
theorem mem_of_mem_intercalate
    (items : List (List Char))
    (c : Char)
    (hChar : c ∈ [','].intercalate items) :
    c = ',' ∨ ∃ item ∈ items, c ∈ item := by
  induction items with
  | nil =>
      cases hChar
  | cons first rest ih =>
      cases rest with
      | nil =>
          rw [List.intercalate_singleton] at hChar
          exact Or.inr ⟨first, List.mem_cons_self, hChar⟩
      | cons second later =>
          rw [List.intercalate_cons_cons, List.append_assoc,
            List.mem_append, List.singleton_append,
            List.mem_cons] at hChar
          rcases hChar with hFirst | hComma | hRest
          · exact
              Or.inr ⟨first, List.mem_cons_self, hFirst⟩
          · exact Or.inl hComma
          · rcases ih hRest with hComma | ⟨item, hItem, hIn⟩
            · exact Or.inl hComma
            · exact
                Or.inr
                  ⟨item, List.mem_cons_of_mem first hItem,
                    hIn⟩

namespace Selection

variable (kind : Kind)

/- Operands lack every character that is no digit. -/
theorem not_mem_operands
    (items : List (List Char))
    (numbers : List Nat)
    (hItems : items.Forall₂ Numeral.IsOperand numbers)
    (c : Char)
    (hOther : c.isDigit = false) :
    ∀ item ∈ items, c ∉ item := by
  induction hItems with
  | nil =>
      intro item hItem
      cases hItem
  | cons hFirst _ ih =>
      rw [List.forall_mem_cons]
      exact ⟨hFirst.not_mem c hOther, ih⟩

theorem readList_of_operands
    (items : List (List Char))
    (numbers : List Nat)
    (hNotEmpty : items ≠ [])
    (hItems : items.Forall₂ Numeral.IsOperand numbers)
    (hFits : (list numbers).Fits kind) :
    readList kind ([','].intercalate items) =
      .ok (.list numbers) := by
  unfold readList
  dsimp only
  rw [List.splitOn_intercalate ','
      (not_mem_operands items numbers hItems ',' rfl)
      hNotEmpty,
    (mapM_short?_eq_some_iff items numbers).mpr hItems]
  dsimp only
  split
  · rename_i item number hOutside
    have hMem := List.mem_of_find?_eq_some hOutside
    have hReject := List.find?_some hOutside
    have hAllows :=
      hFits.2 number (List.of_mem_zip hMem).2
    simp [hAllows] at hReject
  · rfl

/- Without a slash and a dash a text is read as a list. -/
theorem read_eq_readList
    (text : List Char)
    (hSlash : '/' ∉ text)
    (hDash : '-' ∉ text) :
    read kind text = readList kind text := by
  unfold read
  rw [(Text.splitFirst?_eq_none_iff '/' text).mpr hSlash,
    (Text.splitFirst?_eq_none_iff '-' text).mpr hDash]

theorem read_eq_readRange
    (first last : List Char)
    (hSlash : '/' ∉ first ++ '-' :: last)
    (hDash : '-' ∉ first) :
    read kind (first ++ '-' :: last) =
      readRange kind (first ++ '-' :: last) first last := by
  unfold read
  rw [(Text.splitFirst?_eq_none_iff '/' _).mpr hSlash,
    (Text.splitFirst?_eq_some_iff '-' _ first last).mpr
      ⟨rfl, hDash⟩]

theorem read_eq_readOpenStep
    (start step : List Char)
    (hSlash : '/' ∉ start)
    (hDash : '-' ∉ start) :
    read kind (start ++ '/' :: step) =
      readOpenStep kind (start ++ '/' :: step) start
        step := by
  unfold read
  rw [(Text.splitFirst?_eq_some_iff '/' _ start step).mpr
    ⟨rfl, hSlash⟩]
  dsimp only
  rw [(Text.splitFirst?_eq_none_iff '-' start).mpr hDash]

theorem read_eq_readSteppedRange
    (first last step : List Char)
    (hSlash : '/' ∉ first ++ '-' :: last)
    (hDash : '-' ∉ first) :
    read kind (first ++ '-' :: last ++ '/' :: step) =
      readSteppedRange kind
        (first ++ '-' :: last ++ '/' :: step) first last
        step := by
  unfold read
  rw [(Text.splitFirst?_eq_some_iff '/' _ _ step).mpr
    ⟨rfl, hSlash⟩]
  dsimp only
  rw [(Text.splitFirst?_eq_some_iff '-' _ first last).mpr
    ⟨rfl, hDash⟩]

/- A spelled selection is read if it is within bounds. -/
theorem read_of_spells
    (text : List Char)
    (selection : Selection)
    (hSpells : Spells kind text selection)
    (hFits : selection.Fits kind) :
    read kind text = .ok selection := by
  cases hSpells with
  | list items numbers hNotEmpty hItems =>
      have hOther (c : Char)
          (hDigit : c.isDigit = false)
          (hComma : c ≠ ',') :
          c ∉ [','].intercalate items := by
        intro hChar
        rcases mem_of_mem_intercalate items c hChar with
          hEq | ⟨item, hItem, hIn⟩
        · exact hComma hEq
        · exact
            not_mem_operands items numbers hItems c hDigit
              item hItem hIn
      rw [read_eq_readList kind _
        (hOther '/' rfl (by decide))
        (hOther '-' rfl (by decide))]
      exact
        readList_of_operands kind items numbers hNotEmpty
          hItems hFits
  | range first last a b hFirst hLast =>
      rw [read_eq_readRange kind first last
        (by simp [hFirst.not_mem '/' rfl,
          hLast.not_mem '/' rfl])
        (hFirst.not_mem '-' rfl)]
      unfold readRange
      rw [(Numeral.short?_eq_some_iff first a).mpr hFirst,
        (Numeral.short?_eq_some_iff last b).mpr hLast]
      exact if_pos hFits
  | openStep start step a n hStart hStep =>
      rw [read_eq_readOpenStep kind start step
        (hStart.not_mem '/' rfl) (hStart.not_mem '-' rfl)]
      have hNotAll : start ≠ ['*'] := by
        rintro rfl
        exact hStart.not_mem '*' rfl (by simp)
      unfold readOpenStep stepStart?
      rw [if_neg hNotAll,
        (Numeral.short?_eq_some_iff start a).mpr hStart,
        (Numeral.short?_eq_some_iff step n).mpr hStep]
      dsimp only
      rw [if_neg (not_not_intro hFits.2.2.2),
        if_neg (not_not_intro hFits.1)]
  | fullStep step n hStep =>
      rw [show '*' :: '/' :: step = ['*'] ++ '/' :: step
          from rfl,
        read_eq_readOpenStep kind ['*'] step (by decide)
          (by decide)]
      unfold readOpenStep stepStart?
      rw [if_pos rfl,
        (Numeral.short?_eq_some_iff step n).mpr hStep]
      dsimp only
      rw [if_neg (not_not_intro hFits.2.2.2),
        if_neg (not_not_intro hFits.1)]
  | rangeStep first last step a b n hFirst hLast hStep =>
      rw [read_eq_readSteppedRange kind first last step
        (by simp [hFirst.not_mem '/' rfl,
          hLast.not_mem '/' rfl])
        (hFirst.not_mem '-' rfl)]
      unfold readSteppedRange
      rw [(Numeral.short?_eq_some_iff first a).mpr hFirst,
        (Numeral.short?_eq_some_iff last b).mpr hLast,
        (Numeral.short?_eq_some_iff step n).mpr hStep]
      exact if_pos hFits

/- The grammar of numeric fields is accepted exactly. -/
theorem read_eq_ok_iff
    (text : List Char)
    (selection : Selection) :
    read kind text = .ok selection ↔
      Spells kind text selection ∧ selection.Fits kind := by
  constructor
  · exact spells_of_read kind text selection
  · rintro ⟨hSpells, hFits⟩
    exact read_of_spells kind text selection hSpells hFits

end Selection

end Field

end CronSchedule

------------------------------------------------------------
-- The Sets of the Forms
------------------------------------------------------------

namespace CronSchedule

namespace ValueSet

/- A set is determined by its elements. -/
theorem eq_of_mem_iff
    {left right : ValueSet}
    (hMember : ∀ number, number ∈ left ↔ number ∈ right) :
    left = right := by
  cases left with
  | mk leftList hLeft =>
      cases right with
      | mk rightList hRight =>
          congr 1
          exact hLeft.eq_of_mem_iff hRight hMember

end ValueSet

namespace Field

namespace Selection

/- The number is one of those that are selected. -/
def Selects : Selection → Nat → Prop
| .list numbers, number => number ∈ numbers
| .range first last, number =>
    first ≤ number ∧ number ≤ last
| .stepped first last step, number =>
    number ≤ last ∧ ∃ index, number = first + index * step

/- The set of a selection has the selected numbers. -/
theorem mem_values_iff
    (kind : Kind)
    (selection : Selection)
    (hFits : selection.Fits kind)
    (number : Nat) :
    number ∈ selection.values ↔
      selection.Selects number := by
  cases selection with
  | list numbers => exact ValueSet.mem_ofList numbers number
  | range first last =>
      exact ValueSet.mem_interval first last number
  | stepped first last step =>
      exact
        (ValueSet.mem_ofList _ number).trans
          (Progression.mem_toList ⟨first, last, step⟩
            hFits.2.2.2.1 number)

/- A selection within bounds selects some number. -/
theorem exists_selects
    (kind : Kind)
    (selection : Selection)
    (hFits : selection.Fits kind) :
    ∃ number, selection.Selects number := by
  cases selection with
  | list numbers =>
      exact List.exists_mem_of_ne_nil numbers hFits.1
  | range first last =>
      exact ⟨first, Nat.le_refl first, hFits.2.2⟩
  | stepped first last step =>
      exact ⟨first, hFits.2.2.1, 0, by simp⟩

/- It selects numbers of its position alone. -/
theorem allows_of_selects
    (kind : Kind)
    (selection : Selection)
    (hFits : selection.Fits kind)
    (number : Nat)
    (hSelects : selection.Selects number) :
    kind.Allows number := by
  cases selection with
  | list numbers => exact hFits.2 number hSelects
  | range first last =>
      exact
        ⟨Nat.le_trans hFits.1.1 hSelects.1,
          Nat.le_trans hSelects.2 hFits.2.1.2⟩
  | stepped first last step =>
      rcases hSelects with ⟨hBound, index, hNumber⟩
      have hLeast := hFits.1.1
      exact ⟨by omega, Nat.le_trans hBound hFits.2.1.2⟩

end Selection

/-
  The text gives the set: by `*`, or by a list, a range, or
  a step within bounds.
-/
inductive Kind.Gives
    (kind : Kind) : List Char → ValueSet → Prop where
/- `*`: all values of the position. -/
| all
    (values : ValueSet)
    (hValues :
      ∀ number, number ∈ values ↔ kind.Allows number) :
    Gives kind ['*'] values
/- A list, a range, or a step. -/
| selection
    (text : List Char)
    (selection : Selection)
    (values : ValueSet)
    (hSpells : selection.Spells kind text)
    (hFits : selection.Fits kind)
    (hValues :
      ∀ number, number ∈ values ↔ selection.Selects number) :
    Gives kind text values

/- What is given is a set of the position. -/
theorem Kind.Gives.allowsSet
    {kind : Kind}
    {text : List Char}
    {values : ValueSet}
    (hGives : kind.Gives text values) :
    kind.AllowsSet values := by
  cases hGives with
  | all _ hValues =>
      apply kind.allowsSet_of_mem values kind.greatest
      · rw [hValues]
        exact Selection.allows_greatest kind
      · intro other hOther
        exact (hValues other).mp hOther
  | selection _ selection _ _ hFits hValues =>
      rcases selection.exists_selects kind hFits with
        ⟨number, hNumber⟩
      apply kind.allowsSet_of_mem values number
      · exact (hValues number).mpr hNumber
      · intro other hOther
        exact
          selection.allows_of_selects kind hFits other
            ((hValues other).mp hOther)

/- A `*` alone is no selection. -/
theorem Selection.not_spells_all
    (kind : Kind)
    (selection : Selection)
    (hFits : selection.Fits kind) :
    ¬ selection.Spells kind ['*'] := by
  intro hSpells
  have hRead :=
    read_of_spells kind ['*'] selection hSpells hFits
  cases hRead

/- Beside `*`, the texts that give a set are read as it. -/
theorem readSelection_eq_ok_iff
    (kind : Kind)
    (text : List Char)
    (field : Field) :
    readSelection kind text = .ok field ↔
      text ≠ ['*'] ∧
        ∃ values, field = .fixed values ∧
          kind.Gives text values := by
  constructor
  · intro hRead
    rcases exists_ok_of_map _ _ field hRead with
      ⟨selection, hSelection, rfl⟩
    rcases Selection.spells_of_read kind text selection
      hSelection with ⟨hSpells, hFits⟩
    refine ⟨?_, _, rfl, ?_⟩
    · rintro rfl
      exact
        Selection.not_spells_all kind selection hFits hSpells
    · exact
        .selection text selection _ hSpells hFits
          (selection.mem_values_iff kind hFits)
  · rintro ⟨hNotAll, values, rfl, hGives⟩
    cases hGives with
    | all => exact absurd rfl hNotAll
    | selection _ selection _ hSpells hFits hValues =>
        have hSet : selection.values = values := by
          apply ValueSet.eq_of_mem_iff
          intro number
          rw [hValues,
            selection.mem_values_iff kind hFits]
        unfold readSelection
        rw [(Selection.read_eq_ok_iff kind text
          selection).mpr ⟨hSpells, hFits⟩, ← hSet]
        rfl

/- The set of all values is given by `*`. -/
theorem full_eq_fixed_iff
    (kind : Kind)
    (values : ValueSet) :
    full kind = .fixed values ↔
      ∀ number, number ∈ values ↔ kind.Allows number := by
  have hFull (number : Nat) :=
    ValueSet.mem_interval kind.least kind.greatest number
  constructor
  · intro hField number
    cases hField
    exact hFull number
  · intro hValues
    apply congrArg Field.fixed
    apply ValueSet.eq_of_mem_iff
    intro number
    rw [hValues]
    exact hFull number

end Field

end CronSchedule
