import CronSchedule.Proofs.Field.Parsing

/-
  What may stand beside an alias in an accepted text.

  An alias is replaced by a run of digits.  In an accepted
  text every run of digits is part of a number up to the
  greatest value, and has separators around that number.

  Key definitions include:
    * `Field.Kind.Token`
    * `Field.Kind.StandsAlone`
    * `Field.Kind.IsFused`
    * `Field.Kind.KeepsRuns`

  Main declarations:
    * `Field.keepsRuns_of_form`
    * `Field.standsAlone_iff`
    * `Field.standsAlone_of_parse_iff`
-/

------------------------------------------------------------
-- Neighbours
------------------------------------------------------------

namespace CronSchedule

namespace Field

/- The characters between two operands. -/
def separators : List Char := [',', '-', '/', '#']

theorem other_of_mem_separators
    (c : Char)
    (hSeparator : c ∈ separators) :
    c.isDigit = false ∧ c.isAlpha = false := by
  have hAll :
      separators.all fun d => !d.isDigit && !d.isAlpha :=
    rfl
  rw [List.all_eq_true] at hAll
  simpa using hAll c hSeparator

/- A part of a number, and what it stands for. -/
inductive Kind.Token
    (kind : Kind) : List Char → Nat → Prop where
/- A digit. -/
| digit
    (c : Char)
    (hDigit : c.isDigit = true) :
    Token kind [c] (Numeral.value [c])
/- An alias. -/
| name
    (letters : List Char)
    (number : Nat)
    (hLength : letters.length = 3)
    (hLetters : Text.AreLetters letters)
    (hNumber : kind.Names letters number) :
    Token kind letters number

/-
  Between these parts of a text there is an operand: a
  separator or nothing stands on each side, or a final `L`
  comes after a weekday.
-/
def Kind.StandsAlone
    (kind : Kind)
    (before after : List Char) : Prop :=
  (∀ c, before.getLast? = some c → c ∈ separators) ∧
    ((∀ c, after.head? = some c → c ∈ separators) ∨
      kind = .dayOfWeek ∧ after = ['L'])

/- A digit or an alias stands on one of the sides. -/
def Kind.IsFused
    (kind : Kind)
    (before after : List Char) : Prop :=
  (∃ start part number, before = start ++ part ∧
      kind.Token part number) ∨
    ∃ part rest number, after = part ++ rest ∧
      kind.Token part number

namespace Kind.Token

variable {kind : Kind} {part : List Char} {number : Nat}

theorem ne_nil
    (hToken : kind.Token part number) :
    part ≠ [] := by
  cases hToken with
  | digit c => exact List.cons_ne_nil c []
  | name _ _ hLength =>
      rintro rfl
      cases hLength

/- There is no separator in a token. -/
theorem not_mem_separators
    (hToken : kind.Token part number)
    (c : Char)
    (hChar : c ∈ part) :
    c ∉ separators := by
  intro hSeparator
  have hOther := other_of_mem_separators c hSeparator
  cases hToken with
  | digit d hDigit =>
      cases List.mem_singleton.mp hChar
      rw [hOther.1] at hDigit
      cases hDigit
  | name _ _ _ hLetters =>
      have hLetter := hLetters c hChar
      rw [hOther.2] at hLetter
      cases hLetter

/- An `L` alone is no token. -/
theorem ne_last
    (hToken : kind.Token part number) :
    part ≠ ['L'] := by
  rintro rfl
  cases hToken with
  | digit _ hDigit => cases hDigit
  | name _ _ hLength => cases hLength

end Kind.Token

/- What stands alone is not fused. -/
theorem Kind.StandsAlone.not_isFused
    {kind : Kind}
    {before after : List Char}
    (hAlone : kind.StandsAlone before after) :
    ¬ kind.IsFused before after := by
  rintro (⟨start, part, number, rfl, hToken⟩ |
    ⟨part, rest, number, rfl, hToken⟩)
  · have hLast :=
      List.getLast?_eq_some_getLast hToken.ne_nil
    have hSeparator :=
      hAlone.1 (part.getLast hToken.ne_nil)
        (by
          rw [List.getLast?_append, hLast]
          rfl)
    exact
      hToken.not_mem_separators _ (List.getLast_mem _)
        hSeparator
  · have hPart := hToken.ne_nil
    cases part with
    | nil => exact hPart rfl
    | cons c more =>
        rcases hAlone.2 with hHead | ⟨_, hFinal⟩
        · exact
            hToken.not_mem_separators c List.mem_cons_self
              (hHead c rfl)
        · rw [List.cons_append] at hFinal
          have hMore :=
            List.append_eq_nil_iff.mp
              (List.cons.inj hFinal).2
          apply hToken.ne_last
          rw [(List.cons.inj hFinal).1, hMore.1]

end Field

end CronSchedule

------------------------------------------------------------
-- Runs of Digits
------------------------------------------------------------

namespace CronSchedule

namespace Field

/-
  The run is part of a number in bounds, and has nothing but
  digits, separators, and a final `L` beside it.
-/
structure Kind.RunBetween
    (kind : Kind)
    (left run right : List Char) : Prop where
  value_le : Numeral.value run ≤ kind.greatest
  before :
    ∀ c, left.getLast? = some c →
      c.isDigit = true ∨ c ∈ separators
  after :
    (∀ c, right.head? = some c →
        c.isDigit = true ∨ c ∈ separators) ∨
      kind = .dayOfWeek ∧ right = ['L']

/- So it is with every run of digits of the text. -/
def Kind.KeepsRuns
    (kind : Kind)
    (text : List Char) : Prop :=
  ∀ left run right, text = left ++ run ++ right →
    run ≠ [] → (∀ c ∈ run, c.isDigit = true) →
      kind.RunBetween left run right

/- A character that is not in a run lies on one side. -/
theorem cut_cases
    (c : Char)
    (first rest left run right : List Char)
    (hOther : c ∉ run)
    (hText : first ++ c :: rest = left ++ run ++ right) :
    (∃ later, left = first ++ c :: later ∧
        rest = later ++ run ++ right) ∨
      ∃ later, right = later ++ c :: rest ∧
        first = left ++ run ++ later := by
  rcases List.append_eq_append_iff.mp hText with
    ⟨part, hStart, hRest⟩ | ⟨part, hFirst, hRight⟩
  · cases part with
    | nil =>
        right
        rw [List.append_nil] at hStart
        exact ⟨[], hRest.symm, by simp [hStart]⟩
    | cons d more =>
        left
        rw [List.cons_append] at hRest
        rcases List.cons.inj hRest with ⟨rfl, rfl⟩
        rcases List.append_eq_append_iff.mp hStart.symm with
          ⟨later, hLeft, hMore⟩ | ⟨later, _, hRun⟩
        · cases later with
          | nil =>
              rw [List.nil_append] at hMore
              exfalso
              apply hOther
              rw [← hMore]
              exact List.mem_cons_self
          | cons e later =>
              rw [List.cons_append] at hMore
              rcases List.cons.inj hMore with ⟨rfl, rfl⟩
              exact ⟨later, hLeft, rfl⟩
        · exfalso
          apply hOther
          rw [hRun]
          exact List.mem_append_right _ List.mem_cons_self
  · exact Or.inr ⟨part, hRight, hFirst⟩

variable (kind : Kind)

/- A number in bounds has no runs but parts of itself. -/
theorem keepsRuns_of_denotes
    (text : List Char)
    (number : Nat)
    (hDenotes : Numeral.Denotes text number)
    (hBound : number ≤ kind.greatest) :
    kind.KeepsRuns text := by
  rintro left run right rfl _ _
  constructor
  · rw [← hDenotes.value_eq] at hBound
    exact
      Nat.le_trans (Numeral.value_le_of_infix left run right)
        hBound
  · intro c hLast
    left
    apply hDenotes.digits
    have hChar := List.mem_of_getLast? hLast
    simp [hChar]
  · left
    intro c hHead
    left
    apply hDenotes.digits
    have hChar := List.mem_of_head? hHead
    simp [hChar]

/- A single character that is no digit has no runs. -/
theorem keepsRuns_singleton
    (c : Char)
    (hOther : c.isDigit = false) :
    kind.KeepsRuns [c] := by
  intro left run right hText hNotEmpty hDigits
  rcases List.exists_mem_of_ne_nil run hNotEmpty with
    ⟨d, hRun⟩
  have hSame : d ∈ [c] := by simp [hText, hRun]
  have hDigit := hDigits d hRun
  rw [List.mem_singleton.mp hSame, hOther] at hDigit
  cases hDigit

/- Operands with a separator between them keep their runs. -/
theorem keepsRuns_append
    (first rest : List Char)
    (c : Char)
    (hSeparator : c ∈ separators)
    (hFirst : kind.KeepsRuns first)
    (hLast : 'L' ∉ first)
    (hRest : kind.KeepsRuns rest) :
    kind.KeepsRuns (first ++ c :: rest) := by
  intro left run right hText hNotEmpty hDigits
  have hOther : c ∉ run := by
    intro hRun
    have hDigit := hDigits c hRun
    rw [(other_of_mem_separators c hSeparator).1] at hDigit
    cases hDigit
  rcases cut_cases c first rest left run right hOther
    hText with
    ⟨later, rfl, hLater⟩ | ⟨later, rfl, hLater⟩
  · have hRun :=
      hRest later run right hLater hNotEmpty hDigits
    refine ⟨hRun.value_le, ?_, hRun.after⟩
    intro d hEnd
    rw [List.getLast?_append, List.getLast?_cons] at hEnd
    cases hLaterLast : later.getLast? with
    | none =>
        rw [hLaterLast] at hEnd
        cases hEnd
        exact Or.inr hSeparator
    | some e =>
        rw [hLaterLast] at hEnd
        cases hEnd
        exact hRun.before _ hLaterLast
  · have hRun :=
      hFirst left run later hLater hNotEmpty hDigits
    refine ⟨hRun.value_le, hRun.before, Or.inl ?_⟩
    intro d hHead
    cases later with
    | nil =>
        cases hHead
        exact Or.inr hSeparator
    | cons e more =>
        cases hHead
        rcases hRun.after with hAfter | ⟨_, hFinal⟩
        · exact hAfter _ rfl
        · apply absurd _ hLast
          rw [hLater, hFinal]
          simp

/- So do they if the last one is a number in bounds. -/
theorem keepsRuns_append_operand
    (first operand : List Char)
    (c : Char)
    (number : Nat)
    (hSeparator : c ∈ separators)
    (hFirst : kind.KeepsRuns first)
    (hLast : 'L' ∉ first)
    (hOperand : Numeral.IsOperand operand number)
    (hBound : number ≤ kind.greatest) :
    kind.KeepsRuns (first ++ c :: operand) :=
  keepsRuns_append kind first operand c hSeparator hFirst
    hLast
    (keepsRuns_of_denotes kind operand number
      hOperand.toDenotes hBound)

theorem keepsRuns_range
    (first last : List Char)
    (a b : Nat)
    (hFirst : Numeral.IsOperand first a)
    (hLast : Numeral.IsOperand last b)
    (hFits : (Selection.range a b).Fits kind) :
    kind.KeepsRuns (first ++ '-' :: last) :=
  keepsRuns_append_operand kind first last '-' b (by decide)
    (keepsRuns_of_denotes kind first a hFirst.toDenotes
      hFits.1.2)
    (hFirst.not_mem 'L' rfl) hLast hFits.2.1.2

theorem keepsRuns_intercalate
    (items : List (List Char))
    (numbers : List Nat)
    (hItems : items.Forall₂ Numeral.IsOperand numbers)
    (hBounds : ∀ number ∈ numbers, number ≤ kind.greatest) :
    kind.KeepsRuns ([','].intercalate items) := by
  induction hItems with
  | nil =>
      intro left run right hText hNotEmpty
      simp [hNotEmpty] at hText
  | cons hItem hItems ih =>
      rename_i item number items numbers
      rw [List.forall_mem_cons] at hBounds
      have hFirst :=
        keepsRuns_of_denotes kind item number
          hItem.toDenotes hBounds.1
      cases items with
      | nil =>
          rw [List.intercalate_singleton]
          exact hFirst
      | cons second later =>
          rw [List.intercalate_cons_cons, List.append_assoc,
            List.singleton_append]
          exact
            keepsRuns_append kind item _ ',' (by decide)
              hFirst (hItem.not_mem 'L' rfl)
              (ih hBounds.2)

/- A final `L` after a weekday is allowed beside a run. -/
theorem keepsRuns_append_last
    (text : List Char)
    (number : Nat)
    (hDenotes : Numeral.Denotes text number)
    (hBound : number ≤ Kind.dayOfWeek.greatest) :
    Kind.dayOfWeek.KeepsRuns (text ++ ['L']) := by
  have hKeeps :=
    keepsRuns_of_denotes .dayOfWeek text number hDenotes
      hBound
  intro left run right hText hNotEmpty hDigits
  have hOther : 'L' ∉ run := by
    intro hRun
    cases hDigits 'L' hRun
  rcases cut_cases 'L' text [] left run right hOther
    hText with
    ⟨later, rfl, hLater⟩ | ⟨later, rfl, hLater⟩
  · simp [hNotEmpty] at hLater
  · have hRun :=
      hKeeps left run later hLater hNotEmpty hDigits
    refine ⟨hRun.value_le, hRun.before, ?_⟩
    cases later with
    | nil => exact Or.inr ⟨rfl, rfl⟩
    | cons c more =>
        left
        intro d hHead
        cases hHead
        left
        apply hDenotes.digits
        simp [hLater]

/-
  The numeric forms keep their runs, where a step is bounded
  by the greatest value.
-/
theorem keepsRuns_of_gives
    (text : List Char)
    (values : ValueSet)
    (hStep : kind.extent ≤ kind.greatest)
    (hGives : kind.Gives text values) :
    kind.KeepsRuns text := by
  cases hGives with
  | all => exact keepsRuns_singleton kind '*' rfl
  | selection _ selection _ hSpells hFits =>
      cases hSpells with
      | list items numbers _ hItems =>
          exact
            keepsRuns_intercalate kind items numbers hItems
              fun number hNumber =>
                (hFits.2 number hNumber).2
      | range first last a b hFirst hLast =>
          exact
            keepsRuns_range kind first last a b hFirst hLast
              hFits
      | openStep start step a n hStart hCount =>
          exact
            keepsRuns_append_operand kind start step '/' n
              (by decide)
              (keepsRuns_of_denotes kind start a
                hStart.toDenotes hFits.1.2)
              (hStart.not_mem 'L' rfl) hCount
              (Nat.le_trans hFits.2.2.2.2 hStep)
      | fullStep step n hCount =>
          exact
            keepsRuns_append_operand kind ['*'] step '/' n
              (by decide) (keepsRuns_singleton kind '*' rfl)
              (by decide) hCount
              (Nat.le_trans hFits.2.2.2.2 hStep)
      | rangeStep first last step a b n hFirst hLast
          hCount =>
          have hRange :=
            keepsRuns_range kind first last a b hFirst hLast
              ⟨hFits.1, hFits.2.1, hFits.2.2.1⟩
          exact
            keepsRuns_append_operand kind
              (first ++ '-' :: last) step '/' n (by decide)
              hRange
              (by
                simp [hFirst.not_mem 'L' rfl,
                  hLast.not_mem 'L' rfl])
              hCount (Nat.le_trans hFits.2.2.2.2 hStep)

/- The forms of months and weekdays keep their runs. -/
theorem keepsRuns_of_form
    (text : List Char)
    (field : Field)
    (hAliases : kind.hasAliases = true)
    (hForm : kind.Form text field) :
    kind.KeepsRuns text := by
  cases kind with
  | month =>
      rcases hForm with ⟨values, _, hGives⟩
      exact
        keepsRuns_of_gives .month text values (by decide)
          hGives
  | dayOfWeek =>
      cases hForm with
      | unspecified => exact keepsRuns_singleton _ '?' rfl
      | lastOfWeek => exact keepsRuns_singleton _ 'L' rfl
      | lastWeekday weekday number hWeekday _ hBounds =>
          exact
            keepsRuns_append_last weekday number hWeekday
              hBounds.2
      | nthWeekday weekday count number times hWeekday
          hCount hBounds hTimes =>
          exact
            keepsRuns_append_operand .dayOfWeek weekday count
              '#' times (by decide)
              (keepsRuns_of_denotes _ weekday number
                hWeekday.toDenotes hBounds.2)
              (hWeekday.not_mem 'L' rfl) hCount
              (Nat.le_trans hTimes.2 (by decide))
      | fixed _ values hGives =>
          exact
            keepsRuns_of_gives .dayOfWeek text values
              (by decide) hGives
  | _ => cases hAliases

end Field

end CronSchedule

------------------------------------------------------------
-- Replaced Tokens
------------------------------------------------------------

namespace CronSchedule

namespace Text

/- How a text with whole groups at its end can end. -/
theorem isAligned_end
    (text : List Char)
    (hAligned : IsAligned text) :
    text = [] ∨
      (∃ start c, text = start ++ [c] ∧
        c.isAlpha = false) ∨
      ∃ start letters, IsGroup text start letters [] := by
  rcases hAligned with ⟨start, run, rfl, hEnds, hRun, hThree⟩
  by_cases hEmpty : run = []
  · rw [hEmpty, List.append_nil]
    rcases List.eq_nil_or_concat start with
      hStart | ⟨first, c, rfl⟩
    · exact Or.inl hStart
    · right
      left
      exact
        ⟨first, c, List.concat_eq_append, hEnds c (by simp)⟩
  · right
    right
    have hPositive := List.length_pos_iff.mpr hEmpty
    have hParts :=
      List.take_append_drop (run.length - 3) run
    refine
      ⟨start ++ run.take (run.length - 3),
        run.drop (run.length - 3), ?_, ?_, ?_, ?_⟩
    · rw [List.append_nil, List.append_assoc, hParts]
    · rw [List.length_drop]
      omega
    · intro c hChar
      exact hRun c (List.mem_of_mem_drop hChar)
    · refine ⟨start, _, rfl, hEnds, ?_, ?_⟩
      · intro c hChar
        exact hRun c (List.mem_of_mem_take hChar)
      · rw [List.length_take]
        omega

/- In front of a last group there are whole groups. -/
theorem isAligned_of_append
    (start letters : List Char)
    (hLength : letters.length = 3)
    (hLetters : AreLetters letters)
    (hAligned : IsAligned (start ++ letters)) :
    IsAligned start := by
  rcases hAligned with ⟨first, run, hText, hEnds, hRun, hThree⟩
  rcases List.append_eq_append_iff.mp hText with
    ⟨part, rfl, hPart⟩ | ⟨part, rfl, hPart⟩
  · have hNil : part = [] := by
      by_contra hNotEmpty
      have hLast :=
        List.getLast?_eq_some_getLast hNotEmpty
      have hOther :=
        hEnds (part.getLast hNotEmpty)
          (by
            rw [List.getLast?_append, hLast]
            rfl)
      rw [hLetters _ (by simp [hPart])] at hOther
      cases hOther
    rw [hNil, List.append_nil] at hEnds
    refine ⟨start, [], by simp, hEnds, ?_, by simp⟩
    intro c hChar
    cases hChar
  · refine ⟨first, part, rfl, hEnds, ?_, ?_⟩
    · intro c hChar
      exact hRun c (by simp [hPart, hChar])
    · rw [hPart, List.length_append, hLength] at hThree
      omega

end Text

namespace Field

variable {kind : Kind}

/- Letters name one number at most. -/
theorem Kind.Names.unique
    {letters : List Char}
    {number other : Nat}
    (hNumber : kind.Names letters number)
    (hOther : kind.Names letters other) :
    number = other := by
  rw [← Kind.aliasNumber?_eq_some_iff] at hNumber hOther
  rw [hNumber] at hOther
  exact Option.some.inj hOther

/- The aliases of the kinds that have any start with one. -/
theorem Kind.Names.positive
    {letters : List Char}
    {number : Nat}
    (hNumber : kind.Names letters number) :
    1 ≤ number := by
  rcases hNumber with ⟨index, _, _, _, rfl⟩
  exact Nat.le_add_left 1 index

/- A token is a whole group, or ends with no letter. -/
theorem Kind.Token.isAligned
    {part : List Char}
    {number : Nat}
    (hToken : kind.Token part number) :
    Text.IsAligned part := by
  cases hToken with
  | digit c hDigit =>
      exact
        Text.isAligned_other c
          (Numeral.not_blank_of_isDigit c hDigit).2
  | name _ _ hLength hLetters =>
      exact Text.isAligned_group part hLength hLetters

/-
  A token is replaced by digits of its number, and the parts
  beside it on their own.
-/
theorem Kind.Replaced.of_token
    {text replaced before part after : List Char}
    {number : Nat}
    (hReplaced : kind.Replaced text replaced)
    (hToken : kind.Token part number)
    (hText : text = before ++ part ++ after)
    (hAligned : Text.IsAligned (before ++ part)) :
    ∃ left run right, replaced = left ++ run ++ right ∧
      Numeral.Denotes run number ∧
      kind.Replaced before left ∧
      kind.Replaced after right := by
  cases hToken with
  | digit c hDigit =>
      have hOther := (Numeral.not_blank_of_isDigit c hDigit).2
      have hCut : text = before ++ c :: after := by
        simp [hText]
      rcases hReplaced.of_other hOther hCut with
        ⟨left, right, rfl, hLeft, hRight⟩
      exact
        ⟨left, [c], right, by simp,
          ⟨by simp, by simp [hDigit], rfl⟩, hLeft, hRight⟩
  | name _ _ hLength hLetters hNumber =>
      have hBefore :=
        Text.isAligned_of_append before part hLength hLetters
          hAligned
      rcases hReplaced.of_group
        ⟨hText, hLength, hLetters, hBefore⟩ with
        ⟨other, left, right, hOther, rfl, hLeft, hRight⟩
      rw [hOther.unique hNumber]
      exact
        ⟨left, _, right, rfl, Numeral.denotes_digits number,
          hLeft, hRight⟩

end Field

end CronSchedule

------------------------------------------------------------
-- Beside an Alias
------------------------------------------------------------

namespace CronSchedule

namespace Field

section Beside

variable {kind : Kind}
variable {before after left run right : List Char}

/- What comes before a run is a separator or a token. -/
theorem before_cases
    (hRun : kind.RunBetween left run right)
    (hLeft : kind.Replaced before left)
    (hAligned : Text.IsAligned before) :
    (∀ c, before.getLast? = some c → c ∈ separators) ∨
      ∃ start part number, before = start ++ part ∧
        kind.Token part number := by
  rcases Text.isAligned_end before hAligned with
    rfl | ⟨start, c, rfl, hOther⟩ | ⟨start, letters, hGroup⟩
  · left
    intro c hLast
    cases hLast
  · by_cases hDigit : c.isDigit = true
    · right
      exact ⟨start, [c], _, rfl, .digit c hDigit⟩
    · left
      rcases hLeft.of_other hOther rfl with
        ⟨first, rest, rfl, _, hRest⟩
      rw [Kind.Replaced.nil_iff] at hRest
      have hEnd := hRun.before c (by simp [hRest])
      intro d hLast
      have hSame : c = d := by simpa using hLast
      rw [← hSame]
      exact hEnd.resolve_left hDigit
  · right
    rcases hLeft.of_group hGroup with
      ⟨number, _, _, hNumber, _⟩
    have hText := hGroup.text_eq
    rw [List.append_nil] at hText
    exact
      ⟨start, letters, number, hText,
        .name letters number hGroup.length_eq
          hGroup.areLetters hNumber⟩

/- What comes after it may also be a final `L`. -/
theorem after_cases
    (hRun : kind.RunBetween left run right)
    (hRight : kind.Replaced after right) :
    ((∀ c, after.head? = some c → c ∈ separators) ∨
        kind = .dayOfWeek ∧ after = ['L']) ∨
      ∃ part rest number, after = part ++ rest ∧
        kind.Token part number := by
  cases Text.start_of after with
  | nothing =>
      left
      left
      intro c hHead
      cases hHead
  | other c text hOther =>
      by_cases hDigit : c.isDigit = true
      · right
        exact ⟨[c], text, _, rfl, .digit c hDigit⟩
      · left
        left
        have hCut : c :: text = [] ++ c :: text := rfl
        rcases hRight.of_other hOther hCut with
          ⟨first, rest, rfl, hFirst, _⟩
        rw [Kind.Replaced.nil_iff] at hFirst
        rw [hFirst] at hRun
        intro d hHead
        cases hHead
        rcases hRun.after with hAfter | ⟨_, hFinal⟩
        · exact (hAfter c rfl).resolve_left hDigit
        · cases hFinal
          cases hOther
  | group letters text hLength hLetters =>
      right
      have hGroup :
          Text.IsGroup (letters ++ text) [] letters text :=
        { text_eq := rfl
          length_eq := hLength
          areLetters := hLetters
          isAligned := Text.isAligned_nil }
      rcases hRight.of_group hGroup with
        ⟨number, _, _, hNumber, _⟩
      exact
        ⟨letters, text, number, rfl,
          .name letters number hLength hLetters hNumber⟩
  | rest letters text hNotEmpty hLength hLetters hStops =>
      left
      right
      have hReplace := hRight
      rw [← Kind.replaceGroups_eq_ok_iff,
        kind.replaceGroups_append_rest letters text hNotEmpty
          hLength hStops] at hReplace
      rcases exists_ok_of_map _ _ _ hReplace with
        ⟨others, _, hOthers⟩
      rcases hRun.after with hAfter | ⟨hKind, hFinal⟩
      · exfalso
        cases letters with
        | nil => exact hNotEmpty rfl
        | cons c more =>
            have hLetter := hLetters c List.mem_cons_self
            rcases hAfter c (by simp [← hOthers]) with
              hDigit | hSeparator
            · rw [(Numeral.not_blank_of_isDigit c
                hDigit).2] at hLetter
              cases hLetter
            · rw [(other_of_mem_separators c
                hSeparator).2] at hLetter
              cases hLetter
      · exact
          ⟨hKind, hRight.eq_singleton 'L' rfl hFinal⟩

/- Beside tokens, nothing keeps a run from standing alone. -/
theorem standsAlone_iff
    (hRun : kind.RunBetween left run right)
    (hLeft : kind.Replaced before left)
    (hRight : kind.Replaced after right)
    (hAligned : Text.IsAligned before) :
    kind.StandsAlone before after ↔
      ¬ kind.IsFused before after := by
  constructor
  · exact Kind.StandsAlone.not_isFused
  · intro hNotFused
    constructor
    · rcases before_cases hRun hLeft hAligned with
        hBefore | hToken
      · exact hBefore
      · exact absurd (Or.inl hToken) hNotFused
    · rcases after_cases hRun hRight with hAfter | hToken
      · exact hAfter
      · exact absurd (Or.inr hToken) hNotFused

end Beside

end Field

end CronSchedule

------------------------------------------------------------
-- Aliases of an Accepted Text
------------------------------------------------------------

namespace CronSchedule

namespace Field

section Fused

variable {kind : Kind}
variable {before after left right : List Char}
variable {number : Nat}

/- Runs without a separator make up a number in bounds. -/
theorem Kind.KeepsRuns.le_greatest
    {text first second : List Char}
    {other : Nat}
    (hKeeps : kind.KeepsRuns text)
    (hText : text = left ++ (first ++ second) ++ right)
    (hFirst : Numeral.Denotes first number)
    (hSecond : Numeral.Denotes second other) :
    10 * number + other ≤ kind.greatest := by
  have hRun :=
    hKeeps left (first ++ second) right hText
      (by simp [hFirst.notEmpty])
      (by
        intro c hChar
        rcases List.mem_append.mp hChar with hIn | hIn
        · exact hFirst.digits c hIn
        · exact hSecond.digits c hIn)
  have hValue :=
    Numeral.le_value_append first second hSecond.notEmpty
  rw [hFirst.value_eq, hSecond.value_eq] at hValue
  exact Nat.le_trans hValue hRun.value_le

/- With a token after it, an alias makes up a number. -/
theorem le_greatest_of_token_after
    (hKeeps :
      kind.KeepsRuns
        (left ++ Numeral.digits number ++ right))
    (hRight : kind.Replaced after right)
    (part rest : List Char)
    (other : Nat)
    (hAfter : after = part ++ rest)
    (hToken : kind.Token part other) :
    10 * number + other ≤ kind.greatest := by
  have hCut : after = [] ++ part ++ rest := hAfter
  rcases hRight.of_token hToken hCut hToken.isAligned with
    ⟨first, run, later, rfl, hRun, hFirst, _⟩
  rw [Kind.Replaced.nil_iff] at hFirst
  have hText :
      left ++ Numeral.digits number ++
          (first ++ run ++ later) =
        left ++ (Numeral.digits number ++ run) ++ later := by
    simp [hFirst]
  exact
    hKeeps.le_greatest hText
      (Numeral.denotes_digits number) hRun

/- So it does with a token in front of it. -/
theorem le_greatest_of_token_before
    (hKeeps :
      kind.KeepsRuns
        (left ++ Numeral.digits number ++ right))
    (hLeft : kind.Replaced before left)
    (hAligned : Text.IsAligned before)
    (start part : List Char)
    (other : Nat)
    (hBefore : before = start ++ part)
    (hToken : kind.Token part other) :
    10 * other + number ≤ kind.greatest := by
  have hCut : before = start ++ part ++ [] := by
    rw [hBefore, List.append_nil]
  rw [hBefore] at hAligned
  rcases hLeft.of_token hToken hCut hAligned with
    ⟨first, run, later, rfl, hRun, _, hLater⟩
  rw [Kind.Replaced.nil_iff] at hLater
  have hText :
      first ++ run ++ later ++ Numeral.digits number ++
          right =
        first ++ (run ++ Numeral.digits number) ++ right := by
    simp [hLater]
  exact
    hKeeps.le_greatest hText hRun
      (Numeral.denotes_digits number)

end Fused

/-
  An alias of an accepted text is an operand of its own
  exactly if no digit and no other alias stands beside it.
  In a weekday text only zeros may stand there, in front of
  the alias.  In a month text `JAN` may also be the first
  digit of a number, and `JAN` and `FEB` the last one.
-/
theorem standsAlone_of_parse_iff
    (kind : Kind)
    (hKind : kind = .month ∨ kind = .dayOfWeek)
    (text : String)
    (field : Field)
    (hParse : parse kind text = .ok field)
    (before letters after : List Char)
    (hGroup :
      Text.IsGroup (Text.trim text.toList) before letters
        after) :
    ∃ number, kind.Names letters number ∧
      (kind.StandsAlone before after ↔
        ¬ kind.IsFused before after) ∧
      (∀ part rest other, after = part ++ rest →
        kind.Token part other →
          kind = .month ∧ number = 1) ∧
      ∀ start part other, before = start ++ part →
        kind.Token part other →
          other = 0 ∨
            kind = .month ∧ other = 1 ∧ number ≤ 2 := by
  have hAliases : kind.hasAliases = true := by
    rcases hKind with rfl | rfl <;> rfl
  rw [parse_eq_ok_iff, read_eq_ok_iff] at hParse
  rcases hParse with ⟨rfl, _⟩ | ⟨numbered, hLeaves, hForm⟩
  · cases hAliases
  unfold Kind.Leaves at hLeaves
  rw [if_pos hAliases] at hLeaves
  rcases hLeaves.of_group hGroup with
    ⟨number, left, right, hNumber, rfl, hLeft, hRight⟩
  have hKeeps :=
    keepsRuns_of_form kind _ field hAliases hForm
  have hRun :=
    hKeeps left (Numeral.digits number) right rfl
      (Numeral.digits_ne_nil number)
      (Numeral.isDigit_of_mem_digits number)
  have hPositive := hNumber.positive
  refine
    ⟨number, hNumber,
      standsAlone_iff hRun hLeft hRight hGroup.isAligned,
      ?_, ?_⟩
  · intro part rest other hAfter hToken
    have hValue :=
      le_greatest_of_token_after hKeeps hRight part rest
        other hAfter hToken
    rcases hKind with rfl | rfl
    · change _ ≤ 12 at hValue
      exact ⟨rfl, by omega⟩
    · change _ ≤ 7 at hValue
      omega
  · intro start part other hBefore hToken
    have hValue :=
      le_greatest_of_token_before hKeeps hLeft
        hGroup.isAligned start part other hBefore hToken
    rcases hKind with rfl | rfl
    · change _ ≤ 12 at hValue
      by_cases hZero : other = 0
      · exact Or.inl hZero
      · exact Or.inr ⟨rfl, by omega, by omega⟩
    · change _ ≤ 7 at hValue
      left
      omega

/- `FRI` is the operand of `FRIL`. -/
theorem standsAlone_of_parse_lastFriday :
    parse .dayOfWeek "FRIL" = .ok (.lastWeekday 6) ∧
      Text.IsGroup (Text.trim "FRIL".toList) []
        "FRI".toList ['L'] ∧
      Kind.dayOfWeek.StandsAlone [] ['L'] := by
  have hParse :
      parse .dayOfWeek "FRIL" = .ok (.lastWeekday 6) := by
    rfl
  have hGroup :
      Text.IsGroup (Text.trim "FRIL".toList) []
        "FRI".toList ['L'] :=
    { text_eq := rfl
      length_eq := rfl
      areLetters := List.all_eq_true.mp rfl
      isAligned := Text.isAligned_nil }
  refine ⟨hParse, hGroup, ?_⟩
  rcases standsAlone_of_parse_iff .dayOfWeek (Or.inr rfl)
    "FRIL" _ hParse _ _ _ hGroup with
    ⟨number, _, hAlone, hAfter, _⟩
  rw [hAlone]
  rintro (⟨start, part, _, hNil, hToken⟩ |
    ⟨part, rest, other, hRest, hToken⟩)
  · exact
      hToken.ne_nil (List.append_eq_nil_iff.mp hNil.symm).2
  · cases (hAfter part rest other hRest hToken).1

/-
  `JANFEB` is accepted, with December alone, though neither
  alias in it is an operand.
-/
theorem not_standsAlone_janFeb :
    parse .month "JANFEB" =
        .ok (.fixed (ValueSet.ofList [12])) ∧
      Text.IsGroup (Text.trim "JANFEB".toList) []
        "JAN".toList "FEB".toList ∧
      Kind.month.Names "JAN".toList 1 ∧
      ¬ Kind.month.StandsAlone [] "FEB".toList := by
  refine ⟨by rfl, ?_, ?_, ?_⟩
  · exact
      { text_eq := rfl
        length_eq := rfl
        areLetters := List.all_eq_true.mp rfl
        isAligned := Text.isAligned_nil }
  · exact ⟨0, "JAN", rfl, by decide, rfl⟩
  · rintro ⟨_, hHead | ⟨hKind, _⟩⟩
    · exact absurd (hHead 'F' rfl) (by decide)
    · cases hKind

end Field

end CronSchedule
