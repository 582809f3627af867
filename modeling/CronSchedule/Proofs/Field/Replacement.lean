import CronSchedule.Proofs.Field.Parsing
import CronSchedule.Proofs.Text.LetterCase

/-
  Numbers may be written in the place of aliases.

  A replaced text has no group of letters left, since every
  rest of a run stays where its run ends.  Therefore nothing
  changes when it is replaced again, and it is read as the
  text that it comes from.

  Main declarations:
    * `Field.Kind.replaced_trim_iff`
    * `Field.Kind.Replaced.again`
    * `Field.Kind.Replaced.not_isGroup`
    * `Field.Kind.exists_replaced`
    * `Field.read_eq_of_replaced`
-/

------------------------------------------------------------
-- Putting Replacements Together
------------------------------------------------------------

namespace CronSchedule

namespace Text

theorem StopsRun.append
    {text rest : List Char}
    (hText : StopsRun text)
    (hRest : StopsRun rest) :
    StopsRun (text ++ rest) := by
  cases text with
  | nil => exact hRest
  | cons c text => exact hText

/- Blanks are no letters. -/
theorem AreBlank.not_alpha
    {blanks : List Char}
    (hBlanks : AreBlank blanks) :
    ∀ c ∈ blanks, c.isAlpha = false :=
  fun c hChar => not_alpha_of_isBlank c (hBlanks c hChar)

theorem AreBlank.stopsRun
    {blanks : List Char}
    (hBlanks : AreBlank blanks) :
    StopsRun blanks :=
  fun c hHead => hBlanks.not_alpha c (List.mem_of_head? hHead)

/- What is not in front of a text ends it. -/
theorem getLast?_of_append
    {front text : List Char}
    {c : Char}
    (hFront : c ∉ front)
    (hLast : (front ++ text).getLast? = some c) :
    text.getLast? = some c := by
  rw [List.getLast?_append] at hLast
  cases hText : text.getLast? with
  | none =>
      rw [hText] at hLast
      exact absurd (List.mem_of_getLast? hLast) hFront
  | some d =>
      rw [hText] at hLast
      exact hLast

end Text

namespace Field

namespace Kind

namespace Replaced

open Text

variable {kind : Kind}
variable {text replaced : List Char}

/- Other characters than letters stay in front of a text. -/
theorem append_others
    (others : List Char)
    (hOthers : ∀ c ∈ others, c.isAlpha = false)
    (hText : kind.Replaced text replaced) :
    kind.Replaced (others ++ text) (others ++ replaced) := by
  induction others with
  | nil => exact hText
  | cons c others ih =>
      rw [List.forall_mem_cons] at hOthers
      exact .other c _ _ hOthers.1 (ih hOthers.2)

/- Texts are replaced on their own where a run stops. -/
theorem append
    {rest right : List Char}
    (hText : kind.Replaced text replaced)
    (hStops : StopsRun rest)
    (hRest : kind.Replaced rest right) :
    kind.Replaced (text ++ rest) (replaced ++ right) := by
  induction hText with
  | done => exact hRest
  | other c text replaced hOther _ ih =>
      exact .other c _ _ hOther ih
  | group letters text replaced number hLength hLetters
      hNumber _ ih =>
      rw [List.append_assoc, List.append_assoc]
      exact .group letters _ _ number hLength hLetters hNumber ih
  | rest letters text replaced hNotEmpty hLength hLetters
      hText _ ih =>
      rw [List.append_assoc, List.append_assoc]
      exact
        .rest letters _ _ hNotEmpty hLength hLetters
          (hText.append hStops) ih

/- In front of a text, other characters come from themselves. -/
theorem exists_after_others
    (others : List Char)
    (hOthers : ∀ c ∈ others, c.isAlpha = false)
    (hText : kind.Replaced (others ++ text) replaced) :
    ∃ right, replaced = others ++ right ∧
      kind.Replaced text right := by
  induction others generalizing replaced with
  | nil => exact ⟨replaced, rfl, hText⟩
  | cons c others ih =>
      rw [List.forall_mem_cons] at hOthers
      have hCut :
          c :: others ++ text = [] ++ c :: (others ++ text) :=
        rfl
      rcases hText.of_other hOthers.1 hCut with
        ⟨left, right, rfl, hLeft, hRight⟩
      rcases ih hOthers.2 hRight with ⟨more, rfl, hMore⟩
      rw [nil_iff] at hLeft
      exact ⟨more, by rw [hLeft]; rfl, hMore⟩

/- So do they at the end of a text. -/
theorem exists_before_others
    (others : List Char)
    (hOthers : ∀ c ∈ others, c.isAlpha = false)
    (hText : kind.Replaced (text ++ others) replaced) :
    ∃ left, replaced = left ++ others ∧
      kind.Replaced text left := by
  cases others with
  | nil =>
      rw [List.append_nil] at hText
      exact ⟨replaced, by rw [List.append_nil], hText⟩
  | cons c others =>
      rw [List.forall_mem_cons] at hOthers
      rcases hText.of_other hOthers.1 rfl with
        ⟨left, right, rfl, hLeft, hRight⟩
      rw [← List.append_nil others] at hRight
      rcases hRight.exists_after_others others hOthers.2 with
        ⟨rest, rfl, hRest⟩
      rw [nil_iff] at hRest
      exact ⟨left, by rw [hRest, List.append_nil], hLeft⟩

end Replaced

end Kind

end Field

end CronSchedule

------------------------------------------------------------
-- Replacing Between Blanks
------------------------------------------------------------

namespace CronSchedule

namespace Field

namespace Kind

open Text

variable {kind : Kind}

namespace Replaced

variable {text replaced : List Char}

/- The first character stays, or gives way to a digit. -/
theorem head_not_blank
    (hText : kind.Replaced text replaced)
    (hHead :
      ∀ c, text.head? = some c → isBlank c = false)
    (c : Char)
    (hFirst : replaced.head? = some c) :
    isBlank c = false := by
  cases hText with
  | done => cases hFirst
  | other d _ _ => exact hHead c hFirst
  | group letters _ _ number =>
      rw [List.head?_append_of_ne_nil _
        (Numeral.digits_ne_nil number)] at hFirst
      exact
        Numeral.not_blank_of_mem_digits number c
          (List.mem_of_head? hFirst)
  | rest letters _ _ hNotEmpty =>
      rw [List.head?_append_of_ne_nil _ hNotEmpty] at hFirst
      apply hHead
      rw [List.head?_append_of_ne_nil _ hNotEmpty]
      exact hFirst

/- A blank at the end comes from itself. -/
theorem last_of_blank
    (hText : kind.Replaced text replaced)
    (c : Char)
    (hBlank : isBlank c = true)
    (hLast : replaced.getLast? = some c) :
    text.getLast? = some c := by
  have hOther := not_alpha_of_isBlank c hBlank
  induction hText with
  | done => exact hLast
  | other d text replaced _ hText ih =>
      rw [List.getLast?_cons] at hLast ⊢
      cases hMore : replaced.getLast? with
      | none =>
          rw [List.getLast?_eq_none_iff] at hMore
          rw [hText.eq_nil hMore]
          rw [hMore] at hLast
          exact hLast
      | some e =>
          rw [hMore] at hLast
          rw [ih (hMore.trans hLast)]
          rfl
  | group letters text replaced number _ _ _ _ ih =>
      have hDigits : c ∉ Numeral.digits number := by
        intro hChar
        rw [Numeral.not_blank_of_mem_digits number c hChar]
          at hBlank
        cases hBlank
      have hMore := getLast?_of_append hDigits hLast
      rw [List.getLast?_append, ih hMore]
      rfl
  | rest letters text replaced _ _ hLetters _ _ ih =>
      have hFront : c ∉ letters := by
        intro hChar
        rw [hLetters c hChar] at hOther
        cases hOther
      have hMore := getLast?_of_append hFront hLast
      rw [List.getLast?_append, ih hMore]
      rfl

/- What comes of a trimmed text is trimmed. -/
theorem isTrimmed
    (hReplaced : kind.Replaced text replaced)
    (hText : IsTrimmed text) :
    IsTrimmed replaced := by
  constructor
  · exact hReplaced.head_not_blank hText.head
  · intro c hLast
    rw [← Bool.not_eq_true]
    intro hBlank
    have hEnd :=
      hText.last c (hReplaced.last_of_blank c hBlank hLast)
    rw [hBlank] at hEnd
    cases hEnd

end Replaced

/- Trimming before the replacement is trimming after it. -/
theorem replaced_trim_iff
    (text numbered : List Char) :
    kind.Replaced (trim text) numbered ↔
      ∃ replaced, kind.Replaced text replaced ∧
        trim replaced = numbered := by
  rcases exists_trim text with
    ⟨start, finish, hText, hStart, hFinish⟩
  constructor
  · intro hReplaced
    refine ⟨start ++ numbered ++ finish, ?_, ?_⟩
    · rw [hText]
      have hNothing : kind.Replaced [] [] := .done
      have hBlanks :=
        hNothing.append_others finish hFinish.not_alpha
      rw [List.append_nil] at hBlanks
      exact
        (hReplaced.append_others start
          hStart.not_alpha).append hFinish.stopsRun hBlanks
    · exact
        trim_append start numbered finish hStart
          (hReplaced.isTrimmed (isTrimmed_trim text)) hFinish
  · rintro ⟨replaced, hReplaced, hTrim⟩
    rw [hText] at hReplaced
    rcases hReplaced.exists_before_others finish
      hFinish.not_alpha with ⟨left, rfl, hLeft⟩
    rcases hLeft.exists_after_others start
      hStart.not_alpha with ⟨middle, rfl, hMiddle⟩
    rw [trim_append start middle finish hStart
      (hMiddle.isTrimmed (isTrimmed_trim text)) hFinish]
      at hTrim
    rw [← hTrim]
    exact hMiddle

end Kind

end Field

end CronSchedule

------------------------------------------------------------
-- Replacing Again
------------------------------------------------------------

namespace CronSchedule

namespace Field

namespace Kind

namespace Replaced

open Text

variable {kind : Kind}
variable {text replaced : List Char}

/- No letter comes up where there was none. -/
theorem stopsRun
    (hReplaced : kind.Replaced text replaced)
    (hStops : StopsRun text) :
    StopsRun replaced := by
  intro c hHead
  cases hReplaced with
  | done => cases hHead
  | other d _ _ => exact hStops c hHead
  | group letters _ _ number =>
      rw [List.head?_append_of_ne_nil _
        (Numeral.digits_ne_nil number)] at hHead
      exact
        Numeral.not_alpha_of_mem_digits number c
          (List.mem_of_head? hHead)
  | rest letters _ _ hNotEmpty =>
      rw [List.head?_append_of_ne_nil _ hNotEmpty] at hHead
      apply hStops
      rw [List.head?_append_of_ne_nil _ hNotEmpty]
      exact hHead

/- A replaced text is replaced by itself. -/
theorem again
    (hReplaced : kind.Replaced text replaced) :
    kind.Replaced replaced replaced := by
  induction hReplaced with
  | done => exact .done
  | other c _ _ hOther _ ih => exact .other c _ _ hOther ih
  | group _ _ _ number _ _ _ _ ih =>
      exact
        ih.append_others _
          (Numeral.not_alpha_of_mem_digits number)
  | rest letters _ _ hNotEmpty hLength hLetters hStops
      hText ih =>
      exact
        .rest letters _ _ hNotEmpty hLength hLetters
          (hText.stopsRun hStops) ih

theorem countP_digits
    (number : Nat) :
    (Numeral.digits number).countP Char.isAlpha = 0 := by
  rw [List.countP_eq_zero]
  intro c hChar
  rw [Numeral.not_alpha_of_mem_digits number c hChar]
  decide

/- There are no more letters than before. -/
theorem countP_le
    (hReplaced : kind.Replaced text replaced) :
    replaced.countP Char.isAlpha ≤
      text.countP Char.isAlpha := by
  induction hReplaced with
  | done => exact Nat.le_refl _
  | other c _ _ _ _ ih =>
      rw [List.countP_cons, List.countP_cons]
      omega
  | group letters _ _ number _ _ _ _ ih =>
      rw [List.countP_append, List.countP_append,
        countP_digits]
      omega
  | rest letters _ _ _ _ _ _ _ ih =>
      rw [List.countP_append, List.countP_append]
      omega

/-
  No group is left: it would be replaced once more, and the
  text would lose its letters.
-/
theorem not_isGroup
    (hReplaced : kind.Replaced text replaced)
    (before letters after : List Char) :
    ¬ IsGroup replaced before letters after := by
  intro hGroup
  rcases hReplaced.again.of_group hGroup with
    ⟨number, left, right, _, hText, hLeft, hRight⟩
  have hSize := congrArg (List.countP Char.isAlpha) hText
  rw [hGroup.text_eq] at hSize
  have hLetters :
      letters.countP Char.isAlpha = 3 := by
    rw [← hGroup.length_eq, List.countP_eq_length]
    exact hGroup.areLetters
  have hBefore := hLeft.countP_le
  have hAfter := hRight.countP_le
  simp only [List.countP_append, hLetters,
    countP_digits] at hSize
  omega

end Replaced

end Kind

end Field

end CronSchedule

------------------------------------------------------------
-- Texts With Known Aliases
------------------------------------------------------------

namespace CronSchedule

namespace Text

theorem EndsRun.append_left
    {front text : List Char}
    (hText : EndsRun text)
    (hNotEmpty : text ≠ []) :
    EndsRun (front ++ text) := by
  intro c hLast
  apply hText
  rw [List.getLast?_append_of_ne_nil _ hNotEmpty] at hLast
  exact hLast

/- Whole groups go on after whole groups. -/
theorem IsAligned.append
    {text rest : List Char}
    (hText : IsAligned text)
    (hRest : IsAligned rest) :
    IsAligned (text ++ rest) := by
  rcases hText with ⟨start, run, rfl, hEnds, hRun, hThree⟩
  rcases hRest with
    ⟨first, letters, rfl, hFirst, hLetters, hMore⟩
  by_cases hEmpty : first = []
  · refine
      ⟨start, run ++ letters, by simp [hEmpty], hEnds, ?_, ?_⟩
    · intro c hChar
      rcases List.mem_append.mp hChar with hIn | hIn
      · exact hRun c hIn
      · exact hLetters c hIn
    · rw [List.length_append]
      exact Nat.dvd_add hThree hMore
  · exact
      ⟨start ++ run ++ first, letters, by simp,
        hFirst.append_left hEmpty, hLetters, hMore⟩

namespace IsGroup

variable {text before letters after : List Char}

/- A group is one with more in front of it, up to a run. -/
theorem append_left
    (front : List Char)
    (hGroup : IsGroup text before letters after)
    (hAligned : IsAligned (front ++ before)) :
    IsGroup (front ++ text) (front ++ before) letters after :=
  { text_eq := by simp [hGroup.text_eq]
    length_eq := hGroup.length_eq
    areLetters := hGroup.areLetters
    isAligned := hAligned }

/- The rest of a run does not move the groups after it. -/
theorem isAligned_append_rest
    (rest : List Char)
    (hGroup : IsGroup text before letters after)
    (hStops : StopsRun text) :
    IsAligned (rest ++ before) := by
  rcases hGroup.isAligned with
    ⟨start, run, rfl, hEnds, hRun, hThree⟩
  have hNotEmpty : start ≠ [] := by
    rintro rfl
    have hText := hGroup.text_eq
    rw [List.nil_append] at hText
    cases run with
    | nil =>
        exact IsGroup.not_stopsRun hGroup hStops
    | cons c run =>
        have hLetter := hRun c List.mem_cons_self
        rw [hStops c (by rw [hText]; rfl)] at hLetter
        cases hLetter
  exact
    ⟨rest ++ start, run, by rw [List.append_assoc],
      hEnds.append_left hNotEmpty, hRun, hThree⟩

end IsGroup

end Text

namespace Field

namespace Kind

open Text

variable (kind : Kind)

/- A text whose groups all name numbers is replaced. -/
theorem exists_replaced
    (text : List Char)
    (hNamed :
      ∀ before letters after,
        IsGroup text before letters after →
          ∃ number, kind.Names letters number) :
    ∃ replaced, kind.Replaced text replaced := by
  induction hSize : text.length using Nat.strongRecOn
    generalizing text with
  | ind size ih =>
      cases start_of text with
      | nothing => exact ⟨[], .done⟩
      | other c later hOther =>
          rw [List.length_cons] at hSize
          rcases ih later.length (by omega) later
            (fun before letters after hGroup =>
              hNamed _ _ _
                (hGroup.append_left [c]
                  ((isAligned_other c hOther).append
                    hGroup.isAligned))) rfl with
            ⟨replaced, hLater⟩
          exact ⟨_, .other c later replaced hOther hLater⟩
      | group letters later hLength hLetters =>
          rw [List.length_append] at hSize
          have hAligned :=
            isAligned_group letters hLength hLetters
          rcases ih later.length (by omega) later
            (fun before others after hGroup =>
              hNamed _ _ _
                (hGroup.append_left letters
                  (hAligned.append hGroup.isAligned))) rfl
            with ⟨replaced, hLater⟩
          have hFirst :
              IsGroup (letters ++ later) [] letters later :=
            { text_eq := rfl
              length_eq := hLength
              areLetters := hLetters
              isAligned := isAligned_nil }
          rcases hNamed _ _ _ hFirst with ⟨number, hNumber⟩
          exact
            ⟨_, .group letters later replaced number hLength
              hLetters hNumber hLater⟩
      | rest letters later hNotEmpty hLength hLetters
          hStops =>
          have hPositive := List.length_pos_iff.mpr hNotEmpty
          rw [List.length_append] at hSize
          rcases ih later.length (by omega) later
            (fun before others after hGroup =>
              hNamed _ _ _
                (hGroup.append_left letters
                  (hGroup.isAligned_append_rest letters
                    hStops))) rfl with ⟨replaced, hLater⟩
          exact
            ⟨_, .rest letters later replaced hNotEmpty hLength
              hLetters hStops hLater⟩

end Kind

/- A text is read as the text with numbers for aliases. -/
theorem read_eq_of_replaced
    (kind : Kind)
    (text replaced : List Char)
    (hAliases : kind.hasAliases = true)
    (hReplaced : kind.Replaced text replaced) :
    read kind replaced = read kind text := by
  have hTrim :
      kind.Replaced (Text.trim text) (Text.trim replaced) :=
    (Kind.replaced_trim_iff text _).mpr
      ⟨replaced, hReplaced, rfl⟩
  have hLeaves (text numbered : List Char)
      (hText : kind.Replaced text numbered) :
      kind.Leaves text numbered := by
    unfold Kind.Leaves
    rw [if_pos hAliases]
    exact hText
  have hOnce :=
    (kind.replaceAliases_eq_ok_iff _ _).mpr
      (hLeaves _ _ hTrim)
  have hTwice :=
    (kind.replaceAliases_eq_ok_iff _ _).mpr
      (hLeaves _ _ hTrim.again)
  have hEmpty :
      Text.trim replaced = [] ↔ Text.trim text = [] := by
    constructor
    · exact hTrim.eq_nil
    · intro hNil
      rw [hNil, Kind.Replaced.nil_iff] at hTrim
      exact hTrim
  have hAll :
      Text.trim replaced = ['*'] ↔
        Text.trim text = ['*'] := by
    rw [← kind.leaves_singleton_iff (Text.trim text) '*' rfl]
    constructor
    · intro hSame
      rw [← hSame]
      exact hLeaves _ _ hTrim
    · intro hStar
      rw [← kind.replaceAliases_eq_ok_iff, hOnce,
        Except.ok.injEq] at hStar
      exact hStar
  unfold read
  dsimp only
  rw [hOnce, hTwice]
  simp only [hEmpty, hAll]

end Field

end CronSchedule
