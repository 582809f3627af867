import CronSchedule.Text.Blank

/-
  The words of a text have no blanks, and words that have
  none are found again between single spaces.

  Key definitions include:
    * `Text.AreBlank`
    * `Text.IsTrimmed`

  Main declarations:
    * `Text.not_blank_of_mem_words`
    * `Text.trim_eq_self`
    * `Text.trim_ne_nil`
    * `Text.exists_trim`
    * `Text.trim_append`
    * `Text.words_intercalate`
-/

------------------------------------------------------------
-- Blanks
------------------------------------------------------------

namespace CronSchedule

namespace Text

/- No word has a blank in it, or is empty. -/
theorem not_blank_of_mem_splitOnP
    (text word : List Char)
    (hWord : word ∈ text.splitOnP isBlank) :
    ∀ c ∈ word, isBlank c = false := by
  induction text generalizing word with
  | nil =>
      simp at hWord
      simp [hWord]
  | cons first rest ih =>
      rw [List.splitOnP_cons_eq_if_modifyHead] at hWord
      split at hWord
      · rcases List.mem_cons.mp hWord with rfl | hRest
        · simp
        · exact ih word hRest
      · rename_i hFirst
        cases hSplit : rest.splitOnP isBlank with
        | nil =>
            rw [hSplit] at hWord
            cases hWord
        | cons head tail =>
            rw [hSplit] at hWord ih
            rcases List.mem_cons.mp hWord with rfl | hTail
            · intro c hChar
              rcases List.mem_cons.mp hChar with rfl | hHead
              · simpa using hFirst
              · exact ih head List.mem_cons_self c hHead
            · exact
                ih word (List.mem_cons_of_mem head hTail)

theorem not_blank_of_mem_words
    (text word : List Char)
    (hWord : word ∈ words text) :
    word ≠ [] ∧ ∀ c ∈ word, isBlank c = false := by
  have hMember := List.mem_filter.mp hWord
  refine ⟨?_, not_blank_of_mem_splitOnP text word hMember.1⟩
  rintro rfl
  simp at hMember

theorem trimStart_eq_self
    (text : List Char)
    (hText : ∀ c ∈ text, isBlank c = false) :
    trimStart text = text := by
  cases text with
  | nil =>
      rfl
  | cons first rest =>
      unfold trimStart
      rw [List.dropWhile_cons_of_neg]
      rw [hText first List.mem_cons_self]
      decide

/- Nothing is trimmed from a text without blanks. -/
theorem trim_eq_self
    (text : List Char)
    (hText : ∀ c ∈ text, isBlank c = false) :
    trim text = text := by
  unfold trim
  rw [trimStart_eq_self text hText]
  change (trimStart text.reverse).reverse = text
  rw [trimStart_eq_self, List.reverse_reverse]
  intro c hChar
  exact hText c (List.mem_reverse.mp hChar)

/- A blank in front makes no difference. -/
theorem words_cons_of_isBlank
    (c : Char)
    (text : List Char)
    (hBlank : isBlank c = true) :
    words (c :: text) = words text := by
  unfold words
  rw [List.splitOnP_cons_eq_if_modifyHead, if_pos hBlank,
    List.filter_cons_of_neg (by simp)]

/- A text of blanks alone has no words. -/
theorem words_eq_nil
    (text : List Char)
    (hText : ∀ c ∈ text, isBlank c = true) :
    words text = [] := by
  induction text with
  | nil => rfl
  | cons first rest ih =>
      rw [List.forall_mem_cons] at hText
      rw [words_cons_of_isBlank first rest hText.1]
      exact ih hText.2

/- What is dropped as a whole is blank. -/
theorem all_blank_of_dropWhile_eq_nil
    (text : List Char)
    (hDrop : text.dropWhile isBlank = []) :
    ∀ c ∈ text, isBlank c = true := by
  have hAny := List.any_dropWhile (p := isBlank) (l := text)
  rw [hDrop, List.any_nil, eq_comm,
    Bool.not_eq_false'] at hAny
  exact List.all_eq_true.mp hAny

/- A text with words is not trimmed away. -/
theorem trim_ne_nil
    (text : List Char)
    (hWords : words text ≠ []) :
    trim text ≠ [] := by
  intro hTrim
  apply hWords
  apply words_eq_nil
  unfold trim trimEnd trimStart at hTrim
  rw [List.reverse_eq_nil_iff] at hTrim
  have hRest := all_blank_of_dropWhile_eq_nil _ hTrim
  intro c hChar
  rw [← List.takeWhile_append_dropWhile
    (p := isBlank) (l := text)] at hChar
  rcases List.mem_append.mp hChar with hStart | hEnd
  · exact List.all_eq_true.mp List.all_takeWhile c hStart
  · exact hRest c (List.mem_reverse.mpr hEnd)

end Text

end CronSchedule

------------------------------------------------------------
-- Trimmed Texts
------------------------------------------------------------

namespace CronSchedule

namespace Text

/- All characters are blank. -/
def AreBlank
    (text : List Char) : Prop :=
  ∀ c ∈ text, isBlank c = true

/- The text neither starts nor ends with a blank. -/
structure IsTrimmed
    (text : List Char) : Prop where
  head :
    ∀ c, text.head? = some c → isBlank c = false
  last :
    ∀ c, text.getLast? = some c → isBlank c = false

/- Only blanks are trimmed away. -/
theorem exists_trim
    (text : List Char) :
    ∃ start finish, text = start ++ trim text ++ finish ∧
      AreBlank start ∧ AreBlank finish := by
  refine
    ⟨text.takeWhile isBlank,
      ((trimStart text).reverse.takeWhile isBlank).reverse,
      ?_, ?_, ?_⟩
  · have hEnd :
        trim text ++
            ((trimStart text).reverse.takeWhile
              isBlank).reverse =
          trimStart text := by
      unfold trim trimEnd
      rw [← List.reverse_append,
        List.takeWhile_append_dropWhile,
        List.reverse_reverse]
    rw [List.append_assoc, hEnd]
    exact List.takeWhile_append_dropWhile.symm
  · exact List.all_eq_true.mp List.all_takeWhile
  · intro c hChar
    exact
      List.all_eq_true.mp List.all_takeWhile c
        (List.mem_reverse.mp hChar)

theorem isTrimmed_trim
    (text : List Char) :
    IsTrimmed (trim text) := by
  have hHead (rest : List Char)
      (c : Char)
      (hFirst :
        (rest.dropWhile isBlank).head? = some c) :
      isBlank c = false := by
    have hDrop := List.head?_dropWhile_not isBlank rest
    simpa [hFirst] using hDrop
  constructor
  · intro c hFirst
    apply hHead text
    have hPrefix : trim text <+: trimStart text := by
      unfold trim trimEnd
      exact
        List.reverse_suffix.mp
          (by
            rw [List.reverse_reverse]
            exact List.dropWhile_suffix isBlank)
    rcases hPrefix with ⟨rest, hRest⟩
    change (trimStart text).head? = some c
    rw [← hRest, List.head?_append, hFirst]
    rfl
  · intro c hLast
    unfold trim trimEnd at hLast
    rw [List.getLast?_reverse] at hLast
    exact hHead _ c hLast

/- A trimmed text is what is left between blanks. -/
theorem trim_append
    (start text finish : List Char)
    (hStart : AreBlank start)
    (hText : IsTrimmed text)
    (hFinish : AreBlank finish) :
    trim (start ++ text ++ finish) = text := by
  have hDrop (blanks rest : List Char)
      (hBlanks : AreBlank blanks)
      (hRest :
        ∀ c, rest.head? = some c → isBlank c = false) :
      (blanks ++ rest).dropWhile isBlank = rest := by
    rw [List.dropWhile_append_of_pos hBlanks]
    cases rest with
    | nil => rfl
    | cons c rest =>
        rw [List.dropWhile_cons_of_neg]
        rw [hRest c rfl]
        decide
  by_cases hEmpty : text = []
  · subst hEmpty
    have hNone :
        (start ++ [] ++ finish).dropWhile isBlank = [] := by
      rw [List.append_nil,
        List.dropWhile_append_of_pos hStart,
        ← List.append_nil finish]
      exact hDrop finish [] hFinish (by simp)
    unfold trim trimEnd trimStart
    rw [hNone]
    rfl
  · rcases List.exists_cons_of_ne_nil hEmpty with
      ⟨first, rest, hFirst⟩
    have hBegin :
        trimStart (start ++ text ++ finish) =
          text ++ finish := by
      unfold trimStart
      rw [List.append_assoc]
      apply hDrop start _ hStart
      intro c hHead
      apply hText.head
      rw [hFirst] at hHead ⊢
      exact hHead
    unfold trim trimEnd
    rw [hBegin, List.reverse_append, hDrop,
      List.reverse_reverse]
    · intro c hChar
      exact hFinish c (List.mem_reverse.mp hChar)
    · intro c hHead
      apply hText.last
      rw [List.head?_reverse] at hHead
      exact hHead

end Text

end CronSchedule

------------------------------------------------------------
-- Words Between Spaces
------------------------------------------------------------

namespace CronSchedule

namespace Text

/- A text without blanks is its own only word. -/
theorem words_eq_singleton
    (word : List Char)
    (hNotEmpty : word ≠ [])
    (hWord : ∀ c ∈ word, isBlank c = false) :
    words word = [word] := by
  unfold words
  rw [List.splitOnP_eq_singleton hWord]
  simp [hNotEmpty]

/- A word is cut off at the blank that follows it. -/
theorem words_append_cons
    (word rest : List Char)
    (blank : Char)
    (hBlank : isBlank blank = true)
    (hNotEmpty : word ≠ [])
    (hWord : ∀ c ∈ word, isBlank c = false) :
    words (word ++ blank :: rest) = word :: words rest := by
  unfold words
  rw [List.splitOnP_append_cons_of_forall_mem hWord blank
    hBlank rest]
  simp [hNotEmpty]

/- Words are found again between single spaces. -/
theorem words_intercalate
    (list : List (List Char))
    (hList :
      ∀ word ∈ list,
        word ≠ [] ∧ ∀ c ∈ word, isBlank c = false) :
    words ([' '].intercalate list) = list := by
  induction list with
  | nil =>
      rfl
  | cons word rest ih =>
      have hWord := hList word List.mem_cons_self
      have hRest :=
        ih fun other hOther =>
          hList other (List.mem_cons_of_mem word hOther)
      cases rest with
      | nil =>
          rw [List.intercalate_singleton]
          exact words_eq_singleton word hWord.1 hWord.2
      | cons next later =>
          rw [List.intercalate_cons_cons, List.append_assoc]
          rw [List.singleton_append,
            words_append_cons word _ ' ' (by decide)
              hWord.1 hWord.2,
            hRest]

end Text

end CronSchedule
