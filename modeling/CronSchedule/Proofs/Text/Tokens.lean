import CronSchedule.Proofs.Text.Words

/-
  The words of a text are its maximal runs of characters
  that are not blank, in their order.

  Key definitions include:
    * `Text.Tokens`

  Main declarations:
    * `Text.words_eq_iff`
-/

------------------------------------------------------------
-- Maximal Runs
------------------------------------------------------------

namespace CronSchedule

namespace Text

/- The text does not go on with a run. -/
def EndsWord
    (text : List Char) : Prop :=
  ∀ c, text.head? = some c → isBlank c = true

/- The maximal runs of the text, from its start. -/
inductive Tokens : List Char → List (List Char) → Prop where
/- Nothing is left of the text. -/
| done : Tokens [] []
/- A blank belongs to no run. -/
| blank
    (c : Char)
    (text : List Char)
    (tokens : List (List Char))
    (hBlank : isBlank c = true)
    (hText : Tokens text tokens) :
    Tokens (c :: text) tokens
/- A run ends at a blank, or with the text. -/
| token
    (word text : List Char)
    (tokens : List (List Char))
    (hNotEmpty : word ≠ [])
    (hWord : ∀ c ∈ word, isBlank c = false)
    (hEnds : EndsWord text)
    (hText : Tokens text tokens) :
    Tokens (word ++ text) (word :: tokens)

/- Every text has its runs. -/
theorem exists_tokens
    (text : List Char) :
    ∃ tokens, Tokens text tokens := by
  induction text with
  | nil => exact ⟨[], .done⟩
  | cons c text ih =>
      rcases ih with ⟨tokens, hText⟩
      cases hBlank : isBlank c with
      | true =>
          exact ⟨tokens, .blank c text tokens hBlank hText⟩
      | false =>
          have hNew
              (hEnds : EndsWord text) :
              Tokens ([c] ++ text) ([c] :: tokens) :=
            .token [c] text tokens (List.cons_ne_nil c [])
              (by simp [hBlank]) hEnds hText
          cases hText with
          | done => exact ⟨[[c]], hNew (by simp [EndsWord])⟩
          | blank d rest _ hFirst =>
              exact
                ⟨[c] :: tokens,
                  hNew (by simp [EndsWord, hFirst])⟩
          | token word rest tokens _ hWord hEnds hRest =>
              exact
                ⟨(c :: word) :: tokens,
                  .token (c :: word) rest tokens
                    (List.cons_ne_nil c word)
                    (List.forall_mem_cons.mpr
                      ⟨hBlank, hWord⟩) hEnds hRest⟩

end Text

end CronSchedule

------------------------------------------------------------
-- Words Are Maximal Runs
------------------------------------------------------------

namespace CronSchedule

namespace Text

/- A run in front is the first word. -/
theorem words_append_of_endsWord
    (word text : List Char)
    (hNotEmpty : word ≠ [])
    (hWord : ∀ c ∈ word, isBlank c = false)
    (hEnds : EndsWord text) :
    words (word ++ text) = word :: words text := by
  cases text with
  | nil =>
      rw [List.append_nil,
        words_eq_singleton word hNotEmpty hWord]
      rfl
  | cons c text =>
      have hBlank := hEnds c rfl
      rw [words_append_cons word text c hBlank hNotEmpty
          hWord,
        words_cons_of_isBlank c text hBlank]

theorem words_of_tokens
    (text : List Char)
    (tokens : List (List Char))
    (hTokens : Tokens text tokens) :
    words text = tokens := by
  induction hTokens with
  | done => rfl
  | blank c text tokens hBlank _ ih =>
      rw [words_cons_of_isBlank c text hBlank, ih]
  | token word text tokens hNotEmpty hWord hEnds _ ih =>
      rw [words_append_of_endsWord word text hNotEmpty hWord
        hEnds, ih]

/- The words of a text are its runs, and nothing else is. -/
theorem words_eq_iff
    (text : List Char)
    (tokens : List (List Char)) :
    words text = tokens ↔ Tokens text tokens := by
  constructor
  · rintro rfl
    rcases exists_tokens text with ⟨tokens, hTokens⟩
    rw [words_of_tokens text tokens hTokens]
    exact hTokens
  · exact words_of_tokens text tokens

end Text

end CronSchedule
