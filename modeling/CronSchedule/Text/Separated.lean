/-
  Cutting a text at a separator.

  Key definitions include:
    * `Text.splitFirst?`
    * `Text.stripStart?`
    * `Text.stripLast?`

  Each of them is pinned down by the way its parts make up
  the text again:
    * `Text.splitFirst?_eq_some_iff`
    * `Text.splitFirst?_eq_none_iff`
    * `Text.stripStart?_eq_some_iff`
    * `Text.stripLast?_eq_some_iff`
-/

------------------------------------------------------------
-- Separators
------------------------------------------------------------

namespace CronSchedule

namespace Text

/-
  The text before and the text after the first occurrence of
  the separator, if there is one.
-/
def splitFirst?
    (separator : Char)
    (text : List Char) : Option (List Char × List Char) :=
  match text.dropWhile (· != separator) with
  | [] => none
  | _ :: rest =>
      some (text.takeWhile (· != separator), rest)

/- What follows the given beginning of the text. -/
def stripStart?
    (start : List Char)
    (text : List Char) : Option (List Char) :=
  match start, text with
  | [], rest => some rest
  | _ :: _, [] => none
  | expected :: start, c :: text =>
      if c = expected then
        stripStart? start text
      else
        none

/- What precedes the given last character of the text. -/
def stripLast?
    (last : Char)
    (text : List Char) : Option (List Char) :=
  if text.getLast? = some last then
    some text.dropLast
  else
    none

end Text

end CronSchedule

------------------------------------------------------------
-- Parts and Wholes
------------------------------------------------------------

namespace CronSchedule

namespace Text

/- A separator that does not occur cuts nothing off. -/
theorem splitFirst?_eq_none_iff
    (separator : Char)
    (text : List Char) :
    splitFirst? separator text = none ↔
      separator ∉ text := by
  induction text with
  | nil =>
      simp [splitFirst?]
  | cons c rest ih =>
      by_cases hEq : c = separator
      · simp [splitFirst?, hEq]
      · have hNe : separator ≠ c := fun h => hEq h.symm
        rw [List.mem_cons, not_or]
        simp only [splitFirst?, List.dropWhile_cons] at ih ⊢
        simp only [bne_iff_ne, ne_eq, hEq,
          not_false_eq_true, if_true]
        cases hDrop :
            rest.dropWhile (· != separator) with
        | nil =>
            simp only [hDrop, true_iff] at ih
            simp [hNe, ih]
        | cons first later =>
            simp only [hDrop, reduceCtorEq, false_iff,
              Classical.not_not] at ih
            simp [ih]

/-
  The first part lacks the separator, and both parts make up
  the text again.
-/
theorem splitFirst?_eq_some_iff
    (separator : Char)
    (text before after : List Char) :
    splitFirst? separator text = some (before, after) ↔
      text = before ++ separator :: after ∧
        separator ∉ before := by
  induction text generalizing before with
  | nil =>
      simp [splitFirst?]
  | cons c rest ih =>
      by_cases hEq : c = separator
      · subst hEq
        cases before with
        | nil =>
            simp [splitFirst?]
        | cons first later =>
            simp only [splitFirst?, List.dropWhile_cons,
              List.takeWhile_cons]
            simp
            intro hFirst _ hNe
            exact absurd hFirst hNe
      · have hNe : separator ≠ c := fun h => hEq h.symm
        cases before with
        | nil =>
            simp only [splitFirst?, List.dropWhile_cons,
              List.takeWhile_cons]
            simp [hEq]
            split <;> simp
        | cons first later =>
            have hStep :
                splitFirst? separator (c :: rest) =
                    some (first :: later, after) ↔
                  c = first ∧
                    splitFirst? separator rest =
                      some (later, after) := by
              simp only [splitFirst?, List.dropWhile_cons,
                List.takeWhile_cons]
              simp [hEq]
              split <;> simp [and_assoc]
            rw [hStep, ih later]
            simp only [List.cons_append, List.cons.injEq,
              List.mem_cons, not_or]
            constructor
            · rintro ⟨rfl, hRest, hMem⟩
              exact ⟨⟨rfl, hRest⟩, hNe, hMem⟩
            · rintro ⟨⟨hFirst, hRest⟩, _, hMem⟩
              exact ⟨hFirst, hRest, hMem⟩

/- The start and what follows it make up the text again. -/
theorem stripStart?_eq_some_iff
    (start text rest : List Char) :
    stripStart? start text = some rest ↔
      text = start ++ rest := by
  induction start generalizing text with
  | nil =>
      simp [stripStart?]
  | cons expected start ih =>
      cases text with
      | nil =>
          simp [stripStart?]
      | cons c text =>
          by_cases hEq : c = expected
          · simp [stripStart?, hEq, ih]
          · simp [stripStart?, hEq]

/-
  What precedes the last character, and that character, make
  up the text again.
-/
theorem stripLast?_eq_some_iff
    (last : Char)
    (text rest : List Char) :
    stripLast? last text = some rest ↔
      text = rest ++ [last] := by
  unfold stripLast?
  constructor
  · intro hStrip
    split at hStrip
    · rename_i hLast
      cases hStrip
      have hNe : text ≠ [] := by
        intro hNil
        simp [hNil] at hLast
      rw [List.getLast?_eq_some_getLast hNe] at hLast
      rw [← Option.some.inj hLast,
        List.dropLast_concat_getLast hNe]
    · cases hStrip
  · intro hText
    simp [hText]

end Text

end CronSchedule
