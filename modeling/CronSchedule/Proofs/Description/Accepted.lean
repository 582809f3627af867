import CronSchedule.Description.Basic
import CronSchedule.Proofs.Expression.RoundTrip

/-
  English descriptions of accepted texts.

  A description reads the fields of a text on its own, one
  after the other.  Of an accepted text it reads those of
  the expression, so that it depends on nothing else.

  Key definitions include:
    * `English.Serves`
    * `LooseFields.ofExpression`
    * `Expression.description`
    * `Phrase.IsTime`

  Main declarations:
    * `English.isLocale_iff`
    * `Expression.describe_of_parse`
    * `Expression.exists_description`
    * `Expression.describe_text`
-/

------------------------------------------------------------
-- English Locales
------------------------------------------------------------

namespace CronSchedule

namespace Text

/- Capital letters have the numbers 32 below the others. -/
theorem toNat_toLower
    (c : Char) :
    c.toLower.toNat =
      if 65 ≤ c.toNat ∧ c.toNat ≤ 90 then
        c.toNat + 32
      else
        c.toNat := by
  unfold Char.toLower
  split
  · rename_i hUpper
    have hFirst : 65 ≤ c.val.toNat :=
      UInt32.le_iff_toNat_le.mp hUpper.1
    have hLast : c.val.toNat ≤ 90 :=
      UInt32.le_iff_toNat_le.mp hUpper.2
    rw [← Char.toNat_val, if_pos ⟨hFirst, hLast⟩,
      Char.toNat_mk, UInt32.toNat_add]
    change (c.val.toNat + 32) % 4294967296 = _
    omega
  · rename_i hOther
    rw [if_neg]
    rintro ⟨hFirst, hLast⟩
    exact
      hOther
        ⟨UInt32.le_iff_toNat_le.mpr hFirst,
          UInt32.le_iff_toNat_le.mpr hLast⟩

/- A letter comes from itself or from its capital letter. -/
theorem toLower_eq_iff
    (c lower upper : Char)
    (hLower : 97 ≤ lower.toNat ∧ lower.toNat ≤ 122)
    (hUpper : upper.toNat + 32 = lower.toNat) :
    c.toLower = lower ↔ c = lower ∨ c = upper := by
  simp only [← Char.toNat_inj, toNat_toLower]
  split
  · omega
  · omega

end Text

namespace English

/- No locale, or one that starts with `en` in any case. -/
def Serves : Option String → Prop
| none => True
| some name =>
    ∃ first second rest,
      name.toList = first :: second :: rest ∧
        (first = 'e' ∨ first = 'E') ∧
        (second = 'n' ∨ second = 'N')

theorem isLocale_iff
    (locale : Option String) :
    isLocale locale = true ↔ Serves locale := by
  cases locale with
  | none => exact ⟨fun _ => trivial, fun _ => rfl⟩
  | some name =>
      unfold isLocale Serves
      dsimp only
      split
      · rename_i first second rest hName
        rw [hName, Bool.and_eq_true, beq_iff_eq,
          beq_iff_eq,
          Text.toLower_eq_iff first 'e' 'E' (by decide) rfl,
          Text.toLower_eq_iff second 'n' 'N' (by decide)
            rfl]
        constructor
        · intro hStart
          exact ⟨first, second, rest, rfl, hStart⟩
        · rintro ⟨_, _, _, hSame, hStart⟩
          cases hSame
          exact hStart
      · rename_i hShort
        constructor
        · intro hFalse
          cases hFalse
        · rintro ⟨first, second, rest, hName, _⟩
          exact absurd hName (hShort first second rest)

end English

end CronSchedule

------------------------------------------------------------
-- The Fields of Accepted Texts
------------------------------------------------------------

namespace CronSchedule

namespace LooseFields

/- All fields of an expression. -/
def ofExpression
    (expression : Expression) : LooseFields where
  second := some expression.second
  minute := some expression.minute
  hour := some expression.hour
  dayOfMonth := some expression.dayOfMonth
  month := some expression.month
  dayOfWeek := some expression.dayOfWeek
  year := some expression.year

/- Fields that can all be read are those of an expression. -/
theorem ofWords?_eq
    (words : List (List Char))
    (expression : Expression)
    (hRead :
      ∀ kind, Field.read kind (wordAt words kind) =
        .ok (expression.field kind)) :
    ofWords? words = some (ofExpression expression) := by
  have hField (kind : Field.Kind) :
      (fieldAt words kind).toOption =
        some (expression.field kind) := by
    unfold fieldAt
    rw [(Expression.parseChars_eq_ok_iff kind _ _).mpr
      (hRead kind)]
    rfl
  have hFields : ofWords words = ofExpression expression := by
    unfold ofWords
    simp only [hField]
    rfl
  unfold ofWords?
  rw [hFields]
  rfl

/-
  On its own, each word of an accepted text is read as in
  the expression.  An omitted year is read as an empty word.
-/
theorem exists_words_of_parse
    (text : String)
    (expression : Expression)
    (hParse : Expression.parse text = .ok expression) :
    ∃ words, words? text = some words ∧
      ofWords? words = some (ofExpression expression) := by
  rcases Expression.parse_cases text expression hParse with
    ⟨second, minute, hour, dayOfMonth, month, dayOfWeek,
      year, hWords, hFields⟩
  rcases (Expression.ofFields_eq_ok_iff _ _ _ _ _ _ _
      _).mp hFields with
    ⟨_, hSecond, hMinute, hHour, hDayOfMonth, hMonth,
      hDayOfWeek, hYear⟩
  have hRead (kind : Field.Kind) :
      Field.read kind
          (wordAt
            [second, minute, hour, dayOfMonth, month,
              dayOfWeek, year] kind) =
        .ok (expression.field kind) := by
    cases kind <;> assumption
  unfold words?
  rcases hWords with ⟨hWords, rfl⟩ | hWords
  · rw [hWords]
    refine ⟨_, rfl, ofWords?_eq _ expression ?_⟩
    intro kind
    rw [← hRead kind]
    cases kind <;> rfl
  · rw [hWords]
    exact ⟨_, rfl, ofWords?_eq _ expression hRead⟩

/- Accepted texts are not blank. -/
theorem trim_ne_nil_of_parse
    (text : String)
    (expression : Expression)
    (hParse : Expression.parse text = .ok expression) :
    Text.trim text.toList ≠ [] := by
  apply Text.trim_ne_nil
  rcases Expression.parse_cases text expression hParse with
    ⟨_, _, _, _, _, _, _, ⟨hWords, _⟩ | hWords, _⟩
  · rw [hWords]
    exact List.cons_ne_nil _ _
  · rw [hWords]
    exact List.cons_ne_nil _ _

end LooseFields

/- A blank text is not shown to the describer. -/
theorem Describer.describe_of_trim_eq_nil
    (text : String)
    (locale : Option String)
    (hTrim : Text.trim text.toList = []) :
    CronSchedule.describe text locale = noDescription := by
  unfold CronSchedule.describe describe
  rw [if_pos hTrim]
  rfl

/- Any other text is. -/
theorem Describer.describe_of_trim_ne_nil
    (text : String)
    (locale : Option String)
    (hTrim : Text.trim text.toList ≠ []) :
    CronSchedule.describe text locale =
      (nonempty? (English.describe? text locale)).getD
        noDescription := by
  have hAttempt :
      (english.attempt text locale).result =
        English.describe? text locale :=
    rfl
  unfold CronSchedule.describe describe
  rw [if_neg hTrim, Journal.result_bind, hAttempt]
  cases nonempty? (English.describe? text locale) with
  | none => rfl
  | some answer => rfl

namespace Expression

/- The phrases for the fields of an expression. -/
def phrases
    (expression : Expression) : List Phrase :=
  English.phrases (LooseFields.ofExpression expression)

/- The description that is the same for all texts. -/
def description
    (expression : Expression)
    (locale : Option String) : String :=
  let sentence? :=
    if English.isLocale locale then
      English.sentence? expression.phrases
    else
      none
  (Describer.nonempty? sentence?).getD noDescription

theorem describe_of_parse
    (text : String)
    (expression : Expression)
    (locale : Option String)
    (hParse : parse text = .ok expression) :
    describe text locale =
      expression.description locale := by
  rcases LooseFields.exists_words_of_parse text expression
    hParse with ⟨words, hWords, hFields⟩
  have hTrim :=
    LooseFields.trim_ne_nil_of_parse text expression hParse
  have hAnswer :
      English.describe? text locale =
        if English.isLocale locale then
          English.sentence? expression.phrases
        else
          none := by
    unfold English.describe?
    rw [hWords]
    simp only [Option.bind_eq_bind, Option.bind_some,
      hFields]
    rfl
  rw [Describer.describe_of_trim_ne_nil text locale hTrim,
    hAnswer]
  rfl

end Expression

end CronSchedule

------------------------------------------------------------
-- The Start of a Description
------------------------------------------------------------

namespace CronSchedule

namespace Phrase

/- The phrase names a time of day, or a part of it. -/
def IsTime : Phrase → Prop
| .atTime _ _ _ => True
| .every _ => True
| .atUnits _ _ => True
| _ => False

theorem text_atTime
    (hour minute second : Nat) :
    (atTime hour minute second).text =
      "at " ++ Numeral.padded 2 hour ++ ":" ++
        Numeral.padded 2 minute ++ ":" ++
        Numeral.padded 2 second :=
  rfl

theorem text_atUnits
    (unit : TimeUnit)
    (values : ValueSet) :
    (atUnits unit values).text =
      "at " ++ unit.name ++ pluralEnding values ++ " " ++
        enumerateSet numberText values :=
  rfl

/- Phrases for times start with one of two words. -/
theorem exists_text_of_isTime
    (phrase : Phrase)
    (hTime : phrase.IsTime) :
    ∃ rest, phrase.text = "at " ++ rest ∨
      phrase.text = "every " ++ rest := by
  cases phrase with
  | atTime hour minute second =>
      refine
        ⟨Numeral.padded 2 hour ++ ":" ++
            Numeral.padded 2 minute ++ ":" ++
            Numeral.padded 2 second, Or.inl ?_⟩
      rw [text_atTime]
      simp only [String.append_assoc]
  | every unit => exact ⟨unit.name, Or.inr rfl⟩
  | atUnits unit values =>
      refine
        ⟨unit.name ++ pluralEnding values ++ " " ++
            enumerateSet numberText values, Or.inl ?_⟩
      rw [text_atUnits]
      simp only [String.append_assoc]
  | _ => cases hTime

end Phrase

namespace English

open Phrase

/- The seconds are told first, if not as part of a time. -/
theorem exists_timePhrases
    (fields : LooseFields)
    (seconds : ValueSet)
    (hSecond : fields.second = some (.fixed seconds)) :
    ∃ first later, timePhrases fields = first :: later ∧
      first.IsTime := by
  unfold timePhrases
  split
  · exact ⟨_, [], rfl, trivial⟩
  · unfold unitPhrases unitPhrase
    simp only [hSecond, Option.bind_some, Field.values?]
    split
    · exact ⟨.every .second, _, rfl, trivial⟩
    · exact ⟨.atUnits .second seconds, _, rfl, trivial⟩

/- A sentence starts as its first phrase does. -/
theorem exists_sentence?_cons
    (first : Phrase)
    (later : List Phrase) :
    ∃ rest, sentence? (first :: later) =
      some (capitalize (first.text ++ rest)) := by
  unfold sentence?
  cases later with
  | nil => exact ⟨"", by simp⟩
  | cons second later =>
      refine
        ⟨", " ++
            ", ".intercalate
              ((second :: later).map Phrase.text), ?_⟩
      simp only [List.map_cons,
        String.intercalate_cons_cons, String.append_assoc]

/- So the sentence for a time has one of two first words. -/
theorem exists_sentence?_of_isTime
    (first : Phrase)
    (later : List Phrase)
    (hTime : first.IsTime) :
    ∃ rest, sentence? (first :: later) =
        some ("At " ++ rest) ∨
      sentence? (first :: later) =
        some ("Every " ++ rest) := by
  rcases exists_sentence?_cons first later with
    ⟨rest, hSentence⟩
  rcases exists_text_of_isTime first hTime with
    ⟨text, hText | hText⟩
  · refine ⟨text ++ rest, Or.inl ?_⟩
    rw [hSentence, hText]
    unfold capitalize
    simp [← String.toList_inj]
  · refine ⟨text ++ rest, Or.inr ?_⟩
    rw [hSentence, hText]
    unfold capitalize
    simp [← String.toList_inj]

end English

namespace Expression

variable (expression : Expression)

/- The phrases for a time come first, and there are some. -/
theorem exists_phrases
    (hWellFormed : expression.WellFormed) :
    ∃ first later, expression.phrases = first :: later ∧
      first.IsTime := by
  rcases hWellFormed.exists_fixed .second (by simp) with
    ⟨seconds, (hSeconds : expression.second = _), _⟩
  rcases English.exists_timePhrases
    (LooseFields.ofExpression expression) seconds
    (congrArg some hSeconds) with
    ⟨first, later, hPhrases, hTime⟩
  unfold phrases English.phrases
  rw [hPhrases]
  exact ⟨first, _, rfl, hTime⟩

/- Where English serves, the description is a sentence. -/
theorem exists_description
    (locale : Option String)
    (hWellFormed : expression.WellFormed)
    (hLocale : English.Serves locale) :
    English.sentence? expression.phrases =
        some (expression.description locale) ∧
      ∃ rest,
        expression.description locale = "At " ++ rest ∨
          expression.description locale =
            "Every " ++ rest := by
  rcases exists_phrases expression hWellFormed with
    ⟨first, later, hPhrases, hTime⟩
  unfold description
  rw [if_pos ((English.isLocale_iff locale).mpr hLocale),
    hPhrases]
  rcases English.exists_sentence?_of_isTime first later
    hTime with ⟨rest, hSentence | hSentence⟩
  · have hNotEmpty : "At " ++ rest ≠ "" := by
      simp [← String.toList_inj]
    rw [hSentence]
    simp [Describer.nonempty?, hNotEmpty]
  · have hNotEmpty : "Every " ++ rest ≠ "" := by
      simp [← String.toList_inj]
    rw [hSentence]
    simp [Describer.nonempty?, hNotEmpty]

/-
  The canonical text of an accepted text, and all others
  that denote the same, have the same description.  Where
  English serves, it is a sentence that starts with a time.
-/
theorem describe_text
    (text : String)
    (expression : Expression)
    (locale : Option String)
    (hParse : parse text = .ok expression) :
    describe text locale = describe expression.text locale ∧
      (∀ other, parse other = .ok expression →
        describe other locale = describe text locale) ∧
      (English.Serves locale →
        describe text locale ≠ noDescription ∧
          ∃ rest,
            describe text locale = "At " ++ rest ∨
              describe text locale = "Every " ++ rest) := by
  have hWellFormed :=
    wellFormed_of_parse text expression hParse
  have hText :=
    describe_of_parse text expression locale hParse
  have hCanonical :=
    describe_of_parse expression.text expression locale
      (parse_text expression hWellFormed)
  refine ⟨by rw [hText, hCanonical], ?_, ?_⟩
  · intro other hOther
    rw [hText, describe_of_parse other expression locale
      hOther]
  · intro hLocale
    rcases exists_description expression locale hWellFormed
      hLocale with ⟨_, rest, hStart⟩
    rw [hText]
    refine ⟨?_, rest, hStart⟩
    intro hLack
    rw [hLack] at hStart
    unfold noDescription at hStart
    simp [← String.toList_inj] at hStart

/- An English name of a locale. -/
def britishLocale : Option String := some "EN-gb"

theorem serves_britishLocale :
    English.Serves britishLocale :=
  ⟨'E', 'N', ['-', 'g', 'b'], rfl, Or.inr rfl, Or.inr rfl⟩

theorem describe_text_firstMondays :
    describe "  0 0/30 9 ? dec,JAN Mon#1" britishLocale =
        describe firstMondays.text britishLocale ∧
      describe firstMondays.text britishLocale ≠
        noDescription := by
  have hText :=
    describe_text "  0 0/30 9 ? dec,JAN Mon#1" firstMondays
      britishLocale rfl
  refine ⟨hText.1, ?_⟩
  rw [← hText.1]
  exact (hText.2.2 serves_britishLocale).1

end Expression

end CronSchedule
