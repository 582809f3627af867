import CronSchedule.Proofs.Description.Meaning
import CronSchedule.Proofs.Description.Wording

/-
  A description tells the phrases it is made of, and so what
  they say.  Expressions with the same English description
  match the same instants.

  Key definitions include:
    * `Phrase.laterLetters`
    * `Phrase.AreOrdered`

  Main declarations:
    * `Phrase.laterLetters_inj`
    * `English.sentence?_inj`
    * `Expression.phrases_eq_of_description_eq`
    * `Expression.matches_iff_of_describe_eq`
-/

------------------------------------------------------------
-- Phrases in a Row
------------------------------------------------------------

namespace CronSchedule

namespace Phrase

/- The phrases that follow the first one, after commas. -/
def laterLetters : List Phrase → List Char
| [] => []
| next :: later =>
    ", ".toList ++ (next.letters ++ laterLetters later)

theorem toList_intercalate_text
    (first : Phrase)
    (later : List Phrase) :
    (", ".intercalate
        ((first :: later).map Phrase.text)).toList =
      first.letters ++ laterLetters later := by
  induction later generalizing first with
  | nil =>
      rw [List.map_singleton, String.intercalate_singleton,
        toList_text]
      exact (List.append_nil _).symm
  | cons second later ih =>
      rw [List.map_cons, List.map_cons,
        String.intercalate_cons_cons, ← List.map_cons,
        String.toList_append, String.toList_append, ih,
        toList_text, List.append_assoc]
      rfl

/- The phrases fit, and only the last one may name years. -/
structure AreOrdered
    (phrases : List Phrase) : Prop where
  fits : ∀ phrase ∈ phrases, phrase.Fits
  yearsLast :
    phrases.Pairwise fun earlier _ => earlier.form ≠ .inYears

theorem AreOrdered.tail
    {first : Phrase}
    {later : List Phrase}
    (hOrdered : AreOrdered (first :: later)) :
    AreOrdered later :=
  ⟨(List.forall_mem_cons.mp hOrdered.fits).2,
    (List.pairwise_cons.mp hOrdered.yearsLast).2⟩

/- No phrase starts with a capital letter. -/
theorem exists_letters_cons
    (phrase : Phrase)
    (hFits : phrase.Fits) :
    ∃ c rest, phrase.letters = c :: rest ∧
      c.isUpper = false := by
  cases phrase with
  | beforeLastDay offset =>
      rcases isWording_numberText.first offset trivial with
        ⟨c, word, hWord, hFirst⟩
      have hAlpha :=
        (Numeral.not_blank_of_isDigit c hFirst).2
      unfold Char.isAlpha at hAlpha
      dsimp only [letters]
      rw [hWord, List.cons_append]
      exact
        ⟨c, _, rfl, (Bool.or_eq_false_iff.mp hAlpha).1⟩
  | atTime _ _ _ | every _ | atUnits _ _ =>
      exact ⟨_, _, rfl, rfl⟩
  | _ =>
      exact ⟨'o', _, rfl, rfl⟩

theorem mayFollow_laterLetters
    (phrase : Phrase)
    (later : List Phrase)
    (hOrdered : AreOrdered (phrase :: later)) :
    phrase.MayFollow (laterLetters later) := by
  cases later with
  | nil => exact Or.inl rfl
  | cons next later =>
      right
      constructor
      · exact
          (List.pairwise_cons.mp hOrdered.yearsLast).1 next
            List.mem_cons_self
      · rcases exists_letters_cons next
          (hOrdered.fits next (by simp)) with
          ⟨c, rest, hLetters, hStart⟩
        refine ⟨c, rest ++ laterLetters later, ?_, hStart⟩
        change
          ", ".toList ++
            (next.letters ++ laterLetters later) = _
        rw [hLetters]
        rfl

/- The phrases are found again, one after the other. -/
theorem laterLetters_inj
    (left right : List Phrase)
    (hLeft : AreOrdered left)
    (hRight : AreOrdered right)
    (hSame : laterLetters left = laterLetters right) :
    left = right := by
  -- Each phrase is cut off with all later ones as the rest,
  -- which is why the order has to hold for the whole list.
  induction left generalizing right with
  | nil =>
      cases right with
      | nil => rfl
      | cons other more => cases hSame
  | cons next later ih =>
      cases right with
      | nil => cases hSame
      | cons other more =>
          rcases letters_append_inj next other _ _
            (hLeft.fits next List.mem_cons_self)
            (hRight.fits other List.mem_cons_self)
            (mayFollow_laterLetters next later hLeft)
            (mayFollow_laterLetters other more hRight)
            (List.append_cancel_left hSame) with
            ⟨rfl, hLater⟩
          rw [ih more hLeft.tail hRight.tail hLater]

end Phrase

end CronSchedule

------------------------------------------------------------
-- Sentences
------------------------------------------------------------

namespace CronSchedule

namespace Phrase

/- A phrase for a time starts with one of two letters. -/
theorem exists_letters_of_isTime
    (phrase : Phrase)
    (hTime : phrase.IsTime) :
    ∃ rest, phrase.letters = 'a' :: rest ∨
      phrase.letters = 'e' :: rest := by
  cases phrase with
  | every unit => exact ⟨_, Or.inr rfl⟩
  | atTime _ _ _ | atUnits _ _ => exact ⟨_, Or.inl rfl⟩
  | _ => cases hTime

end Phrase

namespace English

open Phrase

theorem toList_capitalize
    (text : String)
    (first : Char)
    (rest : List Char)
    (hText : text.toList = first :: rest) :
    (capitalize text).toList = first.toUpper :: rest := by
  unfold capitalize
  rw [hText]
  exact String.toList_ofList

/- Two lowercase letters have different capital letters. -/
theorem capitalize_inj
    (left right : String)
    (hLeft :
      ∃ rest, left.toList = 'a' :: rest ∨
        left.toList = 'e' :: rest)
    (hRight :
      ∃ rest, right.toList = 'a' :: rest ∨
        right.toList = 'e' :: rest)
    (hSame : capitalize left = capitalize right) :
    left = right := by
  rw [← String.toList_inj] at hSame ⊢
  rcases hLeft with ⟨rest, hLeft | hLeft⟩ <;>
    rcases hRight with ⟨others, hRight | hRight⟩ <;>
    rw [toList_capitalize left _ _ hLeft,
      toList_capitalize right _ _ hRight] at hSame <;>
    rw [hLeft, hRight]
  · rw [(List.cons.inj hSame).2]
  · exact absurd (List.cons.inj hSame).1 (by decide)
  · exact absurd (List.cons.inj hSame).1 (by decide)
  · rw [(List.cons.inj hSame).2]

/- A sentence tells its phrases. -/
theorem sentence?_inj
    (left right : List Phrase)
    (hLeft :
      AreOrdered left ∧
        ∃ first later, left = first :: later ∧ first.IsTime)
    (hRight :
      AreOrdered right ∧
        ∃ first later, right = first :: later ∧
          first.IsTime)
    (hSame : sentence? left = sentence? right) :
    left = right := by
  rcases hLeft with
    ⟨hLeft, first, later, rfl, hFirst⟩
  rcases hRight with ⟨hRight, other, more, rfl, hOther⟩
  have hStart (phrase : Phrase) (next : List Phrase)
      (hTime : phrase.IsTime) :
      ∃ rest,
        (", ".intercalate
            ((phrase :: next).map text)).toList =
          'a' :: rest ∨
        (", ".intercalate
            ((phrase :: next).map text)).toList =
          'e' :: rest := by
    rw [toList_intercalate_text]
    rcases exists_letters_of_isTime phrase hTime with
      ⟨rest, hLetters | hLetters⟩
    · rw [hLetters]
      exact ⟨_, Or.inl rfl⟩
    · rw [hLetters]
      exact ⟨_, Or.inr rfl⟩
  have hText :=
    capitalize_inj _ _ (hStart first later hFirst)
      (hStart other more hOther) (Option.some.inj hSame)
  rw [← String.toList_inj, toList_intercalate_text,
    toList_intercalate_text] at hText
  exact
    laterLetters_inj _ _ hLeft hRight
      (congrArg (", ".toList ++ ·) hText)

end English

end CronSchedule

------------------------------------------------------------
-- The Phrases of Expressions
------------------------------------------------------------

namespace CronSchedule

namespace English

open Phrase

/- The phrase fits, and another one may follow. -/
def IsEarly
    (phrase : Phrase) : Prop :=
  phrase.Fits ∧ phrase.form ≠ .inYears

theorem isEarly_of_mem_setPhrase
    (kind : Field.Kind)
    (toPhrase : ValueSet → Phrase)
    (values : ValueSet)
    (phrase : Phrase)
    (hEarly : IsEarly (toPhrase values))
    (hPhrase : phrase ∈ setPhrase kind toPhrase values) :
    IsEarly phrase := by
  unfold setPhrase at hPhrase
  split at hPhrase
  · cases hPhrase
  · rw [List.mem_singleton.mp hPhrase]
    exact hEarly

theorem isEarly_of_mem_unitPhrase
    (kind : Field.Kind)
    (unit : TimeUnit)
    (values : ValueSet)
    (finerIsFull : Bool)
    (phrase : Phrase)
    (hValues : kind.AllowsSet values)
    (hPhrase :
      phrase ∈
        (unitPhrase kind unit (some (.fixed values))
          finerIsFull).1) :
    IsEarly phrase := by
  unfold unitPhrase at hPhrase
  simp only [Option.bind_some, Field.values?] at hPhrase
  split at hPhrase
  · split at hPhrase
    · cases hPhrase
    · rw [List.mem_singleton.mp hPhrase]
      refine ⟨trivial, ?_⟩
      intro hForm
      cases hForm
  · rw [List.mem_singleton.mp hPhrase]
    refine ⟨hValues.1, ?_⟩
    intro hForm
    cases hForm

theorem isEarly_of_mem_timePhrases
    (expression : Expression)
    (phrase : Phrase)
    (hWellFormed : expression.WellFormed)
    (hPhrase :
      phrase ∈
        timePhrases
          (LooseFields.ofExpression expression)) :
    IsEarly phrase := by
  rcases hWellFormed.exists_fixed .second (by simp) with
    ⟨seconds, (hSecond : expression.second = _), hSeconds⟩
  rcases hWellFormed.exists_fixed .minute (by simp) with
    ⟨minutes, (hMinute : expression.minute = _), hMinutes⟩
  rcases hWellFormed.exists_fixed .hour (by simp) with
    ⟨hours, (hHour : expression.hour = _), hHours⟩
  unfold timePhrases unitPhrases LooseFields.ofExpression
    at hPhrase
  rw [hSecond, hMinute, hHour] at hPhrase
  dsimp only at hPhrase
  split at hPhrase
  · rw [List.mem_singleton.mp hPhrase]
    exact ⟨trivial, nofun⟩
  · rcases List.mem_append.mp hPhrase with
      hPhrase | hPhrase
    · rcases List.mem_append.mp hPhrase with
        hPhrase | hPhrase
      · exact
          isEarly_of_mem_unitPhrase .second _ _ _ phrase
            hSeconds hPhrase
      · exact
          isEarly_of_mem_unitPhrase .minute _ _ _ phrase
            hMinutes hPhrase
    · exact
        isEarly_of_mem_unitPhrase .hour _ _ _ phrase hHours
          hPhrase

theorem isEarly_of_mem_dayOfMonthPhrase
    (field : Field)
    (phrase : Phrase)
    (hFits : field.Fits .dayOfMonth)
    (hPhrase : phrase ∈ dayOfMonthPhrase field) :
    IsEarly phrase := by
  cases field with
  | fixed days =>
      exact
        isEarly_of_mem_setPhrase .dayOfMonth .onDays days
          phrase
          ⟨hFits.1, nofun⟩ hPhrase
  | lastDay | nearestWorkday _ | lastWorkday =>
      rw [List.mem_singleton.mp hPhrase]
      exact ⟨trivial, nofun⟩
  | lastDayOffset offset =>
      cases offset with
      | zero =>
          rw [List.mem_singleton.mp hPhrase]
          exact ⟨trivial, nofun⟩
      | succ offset =>
          rw [List.mem_singleton.mp hPhrase]
          exact ⟨trivial, nofun⟩
  | _ => cases hPhrase

theorem isEarly_of_mem_dayOfWeekPhrase
    (field : Field)
    (phrase : Phrase)
    (hFits : field.Fits .dayOfWeek)
    (hPhrase : phrase ∈ dayOfWeekPhrase field) :
    IsEarly phrase := by
  cases field with
  | fixed weekdays =>
      exact
        isEarly_of_mem_setPhrase .dayOfWeek .onWeekdays
          weekdays phrase
          ⟨hFits, nofun⟩ hPhrase
  | lastWeekday _ | nthWeekday _ _ =>
      rw [List.mem_singleton.mp hPhrase]
      exact ⟨hFits, nofun⟩
  | _ => cases hPhrase

theorem isEarly_of_mem_monthPhrase
    (field : Field)
    (phrase : Phrase)
    (hFits : field.Fits .month)
    (hPhrase : phrase ∈ monthPhrase field) :
    IsEarly phrase := by
  cases field with
  | fixed months =>
      exact
        isEarly_of_mem_setPhrase .month .inMonths months
          phrase
          ⟨hFits, nofun⟩ hPhrase
  | _ => cases hPhrase

/- There is at most one phrase for the years. -/
theorem areOrdered_yearPhrase
    (field : Field)
    (hFits : field.Fits .year) :
    AreOrdered (yearPhrase field) := by
  have hNil : AreOrdered [] := ⟨nofun, List.Pairwise.nil⟩
  cases field with
  | fixed years =>
      unfold yearPhrase setPhrase
      dsimp only
      split
      · exact hNil
      · refine ⟨?_, List.pairwise_singleton _ _⟩
        intro phrase hPhrase
        rw [List.mem_singleton.mp hPhrase]
        exact hFits.1
  | _ => exact hNil

/- Early phrases may stand before others in order. -/
theorem areOrdered_append
    (early later : List Phrase)
    (hEarly : ∀ phrase ∈ early, IsEarly phrase)
    (hLater : AreOrdered later) :
    AreOrdered (early ++ later) := by
  constructor
  · intro phrase hPhrase
    rcases List.mem_append.mp hPhrase with hMem | hMem
    · exact (hEarly phrase hMem).1
    · exact hLater.fits phrase hMem
  · rw [List.pairwise_append]
    refine ⟨?_, hLater.yearsLast, ?_⟩
    · exact
        List.pairwise_of_forall_mem_list
          fun phrase hPhrase _ _ =>
            (hEarly phrase hPhrase).2
    · intro phrase hPhrase _ _
      exact (hEarly phrase hPhrase).2

end English

namespace Expression

open Phrase

theorem areOrdered_phrases
    (expression : Expression)
    (hWellFormed : expression.WellFormed) :
    AreOrdered expression.phrases := by
  rw [phrases_eq]
  apply English.areOrdered_append
  · intro phrase hPhrase
    simp only [List.mem_append] at hPhrase
    rcases hPhrase with ((hTime | hDay) | hWeekday) | hMonth
    · exact
        English.isEarly_of_mem_timePhrases expression phrase
          hWellFormed hTime
    · exact
        English.isEarly_of_mem_dayOfMonthPhrase _ phrase
          (hWellFormed.fits .dayOfMonth) hDay
    · exact
        English.isEarly_of_mem_dayOfWeekPhrase _ phrase
          (hWellFormed.fits .dayOfWeek) hWeekday
    · exact
        English.isEarly_of_mem_monthPhrase _ phrase
          (hWellFormed.fits .month) hMonth
  · exact
      English.areOrdered_yearPhrase _
        (hWellFormed.fits .year)

/- An English description tells all phrases. -/
theorem phrases_eq_of_description_eq
    (left right : Expression)
    (locale : Option String)
    (hLeft : left.WellFormed)
    (hRight : right.WellFormed)
    (hLocale : English.Serves locale)
    (hSame :
      left.description locale = right.description locale) :
    left.phrases = right.phrases := by
  apply
    English.sentence?_inj _ _
      ⟨areOrdered_phrases left hLeft,
        exists_phrases left hLeft⟩
      ⟨areOrdered_phrases right hRight,
        exists_phrases right hRight⟩
  rw [(exists_description left locale hLeft hLocale).1,
    (exists_description right locale hRight hLocale).1,
    hSame]

/-
  Accepted texts with the same English description denote
  expressions that match the same instants of the years that
  can be named.
-/
theorem matches_iff_of_describe_eq
    (leftText rightText : String)
    (left right : Expression)
    (locale : Option String)
    (instant : Instant)
    (hLeft : parse leftText = .ok left)
    (hRight : parse rightText = .ok right)
    (hLocale : English.Serves locale)
    (hSame :
      describe leftText locale = describe rightText locale)
    (hFirst : 1970 ≤ instant.date.year)
    (hLast : instant.date.year ≤ 2099) :
    left.Matches instant ↔ right.Matches instant := by
  have hLeftFormed := wellFormed_of_parse leftText left hLeft
  have hRightFormed :=
    wellFormed_of_parse rightText right hRight
  rw [describe_of_parse leftText left locale hLeft,
    describe_of_parse rightText right locale hRight] at hSame
  have hPhrases :=
    phrases_eq_of_description_eq left right locale
      hLeftFormed hRightFormed hLocale hSame
  rw [matches_iff_allHold left instant hLeftFormed hFirst
      hLast,
    matches_iff_allHold right instant hRightFormed hFirst
      hLast,
    hPhrases]

/- Noon on the last day of every month, in two ways. -/
def noonOnLastDay : Expression where
  second := .fixed (.ofList [0])
  minute := .fixed (.ofList [0])
  hour := .fixed (.ofList [12])
  dayOfMonth := .lastDay
  month := .fixed (.interval 1 12)
  dayOfWeek := .unspecified
  year := .anyYear

def noonBeforeNextMonth : Expression :=
  { noonOnLastDay with
    dayOfMonth := .lastDayOffset 0
    year := .fixed (.interval 1970 2099) }

def noonFebruary29 : Instant :=
  ⟨⟨2024, 2, 29, by decide⟩, .noon⟩

theorem matches_iff_of_describe_eq_lastDays :
    noonOnLastDay ≠ noonBeforeNextMonth ∧
      describe "0 0 12 L * ?" britishLocale =
        describe "0 0 12 L-0 * ? *" britishLocale ∧
      (noonOnLastDay.Matches noonFebruary29 ↔
        noonBeforeNextMonth.Matches noonFebruary29) := by
  have hLeft : parse "0 0 12 L * ?" = .ok noonOnLastDay :=
    rfl
  have hRight :
      parse "0 0 12 L-0 * ? *" = .ok noonBeforeNextMonth :=
    rfl
  have hSame :
      describe "0 0 12 L * ?" britishLocale =
        describe "0 0 12 L-0 * ? *" britishLocale := by
    have hPhrases :
        noonOnLastDay.phrases =
          noonBeforeNextMonth.phrases := by
      decide +kernel
    rw [describe_of_parse _ _ _ hLeft,
      describe_of_parse _ _ _ hRight]
    unfold description
    rw [hPhrases]
  refine ⟨by decide, hSame, ?_⟩
  exact
    matches_iff_of_describe_eq _ _ noonOnLastDay
      noonBeforeNextMonth britishLocale noonFebruary29
      hLeft hRight serves_britishLocale hSame (by decide)
      (by decide)

end Expression

end CronSchedule
