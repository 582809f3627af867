import CronSchedule.Proofs.Description.Enumeration
import CronSchedule.Proofs.Field.RoundTrip

/-
  Phrases are found again in their wording.

  The first characters of a phrase tell its form.  From then
  on the words between its numbers are known, and what may
  follow the phrase does not look like more of it.

  Key definitions include:
    * `Phrase.letters`
    * `Phrase.Fits`
    * `Phrase.formOf`
    * `Phrase.MayFollow`

  Main declarations:
    * `Phrase.toList_text`
    * `Phrase.formOf_letters`
    * `Phrase.letters_append_inj`
-/

------------------------------------------------------------
-- Letters
------------------------------------------------------------

namespace CronSchedule

namespace Phrase

/- The characters of the wording. -/
def letters : Phrase → List Char
| .atTime hour minute second =>
    "at ".toList ++ ((Numeral.padded 2 hour).toList ++
      ':' :: ((Numeral.padded 2 minute).toList ++
        ':' :: (Numeral.padded 2 second).toList))
| .every unit => "every ".toList ++ unit.name.toList
| .atUnits unit values =>
    "at ".toList ++ (unit.name.toList ++
      ((pluralEnding values).toList ++
        ' ' :: (enumerateSet numberText values).toList))
| .onDays values =>
    "on day".toList ++ ((pluralEnding values).toList ++
      ' ' :: ((enumerateSet numberText values).toList ++
        " of the month".toList))
| .onLastDay => "on the last day of the month".toList
| .beforeLastDay offset =>
    (numberText offset).toList ++
      ((if offset = 1 then " day" else " days").toList ++
        " before the last day of the month".toList)
| .onNearestWorkday day =>
    "on the weekday nearest day ".toList ++
      ((numberText day).toList ++ " of the month".toList)
| .onLastWorkday =>
    "on the last weekday of the month".toList
| .onWeekdays values =>
    "only on ".toList ++
      (enumerateSet (nameOf weekdayNames) values).toList
| .onLastWeekday weekday =>
    "on the last ".toList ++
      ((nameOf weekdayNames weekday).toList ++
        " of the month".toList)
| .onNthWeekday weekday count =>
    "on the ".toList ++ ((nameOf ordinals count).toList ++
      ' ' :: ((nameOf weekdayNames weekday).toList ++
        " of the month".toList))
| .inMonths values =>
    "only in ".toList ++
      (enumerateSet (nameOf monthNames) values).toList
| .inYears values =>
    "only in ".toList ++
      (enumerateSet numberText values).toList

theorem toList_text
    (phrase : Phrase) :
    phrase.text.toList = phrase.letters := by
  cases phrase with
  | onLastDay | onLastWorkday =>
      unfold text letters
      rfl
  | _ =>
      unfold text letters
      simp

end Phrase

end CronSchedule

------------------------------------------------------------
-- Forms
------------------------------------------------------------

namespace CronSchedule

namespace Phrase

/- Its sets are not empty, and its numbers have names. -/
def Fits : Phrase → Prop
| .atUnits _ values => values.toList ≠ []
| .onDays days => days.toList ≠ []
| .onWeekdays weekdays =>
    weekdays.toList ≠ [] ∧
      ∀ number ∈ weekdays, IsNamed weekdayNames number
| .onLastWeekday weekday => IsNamed weekdayNames weekday
| .onNthWeekday weekday count =>
    IsNamed weekdayNames weekday ∧ IsNamed ordinals count
| .inMonths months =>
    months.toList ≠ [] ∧
      ∀ number ∈ months, IsNamed monthNames number
| .inYears years => years.toList ≠ []
| _ => True

/- The forms of phrases. -/
inductive Form where
| atTime
| every
| atUnits
| onDays
| onLastDay
| beforeLastDay
| onNearestWorkday
| onLastWorkday
| onWeekdays
| onLastWeekday
| onNthWeekday
| inMonths
| inYears
deriving DecidableEq

def form : Phrase → Form
| .atTime _ _ _ => .atTime
| .every _ => .every
| .atUnits _ _ => .atUnits
| .onDays _ => .onDays
| .onLastDay => .onLastDay
| .beforeLastDay _ => .beforeLastDay
| .onNearestWorkday _ => .onNearestWorkday
| .onLastWorkday => .onLastWorkday
| .onWeekdays _ => .onWeekdays
| .onLastWeekday _ => .onLastWeekday
| .onNthWeekday _ _ => .onNthWeekday
| .inMonths _ => .inMonths
| .inYears _ => .inYears

/-
  The form of the phrase that a text starts with.  Most are
  told by a letter at the start of their second, third, or
  fourth word.
-/
def formOf
    (text : List Char) : Form :=
  let letter (index : Nat) : Char := text.getD index ' '
  if letter 0 = 'a' then
    if (letter 3).isDigit then .atTime else .atUnits
  else if letter 0 = 'e' then
    .every
  else if letter 0 = 'o' then
    if letter 2 = 'l' then
      if letter 5 = 'o' then
        .onWeekdays
      else if (letter 8).isDigit then
        .inYears
      else
        .inMonths
    else if letter 3 = 'd' then
      .onDays
    else if letter 7 = 'w' then
      .onNearestWorkday
    else if letter 7 = 'l' then
      if letter 12 = 'd' then
        .onLastDay
      else if letter 12 = 'w' then
        .onLastWorkday
      else
        .onLastWeekday
    else
      .onNthWeekday
  else
    .beforeLastDay

/- A letter of one kind is none of another. -/
theorem ne_of_kind
    (isKind : Char → Bool)
    (c : Char)
    (hKind : isKind c = true)
    (other : Char)
    (hOther : isKind other = false) :
    c ≠ other := by
  rintro rfl
  rw [hKind] at hOther
  cases hOther

/- A phrase starts as its form does. -/
theorem formOf_letters
    (phrase : Phrase)
    (rest : List Char)
    (hFits : phrase.Fits) :
    formOf (phrase.letters ++ rest) = phrase.form := by
  cases phrase with
  | atTime hour minute second =>
      rcases (isWording_padded 2).first hour trivial with
        ⟨c, word, hWord, hFirst⟩
      dsimp only [letters, form]
      rw [hWord]
      simp [formOf, hFirst]
  | atUnits unit values =>
      dsimp only [letters, form]
      cases unit <;> simp [formOf, TimeUnit.name]
  | beforeLastDay offset =>
      rcases isWording_numberText.first offset trivial with
        ⟨c, word, hWord, hFirst⟩
      have hOther := ne_of_kind Char.isDigit c hFirst
      dsimp only [letters, form]
      rw [hWord]
      simp [formOf, hOther 'a' rfl, hOther 'e' rfl,
        hOther 'o' rfl]
  | onLastWeekday weekday =>
      rcases isWording_weekdays.first weekday hFits with
        ⟨c, word, hWord, hFirst⟩
      have hOther := ne_of_kind Char.isUpper c hFirst
      dsimp only [letters, form]
      rw [hWord]
      simp [formOf, hOther 'd' rfl, hOther 'w' rfl]
  | onNthWeekday weekday count =>
      rcases isWording_ordinals.first count hFits.2 with
        ⟨c, word, hWord, hFirst⟩
      have hOther : c ≠ 'l' ∧ c ≠ 'w' := by
        simpa using hFirst
      dsimp only [letters, form]
      rw [hWord]
      simp [formOf, hOther.1, hOther.2]
  | inMonths months =>
      rcases exists_enumerateSet_cons isWording_months
        months hFits with ⟨c, word, hWord, hFirst⟩
      have hLetter : c.isDigit = false := by
        rw [← Bool.not_eq_true]
        intro hDigit
        have hAlpha :=
          (Numeral.not_blank_of_isDigit c hDigit).2
        unfold Char.isAlpha at hAlpha
        rw [hFirst] at hAlpha
        cases hAlpha
      dsimp only [letters, form]
      rw [hWord]
      simp [formOf, hLetter]
  | inYears years =>
      rcases exists_enumerateSet_cons isWording_numberText
        years ⟨hFits, fun _ _ => trivial⟩ with
        ⟨c, word, hWord, hFirst⟩
      dsimp only [letters, form]
      rw [hWord]
      simp [formOf, hFirst]
  | _ =>
      dsimp only [letters, form]
      simp [formOf]

end Phrase

end CronSchedule

------------------------------------------------------------
-- What May Follow
------------------------------------------------------------

namespace CronSchedule

namespace Phrase

open Text

/-
  Another phrase follows after a comma, and does not start
  with a capital letter.  None follows the years.
-/
def MayFollow
    (phrase : Phrase)
    (rest : List Char) : Prop :=
  rest = [] ∨
    phrase.form ≠ .inYears ∧
      ∃ next more, rest = ',' :: ' ' :: next :: more ∧
        next.isUpper = false

variable {phrase : Phrase}
variable {rest : List Char}
variable (hRest : phrase.MayFollow rest)

include hRest

theorem stops_of_mayFollow
    (isPart : Char → Bool)
    (hComma : isPart ',' = false) :
    Stops isPart rest := by
  rcases hRest with rfl | ⟨_, next, more, rfl, _⟩
  · exact stops_nil
  · exact stops_cons ',' _ hComma

theorem ends_of_mayFollow :
    Ends Char.isUpper rest := by
  rcases hRest with hNil | ⟨_, hMore⟩
  · exact Or.inl hNil
  · exact Or.inr hMore

theorem eq_nil_of_mayFollow
    (hYears : phrase.form = .inYears) :
    rest = [] := by
  rcases hRest with hNil | ⟨hOther, _⟩
  · exact hNil
  · exact absurd hYears hOther

end Phrase

end CronSchedule

------------------------------------------------------------
-- Parts of Phrases
------------------------------------------------------------

namespace CronSchedule

namespace TimeUnit

/- The names start with different letters. -/
theorem name_append_inj
    (left right : TimeUnit)
    (rest others : List Char)
    (hSame :
      left.name.toList ++ rest =
        right.name.toList ++ others) :
    left = right ∧ rest = others := by
  have hUnit : left = right := by
    have hHead := congrArg List.head? hSame
    cases left with
    | second =>
        cases right with
        | second => rfl
        | _ => simp [name] at hHead
    | minute =>
        cases right with
        | minute => rfl
        | _ => simp [name] at hHead
    | hour =>
        cases right with
        | hour => rfl
        | _ => simp [name] at hHead
  subst hUnit
  exact ⟨rfl, List.append_cancel_left hSame⟩

end TimeUnit

namespace Phrase

open Text

theorem stops_ofTheMonth
    (isPart : Char → Bool)
    (hSpace : isPart ' ' = false)
    (rest : List Char) :
    Stops isPart (" of the month".toList ++ rest) :=
  stops_cons ' ' _ hSpace

variable (left right : ValueSet)
variable (rest others : List Char)

/- The plural tells whether there is more than one number. -/
theorem counted_append_inj
    (hLeft : left.toList ≠ [])
    (hRight : right.toList ≠ [])
    (hRest : Stops Char.isDigit rest)
    (hOthers : Stops Char.isDigit others)
    (hSame :
      (pluralEnding left).toList ++
          ' ' :: ((enumerateSet numberText left).toList ++
            rest) =
        (pluralEnding right).toList ++
          ' ' :: ((enumerateSet numberText right).toList ++
            others)) :
    left = right ∧ rest = others := by
  have hItems :
      (1 < left.size ↔ 1 < right.size) ∧
        (enumerateSet numberText left).toList ++ rest =
          (enumerateSet numberText right).toList ++
            others := by
    unfold pluralEnding at hSame
    by_cases hManyLeft : 1 < left.size
    · by_cases hManyRight : 1 < right.size
      · rw [if_pos hManyLeft, if_pos hManyRight] at hSame
        exact
          ⟨iff_of_true hManyLeft hManyRight,
            (List.cons.inj
              (List.append_cancel_left hSame)).2⟩
      · simp [hManyLeft, hManyRight] at hSame
    · by_cases hManyRight : 1 < right.size
      · simp [hManyLeft, hManyRight] at hSame
      · rw [if_neg hManyLeft, if_neg hManyRight] at hSame
        exact
          ⟨iff_of_false hManyLeft hManyRight,
            (List.cons.inj
              (List.append_cancel_left hSame)).2⟩
  have hSets :=
    enumerate_append_inj isWording_numberText left.toList
      right.toList rest others
      ⟨hLeft, fun _ _ => trivial⟩
      ⟨hRight, fun _ _ => trivial⟩ hItems.1 hRest hOthers
      hItems.2
  exact ⟨ValueSet.eq_of_toList_eq hSets.1, hSets.2⟩

/- Otherwise it takes an end that is not another item. -/
theorem named_append_inj
    {isFirst isPart : Char → Bool}
    {allowed : Nat → Prop}
    {wording : Nat → String}
    (hWording : IsWording isFirst isPart allowed wording)
    (hLeft : left.toList ≠ [] ∧ ∀ n ∈ left, allowed n)
    (hRight : right.toList ≠ [] ∧ ∀ n ∈ right, allowed n)
    (hRest : Ends isFirst rest)
    (hOthers : Ends isFirst others)
    (hSame :
      (enumerateSet wording left).toList ++ rest =
        (enumerateSet wording right).toList ++ others) :
    left = right ∧ rest = others := by
  have hSets :=
    enumerate_append_inj_of_ends hWording left.toList
      right.toList rest others hLeft hRight hRest hOthers
      hSame
  exact ⟨ValueSet.eq_of_toList_eq hSets.1, hSets.2⟩

end Phrase

end CronSchedule

------------------------------------------------------------
-- Phrases of One Form
------------------------------------------------------------

namespace CronSchedule

namespace Phrase

open Text

/-
  Texts that start with the two phrases, and go on as they
  may, differ if the phrases do.
-/
def Cancel
    (left right : Phrase) : Prop :=
  ∀ rest others,
    left.MayFollow rest → right.MayFollow others →
      left.letters ++ rest = right.letters ++ others →
        left = right ∧ rest = others

theorem cancel_atTime
    (hour minute second : Nat)
    (otherHour otherMinute otherSecond : Nat) :
    Cancel (atTime hour minute second)
      (atTime otherHour otherMinute otherSecond) := by
  intro rest others hRest hOthers hSame
  dsimp only [letters] at hSame
  simp only [List.append_assoc, List.cons_append,
    List.append_cancel_left_eq] at hSame
  have hColon (text : List Char) :
      Stops Char.isDigit (':' :: text) :=
    stops_cons ':' text rfl
  rcases (isWording_padded 2).append_inj trivial trivial
    (hColon _) (hColon _) hSame with ⟨rfl, hMinute⟩
  rcases (isWording_padded 2).append_inj trivial trivial
    (hColon _) (hColon _) (List.cons.inj hMinute).2 with
    ⟨rfl, hSecond⟩
  rcases (isWording_padded 2).append_inj trivial trivial
    (stops_of_mayFollow hRest Char.isDigit rfl)
    (stops_of_mayFollow hOthers Char.isDigit rfl)
    (List.cons.inj hSecond).2 with ⟨rfl, hEnd⟩
  exact ⟨rfl, hEnd⟩

theorem cancel_every
    (unit other : TimeUnit) :
    Cancel (every unit) (every other) := by
  intro rest others _ _ hSame
  dsimp only [letters] at hSame
  simp only [List.append_assoc,
    List.append_cancel_left_eq] at hSame
  rcases TimeUnit.name_append_inj unit other rest others
    hSame with ⟨rfl, hEnd⟩
  exact ⟨rfl, hEnd⟩

theorem cancel_atUnits
    (unit other : TimeUnit)
    (values otherValues : ValueSet)
    (hValues : values.toList ≠ [])
    (hOtherValues : otherValues.toList ≠ []) :
    Cancel (atUnits unit values)
      (atUnits other otherValues) := by
  intro rest others hRest hOthers hSame
  dsimp only [letters] at hSame
  simp only [List.append_assoc, List.cons_append,
    List.append_cancel_left_eq] at hSame
  rcases TimeUnit.name_append_inj unit other _ _ hSame with
    ⟨rfl, hCounted⟩
  rcases counted_append_inj values otherValues rest others
    hValues hOtherValues
    (stops_of_mayFollow hRest Char.isDigit rfl)
    (stops_of_mayFollow hOthers Char.isDigit rfl) hCounted
    with ⟨rfl, hEnd⟩
  exact ⟨rfl, hEnd⟩

theorem cancel_onDays
    (days otherDays : ValueSet)
    (hDays : days.toList ≠ [])
    (hOtherDays : otherDays.toList ≠ []) :
    Cancel (onDays days) (onDays otherDays) := by
  intro rest others _ _ hSame
  dsimp only [letters] at hSame
  simp only [List.append_assoc, List.cons_append,
    List.append_cancel_left_eq] at hSame
  have hMonth := stops_ofTheMonth Char.isDigit rfl
  rcases counted_append_inj days otherDays _ _ hDays
    hOtherDays (hMonth rest) (hMonth others) hSame with
    ⟨rfl, hEnd⟩
  exact ⟨rfl, List.append_cancel_left hEnd⟩

theorem cancel_beforeLastDay
    (offset otherOffset : Nat) :
    Cancel (beforeLastDay offset)
      (beforeLastDay otherOffset) := by
  intro rest others _ _ hSame
  dsimp only [letters] at hSame
  simp only [List.append_assoc] at hSame
  -- The noun is not known before the number, but each one
  -- follows a space.
  have hSpace (number : Nat) (text : List Char) :
      Stops Char.isDigit
        ((if number = 1 then " day" else " days").toList ++
          text) := by
    split
    · exact stops_cons ' ' _ rfl
    · exact stops_cons ' ' _ rfl
  rcases isWording_numberText.append_inj trivial trivial
    (hSpace _ _) (hSpace _ _) hSame with ⟨rfl, hEnd⟩
  exact
    ⟨rfl, List.append_cancel_left
      (List.append_cancel_left hEnd)⟩

/- Such phrases are told apart by their only number. -/
theorem cancel_ofTheMonth
    {isFirst isPart : Char → Bool}
    {allowed : Nat → Prop}
    {wording : Nat → String}
    (hWording : IsWording isFirst isPart allowed wording)
    (start : List Char)
    (phrase : Nat → Phrase)
    (hLetters :
      ∀ number,
        (phrase number).letters =
          start ++ ((wording number).toList ++
            " of the month".toList))
    (left right : Nat)
    (hLeft : allowed left)
    (hRight : allowed right) :
    Cancel (phrase left) (phrase right) := by
  intro rest others _ _ hSame
  rw [hLetters, hLetters] at hSame
  simp only [List.append_assoc,
    List.append_cancel_left_eq] at hSame
  have hMonth := stops_ofTheMonth isPart hWording.space
  rcases hWording.append_inj hLeft hRight (hMonth rest)
    (hMonth others) hSame with ⟨rfl, hEnd⟩
  exact ⟨rfl, List.append_cancel_left hEnd⟩

theorem cancel_onNthWeekday
    (weekday count otherWeekday otherCount : Nat)
    (hFits : (onNthWeekday weekday count).Fits)
    (hOtherFits :
      (onNthWeekday otherWeekday otherCount).Fits) :
    Cancel (onNthWeekday weekday count)
      (onNthWeekday otherWeekday otherCount) := by
  intro rest others _ _ hSame
  dsimp only [letters] at hSame
  simp only [List.append_assoc, List.cons_append,
    List.append_cancel_left_eq] at hSame
  have hSpace (text : List Char) :
      Stops Char.isAlpha (' ' :: text) :=
    stops_cons ' ' text rfl
  have hMonth := stops_ofTheMonth Char.isAlpha rfl
  rcases isWording_ordinals.append_inj hFits.2 hOtherFits.2
    (hSpace _) (hSpace _) hSame with ⟨rfl, hWeekday⟩
  rcases isWording_weekdays.append_inj hFits.1 hOtherFits.1
    (hMonth rest) (hMonth others)
    (List.cons.inj hWeekday).2 with ⟨rfl, hEnd⟩
  exact ⟨rfl, List.append_cancel_left hEnd⟩

/- Phrases that end with a set are told apart by the set. -/
theorem cancel_enumerated
    {isFirst isPart : Char → Bool}
    {allowed : Nat → Prop}
    {wording : Nat → String}
    (hWording : IsWording isFirst isPart allowed wording)
    (start : List Char)
    (phrase : ValueSet → Phrase)
    (hLetters :
      ∀ values,
        (phrase values).letters =
          start ++ (enumerateSet wording values).toList)
    (hEnds :
      ∀ values rest,
        (phrase values).MayFollow rest → Ends isFirst rest)
    (left right : ValueSet)
    (hLeft : left.toList ≠ [] ∧ ∀ n ∈ left, allowed n)
    (hRight : right.toList ≠ [] ∧ ∀ n ∈ right, allowed n) :
    Cancel (phrase left) (phrase right) := by
  intro rest others hRest hOthers hSame
  rw [hLetters, hLetters] at hSame
  simp only [List.append_assoc,
    List.append_cancel_left_eq] at hSame
  rcases named_append_inj left right rest others hWording
    hLeft hRight (hEnds left rest hRest)
    (hEnds right others hOthers) hSame with ⟨rfl, hEnd⟩
  exact ⟨rfl, hEnd⟩

/- Phrases of one form differ within the form. -/
theorem cancel_of_form_eq
    (left right : Phrase)
    (hLeft : left.Fits)
    (hRight : right.Fits)
    (hForm : left.form = right.form) :
    Cancel left right := by
  cases left with
  | atTime _ _ _ =>
      cases right with
      | atTime _ _ _ => exact cancel_atTime _ _ _ _ _ _
      | _ => cases hForm
  | every _ =>
      cases right with
      | every _ => exact cancel_every _ _
      | _ => cases hForm
  | atUnits _ _ =>
      cases right with
      | atUnits _ _ =>
          exact cancel_atUnits _ _ _ _ hLeft hRight
      | _ => cases hForm
  | onDays _ =>
      cases right with
      | onDays _ => exact cancel_onDays _ _ hLeft hRight
      | _ => cases hForm
  | onLastDay =>
      cases right with
      | onLastDay =>
          intro rest others _ _ hSame
          exact ⟨rfl, List.append_cancel_left hSame⟩
      | _ => cases hForm
  | beforeLastDay _ =>
      cases right with
      | beforeLastDay _ => exact cancel_beforeLastDay _ _
      | _ => cases hForm
  | onNearestWorkday _ =>
      cases right with
      | onNearestWorkday _ =>
          exact
            cancel_ofTheMonth isWording_numberText
              "on the weekday nearest day ".toList
              onNearestWorkday (fun _ => rfl) _ _ trivial
              trivial
      | _ => cases hForm
  | onLastWorkday =>
      cases right with
      | onLastWorkday =>
          intro rest others _ _ hSame
          exact ⟨rfl, List.append_cancel_left hSame⟩
      | _ => cases hForm
  | onWeekdays _ =>
      cases right with
      | onWeekdays _ =>
          exact
            cancel_enumerated isWording_weekdays
              "only on ".toList onWeekdays (fun _ => rfl)
              (fun _ _ => ends_of_mayFollow) _ _ hLeft
              hRight
      | _ => cases hForm
  | onLastWeekday _ =>
      cases right with
      | onLastWeekday _ =>
          exact
            cancel_ofTheMonth isWording_weekdays
              "on the last ".toList onLastWeekday
              (fun _ => rfl) _ _ hLeft hRight
      | _ => cases hForm
  | onNthWeekday _ _ =>
      cases right with
      | onNthWeekday _ _ =>
          exact cancel_onNthWeekday _ _ _ _ hLeft hRight
      | _ => cases hForm
  | inMonths _ =>
      cases right with
      | inMonths _ =>
          exact
            cancel_enumerated isWording_months
              "only in ".toList inMonths (fun _ => rfl)
              (fun _ _ => ends_of_mayFollow) _ _ hLeft
              hRight
      | _ => cases hForm
  | inYears _ =>
      cases right with
      | inYears _ =>
          -- Years have no names, but nothing follows them.
          exact
            cancel_enumerated isWording_numberText
              "only in ".toList inYears (fun _ => rfl)
              (fun _ _ hRest =>
                Or.inl (eq_nil_of_mayFollow hRest rfl)) _ _
              ⟨hLeft, fun _ _ => trivial⟩
              ⟨hRight, fun _ _ => trivial⟩
      | _ => cases hForm

/- A phrase is known from the text that starts with it. -/
theorem letters_append_inj
    (left right : Phrase)
    (rest others : List Char)
    (hLeft : left.Fits)
    (hRight : right.Fits)
    (hRest : left.MayFollow rest)
    (hOthers : right.MayFollow others)
    (hSame :
      left.letters ++ rest = right.letters ++ others) :
    left = right ∧ rest = others := by
  have hForm : left.form = right.form := by
    rw [← formOf_letters left rest hLeft, hSame,
      formOf_letters right others hRight]
  exact
    cancel_of_form_eq left right hLeft hRight hForm rest
      others hRest hOthers hSame

end Phrase

end CronSchedule
