import CronSchedule.Proofs.Expression.WellFormed
import CronSchedule.Proofs.Field.Parsing
import CronSchedule.Proofs.Text.Tokens
import Mathlib.Order.WellFounded

/-
  What a text is read as depends on its words alone, and the
  first of several faults is reported: the number of words,
  then the day fields, and then the words from the left.

  Key definitions include:
    * `Expression.textAt`
    * `Expression.Outcome`

  Main declarations:
    * `Expression.ofFields_eq_error`
    * `Expression.ofWords_eq_iff`
    * `Expression.parse_precedence`
-/

------------------------------------------------------------
-- Outcomes
------------------------------------------------------------

namespace CronSchedule

namespace Expression

/- The text at a position, empty if the word is missing. -/
def textAt
    (words : List (List Char))
    (kind : Field.Kind) : String :=
  String.ofList (words.getD kind.index [])

/- There is a word for each position, but maybe the year. -/
def HasFields
    (words : List (List Char)) : Prop :=
  words.length = 6 ∨ words.length = 7

/- What some words are read as. -/
inductive Outcome
    (words : List (List Char)) :
    Reading Expression → Prop where
/- There is no word. -/
| empty
    (hNone : words = []) :
    Outcome words (.error .empty)
/- There are too few words, or too many. -/
| fieldCount
    (hSome : words ≠ [])
    (hCount : ¬ HasFields words) :
    Outcome words (.error (.fieldCount words.length))
/- Neither the fourth nor the sixth word is `?`. -/
| bothSpecified
    (hCount : HasFields words)
    (hFourth : words[3]? ≠ some ['?'])
    (hSixth : words[5]? ≠ some ['?']) :
    Outcome words (.error (.dayConflict .bothSpecified))
/- Both the fourth and the sixth word are `?`. -/
| neitherSpecified
    (hCount : HasFields words)
    (hFourth : words[3]? = some ['?'])
    (hSixth : words[5]? = some ['?']) :
    Outcome words (.error (.dayConflict .neitherSpecified))
/- A word is refused, and all words before it are not. -/
| refused
    (kind : Field.Kind)
    (fault : Field.Fault)
    (hCount : HasFields words)
    (hDays :
      words[3]? = some ['?'] ↔ words[5]? ≠ some ['?'])
    (hBefore :
      ∀ earlier : Field.Kind, earlier.index < kind.index →
        ∃ field,
          Field.parse earlier (textAt words earlier) =
            .ok field)
    (hRefused :
      Field.parse kind (textAt words kind) =
        .error (.field kind fault)) :
    Outcome words (.error (.field kind fault))
/- All words are accepted. -/
| accepted
    (expression : Expression)
    (hCount : HasFields words)
    (hDays :
      words[3]? = some ['?'] ↔ words[5]? ≠ some ['?'])
    (hFields :
      ∀ kind,
        Field.parse kind (textAt words kind) =
          .ok (expression.field kind)) :
    Outcome words (.ok expression)

/- Of the positions with a property, one is the first. -/
theorem exists_leftmost
    (property : Field.Kind → Prop)
    (hSome : ∃ kind, property kind) :
    ∃ kind, property kind ∧
      ∀ earlier : Field.Kind, earlier.index < kind.index →
        ¬ property earlier := by
  rcases (measure Field.Kind.index).wf.has_min
    {kind | property kind} hSome with
    ⟨kind, hKind, hFirst⟩
  refine ⟨kind, hKind, ?_⟩
  intro earlier hEarlier hProperty
  exact hFirst earlier hProperty hEarlier

/- Any words have an outcome. -/
theorem exists_outcome
    (words : List (List Char)) :
    ∃ result, Outcome words result := by
  by_cases hNone : words = []
  · exact ⟨_, .empty hNone⟩
  by_cases hCount : HasFields words
  swap
  · exact ⟨_, .fieldCount hNone hCount⟩
  by_cases hDays :
      words[3]? = some ['?'] ↔ words[5]? ≠ some ['?']
  swap
  · by_cases hFourth : words[3]? = some ['?']
    · by_cases hSixth : words[5]? = some ['?']
      · exact ⟨_, .neitherSpecified hCount hFourth hSixth⟩
      · exact absurd (iff_of_true hFourth hSixth) hDays
    · by_cases hSixth : words[5]? = some ['?']
      · exact
          absurd (iff_of_false hFourth (not_not_intro hSixth))
            hDays
      · exact ⟨_, .bothSpecified hCount hFourth hSixth⟩
  by_cases hAll :
      ∀ kind, ∃ field,
        Field.parse kind (textAt words kind) = .ok field
  · choose field hField using hAll
    refine
      ⟨_, .accepted
        { second := field .second
          minute := field .minute
          hour := field .hour
          dayOfMonth := field .dayOfMonth
          month := field .month
          dayOfWeek := field .dayOfWeek
          year := field .year } hCount hDays ?_⟩
    intro kind
    rw [hField]
    cases kind <;> rfl
  · rw [not_forall] at hAll
    rcases exists_leftmost _ hAll with
      ⟨kind, hKind, hFirst⟩
    rcases Field.parse_cases kind (textAt words kind) with
      hAccepted | ⟨fault, hRefused⟩
    · exact absurd hAccepted hKind
    · refine
        ⟨_, .refused kind fault hCount hDays ?_ hRefused⟩
      intro earlier hEarlier
      exact Classical.not_not.mp (hFirst earlier hEarlier)

end Expression

end CronSchedule

------------------------------------------------------------
-- The Order of the Fields
------------------------------------------------------------

namespace CronSchedule

namespace Field.Kind

/- A position is told by its place. -/
theorem all_getElem?_index
    (kind : Kind) :
    all[kind.index]? = some kind := by
  cases kind <;> rfl

theorem index_inj
    (kind other : Kind)
    (hIndex : kind.index = other.index) :
    kind = other := by
  have hKind := all_getElem?_index kind
  rw [hIndex, all_getElem?_index] at hKind
  exact (Option.some.inj hKind).symm

end Field.Kind

namespace Expression

section

variable (word : Field.Kind → List Char)
variable (kind : Field.Kind)
variable (error : ExpressionError)

/- Up to the refused position, a field hands over. -/
theorem bind_eq_error
    (here : Field.Kind)
    (later : Field → Reading Expression)
    (hBefore :
      ∀ earlier : Field.Kind, earlier.index < kind.index →
        ∃ field,
          Field.parseChars earlier (word earlier) =
            .ok field)
    (hRefused :
      Field.parseChars kind (word kind) = .error error)
    (hReached : here.index ≤ kind.index)
    (hLater :
      here.index < kind.index →
        ∀ field, later field = .error error) :
    (Field.parseChars here (word here) >>= later) =
      .error error := by
  rcases Nat.lt_or_eq_of_le hReached with hLess | hSame
  · rcases hBefore here hLess with ⟨field, hField⟩
    rw [hField, ok_bind]
    exact hLater hLess field
  · rw [Field.Kind.index_inj here kind hSame, hRefused]
    rfl

/- The first field that is refused is the one reported. -/
theorem ofFields_eq_error
    (hDays :
      dayConflict? (word .dayOfMonth) (word .dayOfWeek) =
        none)
    (hBefore :
      ∀ earlier : Field.Kind, earlier.index < kind.index →
        ∃ field,
          Field.parseChars earlier (word earlier) =
            .ok field)
    (hRefused :
      Field.parseChars kind (word kind) = .error error) :
    ofFields (word .second) (word .minute) (word .hour)
        (word .dayOfMonth) (word .month) (word .dayOfWeek)
        (word .year) =
      .error error := by
  have hNext (here : Field.Kind)
      (later : Field → Reading Expression) :=
    bind_eq_error word kind error here later hBefore hRefused
  unfold ofFields
  rw [hDays]
  apply hNext .second _ (Nat.zero_le _)
  intro hSecond _
  apply hNext .minute _ hSecond
  intro hMinute _
  apply hNext .hour _ hMinute
  intro hHour _
  apply hNext .dayOfMonth _ hHour
  intro hDayOfMonth _
  apply hNext .month _ hDayOfMonth
  intro hMonth _
  apply hNext .dayOfWeek _ hMonth
  intro hDayOfWeek _
  apply hNext .year _ hDayOfWeek
  intro hYear _
  cases kind <;> exact absurd hYear (by decide)

end

end Expression

end CronSchedule

------------------------------------------------------------
-- Reading Words
------------------------------------------------------------

namespace CronSchedule

namespace Expression

variable (words : List (List Char))

/- Six or seven words are the texts of the fields. -/
theorem ofWords_eq_ofFields
    (hCount : HasFields words) :
    ofWords words =
      ofFields (words.getD 0 []) (words.getD 1 [])
        (words.getD 2 []) (words.getD 3 [])
        (words.getD 4 []) (words.getD 5 [])
        (words.getD 6 []) := by
  rcases hCount with hSix | hSeven
  · match words, hSix with
    | [_, _, _, _, _, _], _ => rfl
  · match words, hSeven with
    | [_, _, _, _, _, _, _], _ => rfl

theorem ofWords_eq_fieldCount
    (hSome : words ≠ [])
    (hCount : ¬ HasFields words) :
    ofWords words = .error (.fieldCount words.length) := by
  unfold ofWords
  split
  · exact absurd rfl hSome
  · exact absurd (Or.inl rfl) hCount
  · exact absurd (Or.inr rfl) hCount
  · rfl

theorem getD_eq_mark_iff
    (position : Nat) :
    words.getD position [] = ['?'] ↔
      words[position]? = some ['?'] := by
  rw [List.getD_eq_getElem?_getD]
  cases words[position]? with
  | none => simp
  | some word => simp

theorem ofWords_of_outcome
    (result : Reading Expression)
    (hOutcome : Outcome words result) :
    ofWords words = result := by
  cases hOutcome with
  | empty hNone =>
      rw [hNone]
      rfl
  | fieldCount hSome hCount =>
      exact ofWords_eq_fieldCount words hSome hCount
  | bothSpecified hCount hFourth hSixth =>
      rw [Ne, ← getD_eq_mark_iff] at hFourth hSixth
      rw [ofWords_eq_ofFields words hCount]
      unfold ofFields dayConflict?
      rw [beq_eq_false_iff_ne.mpr hFourth,
        beq_eq_false_iff_ne.mpr hSixth]
      rfl
  | neitherSpecified hCount hFourth hSixth =>
      rw [← getD_eq_mark_iff] at hFourth hSixth
      rw [ofWords_eq_ofFields words hCount, hFourth, hSixth]
      rfl
  | refused kind fault hCount hDays hBefore hRefused =>
      rw [Ne, ← getD_eq_mark_iff, ← getD_eq_mark_iff,
        ← Ne, ← dayConflict?_eq_none_iff] at hDays
      unfold Field.parse textAt at hBefore hRefused
      simp only [String.toList_ofList] at hBefore hRefused
      rw [ofWords_eq_ofFields words hCount]
      exact
        ofFields_eq_error
          (fun position => words.getD position.index [])
          kind _ hDays hBefore hRefused
  | accepted expression hCount hDays hFields =>
      rw [Ne, ← getD_eq_mark_iff, ← getD_eq_mark_iff,
        ← Ne, ← dayConflict?_eq_none_iff] at hDays
      simp only [Field.parse_eq_ok_iff, textAt,
        String.toList_ofList] at hFields
      rw [ofWords_eq_ofFields words hCount,
        ofFields_eq_ok_iff]
      exact
        ⟨hDays, hFields .second, hFields .minute,
          hFields .hour, hFields .dayOfMonth,
          hFields .month, hFields .dayOfWeek,
          hFields .year⟩

/- Words are read as their outcome, and nothing else is. -/
theorem ofWords_eq_iff
    (result : Reading Expression) :
    ofWords words = result ↔ Outcome words result := by
  constructor
  · rintro rfl
    rcases exists_outcome words with ⟨result, hOutcome⟩
    rw [ofWords_of_outcome words result hOutcome]
    exact hOutcome
  · exact ofWords_of_outcome words result

end Expression

end CronSchedule

------------------------------------------------------------
-- Reading Texts
------------------------------------------------------------

namespace CronSchedule

namespace Expression

/-
  Every text has its runs of characters that are not blank.
  They decide what it is read as, and so every other text
  with the same runs is read alike.
-/
theorem parse_precedence
    (text : String) :
    ∃ words,
      (∀ runs,
        Text.Tokens text.toList runs ↔ runs = words) ∧
      (∀ result,
        parse text = result ↔ Outcome words result) ∧
      ∀ other : String, Text.Tokens other.toList words →
        parse other = parse text := by
  refine ⟨Text.words text.toList, ?_, ?_, ?_⟩
  · intro runs
    rw [← Text.words_eq_iff, eq_comm]
  · exact ofWords_eq_iff _
  · intro other hTokens
    unfold parse
    rw [(Text.words_eq_iff _ _).mpr hTokens]

/- Of four faults, the one in the minutes is reported. -/
theorem parse_precedence_sixtyMinutes :
    Text.Tokens "0 60 99 ? 13 7#7".toList
        (Text.words "\t0 60\u00a099 ?  13 7#7\n".toList) ∧
      parse "\t0 60\u00a099 ?  13 7#7\n" =
        .error (.field .minute (.value "60")) ∧
      parse "0 60 99 ? 13 7#7" =
        parse "\t0 60\u00a099 ?  13 7#7\n" := by
  have hOther :
      Text.Tokens "0 60 99 ? 13 7#7".toList
        (Text.words "\t0 60\u00a099 ?  13 7#7\n".toList) :=
    (Text.words_eq_iff _ _).mp (by decide)
  rcases parse_precedence "\t0 60\u00a099 ?  13 7#7\n" with
    ⟨words, hTokens, hOutcome, hSame⟩
  have hWords :
      Text.words "\t0 60\u00a099 ?  13 7#7\n".toList =
        words :=
    (hTokens _).mp ((Text.words_eq_iff _ _).mp rfl)
  refine ⟨hOther, ?_, hSame _ (hWords ▸ hOther)⟩
  rw [hOutcome, ← hWords]
  refine
    .refused .minute _ (Or.inl rfl) (by decide) ?_ rfl
  intro earlier hEarlier
  cases earlier with
  | second => exact ⟨.fixed (ValueSet.ofList [0]), rfl⟩
  | _ => exact absurd hEarlier (by decide)

end Expression

end CronSchedule
