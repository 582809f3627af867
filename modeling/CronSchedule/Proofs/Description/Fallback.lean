import CronSchedule.Proofs.Description.Sentence
import CronSchedule.Proofs.Expression.Precedence

/-
  The texts that are left without a description.

  Every field that can be read is told on its own, unless it
  allows all that its position has.  So what is left to say
  is decided field by field, and nothing is left to say only
  if that holds of each of them.

  Key definitions include:
    * `LooseFields.withSeconds`
    * `LooseFields.IsRefused`
    * `LooseFields.IsSilent`
    * `English.Undescribed`

  Main declarations:
    * `LooseFields.isSilent_iff`
    * `English.phrases_eq_nil_iff`
    * `English.describe?_eq_some_iff`
    * `English.describe?_eq_none_iff`
    * `Describer.describe_fallback`
-/

------------------------------------------------------------
-- Words and What They Are Read As
------------------------------------------------------------

namespace CronSchedule

namespace LooseFields

/- Five words lack the seconds, which are then `0`. -/
def withSeconds
    (words : List (List Char)) : List (List Char) :=
  if words.length = 5 then
    ['0'] :: words
  else
    words

/- There are as many words as there can be fields. -/
def HasCount
    (words : List (List Char)) : Prop :=
  words.length = 5 ∨ words.length = 6 ∨ words.length = 7

/- The word at a position is not accepted there. -/
def IsRefused
    (words : List (List Char))
    (kind : Field.Kind) : Prop :=
  ∀ field,
    Field.parse kind (Expression.textAt words kind) ≠
      .ok field

/- The word at a position stands for all numbers there. -/
def CoversAll
    (words : List (List Char))
    (kind : Field.Kind) : Prop :=
  ∃ values,
    Field.parse kind (Expression.textAt words kind) =
        .ok (.fixed values) ∧
      ∀ number, kind.Allows number → number ∈ values

/- The word at a position does not narrow anything. -/
def IsSilent
    (words : List (List Char))
    (kind : Field.Kind) : Prop :=
  IsRefused words kind ∨
    Expression.textAt words kind = "?" ∨
    CoversAll words kind

theorem words?_eq_some_iff
    (text : String)
    (words : List (List Char)) :
    words? text = some words ↔
      HasCount (Text.words text.toList) ∧
        words = withSeconds (Text.words text.toList) := by
  unfold words? HasCount withSeconds
  dsimp only
  split
  · rename_i hFive
    simp [hFive, eq_comm]
  · rename_i hSix
    simp [hSix, eq_comm]
  · rename_i hSeven
    simp [hSeven, eq_comm]
  · rename_i hFive hSix hSeven
    refine iff_of_false nofun ?_
    rintro ⟨hCount | hCount | hCount, _⟩
    · exact hFive hCount
    · exact hSix hCount
    · exact hSeven hCount

/- No word is empty, and none has a blank. -/
theorem not_blank_of_mem_withSeconds
    (text word : List Char)
    (hWord : word ∈ withSeconds (Text.words text)) :
    word ≠ [] ∧ ∀ c ∈ word, Text.isBlank c = false := by
  unfold withSeconds at hWord
  split at hWord
  · rcases List.mem_cons.mp hWord with rfl | hWord
    · refine ⟨List.cons_ne_nil _ _, ?_⟩
      intro c hChar
      rw [List.mem_singleton.mp hChar]
      exact (Numeral.not_blank_of_isDigit '0' rfl).1
    · exact Text.not_blank_of_mem_words text word hWord
  · exact Text.not_blank_of_mem_words text word hWord

/- The field at a position is what its word is read as. -/
theorem toOption_fieldAt_eq_some_iff
    (words : List (List Char))
    (kind : Field.Kind)
    (field : Field) :
    (fieldAt words kind).toOption = some field ↔
      Field.parse kind (Expression.textAt words kind) =
        .ok field := by
  unfold Field.parse Expression.textAt fieldAt wordAt
  rw [String.toList_ofList]
  cases Field.parseChars kind (words.getD kind.index []) with
  | ok value => simp [Except.toOption]
  | error error => simp [Except.toOption]

theorem toOption_fieldAt_eq_none_iff
    (words : List (List Char))
    (kind : Field.Kind) :
    (fieldAt words kind).toOption = none ↔
      IsRefused words kind := by
  rw [Option.eq_none_iff_forall_ne_some]
  exact
    forall_congr' fun field =>
      (toOption_fieldAt_eq_some_iff words kind field).not

theorem isRefused_or_exists
    (words : List (List Char))
    (kind : Field.Kind) :
    IsRefused words kind ∨
      ∃ field,
        Field.parse kind (Expression.textAt words kind) =
          .ok field := by
  unfold IsRefused
  rw [← not_exists]
  exact (Classical.em _).symm

/- What is read at a position fits it. -/
theorem fits_of_parse
    (words : List (List Char))
    (kind : Field.Kind)
    (field : Field)
    (hField :
      Field.parse kind (Expression.textAt words kind) =
        .ok field) :
    field.Fits kind :=
  Field.fits_of_read kind _ field
    ((Field.parse_eq_ok_iff kind _ field).mp hField)

theorem isUsable_iff
    (words : List (List Char)) :
    (ofWords words).isUsable = true ↔
      ∃ kind, kind ≠ .year ∧ ¬ IsRefused words kind := by
  have hRead (kind : Field.Kind) :
      (fieldAt words kind).toOption.isSome = true ↔
        ¬ IsRefused words kind := by
    rw [← toOption_fieldAt_eq_none_iff,
      Option.isSome_iff_ne_none]
  unfold isUsable ofWords
  simp only [Bool.or_eq_true, hRead]
  constructor
  · rintro (((((hSecond | hMinute) | hHour) | hDay) |
      hMonth) | hWeekday)
    · exact ⟨.second, nofun, hSecond⟩
    · exact ⟨.minute, nofun, hMinute⟩
    · exact ⟨.hour, nofun, hHour⟩
    · exact ⟨.dayOfMonth, nofun, hDay⟩
    · exact ⟨.month, nofun, hMonth⟩
    · exact ⟨.dayOfWeek, nofun, hWeekday⟩
  · rintro ⟨kind, hKind, hField⟩
    cases kind with
    | year => exact absurd rfl hKind
    | _ => simp [hField]

theorem ofWords?_eq_some_iff
    (words : List (List Char))
    (fields : LooseFields) :
    ofWords? words = some fields ↔
      (∃ kind, kind ≠ .year ∧ ¬ IsRefused words kind) ∧
        fields = ofWords words := by
  rw [← isUsable_iff]
  unfold ofWords?
  dsimp only
  split
  · rename_i hUsable
    rw [Option.some_inj, and_iff_right hUsable, eq_comm]
  · rename_i hUseless
    exact iff_of_false nofun fun hBoth => hUseless hBoth.1

end LooseFields

end CronSchedule

------------------------------------------------------------
-- Fields Without Phrases
------------------------------------------------------------

namespace CronSchedule

/- Among the sets of a position, one is full. -/
theorem Field.isFull_iff
    (kind : Kind)
    (values : ValueSet)
    (hSet : kind.AllowsSet values) :
    isFull kind values = true ↔
      Field.fixed values = full kind := by
  constructor
  · intro hFull
    exact (eq_full_of_isFull kind values hSet hFull).symm
  · intro hSame
    have hBounds := Selection.allows_greatest kind
    unfold Kind.Allows at hBounds
    rw [Field.fixed.inj hSame]
    unfold isFull ValueSet.size ValueSet.interval
      Kind.extent
    rw [List.length_range', beq_iff_eq]
    omega

namespace English

variable (field : Field)

theorem setPhrase_eq_nil_iff
    (kind : Field.Kind)
    (phrase : ValueSet → Phrase)
    (values : ValueSet)
    (hSet : kind.AllowsSet values) :
    setPhrase kind phrase values = [] ↔
      Field.fixed values = Field.full kind := by
  rw [← Field.isFull_iff kind values hSet]
  unfold setPhrase
  split
  · rename_i hFull
    exact iff_of_true rfl hFull
  · rename_i hNotFull
    exact iff_of_false (List.cons_ne_nil _ _) hNotFull

theorem dayOfMonthPhrase_eq_nil_iff
    (hFits : field.Fits .dayOfMonth) :
    dayOfMonthPhrase field = [] ↔
      field = .unspecified ∨
        field = Field.full .dayOfMonth := by
  cases field with
  | fixed days =>
      have hSet :=
        setPhrase_eq_nil_iff .dayOfMonth .onDays days hFits
      exact hSet.trans (or_iff_right nofun).symm
  | unspecified => simp [dayOfMonthPhrase]
  | lastDayOffset offset =>
      cases offset with
      | zero => simp [dayOfMonthPhrase, Field.full]
      | succ offset => simp [dayOfMonthPhrase, Field.full]
  | lastDay | nearestWorkday _ | lastWorkday =>
      simp [dayOfMonthPhrase, Field.full]
  | _ => cases hFits

theorem dayOfWeekPhrase_eq_nil_iff
    (hFits : field.Fits .dayOfWeek) :
    dayOfWeekPhrase field = [] ↔
      field = .unspecified ∨
        field = Field.full .dayOfWeek := by
  cases field with
  | fixed weekdays =>
      have hSet :=
        setPhrase_eq_nil_iff .dayOfWeek .onWeekdays weekdays
          hFits
      exact hSet.trans (or_iff_right nofun).symm
  | unspecified => simp [dayOfWeekPhrase]
  | lastWeekday _ | nthWeekday _ _ =>
      simp [dayOfWeekPhrase, Field.full]
  | _ => cases hFits

theorem monthPhrase_eq_nil_iff
    (hFits : field.Fits .month) :
    monthPhrase field = [] ↔
      field = .unspecified ∨ field = Field.full .month := by
  cases field with
  | fixed months =>
      have hSet :=
        setPhrase_eq_nil_iff .month .inMonths months hFits
      exact hSet.trans (or_iff_right nofun).symm
  | _ => cases hFits

theorem yearPhrase_eq_nil_iff
    (hFits : field.Fits .year) :
    yearPhrase field = [] ↔
      field = .anyYear ∨ field = Field.full .year := by
  cases field with
  | fixed years =>
      have hSet :=
        setPhrase_eq_nil_iff .year .inYears years hFits
      exact hSet.trans (or_iff_right nofun).symm
  | anyYear => simp [yearPhrase]
  | _ => cases hFits

end English

end CronSchedule

------------------------------------------------------------
-- Times Without Phrases
------------------------------------------------------------

namespace CronSchedule

namespace English

/- Behind no full set, whatever was read is told. -/
theorem unitPhrase_eq_nil_iff
    (kind : Field.Kind)
    (unit : TimeUnit)
    (field : Option Field)
    (hFixed :
      ∀ value, field = some value →
        ∃ values, value = .fixed values) :
    (unitPhrase kind unit field false).1 = [] ↔
      field = none := by
  cases field with
  | none => exact iff_of_true rfl rfl
  | some value =>
      rcases hFixed value rfl with ⟨values, rfl⟩
      refine iff_of_false ?_ nofun
      unfold unitPhrase
      simp only [Option.bind_some, Field.values?]
      split
      · exact List.cons_ne_nil _ _
      · exact List.cons_ne_nil _ _

section

variable
  (fields : LooseFields)
  (hFixed :
    ∀ value,
      fields.second = some value ∨
          fields.minute = some value ∨
          fields.hour = some value →
        ∃ values, value = .fixed values)

include hFixed

theorem unitPhrases_eq_nil_iff :
    unitPhrases fields = [] ↔
      fields.second = none ∧ fields.minute = none ∧
        fields.hour = none := by
  have hSecond :=
    unitPhrase_eq_nil_iff .second .second fields.second
      fun value hValue => hFixed value (Or.inl hValue)
  have hMinute :=
    unitPhrase_eq_nil_iff .minute .minute fields.minute
      fun value hValue =>
        hFixed value (Or.inr (Or.inl hValue))
  have hHour :=
    unitPhrase_eq_nil_iff .hour .hour fields.hour
      fun value hValue =>
        hFixed value (Or.inr (Or.inr hValue))
  -- A part that is not read hands on that no full set came
  -- before it, so the next part is not left out either.
  unfold unitPhrases
  simp only [List.append_eq_nil_iff, and_assoc]
  rw [hSecond]
  constructor
  · rintro ⟨hNoSecond, hRest⟩
    rw [hNoSecond] at hRest
    rcases hRest with ⟨hNoMinute, hRest⟩
    rw [hMinute.mp hNoMinute] at hRest
    exact ⟨hNoSecond, hMinute.mp hNoMinute, hHour.mp hRest⟩
  · rintro ⟨hNoSecond, hNoMinute, hNoHour⟩
    rw [hNoSecond, hNoMinute, hNoHour]
    exact ⟨rfl, rfl, rfl⟩

/- A time of day is told unless no part of it was read. -/
theorem timePhrases_eq_nil_iff :
    timePhrases fields = [] ↔
      fields.second = none ∧ fields.minute = none ∧
        fields.hour = none := by
  unfold timePhrases
  split
  · rename_i hour minute second hOnlyHour _ _
    refine iff_of_false (List.cons_ne_nil _ _) ?_
    rintro ⟨_, _, hNoHour⟩
    rw [hNoHour] at hOnlyHour
    cases hOnlyHour
  · exact unitPhrases_eq_nil_iff fields hFixed

end

end English

end CronSchedule

------------------------------------------------------------
-- Words Without Phrases
------------------------------------------------------------

namespace CronSchedule

namespace LooseFields

section

variable (words : List (List Char))

/- A set of all numbers is the full set. -/
theorem coversAll_iff
    (kind : Field.Kind) :
    CoversAll words kind ↔
      Field.parse kind (Expression.textAt words kind) =
        .ok (Field.full kind) := by
  constructor
  · rintro ⟨values, hValues, hAll⟩
    have hSet :=
      (Field.fits_fixed kind values).mp
        (fits_of_parse words kind _ hValues)
    rw [hValues,
      (Field.full_eq_fixed_iff kind values).mpr fun number =>
        ⟨hSet.2 number, hAll number⟩]
  · intro hFull
    refine ⟨_, hFull, fun number hNumber => ?_⟩
    exact
      (ValueSet.mem_interval kind.least kind.greatest
        number).mpr hNumber

/- Of the values that are read, only two go untold. -/
theorem isRefused_or_iff
    (kind : Field.Kind)
    (mark : Field) :
    (IsRefused words kind ∨
        Field.parse kind (Expression.textAt words kind) =
          .ok mark ∨
        CoversAll words kind) ↔
      ∀ field,
        Field.parse kind (Expression.textAt words kind) =
            .ok field →
          field = mark ∨ field = Field.full kind := by
  rw [coversAll_iff]
  constructor
  · rintro (hRefused | hMark | hAll) field hField
    · exact absurd hField (hRefused field)
    · rw [hMark] at hField
      exact Or.inl (Except.ok.inj hField).symm
    · rw [hAll] at hField
      exact Or.inr (Except.ok.inj hField).symm
  · intro hUntold
    rcases isRefused_or_exists words kind with
      hRefused | ⟨field, hField⟩
    · exact Or.inl hRefused
    · rcases hUntold field hField with rfl | rfl
      · exact Or.inr (Or.inl hField)
      · exact Or.inr (Or.inr hField)

variable
  (hWords :
    ∀ word ∈ words,
      word ≠ [] ∧ ∀ c ∈ word, Text.isBlank c = false)

include hWords

theorem not_blank_of_mem_getD
    (position : Nat) :
    ∀ c ∈ words.getD position [], Text.isBlank c = false := by
  rw [List.getD_eq_getElem?_getD]
  cases hWord : words[position]? with
  | none => exact nofun
  | some word =>
      exact (hWords word (List.mem_of_getElem? hWord)).2

/- The mark of the day fields is read as itself, if at all. -/
theorem textAt_eq_mark_iff
    (kind : Field.Kind)
    (field : Field)
    (hKind :
      kind = .dayOfMonth ∨ kind = .dayOfWeek ∨
        kind = .month)
    (hField :
      Field.parse kind (Expression.textAt words kind) =
        .ok field) :
    Expression.textAt words kind = "?" ↔
      field = .unspecified := by
  rw [Field.parse_eq_ok_iff] at hField
  rw [← String.toList_inj]
  by_cases hMonth : kind = .month
  · have hFits := Field.fits_of_read kind _ field hField
    rw [hMonth] at hField hFits ⊢
    refine iff_of_false ?_ ?_
    · intro hMark
      rw [hMark] at hField
      cases hField
    · rintro rfl
      cases hFits
  · have hDay : kind = .dayOfMonth ∨ kind = .dayOfWeek := by
      rcases hKind with hKind | hKind | hKind
      · exact Or.inl hKind
      · exact Or.inr hKind
      · exact absurd hKind hMonth
    refine
      (Field.unspecified_iff kind _ field hDay ?_
        hField).symm
    unfold Expression.textAt
    rw [String.toList_ofList]
    exact not_blank_of_mem_getD words hWords kind.index

/- So a silent word is refused, or read as `?` or as all. -/
theorem isSilent_iff
    (kind : Field.Kind)
    (hKind :
      kind = .dayOfMonth ∨ kind = .dayOfWeek ∨
        kind = .month) :
    IsSilent words kind ↔
      ∀ field,
        Field.parse kind (Expression.textAt words kind) =
            .ok field →
          field = .unspecified ∨ field = Field.full kind := by
  rw [← isRefused_or_iff]
  unfold IsSilent
  rcases isRefused_or_exists words kind with
    hRefused | ⟨field, hField⟩
  · exact iff_of_true (Or.inl hRefused) (Or.inl hRefused)
  · rw [textAt_eq_mark_iff words hWords kind field hKind
      hField, hField, Except.ok.injEq]

/- Any year is read only where there is no word. -/
theorem parse_eq_anyYear_iff :
    Field.parse .year (Expression.textAt words .year) =
        .ok .anyYear ↔
      words[6]? = none := by
  have hText :
      (Expression.textAt words .year).toList =
        words[6]?.getD [] := by
    unfold Expression.textAt
    rw [String.toList_ofList, List.getD_eq_getElem?_getD]
    rfl
  rw [Field.parse_eq_ok_iff, hText]
  cases hWord : words[6]? with
  | none => exact iff_of_true rfl rfl
  | some word =>
      refine iff_of_false ?_ nofun
      rcases hWords word (List.mem_of_getElem? hWord) with
        ⟨hNotEmpty, hNotBlank⟩
      rw [Field.read_eq_ok_iff, Option.getD_some,
        Text.trim_eq_self word hNotBlank]
      rintro (⟨_, hEmpty, _⟩ | ⟨_, _, _, hFixed, _⟩)
      · exact hNotEmpty hEmpty
      · cases hFixed

theorem year_isSilent_iff :
    (words[6]? = none ∨ IsRefused words .year ∨
        CoversAll words .year) ↔
      ∀ field,
        Field.parse .year (Expression.textAt words .year) =
            .ok field →
          field = .anyYear ∨ field = Field.full .year := by
  rw [← parse_eq_anyYear_iff words hWords, or_left_comm]
  exact isRefused_or_iff words .year .anyYear

end

end LooseFields

namespace English

open LooseFields

theorem flatMap_eq_nil_iff
    (words : List (List Char))
    (kind : Field.Kind)
    (phrase : Field → List Phrase)
    (isOpen : Field → Prop)
    (hPhrase :
      ∀ field : Field, field.Fits kind →
        (phrase field = [] ↔ isOpen field)) :
    (fieldAt words kind).toOption.toList.flatMap phrase =
        [] ↔
      ∀ field,
        Field.parse kind (Expression.textAt words kind) =
            .ok field →
          isOpen field := by
  rw [List.flatMap_eq_nil_iff]
  refine forall_congr' fun field => ?_
  rw [Option.mem_toList, toOption_fieldAt_eq_some_iff]
  exact
    forall_congr' fun hField =>
      hPhrase field (fits_of_parse words kind field hField)

/- No time is told only if no part of it is accepted. -/
theorem timePhrases_ofWords_eq_nil_iff
    (words : List (List Char)) :
    timePhrases (ofWords words) = [] ↔
      IsRefused words .second ∧ IsRefused words .minute ∧
        IsRefused words .hour := by
  have hFixed (kind : Field.Kind) (value : Field)
      (hKind :
        kind = .second ∨ kind = .minute ∨ kind = .hour ∨
          kind = .month)
      (hValue :
        (fieldAt words kind).toOption = some value) :
      ∃ values, value = .fixed values := by
    rw [toOption_fieldAt_eq_some_iff] at hValue
    rcases Field.exists_fixed_of_fits kind value
      (fits_of_parse words kind value hValue) hKind with
      ⟨values, hValues, _⟩
    exact ⟨values, hValues⟩
  simp only [← toOption_fieldAt_eq_none_iff]
  apply timePhrases_eq_nil_iff
  rintro value (hSecond | hMinute | hHour)
  · exact hFixed .second value (by simp) hSecond
  · exact hFixed .minute value (by simp) hMinute
  · exact hFixed .hour value (by simp) hHour

/- Which words leave nothing to say. -/
theorem phrases_eq_nil_iff
    (words : List (List Char))
    (hWords :
      ∀ word ∈ words,
        word ≠ [] ∧ ∀ c ∈ word, Text.isBlank c = false) :
    phrases (ofWords words) = [] ↔
      (IsRefused words .second ∧ IsRefused words .minute ∧
          IsRefused words .hour) ∧
        (IsSilent words .dayOfMonth ∧
          IsSilent words .dayOfWeek ∧
          IsSilent words .month) ∧
        (words[6]? = none ∨ IsRefused words .year ∨
          CoversAll words .year) := by
  have hTimes := timePhrases_ofWords_eq_nil_iff words
  have hDay :=
    flatMap_eq_nil_iff words .dayOfMonth dayOfMonthPhrase _
      dayOfMonthPhrase_eq_nil_iff
  have hWeekday :=
    flatMap_eq_nil_iff words .dayOfWeek dayOfWeekPhrase _
      dayOfWeekPhrase_eq_nil_iff
  have hMonth :=
    flatMap_eq_nil_iff words .month monthPhrase _
      monthPhrase_eq_nil_iff
  have hYear :=
    flatMap_eq_nil_iff words .year yearPhrase _
      yearPhrase_eq_nil_iff
  rw [← isSilent_iff words hWords _ (by simp)]
    at hDay hWeekday hMonth
  rw [← year_isSilent_iff words hWords] at hYear
  have hDays := and_congr (and_congr hTimes hDay) hWeekday
  have hAll := and_congr (and_congr hDays hMonth) hYear
  unfold phrases
  simp only [List.append_eq_nil_iff]
  refine hAll.trans ?_
  simp only [and_assoc]

end English

end CronSchedule

------------------------------------------------------------
-- The Length of a Sentence
------------------------------------------------------------

namespace CronSchedule

theorem Phrase.two_le_length_letters
    (phrase : Phrase) :
    2 ≤ phrase.letters.length := by
  cases phrase with
  | beforeLastDay offset =>
      unfold letters
      rw [List.length_append, List.length_append]
      refine Nat.le_trans ?_ (Nat.le_add_left _ _)
      refine Nat.le_trans ?_ (Nat.le_add_left _ _)
      decide
  | _ =>
      exact
        Nat.succ_le_succ (Nat.succ_le_succ (Nat.zero_le _))

namespace English

theorem length_capitalize
    (text : String) :
    (capitalize text).toList.length = text.toList.length := by
  cases hText : text.toList with
  | nil =>
      unfold capitalize
      rw [hText]
      rfl
  | cons first rest =>
      rw [toList_capitalize text first rest hText]
      rfl

theorem sentence?_eq_none_iff
    (phrases : List Phrase) :
    sentence? phrases = none ↔ phrases = [] := by
  cases phrases with
  | nil => exact iff_of_true rfl rfl
  | cons first later => exact iff_of_false nofun nofun

/- A sentence is longer than what stands for its lack. -/
theorem ne_of_sentence?_eq_some
    (phrases : List Phrase)
    (sentence : String)
    (hSentence : sentence? phrases = some sentence) :
    sentence ≠ "" ∧ sentence ≠ noDescription := by
  cases phrases with
  | nil => cases hSentence
  | cons first later =>
      have hLength : 2 ≤ sentence.toList.length := by
        rw [← Option.some.inj hSentence, length_capitalize,
          Phrase.toList_intercalate_text, List.length_append]
        exact
          Nat.le_add_right_of_le first.two_le_length_letters
      constructor
      · intro hEmpty
        rw [hEmpty] at hLength
        exact absurd hLength (by decide)
      · intro hLack
        rw [hLack] at hLength
        exact absurd hLength (by decide)

end English

end CronSchedule

------------------------------------------------------------
-- Lacking Descriptions
------------------------------------------------------------

namespace CronSchedule

namespace English

open LooseFields

/- The words are not described in the locale. -/
inductive Undescribed
    (words : List (List Char))
    (locale : Option String) : Prop where
/- The locale is not English. -/
| locale
    (hLocale : ¬ Serves locale)
/- There are too few words, or too many. -/
| count
    (hCount : ¬ HasCount words)
/- Beside the year, no word is accepted. -/
| refused
    (hRefused :
      ∀ kind, kind ≠ .year →
        IsRefused (withSeconds words) kind)
/- No time is accepted, and the rest is open. -/
| silent
    (hSecond : IsRefused (withSeconds words) .second)
    (hMinute : IsRefused (withSeconds words) .minute)
    (hHour : IsRefused (withSeconds words) .hour)
    (hDayOfMonth : IsSilent (withSeconds words) .dayOfMonth)
    (hDayOfWeek : IsSilent (withSeconds words) .dayOfWeek)
    (hMonth : IsSilent (withSeconds words) .month)
    (hYear :
      (withSeconds words)[6]? = none ∨
        IsRefused (withSeconds words) .year ∨
        CoversAll (withSeconds words) .year)

section

variable (text : String) (locale : Option String)

theorem describe?_eq_some_iff
    (answer : String) :
    describe? text locale = some answer ↔
      Serves locale ∧
        HasCount (Text.words text.toList) ∧
        (∃ kind, kind ≠ .year ∧
          ¬ IsRefused
            (withSeconds (Text.words text.toList)) kind) ∧
        sentence?
            (phrases
              (ofWords
                (withSeconds (Text.words text.toList)))) =
          some answer := by
  unfold describe?
  rw [← isLocale_iff]
  split
  · rename_i hLocale
    simp only [Option.bind_eq_bind, Option.bind_eq_some_iff,
      words?_eq_some_iff, ofWords?_eq_some_iff]
    constructor
    · rintro ⟨_, ⟨hCount, rfl⟩, _, ⟨hSome, rfl⟩, hAnswer⟩
      exact ⟨hLocale, hCount, hSome, hAnswer⟩
    · rintro ⟨_, hCount, hSome, hAnswer⟩
      exact
        ⟨_, ⟨hCount, rfl⟩, _, ⟨hSome, rfl⟩, hAnswer⟩
  · rename_i hLocale
    refine iff_of_false nofun ?_
    rintro ⟨hServes, _⟩
    exact hLocale hServes

/- The cases of the definition are all that there are. -/
theorem describe?_eq_none_iff :
    describe? text locale = none ↔
      Undescribed (Text.words text.toList) locale := by
  have hNothing :=
    phrases_eq_nil_iff
      (withSeconds (Text.words text.toList))
      (not_blank_of_mem_withSeconds text.toList)
  rw [← sentence?_eq_none_iff] at hNothing
  rw [Option.eq_none_iff_forall_ne_some]
  constructor
  · intro hNone
    by_cases hLocale : Serves locale
    swap
    · exact .locale hLocale
    by_cases hCount : HasCount (Text.words text.toList)
    swap
    · exact .count hCount
    by_cases hSome :
        ∃ kind, kind ≠ .year ∧
          ¬ IsRefused
            (withSeconds (Text.words text.toList)) kind
    swap
    · push Not at hSome
      exact .refused hSome
    have hSilent :=
      Option.eq_none_iff_forall_ne_some.mpr
        fun sentence hSentence =>
          hNone sentence
            ((describe?_eq_some_iff text locale sentence).mpr
              ⟨hLocale, hCount, hSome, hSentence⟩)
    rcases hNothing.mp hSilent with
      ⟨⟨hSecond, hMinute, hHour⟩,
        ⟨hDay, hWeekday, hMonth⟩, hYear⟩
    exact
      .silent hSecond hMinute hHour hDay hWeekday hMonth
        hYear
  · intro hUndescribed answer hAnswer
    rcases (describe?_eq_some_iff text locale answer).mp
      hAnswer with ⟨hServes, hHasCount, hRead, hSentence⟩
    cases hUndescribed with
    | locale hLocale => exact hLocale hServes
    | count hCount => exact hCount hHasCount
    | refused hRefused =>
        rcases hRead with ⟨kind, hKind, hAccepted⟩
        exact hAccepted (hRefused kind hKind)
    | silent hSecond hMinute hHour hDay hWeekday hMonth
        hYear =>
        rw [hNothing.mpr
          ⟨⟨hSecond, hMinute, hHour⟩,
            ⟨hDay, hWeekday, hMonth⟩, hYear⟩] at hSentence
        cases hSentence

/- A blank text has no words. -/
theorem describe?_of_trim_eq_nil
    (hTrim : Text.trim text.toList = []) :
    describe? text locale = none := by
  have hWords : Text.words text.toList = [] := by
    by_contra hSome
    exact Text.trim_ne_nil text.toList hSome hTrim
  rw [describe?_eq_none_iff, hWords]
  apply Undescribed.count
  rintro (hFive | hSix | hSeven)
  · cases hFive
  · cases hSix
  · cases hSeven

end

end English

namespace Describer

open English

theorem nonempty?_of_ne
    (answer : String)
    (hNotEmpty : answer ≠ "") :
    nonempty? (some answer) = some answer :=
  if_neg hNotEmpty

/-
  Every text has a description, which is never empty.  It is
  the text for the lack of one if and only if there is
  nothing to say about the words of the text.
-/
theorem describe_fallback
    (text : String)
    (locale : Option String) :
    ∃ words,
      (∀ runs,
        Text.Tokens text.toList runs ↔ runs = words) ∧
      CronSchedule.describe text locale ≠ "" ∧
      (CronSchedule.describe text locale = noDescription ↔
        Undescribed words locale) := by
  refine ⟨Text.words text.toList, ?_, ?_⟩
  · intro runs
    rw [← Text.words_eq_iff, eq_comm]
  rw [← describe?_eq_none_iff]
  by_cases hTrim : Text.trim text.toList = []
  · rw [describe_of_trim_eq_nil text locale hTrim]
    exact
      ⟨nofun,
        iff_of_true rfl
          (describe?_of_trim_eq_nil text locale hTrim)⟩
  · rw [describe_of_trim_ne_nil text locale hTrim]
    cases hAnswer : English.describe? text locale with
    | none => exact ⟨nofun, iff_of_true rfl rfl⟩
    | some answer =>
        rcases (describe?_eq_some_iff text locale
          answer).mp hAnswer with ⟨_, _, _, hSentence⟩
        rcases ne_of_sentence?_eq_some _ answer hSentence
          with ⟨hNotEmpty, hNotLack⟩
        rw [nonempty?_of_ne answer hNotEmpty]
        exact ⟨hNotEmpty, iff_of_false hNotLack nofun⟩

/- Without the times, all days of all years are not told. -/
example :
    CronSchedule.describe "? ? ? 1/1 * ? 1970-2099" none =
      noDescription := by
  decide +kernel

end Describer

end CronSchedule
