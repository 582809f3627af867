import CronSchedule.Proofs.Field.Replacement

/-
  Texts that are read alike: they differ in the case of
  letters, or in numbers that stand for aliases.

  Names are compared in capitals, so that the letters of a
  group may have any case.  The letters that are left over
  keep theirs: in a weekday they have a meaning, and no month
  is accepted with any of them.

  Key definitions include:
    * `Text.InGroup`
    * `Text.SameButGroups`

  Main declarations:
    * `Field.Kind.Replaced.recase`
    * `Field.Kind.Replaced.of_sameButGroups`
    * `Field.parse_interchange`
-/

------------------------------------------------------------
-- Texts That Differ in Groups
------------------------------------------------------------

namespace CronSchedule

namespace Text

/- The position lies in a whole group of letters. -/
def InGroup
    (text : List Char)
    (position : Nat) : Prop :=
  ∃ before letters after,
    IsGroup text before letters after ∧
      before.length ≤ position ∧
      position < before.length + letters.length

/- The texts differ in the case of grouped letters at most. -/
structure SameButGroups
    (text other : List Char) : Prop where
  sameLetters : SameLetters text other
  others :
    ∀ position, ¬ InGroup text position →
      other[position]? = text[position]?

/- In another case, a text that stops a run still does. -/
theorem SameLetters.stopsRun
    {text other : List Char}
    (hSame : SameLetters text other)
    (hStops : StopsRun text) :
    StopsRun other := by
  intro d hHead
  cases text with
  | nil =>
      rw [List.map_eq_nil_iff.mp hSame.symm] at hHead
      cases hHead
  | cons c text =>
      rcases hSame.cons_cases (hStops c rfl) with
        ⟨rest, rfl, _⟩
      cases hHead
      exact hStops d rfl

/- Each group is the first part, or one of the rest. -/
def NoGroupAcross
    (first text : List Char) : Prop :=
  ∀ before letters after,
    IsGroup (first ++ text) before letters after →
      (before = [] ∧ letters = first) ∨
        ∃ later, before = first ++ later ∧
          IsGroup text later letters after

/- Positions in groups of the rest are found there. -/
theorem InGroup.of_append
    {first text : List Char}
    {position : Nat}
    (hIn : InGroup (first ++ text) (first.length + position))
    (hGroups : NoGroupAcross first text) :
    InGroup text position := by
  rcases hIn with
    ⟨before, letters, after, hGroup, hStart, hEnd⟩
  rcases hGroups before letters after hGroup with
    ⟨rfl, rfl⟩ | ⟨later, rfl, hLater⟩
  · rw [List.length_nil] at hEnd
    omega
  · rw [List.length_append] at hStart hEnd
    exact
      ⟨later, letters, after, hLater, by omega, by omega⟩

namespace SameButGroups

variable {text other : List Char}

/- Behind such a part, they differ in groups at most. -/
theorem of_append
    {first second rest : List Char}
    (hSame :
      SameButGroups (first ++ text) (second ++ rest))
    (hFirst : SameLetters first second)
    (hText : SameLetters text rest)
    (hGroups : NoGroupAcross first text) :
    SameButGroups text rest := by
  refine ⟨hText, ?_⟩
  intro position hNot
  have hBehind :=
    hSame.others (first.length + position)
      (fun hIn => hNot (hIn.of_append hGroups))
  have hLength := hFirst.length_eq
  rw [List.getElem?_append_right (by omega),
    List.getElem?_append_right (by omega)] at hBehind
  simpa [hLength] using hBehind

/- What is no letter is the same in both texts. -/
theorem after_other
    {c : Char}
    (hSame : SameButGroups (c :: text) other)
    (hOther : c.isAlpha = false) :
    ∃ rest, other = c :: rest ∧
      SameButGroups text rest := by
  rcases hSame.sameLetters.cons_cases hOther with
    ⟨rest, rfl, hText⟩
  have hWhole : SameButGroups ([c] ++ text) ([c] ++ rest) :=
    hSame
  refine ⟨rest, rfl, hWhole.of_append rfl hText ?_⟩
  intro before letters after hGroup
  exact Or.inr (hGroup.after_other hOther)

/- Groups in front are the same but for their case. -/
theorem after_group
    {letters : List Char}
    (hSame : SameButGroups (letters ++ text) other)
    (hLength : letters.length = 3)
    (hLetters : AreLetters letters) :
    ∃ second rest, other = second ++ rest ∧
      SameLetters letters second ∧
      SameButGroups text rest := by
  rcases hSame.sameLetters.append_cases with
    ⟨second, rest, rfl, hFirst, hText⟩
  refine
    ⟨second, rest, rfl, hFirst,
      hSame.of_append hFirst hText ?_⟩
  intro before group after hGroup
  rcases hGroup.after_group hLength hLetters with
    ⟨hStart, hFound, _⟩ | hLater
  · exact Or.inl ⟨hStart, hFound⟩
  · exact Or.inr hLater

/- The rest of a run is the same, since it has no group. -/
theorem after_rest
    {letters : List Char}
    (hSame : SameButGroups (letters ++ text) other)
    (hLength : letters.length < 3)
    (hLetters : AreLetters letters)
    (hStops : StopsRun text) :
    ∃ rest, other = letters ++ rest ∧
      SameButGroups text rest := by
  rcases hSame.sameLetters.append_cases with
    ⟨second, rest, rfl, hFirst, hText⟩
  have hGroups
      (before group after : List Char)
      (hGroup :
        IsGroup (letters ++ text) before group after) :
      ∃ later, before = letters ++ later ∧
        IsGroup text later group after :=
    hGroup.after_rest hLength hLetters hStops
  have hSecond : second = letters := by
    have hCount := hFirst.length_eq
    apply List.ext_getElem?
    intro position
    by_cases hIn : position < letters.length
    · have hPosition :=
        hSame.others position (by
          rintro ⟨before, group, after, hGroup, hStart, _⟩
          rcases hGroups before group after hGroup with
            ⟨later, rfl, _⟩
          rw [List.length_append] at hStart
          omega)
      rw [List.getElem?_append_left (by omega),
        List.getElem?_append_left hIn] at hPosition
      exact hPosition
    · rw [List.getElem?_eq_none (by omega),
        List.getElem?_eq_none (by omega)]
  rw [hSecond] at hSame ⊢
  refine ⟨rest, rfl, hSame.of_append rfl hText ?_⟩
  intro before group after hGroup
  exact Or.inr (hGroups before group after hGroup)

end SameButGroups

end Text

end CronSchedule

------------------------------------------------------------
-- Replacements of Such Texts
------------------------------------------------------------

namespace CronSchedule

namespace Field

namespace Kind

open Text

variable {kind : Kind}

/- Letters name the same number in any case. -/
theorem Names.recase
    {letters other : List Char}
    {number : Nat}
    (hNumber : kind.Names letters number)
    (hSame : SameLetters letters other) :
    kind.Names other number := by
  rcases hNumber with ⟨index, name, hName, hLetters, rfl⟩
  exact ⟨index, name, hName, hLetters.trans hSame, rfl⟩

namespace Replaced

variable {text other replaced : List Char}

/- In another case, only letters that stay change. -/
theorem recase
    (hReplaced : kind.Replaced text replaced)
    (hSame : SameLetters text other) :
    ∃ changed, kind.Replaced other changed ∧
      SameLetters replaced changed := by
  induction hReplaced generalizing other with
  | done =>
      rw [List.map_eq_nil_iff.mp hSame.symm]
      exact ⟨[], .done, rfl⟩
  | other c text replaced hOther _ ih =>
      rcases hSame.cons_cases hOther with
        ⟨rest, rfl, hText⟩
      rcases ih hText with ⟨changed, hRest, hChanged⟩
      have hFirst : SameLetters [c] [c] := rfl
      exact
        ⟨c :: changed, .other c rest changed hOther hRest,
          hFirst.append hChanged⟩
  | group letters text replaced number hLength hLetters
      hNumber _ ih =>
      rcases hSame.append_cases with
        ⟨second, rest, rfl, hFirst, hText⟩
      rcases ih hText with ⟨changed, hRest, hChanged⟩
      have hDigits :
          SameLetters (Numeral.digits number)
            (Numeral.digits number) :=
        rfl
      exact
        ⟨Numeral.digits number ++ changed,
          .group second rest changed number
            (hFirst.length_eq.trans hLength)
            (hFirst.forall_isAlpha hLetters)
            (hNumber.recase hFirst) hRest,
          hDigits.append hChanged⟩
  | rest letters text replaced hNotEmpty hLength hLetters
      hStops _ ih =>
      rcases hSame.append_cases with
        ⟨second, rest, rfl, hFirst, hText⟩
      rcases ih hText with ⟨changed, hRest, hChanged⟩
      have hSize := hFirst.length_eq
      have hPositive := List.length_pos_iff.mpr hNotEmpty
      exact
        ⟨second ++ changed,
          .rest second rest changed
            (List.length_pos_iff.mp (by omega)) (by omega)
            (hFirst.forall_isAlpha hLetters)
            (hText.stopsRun hStops) hRest,
          hFirst.append hChanged⟩

/- Nothing changes with the case of grouped letters. -/
theorem of_sameButGroups
    (hReplaced : kind.Replaced text replaced)
    (hSame : SameButGroups text other) :
    kind.Replaced other replaced := by
  induction hReplaced generalizing other with
  | done =>
      rw [List.map_eq_nil_iff.mp hSame.sameLetters.symm]
      exact .done
  | other c text replaced hOther _ ih =>
      rcases hSame.after_other hOther with
        ⟨rest, rfl, hText⟩
      exact .other c rest replaced hOther (ih hText)
  | group letters text replaced number hLength hLetters
      hNumber _ ih =>
      rcases hSame.after_group hLength hLetters with
        ⟨second, rest, rfl, hFirst, hText⟩
      exact
        .group second rest replaced number
          (hFirst.length_eq.trans hLength)
          (hFirst.forall_isAlpha hLetters)
          (hNumber.recase hFirst) (ih hText)
  | rest letters text replaced hNotEmpty hLength hLetters
      hStops _ ih =>
      rcases hSame.after_rest hLength hLetters hStops with
        ⟨rest, rfl, hText⟩
      exact
        .rest letters rest replaced hNotEmpty hLength
          hLetters (hText.sameLetters.stopsRun hStops)
          (ih hText)

end Replaced

/- Such texts have the same replacements. -/
theorem replaced_iff_of_sameButGroups
    {text other : List Char}
    (hSame : SameButGroups text other)
    (replaced : List Char) :
    kind.Replaced text replaced ↔
      kind.Replaced other replaced := by
  constructor
  · intro hText
    exact hText.of_sameButGroups hSame
  · intro hOther
    rcases hOther.recase hSame.sameLetters.symm with
      ⟨changed, hText, _⟩
    have hBoth := hText.of_sameButGroups hSame
    rw [← kind.replaceGroups_eq_ok_iff] at hOther hBoth
    rw [hOther, Except.ok.injEq] at hBoth
    rw [hBoth]
    exact hText

end Kind

end Field

end CronSchedule

------------------------------------------------------------
-- Texts That Are Read Alike
------------------------------------------------------------

namespace CronSchedule

namespace Field

/- The aliases may be replaced with the blanks around them. -/
theorem parse_eq_ok_iff_exists_replaced
    (kind : Kind)
    (text : String)
    (field : Field)
    (hAliases : kind.hasAliases = true) :
    parse kind text = .ok field ↔
      ∃ replaced, kind.Replaced text.toList replaced ∧
        kind.Form (Text.trim replaced) field := by
  have hNotYear : kind ≠ .year := by
    rintro rfl
    cases hAliases
  rw [parse_eq_ok_iff, read_eq_ok_iff,
    or_iff_right fun hEmpty => hNotYear hEmpty.1]
  unfold Kind.Leaves
  simp only [if_pos hAliases, Kind.replaced_trim_iff]
  constructor
  · rintro ⟨_, ⟨replaced, hReplaced, rfl⟩, hForm⟩
    exact ⟨replaced, hReplaced, hForm⟩
  · rintro ⟨replaced, hReplaced, hForm⟩
    exact ⟨_, ⟨replaced, hReplaced, rfl⟩, hForm⟩

/- A month without aliases has no letters. -/
theorem not_alpha_of_month_form
    (text : List Char)
    (field : Field)
    (hForm : Kind.month.Form text field) :
    ∀ c ∈ text, c.isAlpha = false := by
  rcases hForm with ⟨values, rfl, hGives⟩
  cases hGives with
  | all =>
      intro c hChar
      cases List.mem_singleton.mp hChar
      rfl
  | selection _ selection _ hSpells =>
      intro c hChar
      rw [← Bool.not_eq_true]
      intro hLetter
      refine hSpells.not_mem c ?_ ?_ hChar
      · rw [← Bool.not_eq_true]
        intro hDigit
        rw [(Numeral.not_blank_of_isDigit c hDigit).2]
          at hLetter
        cases hLetter
      · rintro hMark
        simp only [List.mem_cons, List.not_mem_nil,
          or_false] at hMark
        rcases hMark with rfl | rfl | rfl | rfl
        all_goals cases hLetter

/- Around a text without letters there are none either. -/
theorem not_alpha_of_trim
    (text : List Char)
    (hTrim : ∀ c ∈ Text.trim text, c.isAlpha = false) :
    ∀ c ∈ text, c.isAlpha = false := by
  rcases Text.exists_trim text with
    ⟨start, finish, hText, hStart, hFinish⟩
  intro c hChar
  rw [hText, List.mem_append, List.mem_append] at hChar
  rcases hChar with (hIn | hIn) | hIn
  · exact hStart.not_alpha c hIn
  · exact hTrim c hIn
  · exact hFinish.not_alpha c hIn

/- A month is accepted in any case of its letters. -/
theorem parse_month_of_sameLetters
    (text other : String)
    (field : Field)
    (hSame : Text.SameLetters text.toList other.toList)
    (hParse : parse .month text = .ok field) :
    parse .month other = .ok field := by
  rw [parse_eq_ok_iff_exists_replaced _ _ _ rfl] at hParse ⊢
  rcases hParse with ⟨replaced, hReplaced, hForm⟩
  rcases hReplaced.recase hSame with
    ⟨changed, hOther, hChanged⟩
  have hNone :=
    not_alpha_of_trim replaced
      (not_alpha_of_month_form _ field hForm)
  rw [hChanged.eq_of_not_alpha hNone] at hOther
  exact ⟨replaced, hOther, hForm⟩

/-
  Months that differ in the case of letters, and weekdays
  that differ in the case of grouped letters, are accepted
  with the same value or refused together.  A text whose
  groups all name numbers has a replacement, and every
  replacement has no group and the same outcome.
-/
theorem parse_interchange :
    (∀ text other : String,
      Text.SameLetters text.toList other.toList →
        ∀ field,
          parse .month text = .ok field ↔
            parse .month other = .ok field) ∧
      (∀ text other : String,
        Text.SameButGroups text.toList other.toList →
          ∀ field,
            parse .dayOfWeek text = .ok field ↔
              parse .dayOfWeek other = .ok field) ∧
      ∀ (kind : Kind) (text : String),
        kind = .month ∨ kind = .dayOfWeek →
        (∀ before letters after,
          Text.IsGroup text.toList before letters after →
            ∃ number, kind.Names letters number) →
        (∃ replaced, kind.Replaced text.toList replaced) ∧
          ∀ replaced, kind.Replaced text.toList replaced →
            (∀ before letters after,
              ¬ Text.IsGroup replaced before letters after) ∧
            parse kind (String.ofList replaced) =
              parse kind text := by
  refine ⟨?_, ?_, ?_⟩
  · intro text other hSame field
    exact
      ⟨parse_month_of_sameLetters text other field hSame,
        parse_month_of_sameLetters other text field
          hSame.symm⟩
  · intro text other hSame field
    rw [parse_eq_ok_iff_exists_replaced _ _ _ rfl,
      parse_eq_ok_iff_exists_replaced _ _ _ rfl]
    simp only [Kind.replaced_iff_of_sameButGroups hSame]
  · intro kind text hKind hNamed
    have hAliases : kind.hasAliases = true := by
      rcases hKind with rfl | rfl
      · rfl
      · rfl
    refine ⟨kind.exists_replaced text.toList hNamed, ?_⟩
    intro replaced hReplaced
    refine ⟨hReplaced.not_isGroup, ?_⟩
    unfold parse parseChars
    rw [String.toList_ofList,
      read_eq_of_replaced kind _ replaced hAliases
        hReplaced]

/- The final `L` is no part of a group, as `Fri` is. -/
theorem parse_interchange_fridays :
    Text.SameLetters "jan-OCT/3".toList
        "Jan-oct/3".toList ∧
      Text.SameButGroups "friL".toList "FRIL".toList ∧
      (∀ field,
        parse .month "jan-OCT/3" = .ok field ↔
          parse .month "Jan-oct/3" = .ok field) ∧
      (∀ field,
        parse .dayOfWeek "friL" = .ok field ↔
          parse .dayOfWeek "FRIL" = .ok field) ∧
      parse .dayOfWeek "6#9" = parse .dayOfWeek "Fri#9" := by
  have hMonths :
      Text.SameLetters "jan-OCT/3".toList
        "Jan-oct/3".toList := by
    unfold Text.SameLetters
    decide
  have hGroup :
      Text.IsGroup "friL".toList [] "fri".toList ['L'] :=
    { text_eq := rfl
      length_eq := rfl
      areLetters := List.all_eq_true.mp rfl
      isAligned := Text.isAligned_nil }
  have hLast (position : Nat)
      (hNot : ¬ Text.InGroup "friL".toList position) :
      "FRIL".toList[position]? =
        "friL".toList[position]? := by
    by_cases hIn : position < 3
    · exact
        absurd ⟨[], _, _, hGroup, Nat.zero_le _, by simpa⟩
          hNot
    · obtain ⟨more, rfl⟩ :=
        Nat.exists_eq_add_of_le (Nat.le_of_not_lt hIn)
      rw [Nat.add_comm]
      rfl
  have hFridays :
      Text.SameButGroups "friL".toList "FRIL".toList :=
    { sameLetters := by
        unfold Text.SameLetters
        decide
      others := hLast }
  have hReplaced :
      Kind.dayOfWeek.Replaced "Fri#9".toList
        "6#9".toList := by
    rw [← Kind.replaceGroups_eq_ok_iff]
    rfl
  have hNamed
      (before letters after : List Char)
      (hIn :
        Text.IsGroup "Fri#9".toList before letters after) :
      ∃ number, Kind.dayOfWeek.Names letters number := by
    rcases hReplaced.of_group hIn with
      ⟨number, _, _, hNumber, _⟩
    exact ⟨number, hNumber⟩
  exact
    ⟨hMonths, hFridays, parse_interchange.1 _ _ hMonths,
      parse_interchange.2.1 _ _ hFridays,
      ((parse_interchange.2.2 .dayOfWeek "Fri#9"
        (Or.inr rfl) hNamed).2 _ hReplaced).2⟩

end Field

end CronSchedule
