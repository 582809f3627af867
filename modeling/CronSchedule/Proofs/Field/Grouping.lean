import CronSchedule.Field.Alias
import CronSchedule.Proofs.Outcome
import CronSchedule.Proofs.Text.Numeral

/-
  Which letters of a text are aliases, and what the text
  becomes when they are replaced.

  Every run of letters falls into groups of three, counted
  from its start.  A replacement exists if each group names
  a value, and is then the one that is computed.

  Key definitions include:
    * `Field.Kind.Names`
    * `Field.Kind.Replaced`
    * `Text.IsGroup`

  Main declarations:
    * `Field.Kind.replaceGroups_eq_ok_iff`
    * `Field.Kind.Replaced.of_group`
    * `Field.Kind.Replaced.of_other`
-/

------------------------------------------------------------
-- Groups of Letters
------------------------------------------------------------

namespace CronSchedule

namespace Text

/- All characters are letters. -/
def AreLetters
    (text : List Char) : Prop :=
  ∀ c ∈ text, c.isAlpha = true

/- The text does not go on with a letter. -/
def StopsRun
    (text : List Char) : Prop :=
  ∀ c, text.head? = some c → c.isAlpha = false

/- A run of letters may start after the text. -/
def EndsRun
    (text : List Char) : Prop :=
  ∀ c, text.getLast? = some c → c.isAlpha = false

/- The text ends with whole groups of the last run. -/
def IsAligned
    (text : List Char) : Prop :=
  ∃ start run, text = start ++ run ∧ EndsRun start ∧
    AreLetters run ∧ 3 ∣ run.length

/- What starts a text that stops a run stops it as well. -/
theorem StopsRun.of_append
    {text rest : List Char}
    (hStops : StopsRun (text ++ rest)) :
    StopsRun text := by
  intro c hHead
  apply hStops
  rw [List.head?_append, hHead]
  rfl

theorem isAligned_nil :
    IsAligned [] :=
  ⟨[], [], rfl, by simp [EndsRun], by simp [AreLetters],
    by simp⟩

/- A new run starts behind another character. -/
theorem isAligned_other
    (c : Char)
    (hOther : c.isAlpha = false) :
    IsAligned [c] := by
  refine ⟨[c], [], rfl, ?_, ?_, Nat.dvd_zero 3⟩
  · intro d hLast
    cases hLast
    exact hOther
  · intro d hChar
    cases hChar

/- A group on its own is whole. -/
theorem isAligned_group
    (letters : List Char)
    (hLength : letters.length = 3)
    (hLetters : AreLetters letters) :
    IsAligned letters := by
  refine ⟨[], letters, rfl, ?_, hLetters, ⟨1, hLength⟩⟩
  intro c hLast
  cases hLast

/-
  Three letters of a text, between what stands before and
  what stands after them, with whole groups between them and
  the start of their run.
-/
structure IsGroup
    (text before letters after : List Char) : Prop where
  text_eq : text = before ++ letters ++ after
  length_eq : letters.length = 3
  areLetters : AreLetters letters
  isAligned : IsAligned before

end Text

end CronSchedule

------------------------------------------------------------
-- Replacements
------------------------------------------------------------

namespace CronSchedule

namespace Field

namespace Kind

/- In capitals, the letters are the name of the number. -/
def Names
    (kind : Kind)
    (letters : List Char)
    (number : Nat) : Prop :=
  ∃ index name, kind.aliases[index]? = some name ∧
    name.toList = letters.map Char.toUpper ∧
    number = index + 1

/- The text with its aliases, and without them. -/
inductive Replaced
    (kind : Kind) : List Char → List Char → Prop where
/- Nothing is left of the text. -/
| done : Replaced kind [] []
/- Other characters than letters stay. -/
| other
    (c : Char)
    (text replaced : List Char)
    (hOther : c.isAlpha = false)
    (hText : Replaced kind text replaced) :
    Replaced kind (c :: text) (c :: replaced)
/- Three letters give way to the number that they name. -/
| group
    (letters text replaced : List Char)
    (number : Nat)
    (hLength : letters.length = 3)
    (hLetters : Text.AreLetters letters)
    (hNumber : kind.Names letters number)
    (hText : Replaced kind text replaced) :
    Replaced kind (letters ++ text)
      (Numeral.digits number ++ replaced)
/- One or two letters at the end of a run stay. -/
| rest
    (letters text replaced : List Char)
    (hNotEmpty : letters ≠ [])
    (hLength : letters.length < 3)
    (hLetters : Text.AreLetters letters)
    (hStops : Text.StopsRun text)
    (hText : Replaced kind text replaced) :
    Replaced kind (letters ++ text) (letters ++ replaced)

end Kind

end Field

end CronSchedule

------------------------------------------------------------
-- Computing the Replacement
------------------------------------------------------------

namespace CronSchedule

namespace Field

namespace Kind

open Text

variable (kind : Kind)

theorem aliasNumber?_eq_some_iff
    (letters : List Char)
    (number : Nat) :
    kind.aliasNumber? letters = some number ↔
      kind.Names letters number := by
  have hNodup : kind.aliases.Nodup := by
    cases kind <;> decide
  unfold aliasNumber? Names
  rw [Option.map_eq_some_iff]
  constructor
  · rintro ⟨index, hIndex, rfl⟩
    rw [List.idxOf?_eq_some_iff] at hIndex
    rcases hIndex with ⟨hLength, hName, _⟩
    refine
      ⟨index, _, List.getElem?_eq_getElem hLength, ?_, rfl⟩
    rw [hName, String.toList_ofList]
  · rintro ⟨index, name, hName, hLetters, rfl⟩
    rw [← hLetters, String.ofList_toList]
    refine ⟨index, ?_, rfl⟩
    rw [List.idxOf?_eq_some_iff]
    rw [List.getElem?_eq_some_iff] at hName
    rcases hName with ⟨hLength, rfl⟩
    refine ⟨hLength, rfl, ?_⟩
    intro earlier hEarlier hSame
    exact
      Nat.ne_of_lt hEarlier
        ((List.getElem_inj hNodup).mp hSame)

/- A character that starts no group stays. -/
theorem replaceGroups_cons
    (c : Char)
    (text : List Char)
    (hNoGroup :
      ∀ x y rest, text = x :: y :: rest →
        ¬ (c.isAlpha = true ∧ x.isAlpha = true ∧
          y.isAlpha = true)) :
    kind.replaceGroups (c :: text) =
      (kind.replaceGroups text).map (c :: ·) := by
  match text with
  | [] => rfl
  | [_] => rfl
  | x :: y :: rest =>
      have hNot :
          ¬ (c.isAlpha && x.isAlpha && y.isAlpha) = true := by
        simpa [and_assoc] using hNoGroup x y rest rfl
      rw [replaceGroups, if_neg hNot]
      cases kind.replaceGroups (x :: y :: rest) with
      | error fault => rfl
      | ok replaced => rfl

/- A group that names a number is replaced by it. -/
theorem replaceGroups_append
    (letters text : List Char)
    (number : Nat)
    (hLength : letters.length = 3)
    (hLetters : AreLetters letters)
    (hNumber : kind.Names letters number) :
    kind.replaceGroups (letters ++ text) =
      (kind.replaceGroups text).map
        (Numeral.digits number ++ ·) := by
  match letters, hLength with
  | [a, b, c], _ =>
      have hAll :
          (a.isAlpha && b.isAlpha && c.isAlpha) = true := by
        simpa [AreLetters, and_assoc] using hLetters
      change kind.replaceGroups (a :: b :: c :: text) = _
      rw [replaceGroups, if_pos hAll,
        (kind.aliasNumber?_eq_some_iff _ number).mpr
          hNumber]
      cases kind.replaceGroups text with
      | error fault => rfl
      | ok replaced => rfl

/- A group that names no number is refused. -/
theorem replaceGroups_append_unknown
    (letters text : List Char)
    (hLength : letters.length = 3)
    (hLetters : AreLetters letters)
    (hUnknown : ∀ number, ¬ kind.Names letters number) :
    kind.replaceGroups (letters ++ text) =
      .error (.unknownAlias (String.ofList letters)) := by
  match letters, hLength with
  | [a, b, c], _ =>
      have hAll :
          (a.isAlpha && b.isAlpha && c.isAlpha) = true := by
        simpa [AreLetters, and_assoc] using hLetters
      have hNone : kind.aliasNumber? [a, b, c] = none := by
        rw [Option.eq_none_iff_forall_ne_some]
        intro number hNumber
        rw [kind.aliasNumber?_eq_some_iff] at hNumber
        exact hUnknown number hNumber
      change kind.replaceGroups (a :: b :: c :: text) = _
      rw [replaceGroups, if_pos hAll, hNone]

/-
  One or two letters stay where their run ends: the first
  character after them is no letter, so that no group starts
  at either of them.
-/
theorem replaceGroups_append_rest
    (letters text : List Char)
    (hNotEmpty : letters ≠ [])
    (hLength : letters.length < 3)
    (hStops : StopsRun text) :
    kind.replaceGroups (letters ++ text) =
      (kind.replaceGroups text).map (letters ++ ·) := by
  have hLast (c : Char) :
      kind.replaceGroups (c :: text) =
        (kind.replaceGroups text).map (c :: ·) := by
    apply kind.replaceGroups_cons
    rintro x y rest rfl ⟨_, hLetter, _⟩
    rw [hStops x rfl] at hLetter
    cases hLetter
  match letters with
  | [a] => exact hLast a
  | [a, b] =>
      change kind.replaceGroups (a :: b :: text) = _
      rw [kind.replaceGroups_cons, hLast b]
      · cases kind.replaceGroups text with
        | error fault => rfl
        | ok replaced => rfl
      · rintro x y rest hText ⟨_, _, hLetter⟩
        cases hText
        rw [hStops y rfl] at hLetter
        cases hLetter

/- A character that is no letter stays. -/
theorem replaceGroups_cons_other
    (c : Char)
    (text : List Char)
    (hOther : c.isAlpha = false) :
    kind.replaceGroups (c :: text) =
      (kind.replaceGroups text).map (c :: ·) := by
  apply kind.replaceGroups_cons
  rintro _ _ _ _ ⟨hLetter, _⟩
  rw [hOther] at hLetter
  cases hLetter

theorem replaceGroups_of_replaced
    (text replaced : List Char)
    (hReplaced : kind.Replaced text replaced) :
    kind.replaceGroups text = .ok replaced := by
  induction hReplaced with
  | done => rfl
  | other c text replaced hOther _ ih =>
      rw [kind.replaceGroups_cons_other c text hOther, ih]
      rfl
  | group letters text replaced number hLength hLetters
      hNumber _ ih =>
      rw [kind.replaceGroups_append letters text number
        hLength hLetters hNumber, ih]
      rfl
  | rest letters text replaced hNotEmpty hLength _ hStops
      _ ih =>
      rw [kind.replaceGroups_append_rest letters text
        hNotEmpty hLength hStops, ih]
      rfl

end Kind

end Field

end CronSchedule

------------------------------------------------------------
-- Every Replacement Is Found
------------------------------------------------------------

namespace CronSchedule

namespace Text

/- How a text starts. -/
inductive Start : List Char → Prop where
/- With nothing. -/
| nothing : Start []
/- With a character that is no letter. -/
| other
    (c : Char)
    (text : List Char)
    (hOther : c.isAlpha = false) :
    Start (c :: text)
/- With a group of letters. -/
| group
    (letters text : List Char)
    (hLength : letters.length = 3)
    (hLetters : AreLetters letters) :
    Start (letters ++ text)
/- With a run that has no group. -/
| rest
    (letters text : List Char)
    (hNotEmpty : letters ≠ [])
    (hLength : letters.length < 3)
    (hLetters : AreLetters letters)
    (hStops : StopsRun text) :
    Start (letters ++ text)

theorem start_of
    (text : List Char) :
    Start text := by
  have hRun :
      AreLetters (text.takeWhile Char.isAlpha) :=
    List.all_eq_true.mp List.all_takeWhile
  have hStops : StopsRun (text.dropWhile Char.isAlpha) := by
    intro c hHead
    have hDrop := List.head?_dropWhile_not Char.isAlpha text
    simpa [hHead] using hDrop
  have hText :=
    List.takeWhile_append_dropWhile
      (p := Char.isAlpha) (l := text)
  by_cases hLong :
      3 ≤ (text.takeWhile Char.isAlpha).length
  · rw [← hText, ← List.take_append_drop 3
      (text.takeWhile Char.isAlpha), List.append_assoc]
    apply Start.group
    · rw [List.length_take]
      omega
    · intro c hChar
      exact hRun c (List.mem_of_mem_take hChar)
  · by_cases hEmpty : text.takeWhile Char.isAlpha = []
    · rw [hEmpty, List.nil_append] at hText
      rw [hText] at hStops
      cases text with
      | nil => exact .nothing
      | cons c later => exact .other c later (hStops c rfl)
    · rw [← hText]
      exact .rest _ _ hEmpty (by omega) hRun hStops

end Text

namespace Field

namespace Kind

open Text

variable (kind : Kind)

/- What is computed is a replacement. -/
theorem replaced_of_replaceGroups
    (text replaced : List Char)
    (hReplace : kind.replaceGroups text = .ok replaced) :
    kind.Replaced text replaced := by
  induction hSize : text.length using Nat.strongRecOn
    generalizing text replaced with
  | ind size ih =>
      cases start_of text with
      | nothing =>
          cases hReplace
          exact .done
      | other c later hOther =>
          rw [kind.replaceGroups_cons_other c later hOther]
            at hReplace
          rcases exists_ok_of_map _ _ _ hReplace with
            ⟨others, hLater, rfl⟩
          rw [List.length_cons] at hSize
          exact
            .other c later others hOther
              (ih later.length (by omega) later others
                hLater rfl)
      | group letters later hLength hLetters =>
          by_cases hNamed :
              ∃ number, kind.Names letters number
          · rcases hNamed with ⟨number, hNumber⟩
            rw [kind.replaceGroups_append letters later
              number hLength hLetters hNumber] at hReplace
            rcases exists_ok_of_map _ _ _ hReplace with
              ⟨others, hLater, rfl⟩
            rw [List.length_append] at hSize
            exact
              .group letters later others number hLength
                hLetters hNumber
                (ih later.length (by omega) later others
                  hLater rfl)
          · rw [kind.replaceGroups_append_unknown letters
              later hLength hLetters
              (not_exists.mp hNamed)] at hReplace
            cases hReplace
      | rest letters later hNotEmpty hLength hLetters
          hStops =>
          rw [kind.replaceGroups_append_rest letters later
            hNotEmpty hLength hStops] at hReplace
          rcases exists_ok_of_map _ _ _ hReplace with
            ⟨others, hLater, rfl⟩
          have hPositive :=
            List.length_pos_iff.mpr hNotEmpty
          rw [List.length_append] at hSize
          exact
            .rest letters later others hNotEmpty hLength
              hLetters hStops
              (ih later.length (by omega) later others
                hLater rfl)

/- The replacement that is computed is the only one. -/
theorem replaceGroups_eq_ok_iff
    (text replaced : List Char) :
    kind.replaceGroups text = .ok replaced ↔
      kind.Replaced text replaced :=
  ⟨kind.replaced_of_replaceGroups text replaced,
    kind.replaceGroups_of_replaced text replaced⟩

end Kind

end Field

end CronSchedule

------------------------------------------------------------
-- Cutting a Replacement at a Group
------------------------------------------------------------

namespace CronSchedule

namespace Text

/- A run that stops takes up no more than its letters. -/
theorem length_le_of_stopsRun
    (run more letters text : List Char)
    (hRun : AreLetters run)
    (hStops : StopsRun text)
    (hSame : run ++ more = letters ++ text) :
    run.length ≤ letters.length := by
  rcases List.append_eq_append_iff.mp hSame with
    ⟨later, hLetters, _⟩ | ⟨later, hLetters, hText⟩
  · rw [hLetters, List.length_append]
    omega
  · cases later with
    | nil => simp [hLetters]
    | cons c rest =>
        have hLetter : c.isAlpha = true :=
          hRun c (by simp [hLetters])
        rw [hStops c (by simp [hText])] at hLetter
        cases hLetter

/- A text that ends its run goes beyond the letters. -/
theorem exists_append_of_endsRun
    (start more letters text : List Char)
    (hNotEmpty : start ≠ [])
    (hEnds : EndsRun start)
    (hLetters : AreLetters letters)
    (hSame : start ++ more = letters ++ text) :
    ∃ later, start = letters ++ later ∧ EndsRun later := by
  rcases List.append_eq_append_iff.mp hSame with
    ⟨later, hLater, _⟩ | ⟨later, hLater, _⟩
  · have hLast := hEnds _ (List.getLast?_eq_some_getLast
      hNotEmpty)
    have hLetter :=
      hLetters (start.getLast hNotEmpty)
        (by simp [hLater, List.getLast_mem])
    rw [hLast] at hLetter
    cases hLetter
  · refine ⟨later, hLater, ?_⟩
    intro c hLast
    apply hEnds
    rw [hLater, List.getLast?_append, hLast]
    rfl

/- The groups after a character that is no letter. -/
theorem isAligned_of_cons
    (c : Char)
    (text : List Char)
    (hOther : c.isAlpha = false)
    (hAligned : IsAligned (c :: text)) :
    IsAligned text := by
  rcases hAligned with ⟨start, run, hText, hEnds, hRun, hThree⟩
  cases start with
  | nil =>
      rw [List.nil_append] at hText
      have hLetter := hRun c (by simp [← hText])
      rw [hOther] at hLetter
      cases hLetter
  | cons first later =>
      rw [List.cons_append] at hText
      cases hText
      refine ⟨later, run, rfl, ?_, hRun, hThree⟩
      intro last hLast
      apply hEnds
      rw [List.getLast?_cons, hLast]
      rfl

/-
  Whole groups either go on after the letters, or are all
  that there is.
-/
theorem isAligned_cases
    (before more letters text : List Char)
    (hLetters : AreLetters letters)
    (hSame : before ++ more = letters ++ text)
    (hAligned : IsAligned before) :
    (∃ later, before = letters ++ later ∧
        IsAligned later) ∨
      AreLetters before ∧ 3 ∣ before.length := by
  rcases hAligned with ⟨start, run, rfl, hEnds, hRun, hThree⟩
  by_cases hEmpty : start = []
  · rw [hEmpty, List.nil_append]
    exact Or.inr ⟨hRun, hThree⟩
  · left
    rw [List.append_assoc] at hSame
    rcases exists_append_of_endsRun start _ letters text
      hEmpty hEnds hLetters hSame with
      ⟨later, rfl, hLater⟩
    exact
      ⟨later ++ run, List.append_assoc _ _ _, later, run,
        rfl, hLater, hRun, hThree⟩

/- The groups after a group, if it is not the next one. -/
theorem isAligned_after_group
    (before more letters text : List Char)
    (hLength : letters.length = 3)
    (hLetters : AreLetters letters)
    (hSame : before ++ more = letters ++ text)
    (hAligned : IsAligned before) :
    before = [] ∨
      ∃ later, before = letters ++ later ∧
        IsAligned later := by
  rcases isAligned_cases before more letters text hLetters
    hSame hAligned with hLater | ⟨hRun, hThree⟩
  · exact Or.inr hLater
  · by_cases hEmpty : before = []
    · exact Or.inl hEmpty
    · right
      have hPositive := List.length_pos_iff.mpr hEmpty
      have hLong : letters.length ≤ before.length := by
        omega
      have hPrefix : letters <+: before :=
        List.prefix_of_prefix_length_le ⟨text, rfl⟩
          ⟨more, hSame⟩ hLong
      rcases hPrefix with ⟨later, rfl⟩
      refine ⟨later, rfl, [], later, rfl, ?_, ?_, ?_⟩
      · intro c hLast
        cases hLast
      · intro c hChar
        exact hRun c (List.mem_append_right _ hChar)
      · rw [List.length_append, hLength] at hThree
        omega

/- No group starts within a run that has none. -/
theorem isAligned_after_rest
    (before group after letters text : List Char)
    (hLength : letters.length < 3)
    (hLetters : AreLetters letters)
    (hStops : StopsRun text)
    (hGroupLength : group.length = 3)
    (hGroup : AreLetters group)
    (hSame : before ++ group ++ after = letters ++ text)
    (hAligned : IsAligned before) :
    ∃ later, before = letters ++ later ∧
      IsAligned later := by
  have hWhole := hSame
  rw [List.append_assoc] at hSame
  rcases isAligned_cases before _ letters text hLetters
    hSame hAligned with hLater | ⟨hRun, _⟩
  · exact hLater
  · have hLong :=
      length_le_of_stopsRun (before ++ group) after letters
        text
        (by
          intro c hChar
          rcases List.mem_append.mp hChar with hIn | hIn
          · exact hRun c hIn
          · exact hGroup c hIn)
        hStops hWhole
    rw [List.length_append] at hLong
    omega

namespace IsGroup

variable {text before letters after : List Char}

/- A group at the start of a text starts with a letter. -/
theorem not_stopsRun
    (hGroup : IsGroup text [] letters after) :
    ¬ StopsRun text := by
  intro hStops
  have hText := hGroup.text_eq
  have hLetters := hGroup.areLetters
  match letters, hGroup.length_eq with
  | [a, _, _], _ =>
      have hLetter := hLetters a List.mem_cons_self
      rw [hStops a (by rw [hText]; rfl)] at hLetter
      cases hLetter

/- A character that is no letter lies before the group. -/
theorem after_other
    {c : Char}
    (hGroup : IsGroup (c :: text) before letters after)
    (hOther : c.isAlpha = false) :
    ∃ later, before = c :: later ∧
      IsGroup text later letters after := by
  cases before with
  | nil =>
      have hStops : StopsRun (c :: text) := by
        intro d hHead
        cases hHead
        exact hOther
      exact absurd hStops hGroup.not_stopsRun
  | cons first later =>
      rcases hGroup with ⟨hText, hLength, hLetters, hAligned⟩
      rw [List.cons_append, List.cons_append] at hText
      rcases List.cons.inj hText with ⟨rfl, hLater⟩
      exact
        ⟨later, rfl, hLater, hLength, hLetters,
          isAligned_of_cons c later hOther hAligned⟩

/- So does a group in front, if it is not the group. -/
theorem after_group
    {first : List Char}
    (hGroup : IsGroup (first ++ text) before letters after)
    (hFirstLength : first.length = 3)
    (hFirst : AreLetters first) :
    (before = [] ∧ letters = first ∧ after = text) ∨
      ∃ later, before = first ++ later ∧
        IsGroup text later letters after := by
  rcases hGroup with ⟨hText, hLength, hLetters, hAligned⟩
  rw [List.append_assoc] at hText
  rcases isAligned_after_group before _ first text
    hFirstLength hFirst hText.symm hAligned with
    rfl | ⟨later, rfl, hLater⟩
  · rw [List.nil_append] at hText
    rcases List.append_inj hText
      (hFirstLength.trans hLength.symm) with ⟨rfl, rfl⟩
    exact Or.inl ⟨rfl, rfl, rfl⟩
  · rw [List.append_assoc, List.append_cancel_left_eq,
      ← List.append_assoc] at hText
    exact
      Or.inr
        ⟨later, rfl, hText, hLength, hLetters, hLater⟩

/- So does a run that has no group. -/
theorem after_rest
    {rest : List Char}
    (hGroup : IsGroup (rest ++ text) before letters after)
    (hRestLength : rest.length < 3)
    (hRest : AreLetters rest)
    (hStops : StopsRun text) :
    ∃ later, before = rest ++ later ∧
      IsGroup text later letters after := by
  rcases hGroup with ⟨hText, hLength, hLetters, hAligned⟩
  rcases isAligned_after_rest before letters after rest text
    hRestLength hRest hStops hLength hLetters hText.symm
    hAligned with ⟨later, rfl, hLater⟩
  rw [List.append_assoc, List.append_assoc,
    List.append_cancel_left_eq,
    ← List.append_assoc] at hText
  exact ⟨later, rfl, hText, hLength, hLetters, hLater⟩

/- What stands before the group stops a run if the text does. -/
theorem stopsRun_before
    (hGroup : IsGroup text before letters after)
    (hStops : StopsRun text) :
    StopsRun before := by
  rw [hGroup.text_eq, List.append_assoc] at hStops
  exact hStops.of_append

end IsGroup

end Text

namespace Field

namespace Kind

open Text

/-
  Around a group, what stands before it and what stands
  after it are replaced on their own.
-/
theorem Replaced.of_group
    {kind : Kind}
    {text replaced before letters after : List Char}
    (hReplaced : kind.Replaced text replaced)
    (hGroup : IsGroup text before letters after) :
    ∃ number left right, kind.Names letters number ∧
      replaced = left ++ Numeral.digits number ++ right ∧
      kind.Replaced before left ∧
      kind.Replaced after right := by
  induction hReplaced generalizing before with
  | done =>
      have hSize := congrArg List.length hGroup.text_eq
      simp only [List.length_nil, List.length_append,
        hGroup.length_eq] at hSize
      omega
  | other c text replaced hOther _ ih =>
      rcases hGroup.after_other hOther with
        ⟨later, rfl, hLater⟩
      rcases ih hLater with
        ⟨number, left, right, hNumber, rfl, hLeft, hRight⟩
      exact
        ⟨number, c :: left, right, hNumber, rfl,
          .other c later left hOther hLeft, hRight⟩
  | group first text replaced number hLength hLetters
      hNumber hReplaced ih =>
      rcases hGroup.after_group hLength hLetters with
        ⟨rfl, rfl, rfl⟩ | ⟨later, rfl, hLater⟩
      · exact
          ⟨number, [], replaced, hNumber, rfl, .done,
            hReplaced⟩
      · rcases ih hLater with
          ⟨second, left, right, hSecond, rfl, hLeft,
            hRight⟩
        exact
          ⟨second, Numeral.digits number ++ left, right,
            hSecond, by simp,
            .group first later left number hLength hLetters
              hNumber hLeft, hRight⟩
  | rest first text replaced hNotEmpty hLength hLetters
      hStops _ ih =>
      rcases hGroup.after_rest hLength hLetters hStops with
        ⟨later, rfl, hLater⟩
      rcases ih hLater with
        ⟨number, left, right, hNumber, rfl, hLeft, hRight⟩
      exact
        ⟨number, first ++ left, right, hNumber, by simp,
          .rest first later left hNotEmpty hLength hLetters
            (hLater.stopsRun_before hStops) hLeft, hRight⟩

end Kind

end Field

end CronSchedule

------------------------------------------------------------
-- Cutting a Replacement at Another Character
------------------------------------------------------------

namespace CronSchedule

namespace Text

/- A character that is no letter lies beyond the letters. -/
theorem exists_append_of_other
    (c : Char)
    (before after letters text : List Char)
    (hOther : c.isAlpha = false)
    (hLetters : AreLetters letters)
    (hSame : before ++ c :: after = letters ++ text) :
    ∃ later, before = letters ++ later ∧
      text = later ++ c :: after := by
  rcases List.append_eq_append_iff.mp hSame with
    ⟨later, hLater, hText⟩ | ⟨later, hBefore, hText⟩
  · cases later with
    | nil =>
        refine ⟨[], ?_, ?_⟩
        · rw [List.append_nil, hLater, List.append_nil]
        · rw [List.nil_append, hText, List.nil_append]
    | cons first more =>
        have hFirst : c = first := (List.cons.inj hText).1
        have hLetter := hLetters c (by simp [hLater, hFirst])
        rw [hOther] at hLetter
        cases hLetter
  · exact ⟨later, hBefore, hText⟩

end Text

namespace Field

namespace Kind

open Text

/-
  Around a character that is no letter, both parts are
  replaced on their own as well.
-/
theorem Replaced.of_other
    {kind : Kind}
    {text replaced before after : List Char}
    {c : Char}
    (hReplaced : kind.Replaced text replaced)
    (hOther : c.isAlpha = false)
    (hText : text = before ++ c :: after) :
    ∃ left right, replaced = left ++ c :: right ∧
      kind.Replaced before left ∧
      kind.Replaced after right := by
  induction hReplaced generalizing before with
  | done => simp at hText
  | other d text replaced hFirst hReplaced ih =>
      cases before with
      | nil =>
          cases hText
          exact ⟨[], replaced, rfl, .done, hReplaced⟩
      | cons first later =>
          rw [List.cons_append] at hText
          cases hText
          rcases ih rfl with ⟨left, right, rfl, hLeft, hRight⟩
          exact
            ⟨d :: left, right, rfl,
              .other d later left hFirst hLeft, hRight⟩
  | group letters text replaced number hLength hLetters
      hNumber _ ih =>
      rcases exists_append_of_other c before after letters
        text hOther hLetters hText.symm with
        ⟨later, rfl, hLater⟩
      rcases ih hLater with ⟨left, right, rfl, hLeft, hRight⟩
      exact
        ⟨Numeral.digits number ++ left, right, by simp,
          .group letters later left number hLength hLetters
            hNumber hLeft,
          hRight⟩
  | rest letters text replaced hNotEmpty hLength hLetters
      hStops _ ih =>
      rcases exists_append_of_other c before after letters
        text hOther hLetters hText.symm with
        ⟨later, rfl, hLater⟩
      rcases ih hLater with ⟨left, right, rfl, hLeft, hRight⟩
      rw [hLater] at hStops
      exact
        ⟨letters ++ left, right, by simp,
          .rest letters later left hNotEmpty hLength
            hLetters hStops.of_append hLeft,
          hRight⟩

end Kind

end Field

end CronSchedule

------------------------------------------------------------
-- What a Replacement Keeps
------------------------------------------------------------

namespace CronSchedule

namespace Field

namespace Kind

namespace Replaced

variable {kind : Kind} {text replaced : List Char}

/- Nothing is replaced by nothing. -/
theorem nil_iff :
    kind.Replaced [] replaced ↔ replaced = [] := by
  rw [← kind.replaceGroups_eq_ok_iff]
  change Except.ok [] = Except.ok replaced ↔ _
  rw [Except.ok.injEq, eq_comm]

/- Only nothing is replaced by nothing. -/
theorem eq_nil
    (hReplaced : kind.Replaced text replaced)
    (hNil : replaced = []) :
    text = [] := by
  cases hReplaced with
  | done => rfl
  | other c later others => cases hNil
  | group letters later others number =>
      rw [List.append_eq_nil_iff] at hNil
      exact absurd hNil.1 (Numeral.digits_ne_nil number)
  | rest letters later others hNotEmpty =>
      rw [List.append_eq_nil_iff] at hNil
      exact absurd hNil.1 hNotEmpty

/- Beside digits, a single character comes from itself. -/
theorem eq_singleton
    (hReplaced : kind.Replaced text replaced)
    (c : Char)
    (hOther : c.isDigit = false)
    (hSingle : replaced = [c]) :
    text = [c] := by
  cases hReplaced with
  | done => cases hSingle
  | other first later others _ hLater =>
      cases hSingle
      rw [hLater.eq_nil rfl]
  | group letters later others number =>
      rcases List.exists_cons_of_ne_nil
        (Numeral.digits_ne_nil number) with
        ⟨first, more, hDigits⟩
      rw [hDigits, List.cons_append] at hSingle
      have hFirst : first ∈ Numeral.digits number := by
        rw [hDigits]
        exact List.mem_cons_self
      rw [(List.cons.inj hSingle).1] at hFirst
      exact
        absurd hFirst (Numeral.not_mem_digits number c hOther)
  | rest letters later others hNotEmpty _ _ _ hLater =>
      rw [List.append_eq_singleton_iff] at hSingle
      rcases hSingle with ⟨hNil, _⟩ | ⟨rfl, hOthers⟩
      · exact absurd hNil hNotEmpty
      · rw [hLater.eq_nil hOthers]
        rfl

end Replaced

/- The text without the aliases of the position, if any. -/
def Leaves
    (kind : Kind)
    (text numbered : List Char) : Prop :=
  if kind.hasAliases then
    kind.Replaced text numbered
  else
    numbered = text

theorem replaceAliases_eq_ok_iff
    (kind : Kind)
    (text numbered : List Char) :
    kind.replaceAliases text = .ok numbered ↔
      kind.Leaves text numbered := by
  unfold replaceAliases Leaves
  split
  · exact kind.replaceGroups_eq_ok_iff text numbered
  · rw [Except.ok.injEq, eq_comm]

end Kind

end Field

end CronSchedule
