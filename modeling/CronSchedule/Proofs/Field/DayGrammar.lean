import CronSchedule.Proofs.Field.Grammar

/-
  The grammar of the day fields: `?`, `L`, and the forms that
  count from the end of the month, name a working day, or
  count weekdays, beside the numeric forms.

  Key definitions include:
    * `Field.DayOfMonthForm`
    * `Field.DayOfWeekForm`

  Main declarations:
    * `Field.readDayOfMonth_eq_ok_iff`
    * `Field.readDayOfWeek_eq_ok_iff`
-/

------------------------------------------------------------
-- The Forms
------------------------------------------------------------

namespace CronSchedule

namespace Field

/- A day-of-month text and its value. -/
inductive DayOfMonthForm : List Char → Field → Prop where
/- `?` -/
| unspecified : DayOfMonthForm ['?'] .unspecified
/- `L` -/
| lastDay : DayOfMonthForm ['L'] .lastDay
/- `LW` -/
| lastWorkday : DayOfMonthForm ['L', 'W'] .lastWorkday
/- `L-3`: up to 31, written with any number of digits. -/
| lastDayOffset
    (offset : List Char)
    (number : Nat)
    (hOffset : Numeral.Denotes offset number)
    (hBound : number ≤ 31) :
    DayOfMonthForm (['L', '-'] ++ offset)
      (.lastDayOffset number)
/- `15W`: one or two digits. -/
| nearestWorkday
    (day : List Char)
    (number : Nat)
    (hDay : Numeral.Denotes day number)
    (hLength : day.length ≤ 2)
    (hBounds : 1 ≤ number ∧ number ≤ 31) :
    DayOfMonthForm (day ++ ['W']) (.nearestWorkday number)
/- `*`, a list, a range, or a step. -/
| fixed
    (text : List Char)
    (values : ValueSet)
    (hValues : Kind.dayOfMonth.Gives text values) :
    DayOfMonthForm text (.fixed values)

/- A day-of-week text without aliases, and its value. -/
inductive DayOfWeekForm : List Char → Field → Prop where
/- `?` -/
| unspecified : DayOfWeekForm ['?'] .unspecified
/- `L`: Saturday. -/
| lastOfWeek
    (values : ValueSet)
    (hValues : ∀ number, number ∈ values ↔ number = 7) :
    DayOfWeekForm ['L'] (.fixed values)
/- `6L`: one or two digits. -/
| lastWeekday
    (weekday : List Char)
    (number : Nat)
    (hWeekday : Numeral.Denotes weekday number)
    (hLength : weekday.length ≤ 2)
    (hBounds : 1 ≤ number ∧ number ≤ 7) :
    DayOfWeekForm (weekday ++ ['L']) (.lastWeekday number)
/- `6#3` -/
| nthWeekday
    (weekday count : List Char)
    (number times : Nat)
    (hWeekday : Numeral.IsOperand weekday number)
    (hCount : Numeral.IsOperand count times)
    (hBounds : 1 ≤ number ∧ number ≤ 7)
    (hTimes : 1 ≤ times ∧ times ≤ 6) :
    DayOfWeekForm (weekday ++ '#' :: count)
      (.nthWeekday number times)
/- `*`, a list, a range, or a step. -/
| fixed
    (text : List Char)
    (values : ValueSet)
    (hValues : Kind.dayOfWeek.Gives text values) :
    DayOfWeekForm text (.fixed values)

end Field

end CronSchedule

------------------------------------------------------------
-- Absent Characters
------------------------------------------------------------

namespace CronSchedule

namespace Field

/- A special character that is absent is not combined. -/
theorem forbiddenBeside?_eq_none
    (special : Char)
    (text : List Char)
    (hText : special ∉ text) :
    forbiddenBeside? special text = none := by
  unfold forbiddenBeside?
  rw [if_neg]
  simpa using hText

theorem forbiddenBeside?_eq_none_of_in?
    (special : Char)
    (text : List Char)
    (hDash : '-' ∉ text)
    (hComma : ',' ∉ text)
    (hSlash : '/' ∉ text) :
    forbiddenBeside? special text = none := by
  have hNone : Combinator.in? text = none := by
    unfold Combinator.in?
    simp [hDash, hComma, hSlash]
  unfold forbiddenBeside?
  rw [hNone, ite_self]

/- A text differs from those with another character. -/
theorem ne_of_not_mem
    {text other : List Char}
    (c : Char)
    (hText : c ∉ text)
    (hOther : c ∈ other) :
    text ≠ other := by
  rintro rfl
  exact hText hOther

/- A text does not start with an absent character. -/
theorem stripStart?_eq_none
    (first : Char)
    (start text : List Char)
    (hText : first ∉ text) :
    Text.stripStart? (first :: start) text = none := by
  rw [Option.eq_none_iff_forall_ne_some]
  intro rest hSome
  rw [Text.stripStart?_eq_some_iff] at hSome
  rw [hSome] at hText
  simp at hText

/- A mark at the end, after a run of one or two digits. -/
theorem markedDay?_eq_some_iff
    (mark : Char)
    (text : List Char)
    (number : Nat) :
    markedDay? mark text = some number ↔
      ∃ day, text = day ++ [mark] ∧
        Numeral.Denotes day number ∧ day.length ≤ 2 := by
  unfold markedDay?
  simp only [Option.bind_eq_bind, Option.bind_eq_some_iff,
    Text.stripLast?_eq_some_iff,
    Option.ite_none_right_eq_some,
    Numeral.short?_eq_some_iff]
  constructor
  · rintro ⟨day, hText, hLength, hDay⟩
    exact ⟨day, hText, hDay.toDenotes, hLength⟩
  · rintro ⟨day, hText, hDay, hLength⟩
    exact ⟨day, hText, hLength, hDay, by omega⟩

theorem markedDay?_eq_none
    (mark : Char)
    (text : List Char)
    (hText : mark ∉ text) :
    markedDay? mark text = none := by
  rw [Option.eq_none_iff_forall_ne_some]
  intro number hSome
  rw [markedDay?_eq_some_iff] at hSome
  rcases hSome with ⟨day, rfl, _⟩
  simp at hText

/- A run of digits and its mark have no other characters. -/
theorem not_mem_append_mark
    {text : List Char}
    {number : Nat}
    (hText : Numeral.Denotes text number)
    (mark c : Char)
    (hDigit : c.isDigit = false)
    (hMark : c ≠ mark) :
    c ∉ text ++ [mark] := by
  rw [List.mem_append, List.mem_singleton, not_or]
  exact ⟨hText.not_mem c hDigit, hMark⟩

/- A text is no selection if it has a special character. -/
theorem Selection.Spells.not_mem
    {kind : Kind}
    {text : List Char}
    {selection : Selection}
    (hSpells : Selection.Spells kind text selection)
    (c : Char)
    (hDigit : c.isDigit = false)
    (hOther : c ∉ [',', '-', '/', '*']) :
    c ∉ text := by
  simp only [List.mem_cons, List.not_mem_nil, or_false,
    not_or] at hOther
  rcases hOther with ⟨hComma, hDash, hSlash, hAll⟩
  cases hSpells with
  | list items numbers _ hItems =>
      intro hChar
      rcases mem_of_mem_intercalate items c hChar with
        hEq | ⟨item, hItem, hIn⟩
      · exact hComma hEq
      · exact
          not_mem_operands items numbers hItems c hDigit
            item hItem hIn
  | range first last a b hFirst hLast =>
      simp [hDash, hFirst.not_mem c hDigit,
        hLast.not_mem c hDigit]
  | openStep start step a n hStart hStep =>
      simp [hSlash, hStart.not_mem c hDigit,
        hStep.not_mem c hDigit]
  | fullStep step n hStep =>
      simp [hSlash, hAll, hStep.not_mem c hDigit]
  | rangeStep first last step a b n hFirst hLast hStep =>
      simp [hSlash, hDash, hFirst.not_mem c hDigit,
        hLast.not_mem c hDigit, hStep.not_mem c hDigit]

end Field

end CronSchedule

------------------------------------------------------------
-- Days of the Month
------------------------------------------------------------

namespace CronSchedule

namespace Field

theorem dayOfMonthFault?_eq_none
    (text : List Char)
    (hNth : '#' ∉ text)
    (hLast :
      isLastDay text = true ∨
        forbiddenBeside? 'L' text = none)
    (hNearest : forbiddenBeside? 'W' text = none) :
    dayOfMonthFault? text = none := by
  unfold dayOfMonthFault?
  rw [if_neg (by simpa using hNth), hNearest]
  rcases hLast with hLast | hLast
  · rw [if_pos hLast]
    rfl
  · rw [hLast, ite_self]
    rfl

/- A day text that passes the first sight is read on. -/
theorem readDayOfMonth_eq_readDayForm
    (text : List Char)
    (hFault : dayOfMonthFault? text = none) :
    readDayOfMonth text = readDayForm text := by
  unfold readDayOfMonth
  rw [hFault]

/- Without its marks a day text is read as a selection. -/
theorem readDayOfMonth_eq_readSelection
    (text : List Char)
    (hMark : '?' ∉ text)
    (hNth : '#' ∉ text)
    (hLast : 'L' ∉ text)
    (hNearest : 'W' ∉ text) :
    readDayOfMonth text = readSelection .dayOfMonth text := by
  rw [readDayOfMonth_eq_readDayForm text
    (dayOfMonthFault?_eq_none text hNth
      (Or.inr (forbiddenBeside?_eq_none 'L' text hLast))
      (forbiddenBeside?_eq_none 'W' text hNearest))]
  unfold readDayForm
  rw [if_neg (ne_of_not_mem '?' hMark (by simp)),
    if_neg (ne_of_not_mem 'L' hLast (by simp)),
    if_neg (ne_of_not_mem 'L' hLast (by simp)),
    stripStart?_eq_none 'L' ['-'] text hLast,
    markedDay?_eq_none 'W' text hNearest]

theorem readOffset_eq_ok_iff
    (text offset : List Char)
    (field : Field) :
    readOffset text offset = .ok field ↔
      ∃ number, Numeral.Denotes offset number ∧
        number ≤ 31 ∧ field = .lastDayOffset number := by
  have hRun := Numeral.isRun_iff offset
  unfold readOffset
  constructor
  · intro hRead
    split at hRead
    · rename_i hOffset
      cases hRead
      exact ⟨_, hRun.mp hOffset.1, hOffset.2, rfl⟩
    · cases hRead
  · rintro ⟨number, hOffset, hBound, rfl⟩
    cases hOffset.value_eq
    exact if_pos ⟨hRun.mpr hOffset, hBound⟩

theorem readDayOfMonth_lastDayOffset
    (offset : List Char)
    (number : Nat)
    (hOffset : Numeral.Denotes offset number)
    (hBound : number ≤ 31) :
    readDayOfMonth (['L', '-'] ++ offset) =
      .ok (.lastDayOffset number) := by
  have hOther (c : Char)
      (hDigit : c.isDigit = false)
      (hStart : c ∉ ['L', '-']) :
      c ∉ ['L', '-'] ++ offset := by
    rw [List.mem_append, not_or]
    exact ⟨hStart, hOffset.not_mem c hDigit⟩
  have hStrip :=
    (Text.stripStart?_eq_some_iff ['L', '-'] _ offset).mpr
      rfl
  have hLast : isLastDay (['L', '-'] ++ offset) = true := by
    have hRun : Numeral.isRun offset = true := by
      rw [Numeral.isRun_iff, hOffset.value_eq]
      exact hOffset
    unfold isLastDay
    rw [hStrip]
    simp [hRun]
  rw [readDayOfMonth_eq_readDayForm _
    (dayOfMonthFault?_eq_none _
      (hOther '#' rfl (by decide)) (Or.inl hLast)
      (forbiddenBeside?_eq_none 'W' _
        (hOther 'W' rfl (by decide))))]
  unfold readDayForm
  rw [if_neg (by simp), if_neg (by simp),
    if_neg (ne_of_not_mem 'W' (hOther 'W' rfl (by decide))
      (by simp)),
    hStrip]
  exact
    (readOffset_eq_ok_iff _ offset _).mpr
      ⟨number, hOffset, hBound, rfl⟩

theorem readDayOfMonth_nearestWorkday
    (day : List Char)
    (number : Nat)
    (hDay : Numeral.Denotes day number)
    (hLength : day.length ≤ 2)
    (hBounds : Kind.dayOfMonth.Allows number) :
    readDayOfMonth (day ++ ['W']) =
      .ok (.nearestWorkday number) := by
  have hOther (c : Char) := not_mem_append_mark hDay 'W' c
  have hLast := hOther 'L' rfl (by decide)
  rw [readDayOfMonth_eq_readDayForm _
    (dayOfMonthFault?_eq_none _
      (hOther '#' rfl (by decide))
      (Or.inr (forbiddenBeside?_eq_none 'L' _ hLast))
      (forbiddenBeside?_eq_none_of_in? 'W' _
        (hOther '-' rfl (by decide))
        (hOther ',' rfl (by decide))
        (hOther '/' rfl (by decide))))]
  unfold readDayForm
  rw [if_neg
      (ne_of_not_mem '?' (hOther '?' rfl (by decide))
        (by simp)),
    if_neg (ne_of_not_mem 'L' hLast (by simp)),
    if_neg (ne_of_not_mem 'L' hLast (by simp)),
    stripStart?_eq_none 'L' ['-'] _ hLast,
    (markedDay?_eq_some_iff 'W' _ number).mpr
      ⟨day, rfl, hDay, hLength⟩]
  exact if_pos hBounds

/- What is read has one of the forms. -/
theorem form_of_readDayForm
    (text : List Char)
    (field : Field)
    (hRead : readDayForm text = .ok field) :
    DayOfMonthForm text field := by
  unfold readDayForm at hRead
  split at hRead
  · rename_i hText
    cases hRead
    cases hText
    exact .unspecified
  · split at hRead
    · rename_i hText
      cases hRead
      cases hText
      exact .lastDay
    · split at hRead
      · rename_i hText
        cases hRead
        cases hText
        exact .lastWorkday
      · split at hRead
        · rename_i offset hStrip
          rw [Text.stripStart?_eq_some_iff] at hStrip
          rw [readOffset_eq_ok_iff] at hRead
          rcases hRead with ⟨number, hOffset, hBound, rfl⟩
          rw [hStrip]
          exact .lastDayOffset offset number hOffset hBound
        · split at hRead
          · rename_i number hMarked
            rw [markedDay?_eq_some_iff] at hMarked
            rcases hMarked with ⟨day, rfl, hDay, hLength⟩
            split at hRead
            · rename_i hBounds
              cases hRead
              exact
                .nearestWorkday day number hDay hLength
                  hBounds
            · cases hRead
          · rw [readSelection_eq_ok_iff] at hRead
            rcases hRead with ⟨_, values, rfl, hValues⟩
            exact .fixed text values hValues

theorem form_of_readDayOfMonth
    (text : List Char)
    (field : Field)
    (hRead : readDayOfMonth text = .ok field) :
    text ≠ ['*'] ∧ DayOfMonthForm text field := by
  constructor
  · rintro rfl
    cases hRead
  · unfold readDayOfMonth at hRead
    split at hRead
    · cases hRead
    · exact form_of_readDayForm text field hRead

/- The day-of-month grammar is accepted exactly. -/
theorem readDayOfMonth_eq_ok_iff
    (text : List Char)
    (field : Field) :
    readDayOfMonth text = .ok field ↔
      text ≠ ['*'] ∧ DayOfMonthForm text field := by
  constructor
  · exact form_of_readDayOfMonth text field
  · rintro ⟨hNotAll, hForm⟩
    cases hForm with
    | unspecified => rfl
    | lastDay => rfl
    | lastWorkday => rfl
    | lastDayOffset offset number hOffset hBound =>
        exact
          readDayOfMonth_lastDayOffset offset number hOffset
            hBound
    | nearestWorkday day number hDay hLength hBounds =>
        exact
          readDayOfMonth_nearestWorkday day number hDay
            hLength hBounds
    | fixed _ values hValues =>
        cases hValues with
        | all => exact absurd rfl hNotAll
        | selection _ selection _ hSpells hFits hSelects =>
            have hOther (c : Char) := hSpells.not_mem c
            rw [readDayOfMonth_eq_readSelection text
                (hOther '?' rfl (by decide))
                (hOther '#' rfl (by decide))
                (hOther 'L' rfl (by decide))
                (hOther 'W' rfl (by decide)),
              readSelection_eq_ok_iff]
            exact
              ⟨hNotAll, values, rfl,
                .selection text selection values hSpells
                  hFits hSelects⟩

end Field

end CronSchedule

------------------------------------------------------------
-- Days of the Week
------------------------------------------------------------

namespace CronSchedule

namespace Field

theorem dayOfWeekFault?_eq_none
    (text : List Char)
    (hNearest : 'W' ∉ text)
    (hLast : forbiddenBeside? 'L' text = none)
    (hNth : forbiddenBeside? '#' text = none) :
    dayOfWeekFault? text = none := by
  unfold dayOfWeekFault?
  rw [if_neg (by simpa using hNearest), hLast, hNth]
  rfl

/- A day text that passes the first sight is read on. -/
theorem readDayOfWeek_eq_readWeekdayForm
    (text : List Char)
    (hFault : dayOfWeekFault? text = none) :
    readDayOfWeek text = readWeekdayForm text := by
  unfold readDayOfWeek
  rw [hFault]

/- Without its marks a day text is read as a selection. -/
theorem readDayOfWeek_eq_readSelection
    (text : List Char)
    (hMark : '?' ∉ text)
    (hNth : '#' ∉ text)
    (hLast : 'L' ∉ text)
    (hNearest : 'W' ∉ text) :
    readDayOfWeek text = readSelection .dayOfWeek text := by
  rw [readDayOfWeek_eq_readWeekdayForm text
    (dayOfWeekFault?_eq_none text hNearest
      (forbiddenBeside?_eq_none 'L' text hLast)
      (forbiddenBeside?_eq_none '#' text hNth))]
  unfold readWeekdayForm
  rw [if_neg (ne_of_not_mem '?' hMark (by simp)),
    if_neg (ne_of_not_mem 'L' hLast (by simp)),
    markedDay?_eq_none 'L' text hLast,
    (Text.splitFirst?_eq_none_iff '#' text).mpr hNth]

theorem readDayOfWeek_lastWeekday
    (weekday : List Char)
    (number : Nat)
    (hWeekday : Numeral.Denotes weekday number)
    (hLength : weekday.length ≤ 2)
    (hBounds : Kind.dayOfWeek.Allows number) :
    readDayOfWeek (weekday ++ ['L']) =
      .ok (.lastWeekday number) := by
  have hOther (c : Char) :=
    not_mem_append_mark hWeekday 'L' c
  have hAlone : weekday ++ ['L'] ≠ ['L'] := by
    simp [hWeekday.notEmpty]
  rw [readDayOfWeek_eq_readWeekdayForm _
    (dayOfWeekFault?_eq_none _
      (hOther 'W' rfl (by decide))
      (forbiddenBeside?_eq_none_of_in? 'L' _
        (hOther '-' rfl (by decide))
        (hOther ',' rfl (by decide))
        (hOther '/' rfl (by decide)))
      (forbiddenBeside?_eq_none '#' _
        (hOther '#' rfl (by decide))))]
  unfold readWeekdayForm
  rw [if_neg
      (ne_of_not_mem '?' (hOther '?' rfl (by decide))
        (by simp)),
    if_neg hAlone,
    (markedDay?_eq_some_iff 'L' _ number).mpr
      ⟨weekday, rfl, hWeekday, hLength⟩]
  exact if_pos hBounds

theorem readNthWeekday_eq_ok_iff
    (text weekday count : List Char)
    (field : Field) :
    readNthWeekday text weekday count = .ok field ↔
      ∃ number times, Numeral.IsOperand weekday number ∧
        Numeral.IsOperand count times ∧
        Kind.dayOfWeek.Allows number ∧
        (1 ≤ times ∧ times ≤ greatestCount) ∧
        field = .nthWeekday number times := by
  unfold readNthWeekday
  constructor
  · intro hRead
    split at hRead
    · rename_i number times hNumber hTimes
      rw [Numeral.short?_eq_some_iff] at hNumber hTimes
      split at hRead
      · rename_i hBounds
        cases hRead
        exact
          ⟨number, times, hNumber, hTimes, hBounds.1,
            hBounds.2, rfl⟩
      · cases hRead
    · cases hRead
  · rintro ⟨number, times, hNumber, hTimes, hAllows,
      hBounds, rfl⟩
    rw [(Numeral.short?_eq_some_iff weekday number).mpr
        hNumber,
      (Numeral.short?_eq_some_iff count times).mpr hTimes]
    exact if_pos ⟨hAllows, hBounds⟩

theorem readDayOfWeek_nthWeekday
    (weekday count : List Char)
    (number times : Nat)
    (hWeekday : Numeral.IsOperand weekday number)
    (hCount : Numeral.IsOperand count times)
    (hBounds : Kind.dayOfWeek.Allows number)
    (hTimes : 1 ≤ times ∧ times ≤ greatestCount) :
    readDayOfWeek (weekday ++ '#' :: count) =
      .ok (.nthWeekday number times) := by
  have hOther (c : Char)
      (hDigit : c.isDigit = false)
      (hMark : c ≠ '#') :
      c ∉ weekday ++ '#' :: count := by
    simp [hMark, hWeekday.not_mem c hDigit,
      hCount.not_mem c hDigit]
  have hLast := hOther 'L' rfl (by decide)
  rw [readDayOfWeek_eq_readWeekdayForm _
    (dayOfWeekFault?_eq_none _
      (hOther 'W' rfl (by decide))
      (forbiddenBeside?_eq_none 'L' _ hLast)
      (forbiddenBeside?_eq_none_of_in? '#' _
        (hOther '-' rfl (by decide))
        (hOther ',' rfl (by decide))
        (hOther '/' rfl (by decide))))]
  unfold readWeekdayForm
  rw [if_neg
      (ne_of_not_mem '?' (hOther '?' rfl (by decide))
        (by simp)),
    if_neg (ne_of_not_mem 'L' hLast (by simp)),
    markedDay?_eq_none 'L' _ hLast,
    (Text.splitFirst?_eq_some_iff '#' _ weekday
      count).mpr ⟨rfl, hWeekday.not_mem '#' rfl⟩]
  exact
    (readNthWeekday_eq_ok_iff _ weekday count _).mpr
      ⟨number, times, hWeekday, hCount, hBounds, hTimes, rfl⟩

/- What is read has one of the forms. -/
theorem form_of_readWeekdayForm
    (text : List Char)
    (field : Field)
    (hRead : readWeekdayForm text = .ok field) :
    DayOfWeekForm text field := by
  unfold readWeekdayForm at hRead
  split at hRead
  · rename_i hText
    cases hRead
    cases hText
    exact .unspecified
  · split at hRead
    · rename_i hText
      cases hRead
      cases hText
      apply DayOfWeekForm.lastOfWeek
      intro number
      rw [ValueSet.mem_interval]
      omega
    · split at hRead
      · rename_i number hMarked
        rw [markedDay?_eq_some_iff] at hMarked
        rcases hMarked with ⟨weekday, rfl, hDay, hLength⟩
        split at hRead
        · rename_i hBounds
          cases hRead
          exact
            .lastWeekday weekday number hDay hLength hBounds
        · cases hRead
      · split at hRead
        · rename_i weekday count hSplit
          rw [Text.splitFirst?_eq_some_iff] at hSplit
          rw [readNthWeekday_eq_ok_iff] at hRead
          rcases hRead with
            ⟨number, times, hWeekday, hCount, hBounds,
              hTimes, rfl⟩
          rw [hSplit.1]
          exact
            .nthWeekday weekday count number times hWeekday
              hCount hBounds hTimes
        · rw [readSelection_eq_ok_iff] at hRead
          rcases hRead with ⟨_, values, rfl, hValues⟩
          exact .fixed text values hValues

theorem form_of_readDayOfWeek
    (text : List Char)
    (field : Field)
    (hRead : readDayOfWeek text = .ok field) :
    text ≠ ['*'] ∧ DayOfWeekForm text field := by
  constructor
  · rintro rfl
    cases hRead
  · unfold readDayOfWeek at hRead
    split at hRead
    · cases hRead
    · exact form_of_readWeekdayForm text field hRead

/- The day-of-week grammar is accepted exactly. -/
theorem readDayOfWeek_eq_ok_iff
    (text : List Char)
    (field : Field) :
    readDayOfWeek text = .ok field ↔
      text ≠ ['*'] ∧ DayOfWeekForm text field := by
  constructor
  · exact form_of_readDayOfWeek text field
  · rintro ⟨hNotAll, hForm⟩
    cases hForm with
    | unspecified => rfl
    | lastOfWeek values hValues =>
        have hSet : ValueSet.interval 7 7 = values := by
          apply ValueSet.eq_of_mem_iff
          intro number
          rw [ValueSet.mem_interval, hValues]
          omega
        rw [← hSet]
        rfl
    | lastWeekday weekday number hWeekday hLength hBounds =>
        exact
          readDayOfWeek_lastWeekday weekday number hWeekday
            hLength hBounds
    | nthWeekday weekday count number times hWeekday hCount
        hBounds hTimes =>
        exact
          readDayOfWeek_nthWeekday weekday count number times
            hWeekday hCount hBounds hTimes
    | fixed _ values hValues =>
        cases hValues with
        | all => exact absurd rfl hNotAll
        | selection _ selection _ hSpells hFits hSelects =>
            have hOther (c : Char) := hSpells.not_mem c
            rw [readDayOfWeek_eq_readSelection text
                (hOther '?' rfl (by decide))
                (hOther '#' rfl (by decide))
                (hOther 'L' rfl (by decide))
                (hOther 'W' rfl (by decide)),
              readSelection_eq_ok_iff]
            exact
              ⟨hNotAll, values, rfl,
                .selection text selection values hSpells
                  hFits hSelects⟩

end Field

end CronSchedule
