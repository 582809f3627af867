import CronSchedule.Expression.Basic
import CronSchedule.Proofs.Field.Accepted

/-
  The language of each position: the texts that it accepts,
  with their values.  Every other text is refused in the name
  of the position.

  Main declarations:
    * `Field.parse_numeric`
    * `Field.parse_dayOfMonth`
    * `Field.parse_dayOfWeek`
-/

------------------------------------------------------------
-- Accepted or Refused
------------------------------------------------------------

namespace CronSchedule

namespace Field

variable (kind : Kind) (text : String)

/- A text is accepted with the value that is read. -/
theorem parse_eq_ok_iff
    (field : Field) :
    parse kind text = .ok field ↔
      read kind text.toList = .ok field := by
  unfold parse parseChars
  cases read kind text.toList with
  | error fault => simp [Except.mapError]
  | ok value => simp [Except.mapError]

/- What is not accepted is refused for its position. -/
theorem parse_cases :
    (∃ field, parse kind text = .ok field) ∨
      ∃ fault, parse kind text = .error (.field kind fault) := by
  unfold parse parseChars
  cases read kind text.toList with
  | error fault => exact Or.inr ⟨fault, rfl⟩
  | ok field => exact Or.inl ⟨field, rfl⟩

/- Where the aliases are refused, so is the text. -/
theorem parse_eq_error_of_replaceAliases
    (fault : Fault)
    (hReplace :
      kind.replaceAliases (Text.trim text.toList) =
        .error fault) :
    parse kind text = .error (.field kind fault) := by
  have hShort (short : List Char)
      (hLength : short.length < 3) :
      Text.trim text.toList ≠ short := by
    intro hText
    have hLeaves :=
      (kind.leaves_short_iff short short hLength).mpr rfl
    rw [← kind.replaceAliases_eq_ok_iff, ← hText,
      hReplace] at hLeaves
    cases hLeaves
  unfold parse parseChars read
  dsimp only
  rw [if_neg (hShort [] (by decide)),
    if_neg (hShort ['*'] (by decide)), hReplace]
  rfl

/- All groups of an accepted text are aliases. -/
theorem exists_names_of_parse
    (field : Field)
    (hAliases : kind.hasAliases = true)
    (hParse : parse kind text = .ok field)
    (before letters after : List Char)
    (hGroup :
      Text.IsGroup (Text.trim text.toList) before letters
        after) :
    ∃ number, kind.Names letters number := by
  rw [parse_eq_ok_iff, read_eq_ok_iff] at hParse
  rcases hParse with ⟨rfl, _⟩ | ⟨numbered, hLeaves, _⟩
  · cases hAliases
  · unfold Kind.Leaves at hLeaves
    rw [if_pos hAliases] at hLeaves
    rcases hLeaves.of_group hGroup with
      ⟨number, _, _, hNumber, _⟩
    exact ⟨number, hNumber⟩

end Field

end CronSchedule

------------------------------------------------------------
-- Numeric Positions
------------------------------------------------------------

namespace CronSchedule

namespace Field

/-
  Beside the day fields, a text is accepted exactly if it
  gives a set once the aliases of months are replaced, or if
  it is an empty year.  A text whose aliases cannot be
  replaced is refused for that cause.
-/
theorem parse_numeric
    (kind : Kind)
    (hKind : kind ≠ .dayOfMonth ∧ kind ≠ .dayOfWeek)
    (text : String) :
    (∀ field,
      parse kind text = .ok field ↔
        (kind = .year ∧ Text.trim text.toList = [] ∧
            field = .anyYear) ∨
          ∃ numbered values,
            (if kind = .month then
                kind.Replaced (Text.trim text.toList)
                  numbered
              else
                numbered = Text.trim text.toList) ∧
              kind.Gives numbered values ∧
              field = .fixed values) ∧
      ((∃ field, parse kind text = .ok field) ∨
        ∃ fault,
          parse kind text = .error (.field kind fault)) ∧
      ∀ fault,
        kind.replaceAliases (Text.trim text.toList) =
            .error fault →
          parse kind text = .error (.field kind fault) := by
  refine
    ⟨?_, parse_cases kind text,
      parse_eq_error_of_replaceAliases kind text⟩
  intro field
  rw [parse_eq_ok_iff, read_eq_ok_iff]
  have hForm (numbered : List Char) :
      kind.Form numbered field ↔
        ∃ values, kind.Gives numbered values ∧
          field = .fixed values := by
    cases kind with
    | dayOfMonth => exact absurd rfl hKind.1
    | dayOfWeek => exact absurd rfl hKind.2
    | _ => exact exists_congr fun values => and_comm
  have hLeaves (numbered : List Char) :
      kind.Leaves (Text.trim text.toList) numbered ↔
        if kind = .month then
          kind.Replaced (Text.trim text.toList) numbered
        else
          numbered = Text.trim text.toList := by
    cases kind with
    | dayOfWeek => exact absurd rfl hKind.2
    | _ => exact Iff.rfl
  simp only [hForm, hLeaves, exists_and_left]

/- Months by name, between blanks. -/
theorem parse_numeric_quarters :
    (Kind.month ≠ .dayOfMonth ∧ Kind.month ≠ .dayOfWeek) ∧
      parse .month " jan-OCT/3 " =
        .ok (.fixed (ValueSet.ofList [1, 4, 7, 10])) := by
  refine ⟨by decide, ?_⟩
  have hReplaced :
      Kind.month.Replaced
        (Text.trim " jan-OCT/3 ".toList)
        "1-10/3".toList := by
    rw [← Kind.replaceGroups_eq_ok_iff]
    rfl
  have hSpells :
      Selection.Spells .month "1-10/3".toList
        (.stepped 1 10 3) :=
    .rangeStep ['1'] ['1', '0'] ['3'] 1 10 3
      (Numeral.isOperand_digits 1 (by decide))
      (Numeral.isOperand_digits 10 (by decide))
      (Numeral.isOperand_digits 3 (by decide))
  have hFits :
      Selection.Fits .month (.stepped 1 10 3) := by
    unfold Selection.Fits
    decide
  have hGives :
      Kind.month.Gives "1-10/3".toList
        (ValueSet.ofList [1, 4, 7, 10]) :=
    .selection _ (.stepped 1 10 3) _ hSpells hFits
      (Selection.mem_values_iff .month (.stepped 1 10 3)
        hFits)
  exact
    ((parse_numeric .month (by decide)
      " jan-OCT/3 ").1 _).mpr
      (Or.inr ⟨_, _, hReplaced, hGives, rfl⟩)

end Field

end CronSchedule

------------------------------------------------------------
-- Day Fields
------------------------------------------------------------

namespace CronSchedule

namespace Field

/-
  A day-of-month text is accepted exactly if it has one of
  the forms between its blanks.
-/
theorem parse_dayOfMonth
    (text : String) :
    (∀ field,
      parse .dayOfMonth text = .ok field ↔
        DayOfMonthForm (Text.trim text.toList) field) ∧
      ((∃ field, parse .dayOfMonth text = .ok field) ∨
        ∃ fault,
          parse .dayOfMonth text =
            .error (.field .dayOfMonth fault)) := by
  refine ⟨?_, parse_cases .dayOfMonth text⟩
  intro field
  rw [parse_eq_ok_iff, read_eq_ok_iff]
  constructor
  · rintro (⟨hYear, _⟩ | ⟨numbered, rfl, hForm⟩)
    · cases hYear
    · exact hForm
  · intro hForm
    exact Or.inr ⟨_, rfl, hForm⟩

/-
  A day-of-week text is accepted exactly if it has one of the
  forms once its aliases are replaced.  A text with a group
  that names no weekday is refused.
-/
theorem parse_dayOfWeek
    (text : String) :
    (∀ field,
      parse .dayOfWeek text = .ok field ↔
        ∃ numbered,
          Kind.dayOfWeek.Replaced (Text.trim text.toList)
              numbered ∧
            DayOfWeekForm numbered field) ∧
      ((∃ field, parse .dayOfWeek text = .ok field) ∨
        ∃ fault,
          parse .dayOfWeek text =
            .error (.field .dayOfWeek fault)) ∧
      ∀ before letters after,
        Text.IsGroup (Text.trim text.toList) before letters
            after →
          (∀ number,
            ¬ Kind.dayOfWeek.Names letters number) →
          ∃ fault,
            parse .dayOfWeek text =
              .error (.field .dayOfWeek fault) := by
  refine ⟨?_, parse_cases .dayOfWeek text, ?_⟩
  · intro field
    rw [parse_eq_ok_iff, read_eq_ok_iff]
    constructor
    · rintro (⟨hYear, _⟩ | hNumbered)
      · cases hYear
      · exact hNumbered
    · exact Or.inr
  · intro before letters after hGroup hUnknown
    rcases parse_cases .dayOfWeek text with
      ⟨field, hParse⟩ | hRefused
    · rcases exists_names_of_parse .dayOfWeek text field rfl
        hParse before letters after hGroup with
        ⟨number, hNumber⟩
      exact absurd hNumber (hUnknown number)
    · exact hRefused

/- `DAY` is no weekday, though `MON` is one. -/
theorem parse_dayOfWeek_monday :
    ∃ fault,
      parse .dayOfWeek "MONDAY" =
        .error (.field .dayOfWeek fault) := by
  have hGroup :
      Text.IsGroup (Text.trim "MONDAY".toList)
        "MON".toList "DAY".toList [] :=
    { text_eq := rfl
      length_eq := rfl
      areLetters := List.all_eq_true.mp rfl
      isAligned :=
        ⟨[], "MON".toList, rfl, by simp [Text.EndsRun],
          List.all_eq_true.mp rfl, by decide⟩ }
  have hUnknown (number : Nat) :
      ¬ Kind.dayOfWeek.Names "DAY".toList number := by
    rw [← Kind.aliasNumber?_eq_some_iff]
    have hNone :
        Kind.dayOfWeek.aliasNumber? "DAY".toList = none := by
      decide
    rw [hNone]
    intro hSome
    cases hSome
  exact
    (parse_dayOfWeek "MONDAY").2.2 _ _ _ hGroup hUnknown

end Field

end CronSchedule
