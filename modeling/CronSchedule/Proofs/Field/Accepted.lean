import CronSchedule.Proofs.Field.DayGrammar
import CronSchedule.Proofs.Field.Grouping
import CronSchedule.Proofs.Text.Words

/-
  Which texts a position accepts, and with which values: the
  aliases are replaced, and what is left must have a form of
  the position.

  Key definitions include:
    * `Field.Kind.Form`

  Main declarations:
    * `Field.read_eq_ok_iff`
    * `Field.fits_of_read`
-/

------------------------------------------------------------
-- The Forms of a Position
------------------------------------------------------------

namespace CronSchedule

namespace Field

/- A text without aliases, and its value. -/
def Kind.Form
    (kind : Kind)
    (text : List Char)
    (field : Field) : Prop :=
  match kind with
  | .dayOfMonth => DayOfMonthForm text field
  | .dayOfWeek => DayOfWeekForm text field
  | kind =>
      ∃ values, field = .fixed values ∧
        kind.Gives text values

/- Months have no form with a mark of the day fields. -/
theorem readMonth_eq_ok_iff
    (text : List Char)
    (field : Field) :
    readMonth text = .ok field ↔
      text ≠ ['*'] ∧ Kind.month.Form text field := by
  unfold readMonth
  constructor
  · intro hRead
    split at hRead
    · cases hRead
    · exact (readSelection_eq_ok_iff .month text field).mp
        hRead
  · rintro ⟨hNotAll, values, rfl, hGives⟩
    rw [if_neg]
    · exact
        (readSelection_eq_ok_iff .month text _).mpr
          ⟨hNotAll, values, rfl, hGives⟩
    · cases hGives with
      | all => exact absurd rfl hNotAll
      | selection _ selection _ hSpells =>
          rw [List.any_eq_true]
          rintro ⟨c, hChar, hMark⟩
          unfold isDayMark at hMark
          simp only [List.contains_iff_mem, List.mem_cons,
            List.not_mem_nil, or_false] at hMark
          rcases hMark with rfl | rfl | rfl | rfl | rfl
          all_goals
            exact hSpells.not_mem _ rfl (by decide) hChar

/- Once `*` is dealt with, the forms are read exactly. -/
theorem readNumbered_eq_ok_iff
    (kind : Kind)
    (text : List Char)
    (field : Field) :
    readNumbered kind text = .ok field ↔
      text ≠ ['*'] ∧ kind.Form text field := by
  cases kind with
  | dayOfMonth => exact readDayOfMonth_eq_ok_iff text field
  | dayOfWeek => exact readDayOfWeek_eq_ok_iff text field
  | month => exact readMonth_eq_ok_iff text field
  | second => exact readSelection_eq_ok_iff .second text field
  | minute => exact readSelection_eq_ok_iff .minute text field
  | hour => exact readSelection_eq_ok_iff .hour text field
  | year => exact readSelection_eq_ok_iff .year text field

/- A form that has a `*` is numeric. -/
theorem gives_of_form
    (kind : Kind)
    (text : List Char)
    (field : Field)
    (hForm : kind.Form text field)
    (hAll : '*' ∈ text) :
    ∃ values, field = .fixed values ∧
      kind.Gives text values := by
  cases kind with
  | dayOfMonth =>
      cases hForm with
      | fixed _ values hValues => exact ⟨values, rfl, hValues⟩
      | lastDayOffset offset _ hOffset =>
          simp [hOffset.not_mem '*' rfl] at hAll
      | nearestWorkday day _ hDay =>
          simp [hDay.not_mem '*' rfl] at hAll
      | _ => simp at hAll
  | dayOfWeek =>
      cases hForm with
      | fixed _ values hValues => exact ⟨values, rfl, hValues⟩
      | lastWeekday weekday _ hWeekday =>
          simp [hWeekday.not_mem '*' rfl] at hAll
      | nthWeekday weekday count _ _ hWeekday hCount =>
          simp [hWeekday.not_mem '*' rfl,
            hCount.not_mem '*' rfl] at hAll
      | _ => simp at hAll
  | _ => exact hForm

/- The form of `*` is the set of all values. -/
theorem form_all_iff
    (kind : Kind)
    (field : Field) :
    kind.Form ['*'] field ↔ field = full kind := by
  constructor
  · intro hForm
    rcases gives_of_form kind ['*'] field hForm
      List.mem_cons_self with ⟨values, rfl, hGives⟩
    cases hGives with
    | all _ hValues =>
        exact ((full_eq_fixed_iff kind values).mpr
          hValues).symm
    | selection _ selection _ hSpells hFits =>
        exact
          absurd hSpells
            (selection.not_spells_all kind hFits)
  · rintro rfl
    have hGives :
        kind.Gives ['*']
          (ValueSet.interval kind.least kind.greatest) :=
      .all _ ((full_eq_fixed_iff kind _).mp rfl)
    cases kind with
    | dayOfMonth => exact .fixed _ _ hGives
    | dayOfWeek => exact .fixed _ _ hGives
    | _ => exact ⟨_, rfl, hGives⟩

/- No form is empty. -/
theorem not_form_nil
    (kind : Kind)
    (field : Field) :
    ¬ kind.Form [] field := by
  intro hForm
  have hRead :=
    (readNumbered_eq_ok_iff kind [] field).mpr
      ⟨by simp, hForm⟩
  cases kind <;> cases hRead

end Field

end CronSchedule

------------------------------------------------------------
-- Reading a Field
------------------------------------------------------------

namespace CronSchedule

namespace Field

/- A text too short for a group stays as it is. -/
theorem Kind.leaves_short_iff
    (kind : Kind)
    (text numbered : List Char)
    (hShort : text.length < 3) :
    kind.Leaves text numbered ↔ numbered = text := by
  have hSame : kind.replaceAliases text = .ok text := by
    unfold replaceAliases
    split
    · match text, hShort with
      | [], _ => rfl
      | [_], _ => rfl
      | [_, _], _ => rfl
    · rfl
  rw [← kind.replaceAliases_eq_ok_iff, hSame,
    Except.ok.injEq, eq_comm]

/- Beside digits, a single character is left of itself. -/
theorem Kind.leaves_singleton_iff
    (kind : Kind)
    (text : List Char)
    (c : Char)
    (hDigit : c.isDigit = false) :
    kind.Leaves text [c] ↔ text = [c] := by
  constructor
  · intro hLeaves
    unfold Leaves at hLeaves
    split at hLeaves
    · exact hLeaves.eq_singleton c hDigit rfl
    · exact hLeaves.symm
  · rintro rfl
    exact (kind.leaves_short_iff _ _ (by simp)).mpr rfl

/- What is left of the text has a form of the position. -/
theorem exists_form_short_iff
    (kind : Kind)
    (text : List Char)
    (field : Field)
    (hShort : text.length < 3) :
    (∃ numbered, kind.Leaves text numbered ∧
        kind.Form numbered field) ↔
      kind.Form text field := by
  simp only [kind.leaves_short_iff text _ hShort,
    exists_eq_left]

/-
  A text is accepted if it has a form once its aliases are
  replaced.  An empty text stands for any year.
-/
theorem read_eq_ok_iff
    (kind : Kind)
    (text : List Char)
    (field : Field) :
    read kind text = .ok field ↔
      (kind = .year ∧ Text.trim text = [] ∧
          field = .anyYear) ∨
        ∃ numbered,
          kind.Leaves (Text.trim text) numbered ∧
            kind.Form numbered field := by
  unfold read
  dsimp only
  by_cases hEmpty : Text.trim text = []
  · rw [if_pos hEmpty, hEmpty,
      exists_form_short_iff kind [] field (by simp),
      or_iff_left (not_form_nil kind field)]
    by_cases hYear : kind = .year
    · simp [hYear, eq_comm]
    · simp [hYear]
  · rw [if_neg hEmpty, or_iff_right (fun h => hEmpty h.2.1)]
    by_cases hAll : Text.trim text = ['*']
    · rw [if_pos hAll, hAll,
        exists_form_short_iff kind ['*'] field (by simp),
        form_all_iff, Except.ok.injEq, eq_comm]
    · rw [if_neg hAll]
      constructor
      · intro hRead
        rcases exists_ok_of_bind _ _ field hRead with
          ⟨numbered, hNumbered, hField⟩
        rw [kind.replaceAliases_eq_ok_iff] at hNumbered
        rw [readNumbered_eq_ok_iff] at hField
        exact ⟨numbered, hNumbered, hField.2⟩
      · rintro ⟨numbered, hLeaves, hForm⟩
        have hNotAll : numbered ≠ ['*'] := by
          rintro rfl
          rw [kind.leaves_singleton_iff _ '*' rfl]
            at hLeaves
          exact hAll hLeaves
        rw [← kind.replaceAliases_eq_ok_iff] at hLeaves
        rw [hLeaves, ok_bind]
        exact
          (readNumbered_eq_ok_iff kind numbered field).mpr
            ⟨hNotAll, hForm⟩

/- Only `?` is read as `?` by the day fields. -/
theorem unspecified_iff
    (kind : Kind)
    (text : List Char)
    (field : Field)
    (hKind : kind = .dayOfMonth ∨ kind = .dayOfWeek)
    (hText : ∀ c ∈ text, Text.isBlank c = false)
    (hRead : read kind text = .ok field) :
    field = .unspecified ↔ text = ['?'] := by
  constructor
  · rintro rfl
    rw [read_eq_ok_iff, Text.trim_eq_self text hText]
      at hRead
    rcases hRead with ⟨_, _, hField⟩ |
      ⟨numbered, hLeaves, hForm⟩
    · cases hField
    · have hMark : numbered = ['?'] := by
        rcases hKind with rfl | rfl
        · cases hForm
          rfl
        · cases hForm
          rfl
      rw [hMark] at hLeaves
      exact (kind.leaves_singleton_iff text '?' rfl).mp
        hLeaves
  · rintro rfl
    rcases hKind with rfl | rfl
    · exact (Except.ok.inj hRead).symm
    · exact (Except.ok.inj hRead).symm

end Field

end CronSchedule

------------------------------------------------------------
-- Values of the Position
------------------------------------------------------------

namespace CronSchedule

namespace Field

/- A form gives a value that fits its position. -/
theorem fits_of_form
    (kind : Kind)
    (text : List Char)
    (field : Field)
    (hForm : kind.Form text field) :
    field.Fits kind := by
  cases kind with
  | dayOfMonth =>
      cases hForm with
      | unspecified => trivial
      | lastDay => trivial
      | lastWorkday => trivial
      | lastDayOffset _ _ _ hBound => exact hBound
      | nearestWorkday _ _ _ _ hBounds => exact hBounds
      | fixed _ _ hValues => exact hValues.allowsSet
  | dayOfWeek =>
      cases hForm with
      | unspecified => trivial
      | lastOfWeek values hValues =>
          apply Kind.dayOfWeek.allowsSet_of_mem values 7
          · exact (hValues 7).mpr rfl
          · intro other hOther
            rw [(hValues other).mp hOther]
            decide
      | lastWeekday _ _ _ _ hBounds => exact hBounds
      | nthWeekday _ _ _ _ _ _ hBounds hTimes =>
          exact ⟨hBounds, hTimes⟩
      | fixed _ _ hValues => exact hValues.allowsSet
  | _ =>
      rcases hForm with ⟨values, rfl, hGives⟩
      exact hGives.allowsSet

/- Every field that is read fits its position. -/
theorem fits_of_read
    (kind : Kind)
    (text : List Char)
    (field : Field)
    (hRead : read kind text = .ok field) :
    field.Fits kind := by
  rw [read_eq_ok_iff] at hRead
  rcases hRead with ⟨rfl, _, rfl⟩ | ⟨numbered, _, hForm⟩
  · trivial
  · exact fits_of_form kind numbered field hForm

end Field

end CronSchedule
