import CronSchedule.Expression.Basic
import CronSchedule.Proofs.Field.Accepted
import CronSchedule.Proofs.Text.Words

/-
  The expressions that reading can give: every field fits
  its position, and exactly one of the day fields is `?`.

  Key definitions include:
    * `Expression.WellFormed`

  Main declarations:
    * `Expression.parse_cases`
    * `Expression.wellFormed_of_parse`
-/

------------------------------------------------------------
-- Well-Formed Expressions
------------------------------------------------------------

namespace CronSchedule

namespace Expression

/- All fields fit, and one of the day fields is `?`. -/
structure WellFormed
    (expression : Expression) : Prop where
  fits : ∀ kind, (expression.field kind).Fits kind
  oneDayField :
    expression.dayOfMonth = .unspecified ↔
      expression.dayOfWeek ≠ .unspecified

/- The year is an explicit set, or it is omitted. -/
theorem WellFormed.year_cases
    {expression : Expression}
    (hWellFormed : expression.WellFormed) :
    expression.year = .anyYear ∨
      ∃ years, expression.year = .fixed years := by
  have hFits := hWellFormed.fits .year
  change expression.year.Fits .year at hFits
  cases hYear : expression.year with
  | anyYear =>
      exact Or.inl rfl
  | fixed years =>
      exact Or.inr ⟨years, rfl⟩
  | _ =>
      rw [hYear] at hFits
      cases hFits

/- The times and the month are explicit sets. -/
theorem WellFormed.exists_fixed
    {expression : Expression}
    (hWellFormed : expression.WellFormed)
    (kind : Field.Kind)
    (hKind :
      kind = .second ∨ kind = .minute ∨ kind = .hour ∨
        kind = .month) :
    ∃ values, expression.field kind = .fixed values ∧
      kind.AllowsSet values :=
  Field.exists_fixed_of_fits kind _ (hWellFormed.fits kind)
    hKind

theorem parseChars_eq_ok_iff
    (kind : Field.Kind)
    (text : List Char)
    (field : Field) :
    Field.parseChars kind text = .ok field ↔
      Field.read kind text = .ok field := by
  unfold Field.parseChars
  cases Field.read kind text with
  | error fault =>
      constructor
      · intro hOk
        cases hOk
      · intro hOk
        cases hOk
  | ok value =>
      constructor
      · intro hOk
        cases hOk
        rfl
      · intro hOk
        cases hOk
        rfl

/- All fields are read, once the day fields agree. -/
theorem ofFields_eq_ok_iff
    (second minute hour dayOfMonth month dayOfWeek year :
      List Char)
    (expression : Expression) :
    ofFields second minute hour dayOfMonth month dayOfWeek
        year = .ok expression ↔
      dayConflict? dayOfMonth dayOfWeek = none ∧
        Field.read .second second = .ok expression.second ∧
        Field.read .minute minute = .ok expression.minute ∧
        Field.read .hour hour = .ok expression.hour ∧
        Field.read .dayOfMonth dayOfMonth =
          .ok expression.dayOfMonth ∧
        Field.read .month month = .ok expression.month ∧
        Field.read .dayOfWeek dayOfWeek =
          .ok expression.dayOfWeek ∧
        Field.read .year year = .ok expression.year := by
  unfold ofFields
  simp only [← parseChars_eq_ok_iff]
  constructor
  · intro hRead
    split at hRead
    · cases hRead
    · rename_i hConflict
      rcases exists_ok_of_bind _ _ _ hRead with
        ⟨_, hSecond, hRead⟩
      rcases exists_ok_of_bind _ _ _ hRead with
        ⟨_, hMinute, hRead⟩
      rcases exists_ok_of_bind _ _ _ hRead with
        ⟨_, hHour, hRead⟩
      rcases exists_ok_of_bind _ _ _ hRead with
        ⟨_, hDayOfMonth, hRead⟩
      rcases exists_ok_of_bind _ _ _ hRead with
        ⟨_, hMonth, hRead⟩
      rcases exists_ok_of_bind _ _ _ hRead with
        ⟨_, hDayOfWeek, hRead⟩
      rcases exists_ok_of_bind _ _ _ hRead with
        ⟨_, hYear, hRead⟩
      cases hRead
      exact
        ⟨hConflict, hSecond, hMinute, hHour, hDayOfMonth,
          hMonth, hDayOfWeek, hYear⟩
  · rintro
      ⟨hConflict, hSecond, hMinute, hHour, hDayOfMonth,
        hMonth, hDayOfWeek, hYear⟩
    rw [hConflict]
    simp only [hSecond, hMinute, hHour, hDayOfMonth, hMonth,
      hDayOfWeek, hYear]
    rfl

/- The words of an accepted text, the last one optional. -/
theorem parse_cases
    (text : String)
    (expression : Expression)
    (hParse : parse text = .ok expression) :
    ∃ second minute hour dayOfMonth month dayOfWeek year,
      (Text.words text.toList =
            [second, minute, hour, dayOfMonth, month,
              dayOfWeek] ∧
          year = [] ∨
        Text.words text.toList =
          [second, minute, hour, dayOfMonth, month,
            dayOfWeek, year]) ∧
        ofFields second minute hour dayOfMonth month
          dayOfWeek year = .ok expression := by
  unfold parse ofWords at hParse
  split at hParse
  · cases hParse
  · rename_i second minute hour dayOfMonth month dayOfWeek
      hWords
    exact
      ⟨second, minute, hour, dayOfMonth, month, dayOfWeek,
        [], Or.inl ⟨hWords, rfl⟩, hParse⟩
  · rename_i second minute hour dayOfMonth month dayOfWeek
      year hWords
    exact
      ⟨second, minute, hour, dayOfMonth, month, dayOfWeek,
        year, Or.inr hWords, hParse⟩
  · cases hParse

/- Without a conflict exactly one of the words is `?`. -/
theorem dayConflict?_eq_none_iff
    (dayOfMonth dayOfWeek : List Char) :
    dayConflict? dayOfMonth dayOfWeek = none ↔
      (dayOfMonth = ['?'] ↔ dayOfWeek ≠ ['?']) := by
  unfold dayConflict?
  by_cases hMonth : dayOfMonth = ['?']
  · by_cases hWeek : dayOfWeek = ['?']
    · simp [hMonth, hWeek]
    · have hBeq : (dayOfWeek == ['?']) = false :=
        beq_eq_false_iff_ne.mpr hWeek
      simp [hMonth, hWeek, hBeq]
  · have hBeq : (dayOfMonth == ['?']) = false :=
      beq_eq_false_iff_ne.mpr hMonth
    by_cases hWeek : dayOfWeek = ['?']
    · simp [hMonth, hWeek, hBeq]
    · have hOther : (dayOfWeek == ['?']) = false :=
        beq_eq_false_iff_ne.mpr hWeek
      simp [hMonth, hWeek, hBeq, hOther]

/- Every accepted text denotes a well-formed expression. -/
theorem wellFormed_of_parse
    (text : String)
    (expression : Expression)
    (hParse : parse text = .ok expression) :
    expression.WellFormed := by
  rcases parse_cases text expression hParse with
    ⟨second, minute, hour, dayOfMonth, month, dayOfWeek,
      year, hWords, hFields⟩
  rcases (ofFields_eq_ok_iff _ _ _ _ _ _ _ _).mp hFields
    with
    ⟨hConflict, hSecond, hMinute, hHour, hDayOfMonth,
      hMonth, hDayOfWeek, hYear⟩
  have hDays :
      dayOfMonth ∈ Text.words text.toList ∧
        dayOfWeek ∈ Text.words text.toList := by
    rcases hWords with ⟨hWords, _⟩ | hWords
    · rw [hWords]
      simp
    · rw [hWords]
      simp
  constructor
  · intro kind
    cases kind with
    | second =>
        exact Field.fits_of_read _ second _ hSecond
    | minute =>
        exact Field.fits_of_read _ minute _ hMinute
    | hour =>
        exact Field.fits_of_read _ hour _ hHour
    | dayOfMonth =>
        exact Field.fits_of_read _ dayOfMonth _ hDayOfMonth
    | month =>
        exact Field.fits_of_read _ month _ hMonth
    | dayOfWeek =>
        exact Field.fits_of_read _ dayOfWeek _ hDayOfWeek
    | year =>
        exact Field.fits_of_read _ year _ hYear
  · rw [Field.unspecified_iff _ dayOfMonth _ (Or.inl rfl)
        (Text.not_blank_of_mem_words _ _ hDays.1).2
        hDayOfMonth,
      Ne,
      Field.unspecified_iff _ dayOfWeek _ (Or.inr rfl)
        (Text.not_blank_of_mem_words _ _ hDays.2).2
        hDayOfWeek]
    exact (dayConflict?_eq_none_iff _ _).mp hConflict

end Expression

end CronSchedule
