import CronSchedule.Expression.Stored
import CronSchedule.Proofs.Expression.WellFormed
import CronSchedule.Proofs.Field.RoundTrip

/-
  The canonical text of an expression is read as the same
  expression.

  Main declarations:
    * `Expression.parse_text`
    * `Expression.eq_of_text_eq`
    * `Expression.roundTrip`
-/

------------------------------------------------------------
-- Canonical Words
------------------------------------------------------------

namespace CronSchedule

namespace Field

/- Only an omitted year has an empty canonical text. -/
theorem canonical_ne_nil
    (kind : Kind)
    (field : Field)
    (hFits : field.Fits kind)
    (hField : field ≠ .anyYear) :
    field.canonical kind ≠ [] := by
  intro hNil
  have hRead := read_canonical kind field hFits
  rw [hNil] at hRead
  cases kind with
  | year =>
      cases hRead
      exact hField rfl
  | _ => cases hRead

/- Only a year is omitted. -/
theorem ne_anyYear_of_fits
    (kind : Kind)
    (field : Field)
    (hFits : field.Fits kind)
    (hKind : kind ≠ .year) :
    field ≠ .anyYear := by
  rintro rfl
  cases kind with
  | year => exact hKind rfl
  | _ => cases hFits

/- Only the mark `?` has the canonical text `?`. -/
theorem canonical_eq_mark_iff
    (kind : Kind)
    (field : Field)
    (hKind : kind = .dayOfMonth ∨ kind = .dayOfWeek)
    (hFits : field.Fits kind) :
    field.canonical kind = ['?'] ↔ field = .unspecified :=
  (unspecified_iff kind _ field hKind
    (not_blank_of_mem_canonical kind field)
    (read_canonical kind field hFits)).symm

end Field

namespace Expression

variable (expression : Expression)

/- The canonical words are neither empty nor have blanks. -/
theorem words_canonical :
    Text.words expression.canonical =
      expression.canonicalWords := by
  apply Text.words_intercalate
  intro word hWord
  rcases List.mem_filter.mp hWord with ⟨hMem, hNotEmpty⟩
  rcases List.mem_map.mp hMem with ⟨kind, _, rfl⟩
  refine ⟨?_, Field.not_blank_of_mem_canonical kind _⟩
  simpa using hNotEmpty

/- The canonical text of the field at a position. -/
def word
    (expression : Expression)
    (kind : Field.Kind) : List Char :=
  (expression.field kind).canonical kind

/-
  There are six canonical words, and a seventh one if the
  year is explicit.  In both cases they are the canonical
  texts of the fields.
-/
theorem ofWords_canonicalWords
    (hWellFormed : expression.WellFormed) :
    ofWords expression.canonicalWords =
      ofFields (expression.word .second)
        (expression.word .minute) (expression.word .hour)
        (expression.word .dayOfMonth)
        (expression.word .month)
        (expression.word .dayOfWeek)
        (expression.word .year) := by
  have hWord (kind : Field.Kind) (hKind : kind ≠ .year) :
      (!(expression.word kind).isEmpty) = true := by
    have hFits := hWellFormed.fits kind
    have hNotEmpty :=
      Field.canonical_ne_nil kind _ hFits
        (Field.ne_anyYear_of_fits kind _ hFits hKind)
    simpa [word] using hNotEmpty
  have hWords :
      expression.canonicalWords =
        [expression.word .second, expression.word .minute,
          expression.word .hour,
          expression.word .dayOfMonth,
          expression.word .month,
          expression.word .dayOfWeek] ++
        [expression.word .year].filter
          fun text => !text.isEmpty := by
    change
      ([expression.word .second, expression.word .minute,
          expression.word .hour,
          expression.word .dayOfMonth,
          expression.word .month,
          expression.word .dayOfWeek] ++
        [expression.word .year]).filter _ = _
    rw [List.filter_append, List.filter_eq_self.mpr]
    intro text hMem
    simp only [List.mem_cons, List.not_mem_nil,
      or_false] at hMem
    rcases hMem with rfl | rfl | rfl | rfl | rfl | rfl
    all_goals exact hWord _ (by decide)
  rw [hWords]
  cases hYear : expression.word .year with
  | nil => rfl
  | cons first rest => rfl

end Expression

end CronSchedule

------------------------------------------------------------
-- Reading the Canonical Text
------------------------------------------------------------

namespace CronSchedule

namespace Expression

/- Every expression is read again from its text. -/
theorem parse_text
    (expression : Expression)
    (hWellFormed : expression.WellFormed) :
    parse expression.text = .ok expression := by
  have hRead (kind : Field.Kind) :
      Field.read kind (expression.word kind) =
        .ok (expression.field kind) :=
    Field.read_canonical kind _ (hWellFormed.fits kind)
  have hConflict :
      dayConflict? (expression.word .dayOfMonth)
          (expression.word .dayOfWeek) = none := by
    rw [dayConflict?_eq_none_iff]
    unfold word
    rw [Field.canonical_eq_mark_iff .dayOfMonth _
        (Or.inl rfl) (hWellFormed.fits .dayOfMonth),
      Ne,
      Field.canonical_eq_mark_iff .dayOfWeek _
        (Or.inr rfl) (hWellFormed.fits .dayOfWeek)]
    exact hWellFormed.oneDayField
  unfold parse text
  rw [String.toList_ofList, words_canonical,
    ofWords_canonicalWords expression hWellFormed]
  exact
    (ofFields_eq_ok_iff _ _ _ _ _ _ _ expression).mpr
      ⟨hConflict, hRead .second, hRead .minute,
        hRead .hour, hRead .dayOfMonth, hRead .month,
        hRead .dayOfWeek, hRead .year⟩

/- The text determines the expression. -/
theorem eq_of_text_eq
    (left right : Expression)
    (hLeft : left.WellFormed)
    (hRight : right.WellFormed)
    (hText : left.text = right.text) :
    left = right := by
  have hParse := parse_text left hLeft
  rw [hText, parse_text right hRight] at hParse
  exact (Except.ok.inj hParse).symm

/- A stored expression is restored. -/
theorem restore_store
    (expression : Expression)
    (hWellFormed : expression.WellFormed) :
    (restore expression.store).result = .ok expression := by
  unfold restore store parseJournal
  simp only [Journal.result_bind, Journal.result_pure]
  rw [parse_text expression hWellFormed]
  rfl

/-
  The canonical text of what an accepted text denotes is
  accepted, and denotes the same in all seven fields.  So
  accepted texts denote the same if and only if their
  canonical texts are the same.
-/
theorem roundTrip
    (text : String)
    (expression : Expression)
    (hParse : parse text = .ok expression) :
    parse expression.text = .ok expression ∧
      (∀ other, parse expression.text = .ok other →
        other.text = expression.text) ∧
      (∀ otherText other, parse otherText = .ok other →
        (expression = other ↔
          expression.text = other.text)) ∧
      (restore expression.store).result =
        .ok expression := by
  have hWellFormed :=
    wellFormed_of_parse text expression hParse
  have hRead := parse_text expression hWellFormed
  refine
    ⟨hRead, ?_, ?_, restore_store expression hWellFormed⟩
  · intro other hOther
    rw [hRead] at hOther
    rw [Except.ok.inj hOther]
  · intro otherText other hOther
    constructor
    · intro hSame
      rw [hSame]
    · exact
        eq_of_text_eq expression other hWellFormed
          (wellFormed_of_parse otherText other hOther)

/- Twice on the first Monday of two months. -/
def firstMondays : Expression where
  second := .fixed (.ofList [0])
  minute := .fixed (.ofList [0, 30])
  hour := .fixed (.ofList [9])
  dayOfMonth := .unspecified
  month := .fixed (.ofList [1, 12])
  dayOfWeek := .nthWeekday 2 1
  year := .anyYear

theorem roundTrip_firstMondays :
    firstMondays.text = "0 0,30 9 ? 1,12 2#1" ∧
      parse firstMondays.text = .ok firstMondays ∧
      (restore firstMondays.store).result =
        .ok firstMondays := by
  have hRoundTrip :=
    roundTrip "  0 0/30 9 ? dec,JAN Mon#1" firstMondays rfl
  refine ⟨rfl, hRoundTrip.1, hRoundTrip.2.2.2⟩

end Expression

end CronSchedule
