import CronSchedule.Field.Canonical
import CronSchedule.Proofs.Field.Accepted

/-
  The canonical text of a field is read as the same field,
  because it has the form of that field.

  Key definitions include:
    * `Field.IsNumeric`

  Main declarations:
    * `Field.form_canonical`
    * `Field.read_canonical`
-/

------------------------------------------------------------
-- Sets From Their Lists
------------------------------------------------------------

namespace CronSchedule

namespace ValueSet

/- A set is determined by its list. -/
theorem eq_of_toList_eq
    {left right : ValueSet}
    (hList : left.toList = right.toList) :
    left = right := by
  cases left
  cases right
  cases hList
  rfl

/- An ascending list without room for gaps has none. -/
theorem eq_range'_of_ascending
    (numbers : List Nat)
    (least : Nat)
    (hAscending : numbers.Pairwise (· < ·))
    (hBounds :
      ∀ number ∈ numbers,
        least ≤ number ∧ number < least + numbers.length) :
    numbers = List.range' least numbers.length := by
  induction numbers generalizing least with
  | nil =>
      rfl
  | cons first rest ih =>
      have hParts := List.pairwise_cons.mp hAscending
      have hFirst := hBounds first List.mem_cons_self
      have hRest :
          rest = List.range' (least + 1) rest.length := by
        apply ih (least + 1) hParts.2
        intro number hNumber
        have hGreater := hParts.1 number hNumber
        have hNumberBounds :=
          hBounds number (List.mem_cons_of_mem first hNumber)
        rw [List.length_cons] at hNumberBounds
        omega
      have hLeast : first = least := by
        cases rest with
        | nil =>
            rw [List.length_singleton] at hFirst
            omega
        | cons second later =>
            rw [List.length_cons, List.range'_succ] at hRest
            have hSecond := (List.cons.inj hRest).1
            have hLess := hParts.1 second List.mem_cons_self
            omega
      rw [List.length_cons, List.range'_succ, ← hRest,
        hLeast]

end ValueSet

namespace Field

/- A full set within bounds has all values. -/
theorem eq_full_of_isFull
    (kind : Kind)
    (values : ValueSet)
    (hSet : kind.AllowsSet values)
    (hFull : isFull kind values = true) :
    full kind = .fixed values := by
  have hSize : values.toList.length = kind.extent :=
    beq_iff_eq.mp hFull
  have hBounds : kind.least ≤ kind.greatest := by
    cases kind <;> decide
  have hRange :=
    ValueSet.eq_range'_of_ascending values.toList kind.least
      values.ascending
      (by
        intro number hNumber
        have hAllows := hSet.2 number hNumber
        unfold Kind.Allows at hAllows
        rw [hSize]
        unfold Kind.extent
        omega)
  have hLength :
      kind.greatest + 1 - kind.least = kind.extent := by
    unfold Kind.extent
    omega
  unfold full
  apply congrArg Field.fixed
  apply ValueSet.eq_of_toList_eq
  rw [hRange, hSize]
  change List.range' kind.least _ = _
  rw [hLength]

end Field

end CronSchedule

------------------------------------------------------------
-- Listed Values
------------------------------------------------------------

namespace CronSchedule

namespace Field

/- The text has digits and commas alone. -/
def IsNumeric
    (text : List Char) : Prop :=
  ∀ c ∈ text, c.isDigit = true ∨ c = ','

theorem isNumeric_digits
    (number : Nat) :
    IsNumeric (Numeral.digits number) :=
  fun c hChar =>
    Or.inl (Numeral.isDigit_of_mem_digits number c hChar)

theorem isNumeric_listed
    (values : ValueSet) :
    IsNumeric (listed values) := by
  intro c hChar
  rcases mem_of_mem_intercalate _ c hChar with
    hComma | ⟨item, hItem, hIn⟩
  · exact Or.inr hComma
  · rcases List.mem_map.mp hItem with ⟨number, _, rfl⟩
    exact isNumeric_digits number c hIn

/- Every value of a position has at most four digits. -/
theorem isOperand_of_allows
    (kind : Kind)
    (number : Nat)
    (hAllows : kind.Allows number) :
    Numeral.IsOperand (Numeral.digits number) number := by
  have hGreatest : kind.greatest < 10000 := by
    cases kind <;> decide
  unfold Kind.Allows at hAllows
  exact Numeral.isOperand_digits number (by omega)

/- The list of a set gives that set. -/
theorem gives_listed
    (kind : Kind)
    (values : ValueSet)
    (hSet : kind.AllowsSet values) :
    kind.Gives (listed values) values := by
  have hItems :
      (values.toList.map Numeral.digits).Forall₂
        Numeral.IsOperand values.toList := by
    rw [List.forall₂_map_left_iff, List.forall₂_same]
    intro number hNumber
    exact
      isOperand_of_allows kind number (hSet.2 number hNumber)
  exact
    .selection _ (.list values.toList) values
      (.list _ _ (by simpa using hSet.1) hItems) hSet
      (fun _ => Iff.rfl)

end Field

end CronSchedule

------------------------------------------------------------
-- Texts Without Special Characters
------------------------------------------------------------

namespace CronSchedule

namespace Field

/- Without three letters in a row there are no aliases. -/
theorem replaceGroups_eq_self
    (kind : Kind)
    (text : List Char)
    (hText : ∀ c ∈ text.dropLast, c.isAlpha = false) :
    kind.replaceGroups text = .ok text := by
  induction text with
  | nil =>
      rfl
  | cons a later ih =>
      match later with
      | [] => rfl
      | [_] => rfl
      | b :: c :: rest =>
          rw [List.dropLast_cons_of_ne_nil (by simp)] at hText
          have hFirst := hText a List.mem_cons_self
          have hLater :=
            ih fun other hOther =>
              hText other (List.mem_cons_of_mem a hOther)
          unfold Kind.replaceGroups
          rw [hFirst, hLater]
          rfl

theorem replaceAliases_eq_self
    (kind : Kind)
    (text : List Char)
    (hText : ∀ c ∈ text.dropLast, c.isAlpha = false) :
    kind.replaceAliases text = .ok text := by
  unfold Kind.replaceAliases
  split
  · exact replaceGroups_eq_self kind text hText
  · rfl

/- No canonical text has a blank. -/
theorem not_blank_of_mem_canonical
    (kind : Kind)
    (field : Field) :
    ∀ c ∈ field.canonical kind, Text.isBlank c = false := by
  have hDigits := Numeral.not_blank_of_mem_digits
  intro c hChar
  cases field with
  | fixed values =>
      simp only [canonical] at hChar
      split at hChar
      · rw [List.mem_singleton.mp hChar]
        rfl
      · rcases isNumeric_listed values c hChar with
          hDigit | rfl
        · exact (Numeral.not_blank_of_isDigit c hDigit).1
        · rfl
  | unspecified | lastDay =>
      rw [List.mem_singleton.mp hChar]
      rfl
  | lastWorkday =>
      rcases List.mem_cons.mp hChar with rfl | hMark
      · rfl
      · rw [List.mem_singleton.mp hMark]
        rfl
  | lastDayOffset offset =>
      rcases List.mem_append.mp hChar with hMarks | hDigit
      · rcases List.mem_cons.mp hMarks with rfl | hMark
        · rfl
        · rw [List.mem_singleton.mp hMark]
          rfl
      · exact hDigits offset c hDigit
  | nearestWorkday number | lastWeekday number =>
      rcases List.mem_append.mp hChar with hDigit | hMark
      · exact hDigits number c hDigit
      · rw [List.mem_singleton.mp hMark]
        rfl
  | nthWeekday weekday count =>
      rcases List.mem_append.mp hChar with hFirst | hCount
      · rcases List.mem_append.mp hFirst with hDigit | hMark
        · exact hDigits weekday c hDigit
        · rw [List.mem_singleton.mp hMark]
          rfl
      · exact hDigits count c hCount
  | anyYear =>
      cases hChar

/- Beside `#` there are digits alone. -/
theorem not_alpha_of_mem_nthWeekday
    (weekday count : Nat) :
    ∀ c ∈ Numeral.digits weekday ++ ['#'] ++
        Numeral.digits count,
      c.isAlpha = false := by
  have hDigits := Numeral.not_alpha_of_mem_digits
  intro c hChar
  rcases List.mem_append.mp hChar with hFirst | hCount
  · rcases List.mem_append.mp hFirst with hDigit | hMark
    · exact hDigits weekday c hDigit
    · rw [List.mem_singleton.mp hMark]
      rfl
  · exact hDigits count c hCount

theorem not_alpha_of_mem_listed
    (values : ValueSet) :
    ∀ c ∈ listed values, c.isAlpha = false := by
  intro c hChar
  rcases isNumeric_listed values c hChar with hDigit | rfl
  · exact (Numeral.not_blank_of_isDigit c hDigit).2
  · rfl

/-
  A canonical text has no aliases: with a kind that has any,
  there is at most one letter, and that at the end.
-/
theorem leaves_canonical
    (kind : Kind)
    (field : Field)
    (hFits : field.Fits kind) :
    kind.Leaves (field.canonical kind)
      (field.canonical kind) := by
  rw [← kind.replaceAliases_eq_ok_iff]
  cases field with
  | fixed values =>
      simp only [canonical]
      split
      · exact replaceAliases_eq_self kind ['*'] (by simp)
      · apply replaceAliases_eq_self
        intro c hChar
        exact
          not_alpha_of_mem_listed values c
            (List.dropLast_subset _ hChar)
  | unspecified =>
      exact replaceAliases_eq_self kind ['?'] (by simp)
  | lastWeekday weekday =>
      apply replaceAliases_eq_self
      change ∀ c ∈ (Numeral.digits weekday ++ _).dropLast, _
      rw [List.dropLast_concat]
      exact Numeral.not_alpha_of_mem_digits weekday
  | nthWeekday weekday count =>
      apply replaceAliases_eq_self
      intro c hChar
      exact
        not_alpha_of_mem_nthWeekday weekday count c
          (List.dropLast_subset _ hChar)
  | lastDay | lastDayOffset | nearestWorkday | lastWorkday =>
      cases kind with
      | dayOfMonth => rfl
      | _ => cases hFits
  | anyYear => exact replaceAliases_eq_self kind [] (by simp)

end Field

end CronSchedule

------------------------------------------------------------
-- All Fields
------------------------------------------------------------

namespace CronSchedule

namespace Field

/- The text of a set gives that set. -/
theorem gives_canonical
    (kind : Kind)
    (values : ValueSet)
    (hSet : kind.AllowsSet values) :
    kind.Gives (canonical kind (.fixed values)) values := by
  simp only [canonical]
  split
  · rename_i hFull
    exact
      .all values
        ((full_eq_fixed_iff kind values).mp
          (eq_full_of_isFull kind values hSet hFull))
  · exact gives_listed kind values hSet

/- The canonical text has the form of its field. -/
theorem form_canonical
    (kind : Kind)
    (field : Field)
    (hFits : field.Fits kind)
    (hYear : field ≠ .anyYear) :
    kind.Form (field.canonical kind) field := by
  have hLength (number : Nat)
      (hNumber : number < 100) :
      (Numeral.digits number).length ≤ 2 :=
    (Nat.length_toDigits_le_iff (by decide)
      (by decide)).mpr hNumber
  cases field with
  | fixed values =>
      have hGives :=
        gives_canonical kind values
          ((fits_fixed kind values).mp hFits)
      cases kind with
      | dayOfMonth => exact .fixed _ values hGives
      | dayOfWeek => exact .fixed _ values hGives
      | _ => exact ⟨values, rfl, hGives⟩
  | unspecified =>
      cases kind with
      | dayOfMonth => exact .unspecified
      | dayOfWeek => exact .unspecified
      | _ => cases hFits
  | lastDay =>
      cases kind with
      | dayOfMonth => exact .lastDay
      | _ => cases hFits
  | lastWorkday =>
      cases kind with
      | dayOfMonth => exact .lastWorkday
      | _ => cases hFits
  | lastDayOffset offset =>
      cases kind with
      | dayOfMonth =>
          exact
            .lastDayOffset _ offset
              (Numeral.denotes_digits offset) hFits
      | _ => cases hFits
  | nearestWorkday day =>
      cases kind with
      | dayOfMonth =>
          exact
            .nearestWorkday _ day
              (Numeral.denotes_digits day)
              (hLength day
                (Nat.lt_of_le_of_lt hFits.2 (by decide)))
              hFits
      | _ => cases hFits
  | lastWeekday weekday =>
      cases kind with
      | dayOfWeek =>
          exact
            .lastWeekday _ weekday
              (Numeral.denotes_digits weekday)
              (hLength weekday
                (Nat.lt_of_le_of_lt hFits.2 (by decide)))
              hFits
      | _ => cases hFits
  | nthWeekday weekday count =>
      cases kind with
      | dayOfWeek =>
          have hCount :=
            Numeral.isOperand_digits count
              (Nat.lt_of_le_of_lt hFits.2.2 (by decide))
          have hForm :=
            DayOfWeekForm.nthWeekday _ _ weekday count
              (isOperand_of_allows .dayOfWeek weekday
                hFits.1)
              hCount hFits.1 hFits.2
          simpa [Kind.Form, canonical] using hForm
      | _ => cases hFits
  | anyYear => exact absurd rfl hYear

/- Every field is read again from its canonical text. -/
theorem read_canonical
    (kind : Kind)
    (field : Field)
    (hFits : field.Fits kind) :
    read kind (field.canonical kind) = .ok field := by
  rw [read_eq_ok_iff,
    Text.trim_eq_self _
      (not_blank_of_mem_canonical kind field)]
  by_cases hYear : field = .anyYear
  · left
    rw [hYear] at hFits ⊢
    cases kind with
    | year => exact ⟨rfl, rfl, rfl⟩
    | _ => cases hFits
  · right
    exact
      ⟨_, leaves_canonical kind field hFits,
        form_canonical kind field hFits hYear⟩

end Field

end CronSchedule
