import CronSchedule.Proofs.Text.LetterCase
import CronSchedule.Text.Numeral

/-
  Numerals that are written are read again, and have digits
  alone.

  Main declarations:
    * `Numeral.value_digits`
    * `Numeral.value_padded`
    * `Numeral.short?_eq_some_iff`
    * `Numeral.isOperand_digits`
    * `Numeral.not_mem_digits`
-/

------------------------------------------------------------
-- Digits
------------------------------------------------------------

namespace CronSchedule

namespace Numeral

theorem isDigit_of_mem_digits
    (number : Nat) :
    ∀ c ∈ digits number, c.isDigit = true :=
  fun _ hChar =>
    Nat.isDigit_of_mem_toDigits (by decide) (by decide)
      hChar

/- A numeral lacks every character that is no digit. -/
theorem not_mem_digits
    (number : Nat)
    (c : Char)
    (hOther : c.isDigit = false) :
    c ∉ digits number := by
  intro hChar
  rw [isDigit_of_mem_digits number c hChar] at hOther
  cases hOther

theorem digits_ne_nil
    (number : Nat) :
    digits number ≠ [] :=
  Nat.toDigits_ne_nil

/- A digit is neither blank nor a letter. -/
theorem not_blank_of_isDigit
    (c : Char)
    (hDigit : c.isDigit = true) :
    Text.isBlank c = false ∧ c.isAlpha = false := by
  have hBounds : 48 ≤ c.toNat ∧ c.toNat ≤ 57 :=
    Char.isDigit_iff_toNat.mp hDigit
  constructor
  · unfold Text.isBlank
    grind
  · rw [← Bool.not_eq_true, Text.isAlpha_iff]
    omega

theorem not_blank_of_mem_digits
    (number : Nat) :
    ∀ c ∈ digits number, Text.isBlank c = false :=
  fun c hChar =>
    (not_blank_of_isDigit c
      (isDigit_of_mem_digits number c hChar)).1

theorem not_alpha_of_mem_digits
    (number : Nat) :
    ∀ c ∈ digits number, c.isAlpha = false :=
  fun c hChar =>
    (not_blank_of_isDigit c
      (isDigit_of_mem_digits number c hChar)).2

end Numeral

end CronSchedule

------------------------------------------------------------
-- Runs of Digits
------------------------------------------------------------

namespace CronSchedule

namespace Numeral

/- The text is a run of digits, with the number's value. -/
structure Denotes
    (text : List Char)
    (number : Nat) : Prop where
  notEmpty : text ≠ []
  digits : ∀ c ∈ text, c.isDigit = true
  value_eq : value text = number

/- The text is such a run of one to four digits. -/
structure IsOperand
    (text : List Char)
    (number : Nat) : Prop extends
  Denotes text number where
  length_le : text.length ≤ 4

theorem isRun_iff
    (text : List Char) :
    isRun text = true ↔ Denotes text (value text) := by
  unfold isRun
  rw [Bool.and_eq_true, List.all_eq_true]
  constructor
  · rintro ⟨hNotEmpty, hDigits⟩
    exact ⟨by simpa using hNotEmpty, hDigits, rfl⟩
  · intro hDenotes
    exact ⟨by simpa using hDenotes.notEmpty, hDenotes.digits⟩

theorem short?_eq_some_iff
    (text : List Char)
    (number : Nat) :
    short? text = some number ↔ IsOperand text number := by
  unfold short?
  rw [Option.ite_none_right_eq_some, Bool.and_eq_true,
    isRun_iff, decide_eq_true_iff, Option.some_inj]
  constructor
  · rintro ⟨⟨hRun, hLength⟩, rfl⟩
    exact ⟨hRun, hLength⟩
  · rintro ⟨hDenotes, hLength⟩
    cases hDenotes.value_eq
    exact ⟨⟨hDenotes, hLength⟩, rfl⟩

/- Digits after a number move it up, by a place or more. -/
theorem le_value_append
    (left right : List Char)
    (hNotEmpty : right ≠ []) :
    10 * value left + value right ≤
      value (left ++ right) := by
  have hLength : right.length ≠ 0 := by
    simpa using hNotEmpty
  have hMove :=
    Nat.mul_le_mul_right (value left)
      (Nat.le_self_pow hLength 10)
  have hSplit :
      value (left ++ right) =
        Nat.ofDigitChars 10 right (value left) :=
    Nat.ofDigitChars_append 0
  rw [hSplit, Nat.ofDigitChars_eq_ofDigitChars_zero]
  exact Nat.add_le_add_right hMove _

/- A part of a run denotes no more than the run. -/
theorem value_le_of_infix
    (left run right : List Char) :
    value run ≤ value (left ++ run ++ right) := by
  have hParts (first rest : List Char) :
      value first ≤ value (first ++ rest) ∧
        value rest ≤ value (first ++ rest) := by
    by_cases hEmpty : rest = []
    · rw [hEmpty, List.append_nil]
      exact ⟨Nat.le_refl _, Nat.zero_le _⟩
    · have hMove := le_value_append first rest hEmpty
      omega
  exact
    Nat.le_trans (hParts left run).2
      (hParts (left ++ run) right).1

/- A run of digits lacks every other character. -/
theorem Denotes.not_mem
    {text : List Char}
    {number : Nat}
    (hDenotes : Denotes text number)
    (c : Char)
    (hOther : c.isDigit = false) :
    c ∉ text := by
  intro hChar
  rw [hDenotes.digits c hChar] at hOther
  cases hOther

end Numeral

end CronSchedule

------------------------------------------------------------
-- Reading What Was Written
------------------------------------------------------------

namespace CronSchedule

namespace Numeral

theorem value_digits
    (number : Nat) :
    value (digits number) = number :=
  Nat.ofDigitChars_ten_toDigits

/- A numeral denotes its number. -/
theorem denotes_digits
    (number : Nat) :
    Denotes (digits number) number where
  notEmpty := digits_ne_nil number
  digits := isDigit_of_mem_digits number
  value_eq := value_digits number

/- Numbers of up to four digits are operands. -/
theorem isOperand_digits
    (number : Nat)
    (hNumber : number < 10000) :
    IsOperand (digits number) number where
  toDenotes := denotes_digits number
  length_le :=
    (Nat.length_toDigits_le_iff (by decide)
      (by decide)).mpr hNumber

theorem toList_padded
    (width number : Nat) :
    (padded width number).toList =
      List.replicate (width - (digits number).length) '0' ++
        digits number :=
  String.toList_ofList

theorem isDigit_of_mem_padded
    (width number : Nat) :
    ∀ c ∈ (padded width number).toList,
      c.isDigit = true := by
  intro c hChar
  rw [toList_padded] at hChar
  rcases List.mem_append.mp hChar with hZero | hDigit
  · rw [List.eq_of_mem_replicate hZero]
    rfl
  · exact isDigit_of_mem_digits number c hDigit

/- Zeros at the start do not count. -/
theorem value_padded
    (width number : Nat) :
    value (padded width number).toList = number := by
  rw [toList_padded]
  unfold value
  rw [Nat.ofDigitChars_append,
    Nat.ofDigitChars_replicate_zero, Nat.mul_zero]
  exact value_digits number

end Numeral

end CronSchedule
