import CronSchedule.Text.Blank

/-
  Texts that differ in the case of their letters.

  A letter keeps being one in the other case.  Everything
  else has no other case.

  Key definitions include:
    * `Text.SameLetters`

  Main declarations:
    * `Text.isAlpha_iff`
    * `Text.SameLetters.append_cases`
    * `Text.SameLetters.eq_of_not_alpha`
-/

------------------------------------------------------------
-- Letters
------------------------------------------------------------

namespace CronSchedule

namespace Text

/- The letters are those of the first 128 characters. -/
theorem isAlpha_iff
    (c : Char) :
    c.isAlpha = true ↔
      (65 ≤ c.toNat ∧ c.toNat ≤ 90) ∨
        (97 ≤ c.toNat ∧ c.toNat ≤ 122) := by
  unfold Char.isAlpha Char.isUpper Char.isLower
  simp only [Bool.or_eq_true, Bool.and_eq_true,
    decide_eq_true_eq, ge_iff_le, UInt32.le_iff_toNat_le]
  rfl

/- A letter is not blank. -/
theorem not_alpha_of_isBlank
    (c : Char)
    (hBlank : isBlank c = true) :
    c.isAlpha = false := by
  rw [← Bool.not_eq_true, isAlpha_iff]
  unfold isBlank at hBlank
  grind

/- Small letters have the numbers 32 above the others. -/
theorem toNat_toUpper
    (c : Char) :
    c.toUpper.toNat =
      if 97 ≤ c.toNat ∧ c.toNat ≤ 122 then
        c.toNat - 32
      else
        c.toNat := by
  unfold Char.toUpper
  split
  · rename_i hLower
    have hFirst : 97 ≤ c.val.toNat :=
      UInt32.le_iff_toNat_le.mp hLower.1
    have hLast : c.val.toNat ≤ 122 :=
      UInt32.le_iff_toNat_le.mp hLower.2
    rw [← Char.toNat_val, if_pos ⟨hFirst, hLast⟩,
      Char.toNat_mk, UInt32.toNat_add]
    change (c.val.toNat + 4294967264) % 4294967296 = _
    omega
  · rename_i hOther
    rw [if_neg]
    rintro ⟨hFirst, hLast⟩
    exact
      hOther
        ⟨UInt32.le_iff_toNat_le.mpr hFirst,
          UInt32.le_iff_toNat_le.mpr hLast⟩

end Text

end CronSchedule

------------------------------------------------------------
-- The Same Letters
------------------------------------------------------------

namespace CronSchedule

namespace Text

/- Of two cases of a character, both are letters or none. -/
theorem isAlpha_eq_of_toUpper_eq
    (c d : Char)
    (hSame : c.toUpper = d.toUpper) :
    c.isAlpha = d.isAlpha := by
  rw [Bool.eq_iff_iff, isAlpha_iff, isAlpha_iff]
  have hCode := congrArg Char.toNat hSame
  rw [toNat_toUpper, toNat_toUpper] at hCode
  split at hCode
  · split at hCode
    · omega
    · omega
  · split at hCode
    · omega
    · omega

/- What is no letter has no other case. -/
theorem eq_of_toUpper_eq
    (c d : Char)
    (hOther : c.isAlpha = false)
    (hSame : c.toUpper = d.toUpper) :
    d = c := by
  have hLetter := isAlpha_eq_of_toUpper_eq c d hSame
  rw [hOther, eq_comm, ← Bool.not_eq_true,
    isAlpha_iff] at hLetter
  rw [← Bool.not_eq_true, isAlpha_iff] at hOther
  have hCode := congrArg Char.toNat hSame
  rw [toNat_toUpper, toNat_toUpper, if_neg (by omega),
    if_neg (by omega)] at hCode
  exact Char.toNat_inj.mp hCode.symm

/- The texts differ in the case of letters at most. -/
def SameLetters
    (text other : List Char) : Prop :=
  text.map Char.toUpper = other.map Char.toUpper

namespace SameLetters

variable {text other : List Char}

theorem symm
    (hSame : SameLetters text other) :
    SameLetters other text :=
  Eq.symm hSame

theorem length_eq
    (hSame : SameLetters text other) :
    other.length = text.length := by
  have hLength := congrArg List.length hSame
  rw [List.length_map, List.length_map] at hLength
  exact hLength.symm

theorem append
    {first second : List Char}
    (hFirst : SameLetters first second)
    (hText : SameLetters text other) :
    SameLetters (first ++ text) (second ++ other) := by
  unfold SameLetters at *
  rw [List.map_append, List.map_append, hFirst, hText]

/- Whatever has the same letters falls into the same parts. -/
theorem append_cases
    {first : List Char}
    (hSame : SameLetters (first ++ text) other) :
    ∃ second rest, other = second ++ rest ∧
      SameLetters first second ∧ SameLetters text rest := by
  unfold SameLetters at hSame
  rw [List.map_append, eq_comm,
    List.map_eq_append_iff] at hSame
  rcases hSame with ⟨second, rest, hOther, hFirst, hText⟩
  exact ⟨second, rest, hOther, hFirst.symm, hText.symm⟩

/- What is no letter is the same in both texts. -/
theorem cons_cases
    {c : Char}
    (hSame : SameLetters (c :: text) other)
    (hOther : c.isAlpha = false) :
    ∃ rest, other = c :: rest ∧ SameLetters text rest := by
  unfold SameLetters at hSame
  rw [List.map_cons, eq_comm,
    List.map_eq_cons_iff] at hSame
  rcases hSame with ⟨d, rest, hRest, hFirst, hText⟩
  rw [eq_of_toUpper_eq c d hOther hFirst.symm] at hRest
  exact ⟨rest, hRest, hText.symm⟩

/- The letters of one text are letters in the other. -/
theorem forall_isAlpha
    (hSame : SameLetters text other)
    (hLetters : ∀ c ∈ text, c.isAlpha = true) :
    ∀ c ∈ other, c.isAlpha = true := by
  intro d hChar
  have hUpper : d.toUpper ∈ text.map Char.toUpper := by
    rw [hSame]
    exact List.mem_map_of_mem hChar
  rcases List.mem_map.mp hUpper with ⟨c, hIn, hCase⟩
  rw [← isAlpha_eq_of_toUpper_eq c d hCase]
  exact hLetters c hIn

/- Without letters there is no other text. -/
theorem eq_of_not_alpha
    (hSame : SameLetters text other)
    (hNone : ∀ c ∈ text, c.isAlpha = false) :
    other = text := by
  induction text generalizing other with
  | nil =>
      exact List.map_eq_nil_iff.mp hSame.symm
  | cons c text ih =>
      rw [List.forall_mem_cons] at hNone
      rcases hSame.cons_cases hNone.1 with
        ⟨rest, rfl, hText⟩
      rw [ih hText hNone.2]

end SameLetters

end Text

end CronSchedule
