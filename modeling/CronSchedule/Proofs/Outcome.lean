/-
  Steps that may fail, taken one after the other.

  Key definitions include:
    * `CarriesOver`

  Main declarations:
    * `ok_bind`
    * `exists_ok_of_bind`
    * `exists_ok_of_map`
    * `CarriesOver.bind`
-/

------------------------------------------------------------
-- Steps in a Row
------------------------------------------------------------

namespace CronSchedule

variable {ε α β : Type}

/- After a success the second step decides. -/
theorem ok_bind
    (value : α)
    (second : α → Except ε β) :
    (Except.ok value >>= second) = second value :=
  rfl

/- If both steps succeed, so does the first. -/
theorem exists_ok_of_bind
    (first : Except ε α)
    (second : α → Except ε β)
    (result : β)
    (hBind : first >>= second = .ok result) :
    ∃ value, first = .ok value ∧
      second value = .ok result := by
  cases first with
  | error error =>
      cases hBind
  | ok value =>
      exact ⟨value, rfl, hBind⟩

/- What is made of a success comes from that success. -/
theorem exists_ok_of_map
    (first : Except ε α)
    (change : α → β)
    (result : β)
    (hMap : first.map change = .ok result) :
    ∃ value, first = .ok value ∧
      change value = result := by
  cases first with
  | error error =>
      cases hMap
  | ok value =>
      exact ⟨value, rfl, Except.ok.inj hMap⟩

end CronSchedule

------------------------------------------------------------
-- The Same Successes
------------------------------------------------------------

namespace CronSchedule

variable {ε α β : Type}

/- What comes of the first outcome also comes of the other. -/
def CarriesOver
    (first other : Except ε α) : Prop :=
  ∀ value, first = .ok value → other = .ok value

namespace CarriesOver

theorem refl
    (outcome : Except ε α) :
    CarriesOver outcome outcome := by
  intro value hValue
  exact hValue

/- Step by step, so do the values of a row of steps. -/
theorem bind
    {first other : Except ε α}
    {second later : α → Except ε β}
    (hFirst : CarriesOver first other)
    (hSecond :
      ∀ value, CarriesOver (second value) (later value)) :
    CarriesOver (first >>= second) (other >>= later) := by
  intro result hBind
  rcases exists_ok_of_bind first second result hBind with
    ⟨value, hValue, hResult⟩
  rw [hFirst value hValue, ok_bind]
  exact hSecond value result hResult

end CarriesOver

end CronSchedule
