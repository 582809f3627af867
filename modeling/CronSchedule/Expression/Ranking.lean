import CronSchedule.Expression.Reading
import CronSchedule.Field.Basic

/-
  Sorting the results of reading fields.

  Key definitions include:
    * `Reading.order`
    * `Reading.ranking`
    * `Reading.repeats`
-/

------------------------------------------------------------
-- Order
------------------------------------------------------------

namespace CronSchedule

namespace Reading

/- Fields come before errors. -/
def order :
    Reading Field → Reading Field → Ordering
| .ok left, .ok right => compare left right
| .ok _, .error _ => .lt
| .error _, .ok _ => .gt
| .error left, .error right => compare left right

/-
  The places of the readings in ascending order.  Equal
  readings keep their order.
-/
def ranking
    (readings : List (Reading Field)) : List Nat :=
  let sorted := readings.zipIdx.mergeSort
    fun left right => (order left.1 right.1).isLE
  sorted.map Prod.snd

/- Whether each reading equals the following one. -/
def repeats : List (Reading Field) → List Bool
| first :: second :: rest =>
    (order first second == .eq) ::
      repeats (second :: rest)
| _ => []

end Reading

end CronSchedule
