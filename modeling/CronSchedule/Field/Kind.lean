/-
  The seven positions of a cron expression, with their names,
  bounds, and aliases.

  Key definitions include:
    * `Field.Kind`
    * `Field.Kind.name`
    * `Field.Kind.least`
    * `Field.Kind.greatest`
    * `Field.Kind.aliases`
-/

------------------------------------------------------------
-- Kinds of Field
------------------------------------------------------------

namespace CronSchedule

namespace Field

/- The positions, in the order of an expression. -/
inductive Kind where
| second
| minute
| hour
| dayOfMonth
| month
| dayOfWeek
| year
deriving DecidableEq

namespace Kind

/- All positions, from the first to the last. -/
def all : List Kind :=
  [.second, .minute, .hour, .dayOfMonth, .month,
    .dayOfWeek, .year]

/- The place of the position in an expression. -/
def index : Kind → Nat
| .second => 0
| .minute => 1
| .hour => 2
| .dayOfMonth => 3
| .month => 4
| .dayOfWeek => 5
| .year => 6

/- The name of the position in messages. -/
def name : Kind → String
| .second => "seconds"
| .minute => "minutes"
| .hour => "hours"
| .dayOfMonth => "day-of-month"
| .month => "month"
| .dayOfWeek => "day-of-week"
| .year => "year"

instance : ToString Kind := ⟨name⟩

/- The position with the given name. -/
def ofName?
    (text : String) : Option Kind :=
  all.find? fun kind => kind.name == text

end Kind

end Field

end CronSchedule

------------------------------------------------------------
-- Bounds
------------------------------------------------------------

namespace CronSchedule

/- The first year that a year field may name. -/
def firstYear : Nat := 1970

/- The last year that a year field may name. -/
def lastYear : Nat := 2099

namespace Field

namespace Kind

/- The least value of the position. -/
def least : Kind → Nat
| .second | .minute | .hour => 0
| .dayOfMonth | .month | .dayOfWeek => 1
| .year => firstYear

/- The greatest value of the position. -/
def greatest : Kind → Nat
| .second | .minute => 59
| .hour => 23
| .dayOfMonth => 31
| .month => 12
| .dayOfWeek => 7
| .year => lastYear

/- The number of values of the position. -/
def extent
    (kind : Kind) : Nat :=
  kind.greatest - kind.least + 1

/- The value lies within the bounds of the position. -/
def Allows
    (kind : Kind)
    (number : Nat) : Prop :=
  kind.least ≤ number ∧ number ≤ kind.greatest

instance
    (kind : Kind)
    (number : Nat) :
    Decidable (kind.Allows number) := by
  unfold Allows
  infer_instance

/- The step is positive and no more than the extent. -/
def AllowsStep
    (kind : Kind)
    (step : Nat) : Prop :=
  1 ≤ step ∧ step ≤ kind.extent

instance
    (kind : Kind)
    (step : Nat) :
    Decidable (kind.AllowsStep step) := by
  unfold AllowsStep
  infer_instance

end Kind

end Field

end CronSchedule

------------------------------------------------------------
-- Aliases
------------------------------------------------------------

namespace CronSchedule

namespace Field

namespace Kind

/-
  The three-letter names of the values of the position.  The
  first one stands for `1`.
-/
def aliases : Kind → List String
| .month =>
    ["JAN", "FEB", "MAR", "APR", "MAY", "JUN",
      "JUL", "AUG", "SEP", "OCT", "NOV", "DEC"]
| .dayOfWeek =>
    ["SUN", "MON", "TUE", "WED", "THU", "FRI", "SAT"]
| _ => []

/- The position has names for its values. -/
def hasAliases : Kind → Bool
| .month | .dayOfWeek => true
| _ => false

end Kind

end Field

end CronSchedule
