/-
  Records of what an operation did, and results that come
  with such records.

  Key definitions include:
    * `Record`
    * `Journal`
-/

------------------------------------------------------------
-- Records
------------------------------------------------------------

namespace CronSchedule

/- How much attention a record asks for. -/
inductive Level where
| debug
| trace
deriving DecidableEq

/- The name of the level. -/
def Level.name : Level → String
| .debug => "DEBUG"
| .trace => "TRACE"

/- A line of text with its level. -/
structure Record where
  level : Level
  text : String
deriving DecidableEq

end CronSchedule

------------------------------------------------------------
-- Journals
------------------------------------------------------------

namespace CronSchedule

/- A result, and the records made on the way to it. -/
structure Journal (α : Type) where
  result : α
  records : List Record

namespace Journal

variable {α β : Type}

/- A result without records. -/
def silent
    (result : α) : Journal α :=
  ⟨result, []⟩

/- Two operations in a row, with the records of both. -/
def andThen
    (first : Journal α)
    (second : α → Journal β) : Journal β :=
  let later := second first.result
  ⟨later.result, first.records ++ later.records⟩

instance : Monad Journal where
  pure := silent
  bind := andThen

@[simp]
theorem result_pure
    (result : α) :
    (pure result : Journal α).result = result :=
  rfl

@[simp]
theorem result_bind
    (first : Journal α)
    (second : α → Journal β) :
    (first >>= second).result =
      (second first.result).result :=
  rfl

end Journal

end CronSchedule
