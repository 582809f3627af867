import CronSchedule.Time.Date

/-
  Times of day and instants, down to the nanosecond.

  A leap second is any second with a billion or more
  nanoseconds.  It follows all of that second and precedes
  the next one.

  Key definitions include:
    * `TimeOfDay`
    * `Instant`
    * `Instant.addSecond?`
    * `Instant.addMonths?`
    * `Instant.latest`
-/

------------------------------------------------------------
-- Times of Day
------------------------------------------------------------

namespace CronSchedule

namespace TimeOfDay

/- The number of nanoseconds of a second. -/
def nanosPerSecond : Nat := 1000000000

/- The numbers name a time of day. -/
def Exists
    (hour minute second nano : Nat) : Prop :=
  hour < 24 ∧ minute < 60 ∧ second < 60 ∧
    nano < 2 * nanosPerSecond

instance
    (hour minute second nano : Nat) :
    Decidable (Exists hour minute second nano) := by
  unfold Exists
  infer_instance

end TimeOfDay

/- An existing time of day. -/
structure TimeOfDay where
  hour : Nat
  minute : Nat
  second : Nat
  nano : Nat
  wellFormed :
    TimeOfDay.Exists hour minute second nano
deriving DecidableEq

namespace TimeOfDay

/- The time with the given numbers, if it exists. -/
def of?
    (hour minute second nano : Nat) : Option TimeOfDay :=
  if hExists : Exists hour minute second nano then
    some ⟨hour, minute, second, nano, hExists⟩
  else
    none

/- The start of the day. -/
def midnight : TimeOfDay :=
  ⟨0, 0, 0, 0, by decide⟩

/- The end of the day, leap seconds apart. -/
def endOfDay : TimeOfDay :=
  ⟨23, 59, 59, 999999999, by decide⟩

/- The seconds since the start of the day. -/
def secondOfDay
    (time : TimeOfDay) : Nat :=
  time.hour * 3600 + time.minute * 60 + time.second

/-
  The earlier time has the lesser second of the day, or the
  lesser nanoseconds in the same second.
-/
instance : LT TimeOfDay :=
  ⟨fun left right =>
    left.secondOfDay < right.secondOfDay ∨
      left.secondOfDay = right.secondOfDay ∧
        left.nano < right.nano⟩

instance
    (left right : TimeOfDay) :
    Decidable (left < right) :=
  inferInstanceAs (Decidable (_ ∨ _))

/-
  The nanoseconds after the current second, once a leap
  second has been left.
-/
def settledNano
    (time : TimeOfDay) : Nat :=
  time.nano % nanosPerSecond

/-
  One second later on the same day, unless the day ends.  A
  leap second leads into the second that it precedes.
-/
def addSecond?
    (time : TimeOfDay) : Option TimeOfDay :=
  if time.second < 59 then
    of? time.hour time.minute (time.second + 1)
      time.settledNano
  else if time.minute < 59 then
    of? time.hour (time.minute + 1) 0 time.settledNano
  else
    of? (time.hour + 1) 0 0 time.settledNano

end TimeOfDay

end CronSchedule

------------------------------------------------------------
-- Instants
------------------------------------------------------------

namespace CronSchedule

/- A time on a date. -/
structure Instant where
  date : Date
  time : TimeOfDay
deriving DecidableEq

/- The start of a date. -/
def Date.midnight
    (date : Date) : Instant :=
  ⟨date, .midnight⟩

namespace Instant

/-
  The earlier instant has the earlier date, or the earlier
  time on the same date.
-/
instance : LT Instant :=
  ⟨fun left right =>
    left.date < right.date ∨
      left.date = right.date ∧ left.time < right.time⟩

instance
    (left right : Instant) :
    Decidable (left < right) :=
  inferInstanceAs (Decidable (_ ∨ _))

/- The last instant of the range, leap seconds apart. -/
def latest : Instant :=
  ⟨⟨262142, 12, 31, by decide⟩, .endOfDay⟩

/- The instant with the given numbers, if it exists. -/
def of?
    (year : Int)
    (month day hour minute second nano : Nat) :
    Option Instant := do
  let date ← Date.of? year month day
  let time ← TimeOfDay.of? hour minute second nano
  return ⟨date, time⟩

/- One second later, unless the range ends there. -/
def addSecond?
    (instant : Instant) : Option Instant :=
  match instant.time.addSecond? with
  | some time => some ⟨instant.date, time⟩
  | none => do
      let date ← instant.date.next?
      let time ←
        TimeOfDay.of? 0 0 0 instant.time.settledNano
      return ⟨date, time⟩

/- The same time so many months later. -/
def addMonths?
    (instant : Instant)
    (count : Nat) : Option Instant :=
  (instant.date.addMonths? count).map
    fun date => ⟨date, instant.time⟩

end Instant

end CronSchedule
