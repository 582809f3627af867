import CronSchedule.Expression.Basic
import CronSchedule.Field.Days
import CronSchedule.Occurrence.Move

/-
  The search for the next occurrence of an expression.

  A cursor goes from month to month, starting one second
  after the origin.  It skips years and months that the
  expression does not have, and stops at the first day with
  a suitable time, or at the horizon.

  Key definitions include:
    * `Search`
    * `Search.horizon`
    * `Search.Timetable`
    * `Search.firstTimeOn?`
    * `Search.step`
    * `Search.walk`
    * `Search.trail`
    * `Search.next`
-/

------------------------------------------------------------
-- Searches
------------------------------------------------------------

namespace CronSchedule

/- An expression on a calendar, and where to search from. -/
structure Search where
  calendar : Calendar
  expression : Expression
  origin : Instant

namespace Search

/- The horizon in years when the year field is explicit. -/
def explicitYearHorizon : Nat := 130

/- The horizon in years when any year will do. -/
def anyYearHorizon : Nat := 4

/- The horizon of the search in years. -/
def horizonYears
    (search : Search) : Nat :=
  match search.expression.year.values? with
  | some _ => explicitYearHorizon
  | none => anyYearHorizon

/- The instant at which the search gives up. -/
def horizon
    (search : Search) : Instant :=
  (search.origin.addMonths?
    (search.horizonYears * 12)).getD Instant.latest

/- The ascending values of the fields beside the days. -/
structure Timetable where
  months : List Nat
  hours : List Nat
  minutes : List Nat
  seconds : List Nat

/- The values that the fields have at the origin. -/
def timetable
    (search : Search) :
    Except Calendar.Fault Timetable := do
  let values (field : Field) :=
    field.valuesIn search.calendar
      search.origin.date.year search.origin.date.month
  let months ← values search.expression.month
  let hours ← values search.expression.hour
  let minutes ← values search.expression.minute
  let seconds ← values search.expression.second
  return { months, hours, minutes, seconds }

end Search

end CronSchedule

------------------------------------------------------------
-- Times of a Day
------------------------------------------------------------

namespace CronSchedule

namespace Search

/-
  The first listed time on a date that is strictly after the
  origin.  A part of the origin counts only while all of the
  greater parts are equal.  The first numbers that have not
  passed decide, also if they name no time.
-/
def firstTimeOn?
    (date : Date)
    (origin : Instant)
    (hours minutes seconds : List Nat) :
    Option Instant :=
  let sameDay := date = origin.date
  let first :=
    hours.findSome? fun hour =>
      let sameHour := sameDay ∧ hour = origin.time.hour
      if sameDay ∧ hour < origin.time.hour then
        none
      else
        minutes.findSome? fun minute =>
          let sameMinute :=
            sameHour ∧ minute = origin.time.minute
          if sameHour ∧ minute < origin.time.minute then
            none
          else
            seconds.findSome? fun second =>
              if sameMinute ∧
                  second ≤ origin.time.second then
                none
              else
                some (TimeOfDay.of? hour minute second 0)
  first.join.map fun time => ⟨date, time⟩

end Search

end CronSchedule

------------------------------------------------------------
-- Steps
------------------------------------------------------------

namespace CronSchedule

namespace Search

/- What happens at a cursor. -/
inductive Step where
/- The cursor moves to the start of a date. -/
| move (move : Move) (target : Date)
/- The search is over. -/
| stop (ending : Ending)

/- Move to a date, if there is one. -/
def Step.moveTo
    (move : Date → Move)
    (target : Option Date) : Step :=
  match target with
  | some date => .move (move date) date
  | none => .stop .rangeLeft

/- The year belongs to a set. -/
def HasYear
    (years : ValueSet)
    (year : Int) : Prop :=
  0 ≤ year ∧ year.toNat ∈ years

instance
    (years : ValueSet)
    (year : Int) :
    Decidable (HasYear years year) := by
  unfold HasYear
  infer_instance

/- Move to the next year of a set, if there is a later one. -/
def stepToYear
    (years : ValueSet)
    (year : Int) : Step :=
  match years.firstFrom? (year + 1).toNat with
  | none => .stop (.noLaterYear year)
  | some target =>
      .moveTo (fun _ => .toYear year target)
        (Date.firstOf? target 1)

/-
  Move to the next listed month of the year, or to the start
  of the next year.
-/
def stepToMonth
    (months : List Nat)
    (year : Int)
    (month : Nat) : Step :=
  let target :=
    match months.find? fun other => month < other with
    | some later => Date.firstOf? year later
    | none => Date.firstOf? (year + 1) 1
  .moveTo (.toMonth year month) target

/- Move to the following month. -/
def stepPastMonth
    (year : Int)
    (month : Nat) : Step :=
  .moveTo (fun _ => .pastMonth)
    (if month = 12 then
      Date.firstOf? (year + 1) 1
    else
      Date.firstOf? year (month + 1))

/-
  The days of a month that the day fields select.  The
  day-of-week field decides when day-of-month is `?`.
-/
def days
    (search : Search)
    (year : Int)
    (month : Nat) : Except Calendar.Fault (List Nat) :=
  if search.expression.dayOfMonth.isUnspecified then
    search.expression.dayOfWeek.daysByWeekday
      search.calendar year month
  else
    search.expression.dayOfMonth.daysByNumber
      search.calendar year month

/-
  The first occurrence on one of the given days of a month.
  Days that do not exist are skipped.
-/
def firstOnDays?
    (search : Search)
    (timetable : Timetable)
    (year : Int)
    (month : Nat)
    (days : List Nat) : Option Instant :=
  days.findSome? fun day => do
    let date ← Date.of? year month day
    firstTimeOn? date search.origin timetable.hours
      timetable.minutes timetable.seconds

/- Look for an occurrence in the rest of a month. -/
def stepInMonth
    (search : Search)
    (timetable : Timetable)
    (cursor : Date) : Step :=
  match search.days cursor.year cursor.month with
  | .error fault => .stop (.failed fault)
  | .ok days =>
      let later := days.filter fun day => cursor.day ≤ day
      match search.firstOnDays? timetable
          cursor.year cursor.month later with
      | some instant => .stop (.found instant)
      | none => stepPastMonth cursor.year cursor.month

/- Look for the month, once the year is right. -/
def stepInYear
    (search : Search)
    (timetable : Timetable)
    (cursor : Date) : Step :=
  if cursor.month ∈ timetable.months then
    search.stepInMonth timetable cursor
  else
    stepToMonth timetable.months cursor.year cursor.month

/- What happens at a cursor before the horizon. -/
def step
    (search : Search)
    (timetable : Timetable)
    (cursor : Date) : Step :=
  match search.expression.year.values? with
  | none => search.stepInYear timetable cursor
  | some years =>
      if HasYear years cursor.year then
        search.stepInYear timetable cursor
      else
        stepToYear years cursor.year

end Search

end CronSchedule

------------------------------------------------------------
-- Walking to the Horizon
------------------------------------------------------------

namespace CronSchedule

namespace Search

/- The trail with one more move in front. -/
def Trail.after
    (trail : Trail)
    (move : Move) : Trail :=
  { trail with moves := move :: trail.moves }

/-
  Step from cursor to cursor up to the horizon.  Every move
  leads to a later month, so that the months left bound the
  number of steps.
-/
def walk
    (search : Search)
    (timetable : Timetable) : Nat → Instant → Trail
| 0, _ => ⟨[], .horizonReached⟩
| monthsLeft + 1, cursor =>
    if cursor < search.horizon then
      match search.step timetable cursor.date with
      | .stop ending => ⟨[], ending⟩
      | .move move target =>
          (search.walk timetable monthsLeft
            target.midnight).after move
    else
      ⟨[], .horizonReached⟩

/- The months from a date to the horizon, both included. -/
def monthsLeft
    (search : Search)
    (cursor : Date) : Nat :=
  (search.horizon.date.monthIndex -
    cursor.monthIndex + 1).toNat

/- The whole search. -/
def trail
    (search : Search) : Trail :=
  match search.timetable with
  | .error fault => ⟨[], .failed fault⟩
  | .ok timetable =>
      match search.origin.addSecond? with
      | none => ⟨[], .rangeLeft⟩
      | some cursor =>
          search.walk timetable
            (search.monthsLeft cursor.date) cursor

/-
  The first occurrence strictly after the origin, if there
  is one before the horizon.
-/
def next
    (search : Search) :
    Except Calendar.Fault (Option Instant) :=
  search.trail.ending.answer

end Search

namespace Expression

/- The next occurrence on a calendar after an instant. -/
def nextAfter
    (expression : Expression)
    (calendar : Calendar)
    (origin : Instant) :
    Except Calendar.Fault (Option Instant) :=
  Search.next { calendar, expression, origin }

end Expression

end CronSchedule

------------------------------------------------------------
-- Records
------------------------------------------------------------

namespace CronSchedule

namespace Search

/- The record of the ending, if it has one. -/
def endingRecord?
    (search : Search) : Ending → Option Record
| .noLaterYear year =>
    some ⟨.trace, s!"no valid year after {year}"⟩
| .horizonReached =>
    some
      ⟨.debug,
        s!"search horizon of {search.horizonYears} " ++
          s!"years from {search.origin.text} is " ++
          s!"exhausted for '{search.expression.text}'"⟩
| .found _ => none
| .rangeLeft => none
| .failed _ => none

/- The records of a trail of the search, in order. -/
def trailRecords
    (search : Search)
    (trail : Trail) : List Record :=
  trail.moves.filterMap Move.record? ++
    (search.endingRecord? trail.ending).toList

/- The next occurrence, with the records of the search. -/
def journal
    (search : Search) :
    Journal (Except Calendar.Fault (Option Instant)) :=
  let trail := search.trail
  ⟨trail.ending.answer, search.trailRecords trail⟩

end Search

end CronSchedule
