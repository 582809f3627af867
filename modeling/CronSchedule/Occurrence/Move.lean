import CronSchedule.Calendar.Fault
import CronSchedule.Journal
import CronSchedule.Time.Display

/-
  The moves of a search for an occurrence, its ending, and
  the records that tell of them.

  Key definitions include:
    * `Search.Move`
    * `Search.Ending`
    * `Search.Ending.answer`
    * `Search.Trail`
-/

------------------------------------------------------------
-- Moves and Endings
------------------------------------------------------------

namespace CronSchedule

namespace Search

/- A move of the cursor to the first day of a later month. -/
inductive Move where
/- To the next year of the year field. -/
| toYear (year : Int) (target : Nat)
/- To the next month of the month field. -/
| toMonth (year : Int) (month : Nat) (target : Date)
/- To the following month, for want of a day. -/
| pastMonth
deriving DecidableEq

/- The reasons why a search is over. -/
inductive Ending where
/- The first occurrence. -/
| found (instant : Instant)
/- The year field has no later year. -/
| noLaterYear (year : Int)
/- The range of dates is left. -/
| rangeLeft
/- The horizon is reached. -/
| horizonReached
/- The calendar gives no answer. -/
| failed (fault : Calendar.Fault)
deriving DecidableEq

/- What the ending says about the next occurrence. -/
def Ending.answer :
    Ending → Except Calendar.Fault (Option Instant)
| .found instant => .ok (some instant)
| .failed fault => .error fault
| .noLaterYear _ => .ok none
| .rangeLeft => .ok none
| .horizonReached => .ok none

/- The moves of a search, in order, and its ending. -/
structure Trail where
  moves : List Move
  ending : Ending
deriving DecidableEq

end Search

end CronSchedule

------------------------------------------------------------
-- Records
------------------------------------------------------------

namespace CronSchedule

namespace Search

/- The record of a move.  Not every move has one. -/
def Move.record? : Move → Option Record
| .toYear year target =>
    some ⟨.trace, s!"jump from year {year} to {target}"⟩
| .toMonth year month target =>
    some
      ⟨.trace,
        s!"jump from {Calendar.Fault.monthText year month} " ++
          s!"to {target.text}"⟩
| .pastMonth => none

end Search

end CronSchedule
