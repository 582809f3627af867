import CronSchedule.Field.Alias
import CronSchedule.Field.Basic
import CronSchedule.Field.Selection
import CronSchedule.Text.Blank

/-
  Reading the text of a single field.

  Key definitions include:
    * `Field.readDayOfMonth`
    * `Field.readDayOfWeek`
    * `Field.readMonth`
    * `Field.read`
-/

------------------------------------------------------------
-- Days of the Month
------------------------------------------------------------

namespace CronSchedule

namespace Field

/- A numeric field as a set of values. -/
def readSelection
    (kind : Kind)
    (text : List Char) : Except Fault Field :=
  (Selection.read kind text).map
    fun selection => .fixed selection.values

/- `L` alone, or `L-` before one or more digits. -/
def isLastDay
    (text : List Char) : Bool :=
  text == ['L'] ||
    match Text.stripStart? ['L', '-'] text with
    | some offset => Numeral.isRun offset
    | none => false

/- The day in front of a final letter, of one or two digits. -/
def markedDay?
    (mark : Char)
    (text : List Char) : Option Nat := do
  let day ← Text.stripLast? mark text
  if day.length ≤ 2 then
    Numeral.short? day
  else
    none

/-
  The combinator that stands beside a special character with
  which it may not be combined.
-/
def forbiddenBeside?
    (special : Char)
    (text : List Char) : Option Combinator :=
  if text.contains special then
    Combinator.in? text
  else
    none

/- The cause for refusing a day-of-month text at sight. -/
def dayOfMonthFault?
    (text : List Char) : Option Fault :=
  if text.contains '#' then
    some .nthInDayOfMonth
  else
    let besideLast :=
      if isLastDay text then
        none
      else
        forbiddenBeside? 'L' text
    match besideLast with
    | some combinator =>
        some (.combined combinator 'L')
    | none =>
        (forbiddenBeside? 'W' text).map .combinedNearest

/- An offset from the last day of the month, up to 31. -/
def readOffset
    (text offset : List Char) : Except Fault Field :=
  if Numeral.isRun offset ∧
      Numeral.value offset ≤ 31 then
    .ok (.lastDayOffset (Numeral.value offset))
  else
    .error (.lastDayOffset (String.ofList text))

/- Read a day-of-month text that passes the first sight. -/
def readDayForm
    (text : List Char) : Except Fault Field :=
  if text = ['?'] then
    .ok .unspecified
  else if text = ['L'] then
    .ok .lastDay
  else if text = ['L', 'W'] then
    .ok .lastWorkday
  else
    match Text.stripStart? ['L', '-'] text with
    | some offset => readOffset text offset
    | none =>
        match markedDay? 'W' text with
        | some day =>
            if Kind.dayOfMonth.Allows day then
              .ok (.nearestWorkday day)
            else
              .error
                (.nearestWorkday (String.ofList text))
        | none => readSelection .dayOfMonth text

/- Read a day-of-month text. -/
def readDayOfMonth
    (text : List Char) : Except Fault Field :=
  match dayOfMonthFault? text with
  | some fault => .error fault
  | none => readDayForm text

end Field

end CronSchedule

------------------------------------------------------------
-- Days of the Week
------------------------------------------------------------

namespace CronSchedule

namespace Field

/- The greatest count that may follow `#`. -/
def greatestCount : Nat := 6

/- The cause for refusing a day-of-week text at sight. -/
def dayOfWeekFault?
    (text : List Char) : Option Fault :=
  if text.contains 'W' then
    some .nearestInDayOfWeek
  else
    match forbiddenBeside? 'L' text with
    | some combinator =>
        some (.combined combinator 'L')
    | none =>
        (forbiddenBeside? '#' text).map
          (.combined · '#')

/- Read a weekday and its count in the month. -/
def readNthWeekday
    (text weekday count : List Char) :
    Except Fault Field :=
  match
    Numeral.short? weekday, Numeral.short? count
  with
  | some weekday, some count =>
      if Kind.dayOfWeek.Allows weekday ∧
          1 ≤ count ∧ count ≤ greatestCount then
        .ok (.nthWeekday weekday count)
      else
        .error (.nthWeekday (String.ofList text))
  | _, _ => .error (.nthWeekday (String.ofList text))

/-
  Read a day-of-week text that passes the first sight.  `L`
  alone is the last day of the week.
-/
def readWeekdayForm
    (text : List Char) : Except Fault Field :=
  if text = ['?'] then
    .ok .unspecified
  else if text = ['L'] then
    .ok (.fixed (ValueSet.interval 7 7))
  else
    match markedDay? 'L' text with
    | some weekday =>
        if Kind.dayOfWeek.Allows weekday then
          .ok (.lastWeekday weekday)
        else
          .error (.lastWeekday (String.ofList text))
    | none =>
        match Text.splitFirst? '#' text with
        | some (weekday, count) =>
            readNthWeekday text weekday count
        | none => readSelection .dayOfWeek text

/- Read a day-of-week text. -/
def readDayOfWeek
    (text : List Char) : Except Fault Field :=
  match dayOfWeekFault? text with
  | some fault => .error fault
  | none => readWeekdayForm text

end Field

end CronSchedule

------------------------------------------------------------
-- All Fields
------------------------------------------------------------

namespace CronSchedule

namespace Field

/- The marks of the day fields, which months refuse. -/
def isDayMark
    (c : Char) : Bool :=
  ['L', 'l', 'W', 'w', '#'].contains c

/- Read a month text. -/
def readMonth
    (text : List Char) : Except Fault Field :=
  if text.any isDayMark then
    .error .specialInMonth
  else
    readSelection .month text

/- Read a text whose aliases have been replaced. -/
def readNumbered
    (kind : Kind)
    (text : List Char) : Except Fault Field :=
  match kind with
  | .dayOfMonth => readDayOfMonth text
  | .dayOfWeek => readDayOfWeek text
  | .month => readMonth text
  | kind => readSelection kind text

/- All values of the position. -/
def full
    (kind : Kind) : Field :=
  .fixed (ValueSet.interval kind.least kind.greatest)

/-
  Read the text of a field.  An empty text stands for any
  year, and `*` for all values of the position.
-/
def read
    (kind : Kind)
    (text : List Char) : Except Fault Field := do
  let text := Text.trim text
  if text = [] then
    if kind = .year then
      .ok .anyYear
    else
      .error .empty
  else if text = ['*'] then
    .ok (full kind)
  else
    readNumbered kind (← kind.replaceAliases text)

end Field

end CronSchedule
