import CronSchedule.Text.Numeral
import CronSchedule.Time.Instant

/-
  The texts of dates and instants.

  Key definitions include:
    * `Date.text`
    * `TimeOfDay.text`
    * `Instant.text`
-/

------------------------------------------------------------
-- Dates
------------------------------------------------------------

namespace CronSchedule

namespace Date

/-
  Years of four digits stand alone.  All others have a sign
  and at least four digits.
-/
def yearText
    (year : Int) : String :=
  if 0 ≤ year ∧ year ≤ 9999 then
    Numeral.signed .negativeOnly 4 year
  else
    Numeral.signed .always 5 year

/- Year, month, and day, with hyphens between them. -/
def text
    (date : Date) : String :=
  yearText date.year ++ "-" ++
    Numeral.padded 2 date.month ++ "-" ++
    Numeral.padded 2 date.day

end Date

end CronSchedule

------------------------------------------------------------
-- Times and Instants
------------------------------------------------------------

namespace CronSchedule

namespace TimeOfDay

/-
  The fraction of a second: none, three, six, or nine
  digits, the fewest that are exact.
-/
def fractionText
    (nano : Nat) : String :=
  if nano = 0 then
    ""
  else if nano % 1000000 = 0 then
    "." ++ Numeral.padded 3 (nano / 1000000)
  else if nano % 1000 = 0 then
    "." ++ Numeral.padded 6 (nano / 1000)
  else
    "." ++ Numeral.padded 9 nano

/-
  The second as it is written.  A leap second has the number
  of the next one, which is `60` at the end of a minute.
-/
def writtenSecond
    (time : TimeOfDay) : Nat :=
  time.second + time.nano / nanosPerSecond

/- Hour, minute, and second, with colons between them. -/
def text
    (time : TimeOfDay) : String :=
  Numeral.padded 2 time.hour ++ ":" ++
    Numeral.padded 2 time.minute ++ ":" ++
    Numeral.padded 2 time.writtenSecond ++
    fractionText time.settledNano

end TimeOfDay

/- The date and the time, with a space between them. -/
def Instant.text
    (instant : Instant) : String :=
  instant.date.text ++ " " ++ instant.time.text

end CronSchedule
