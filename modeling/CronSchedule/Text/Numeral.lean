/-
  Decimal numerals: reading digits, and writing numbers with
  or without leading zeros.

  Key definitions include:
    * `Numeral.digits`
    * `Numeral.value`
    * `Numeral.short?`
    * `Numeral.padded`
    * `Numeral.signed`
-/

------------------------------------------------------------
-- Reading
------------------------------------------------------------

namespace CronSchedule

namespace Numeral

/- A nonempty run of ASCII digits. -/
def isRun
    (text : List Char) : Bool :=
  !text.isEmpty && text.all Char.isDigit

/- The number that a run of digits denotes. -/
def value
    (text : List Char) : Nat :=
  Nat.ofDigitChars 10 text 0

/-
  The number denoted by a run of one to four digits, which
  is all that an operand of a field may be.
-/
def short?
    (text : List Char) : Option Nat :=
  if isRun text && text.length ≤ 4 then
    some (value text)
  else
    none

end Numeral

end CronSchedule

------------------------------------------------------------
-- Writing
------------------------------------------------------------

namespace CronSchedule

namespace Numeral

/- The shortest decimal numeral of a number. -/
def digits
    (number : Nat) : List Char :=
  Nat.toDigits 10 number

/- The numeral filled up with leading zeros to a width. -/
def padded
    (width : Nat)
    (number : Nat) : String :=
  let text := digits number
  String.ofList
    (List.replicate (width - text.length) '0' ++ text)

/- When a numeral of an integer carries a sign. -/
inductive SignRule where
| negativeOnly
| always
deriving DecidableEq

/- The sign written in front of an integer. -/
def SignRule.sign
    (rule : SignRule)
    (number : Int) : String :=
  if number < 0 then
    "-"
  else
    match rule with
    | .negativeOnly => ""
    | .always => "+"

/-
  The numeral of an integer filled up with zeros between its
  sign and its digits.  The sign counts towards the width.
-/
def signed
    (rule : SignRule)
    (width : Nat)
    (number : Int) : String :=
  let sign := rule.sign number
  sign ++ padded (width - sign.length) number.natAbs

end Numeral

end CronSchedule
