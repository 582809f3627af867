import CronSchedule.Text.Extending
import CronSchedule.Text.Invisible
import CronSchedule.Text.Unassigned

/-
  Texts in double quotes, with escapes for what cannot be
  seen.

  Key definitions include:
    * `Text.needsCode`
    * `Text.escaped`
    * `Text.quoted`
-/

------------------------------------------------------------
-- Quoted Texts
------------------------------------------------------------

namespace CronSchedule

namespace Text

/- The escape that names a character by its code. -/
def codeEscape
    (c : Char) : List Char :=
  ['\\', 'u', '\x7b'] ++
    Nat.toDigits 16 c.toNat ++ ['\x7d']

/-
  A character is named by its code when it would not be seen
  beside the others, or would change how they are seen.
-/
def needsCode
    (c : Char) : Bool :=
  isInvisible c || isUnassigned c || isExtending c

/-
  The character as it stands between quotes.  Some escapes
  have a letter of their own.
-/
def escaped
    (c : Char) : List Char :=
  if c = '\x00' then
    ['\\', '0']
  else if c = '\t' then
    ['\\', 't']
  else if c = '\n' then
    ['\\', 'n']
  else if c = '\r' then
    ['\\', 'r']
  else if c = '"' then
    ['\\', '"']
  else if c = '\\' then
    ['\\', '\\']
  else if needsCode c then
    codeEscape c
  else
    [c]

/- The text in double quotes. -/
def quoted
    (text : String) : String :=
  String.ofList
    (['"'] ++ text.toList.flatMap escaped ++ ['"'])

end Text

end CronSchedule
