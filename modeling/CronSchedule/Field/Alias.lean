import CronSchedule.Field.Fault
import CronSchedule.Text.Numeral

/-
  Replacing the names of months and weekdays by numbers.

  Every run of letters is cut into groups of three from its
  start.  A group must name a value of the position, and a
  shorter rest of the run stays as it is.

  Key definitions include:
    * `Field.Kind.aliasNumber?`
    * `Field.Kind.replaceAliases`
-/

------------------------------------------------------------
-- Alias Replacement
------------------------------------------------------------

namespace CronSchedule

namespace Field

namespace Kind

/- The number that three letters of any case stand for. -/
def aliasNumber?
    (kind : Kind)
    (letters : List Char) : Option Nat :=
  (kind.aliases.idxOf?
      (String.ofList (letters.map Char.toUpper))).map
    (· + 1)

/- Replace each group of three letters by its number. -/
def replaceGroups
    (kind : Kind) :
    List Char → Except Fault (List Char)
| a :: b :: c :: rest =>
    if a.isAlpha && b.isAlpha && c.isAlpha then
      match kind.aliasNumber? [a, b, c] with
      | none =>
          .error
            (.unknownAlias (String.ofList [a, b, c]))
      | some number => do
          let replaced ← kind.replaceGroups rest
          return Numeral.digits number ++ replaced
    else do
      let replaced ← kind.replaceGroups (b :: c :: rest)
      return a :: replaced
| short => .ok short

/- Replace the aliases, if the position has any. -/
def replaceAliases
    (kind : Kind)
    (text : List Char) : Except Fault (List Char) :=
  if kind.hasAliases then
    kind.replaceGroups text
  else
    .ok text

end Kind

end Field

end CronSchedule
