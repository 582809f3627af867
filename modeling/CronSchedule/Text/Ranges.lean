/-
  Classes of characters that are given by ranges of codes.

  Key definitions include:
    * `Text.inRanges`
-/

------------------------------------------------------------
-- Ranges
------------------------------------------------------------

namespace CronSchedule

namespace Text

/- The code of the character lies in one of the ranges. -/
def inRanges
    (ranges : List (Nat × Nat))
    (c : Char) : Bool :=
  ranges.any fun range =>
    range.1 ≤ c.toNat && c.toNat ≤ range.2

end Text

end CronSchedule
