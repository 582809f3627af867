/-
  Blank characters, trimming, and the words of a text.

  A character is blank when it has the Unicode White_Space
  property.

  Key definitions include:
    * `Text.isBlank`
    * `Text.trim`
    * `Text.words`
-/

------------------------------------------------------------
-- Blank Characters
------------------------------------------------------------

namespace CronSchedule

namespace Text

/-
  The characters with the White_Space property: the controls
  from tab to carriage return, the space, next line, the
  no-break space, the ogham space, the general punctuation
  spaces, and the ideographic space.
-/
def isBlank
    (c : Char) : Bool :=
  let code := c.toNat
  (9 ≤ code && code ≤ 13)
    || code == 0x20
    || code == 0x85
    || code == 0xA0
    || code == 0x1680
    || (0x2000 ≤ code && code ≤ 0x200A)
    || code == 0x2028
    || code == 0x2029
    || code == 0x202F
    || code == 0x205F
    || code == 0x3000

end Text

end CronSchedule

------------------------------------------------------------
-- Trimming and Words
------------------------------------------------------------

namespace CronSchedule

namespace Text

/- The text without its leading blanks. -/
def trimStart
    (text : List Char) : List Char :=
  text.dropWhile isBlank

/- The text without its trailing blanks. -/
def trimEnd
    (text : List Char) : List Char :=
  (text.reverse.dropWhile isBlank).reverse

/- The text without its leading and trailing blanks. -/
def trim
    (text : List Char) : List Char :=
  trimEnd (trimStart text)

/- The maximal runs of characters that are not blank. -/
def words
    (text : List Char) : List (List Char) :=
  (text.splitOnP isBlank).filter fun word =>
    !word.isEmpty

end Text

end CronSchedule
