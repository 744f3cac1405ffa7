import Ratchet.Text.Blank
import Ratchet.Text.Digit

/-!
# Whole numbers as they are spelled

Digits with single underscores between them, behind an optional sign, with
white space at both ends. Which digits count is for the caller to say.
-/

namespace Ratchet.Text

/-- How many digits a number may have. -/
def mostDigits : Nat := 4300

/-- The digits of a number, without the underscores between them. -/
def spelledDigits (digit : Char → Bool) : List Char → Option (List Char)
  | [] => none
  | [c] => if digit c then some [c] else none
  | c :: '_' :: cs => if digit c then (spelledDigits digit cs).map (c :: ·) else none
  | c :: cs => if digit c then (spelledDigits digit cs).map (c :: ·) else none

/-- A sign at the start of a text, as whether it is a minus, and the rest. -/
def splitSign : List Char → Bool × List Char
  | '-' :: cs => (true, cs)
  | '+' :: cs => (false, cs)
  | cs => (false, cs)

/-- **The whole number that a text spells.** -/
def integer? (digit : Char → Bool) (s : List Char) : Option Int :=
  let (negative, cs) := splitSign (trim s)
  (spelledDigits digit cs).bind fun digits =>
    if mostDigits < digits.length then none
    else
      let n : Int := numberOf digits
      some (if negative then -n else n)

end Ratchet.Text
