import Ratchet.Text.Digit
import Ratchet.Text.Lines
import Ratchet.Text.Word

/-!
# Counting errors

The number of errors that the output of a checker reports. Where it sums them
up, as in "Found 3 errors", that number counts; otherwise the lines that carry
a marker do: `:12: error:`, with a column or without, or `error TS2345:` as a
word of its own.
-/

namespace Ratchet.Checker

open Text (isDigit isBoundary)

/-- A run of digits, and what follows; there has to be one. -/
def digits? (cs : List Char) : Option (List Char × List Char) :=
  let run := cs.takeWhile isDigit
  if run = [] then none else some (run, cs.dropWhile isDigit)

/-- Whether a text starts with another, which is given in small letters, in
letters of any size. -/
def startsLike (start : List Char) (cs : List Char) : Bool :=
  (cs.take start.length).map Char.toLower = start

/-- The digits of a sum that starts here. -/
def sumHere? (cs : List Char) : Option (List Char) :=
  if startsLike "found ".toList cs then
    (digits? (cs.drop 6)).bind fun (run, rest) =>
      if startsLike " error".toList rest then some run else none
  else none

/-- **The digits of the first sum.** -/
def sum? : List Char → Option (List Char)
  | [] => none
  | c :: cs => (sumHere? (c :: cs)).or (sum? cs)

/-- Whether the end of a marker follows. -/
def isErrorWord (cs : List Char) : Bool :=
  ": error:".toList.isPrefixOf cs

/-- Whether a marker with a line, and perhaps a column, starts here. -/
def isPlaceMarker : List Char → Bool
  | ':' :: cs =>
    match digits? cs with
    | none => false
    | some (_, rest) =>
      isErrorWord rest ||
        match rest with
        | ':' :: more => (digits? more).any fun (_, rest) => isErrorWord rest
        | _ => false
  | _ => false

/-- Whether a numbered marker starts here. -/
def isNumberMarker (cs : List Char) : Bool :=
  "error TS".toList.isPrefixOf cs &&
    (digits? (cs.drop 8)).any fun (_, rest) => rest.head? = some ':'

/-- Whether a marker starts here, behind a character. -/
def isMarker (before : Option Char) (cs : List Char) : Bool :=
  isPlaceMarker cs || (isBoundary before cs.head? && isNumberMarker cs)

/-- **Whether there is a marker** in a text that follows a character. -/
def hasMarker (before : Option Char) : List Char → Bool
  | [] => false
  | c :: cs => isMarker before (c :: cs) || hasMarker (some c) cs

/-- The number of lines with a marker. -/
def markedLines (output : List Char) : Nat :=
  (Text.lines output).countP (hasMarker none)

/-- The most digits that a number may have to be read. -/
def maxDigits : Nat := 4300

/-- **The number of errors that an output reports**, or the number of digits of
a sum that has too many. -/
def countErrors (output : List Char) : Except Nat Nat :=
  match sum? output with
  | none => .ok (markedLines output)
  | some run => if maxDigits < run.length then .error run.length else .ok (Text.numberOf run)

end Ratchet.Checker
