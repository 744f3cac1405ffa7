import Ratchet.Decimal.Shortest
import Ratchet.Json.Value

/-!
# Writing JSON

A value is written in ASCII, either on one line or with one item or member on
a line, indented by two blanks for each level. Numbers are written with the
fewest digits that read back: positional from 0.0001 to below 10^16, with an
exponent outside.
-/

namespace Ratchet.Json

/-- How a document is laid out. -/
inductive Layout where
  /-- Everything on one line. -/
  | line
  /-- One item or member on a line. -/
  | indented
  deriving Repr, DecidableEq

/-! ## Text -/

/-- Four hexadecimal digits. -/
def hexFour (n : Nat) : List Char :=
  [n / 4096 % 16, n / 256 % 16, n / 16 % 16, n % 16].map Nat.digitChar

/-- A code point as an escape sequence with four digits. -/
def escapeFour (n : Nat) : List Char :=
  '\\' :: 'u' :: hexFour n

/-- A code point as it is written between quotes. -/
def writeCodePoint (n : Nat) : List Char :=
  if n = 34 then ['\\', '"']
  else if n = 92 then ['\\', '\\']
  else if n = 10 then ['\\', 'n']
  else if n = 13 then ['\\', 'r']
  else if n = 9 then ['\\', 't']
  else if n = 12 then ['\\', 'f']
  else if n = 8 then ['\\', 'b']
  else if 0x20 ≤ n ∧ n < 0x7F then [Char.ofNat n]
  else if n < 0x10000 then escapeFour n
  else escapeFour (0xD800 + (n - 0x10000) / 0x400) ++ escapeFour (0xDC00 + (n - 0x10000) % 0x400)

/-- A text between quotes. -/
def writeText (t : Text) : List Char :=
  '"' :: t.flatMap writeCodePoint ++ ['"']

/-! ## Numbers -/

/-- A decimal number in positional notation; a whole one ends in `.0`. -/
def positional (digits : List Char) (point : Int) : List Char :=
  if point ≤ 0 then '0' :: '.' :: List.replicate (-point).toNat '0' ++ digits
  else
    let before := digits.take point.toNat
    let noughts := List.replicate (point.toNat - before.length) '0'
    let behind := digits.drop point.toNat
    before ++ noughts ++ '.' :: (if behind = [] then ['0'] else behind)

/-- A decimal number with an exponent, of two digits at least. -/
def scientific (digits : List Char) (exponent : Int) : List Char :=
  let power := Nat.toDigits 10 exponent.natAbs
  let sign := if exponent < 0 then '-' else '+'
  let behind := digits.drop 1
  digits.take 1 ++ (if behind = [] then [] else '.' :: behind) ++
    'e' :: sign :: (if power.length < 2 then '0' :: power else power)

/-- A binary fraction. -/
def writeBinary : Decimal.Binary → List Char
  | .infinite => "Infinity".toList
  | .finite 0 _ => "0.0".toList
  | .finite m e =>
    let d := Decimal.shortest m e
    let digits := Nat.toDigits 10 d.number
    if -4 < d.point ∧ d.point ≤ 16 then positional digits d.point
    else scientific digits (d.point - 1)

/-- A number. -/
def writeNumber : Number → List Char
  | .nan => "NaN".toList
  | .integer n => (toString n).toList
  | .fraction negative b => (if negative then ['-'] else []) ++ writeBinary b

/-! ## Values -/

/-- A new line at a level, where the layout has one. -/
def newLine (layout : Layout) (level : Nat) : List Char :=
  match layout with
  | .line => []
  | .indented => '\n' :: List.replicate (2 * level) ' '

/-- What stands behind a comma. -/
def afterComma (layout : Layout) (level : Nat) : List Char :=
  match layout with
  | .line => [' ']
  | .indented => newLine layout level

/-- Written parts between two brackets. -/
def enclose (layout : Layout) (level : Nat) (opening closing : Char) (parts : List (List Char)) :
    List Char :=
  if parts = [] then [opening, closing]
  else
    opening :: newLine layout (level + 1) ++
      List.intercalate (',' :: afterComma layout (level + 1)) parts ++
      newLine layout level ++ [closing]

mutual

/-- A value at a level. -/
def writeAt (layout : Layout) (level : Nat) : Value → List Char
  | .null => "null".toList
  | .boolean true => "true".toList
  | .boolean false => "false".toList
  | .number n => writeNumber n
  | .string t => writeText t
  | .array items => enclose layout level '[' ']' (writeItems layout (level + 1) items)
  | .object members =>
    enclose layout level '\x7b' '\x7d' (writeMembers layout (level + 1) members)

/-- The items of an array. -/
def writeItems (layout : Layout) (level : Nat) : List Value → List (List Char)
  | [] => []
  | v :: vs => writeAt layout level v :: writeItems layout level vs

/-- The members of an object. -/
def writeMembers (layout : Layout) (level : Nat) : List (Text × Value) → List (List Char)
  | [] => []
  | (key, v) :: ms =>
    (writeText key ++ ':' :: ' ' :: writeAt layout level v) :: writeMembers layout level ms

end

/-- **Write a document.** -/
def write (layout : Layout) (v : Value) : String :=
  .ofList (writeAt layout 0 v)

end Ratchet.Json
