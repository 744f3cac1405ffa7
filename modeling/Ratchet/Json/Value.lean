import Ratchet.Decimal.Binary

/-!
# JSON values

A document of JSON in memory. The members of an object keep their order, and a
key stands once. Text is kept as code points, because an escape sequence can
write a half of a surrogate pair, which no string holds.
-/

namespace Ratchet.Json

/-- Text as code points, lone surrogates among them. -/
abbrev Text := List Nat

/-- Whether a code point is half of a surrogate pair. -/
def isSurrogate (n : Nat) : Bool :=
  0xD800 ≤ n && n < 0xE000

/-- Whether a character stands for a byte. The name of a file may hold bytes that
are no text, and a string holds such a byte as one of 128 characters that have no
meaning of their own. -/
def isByte (c : Char) : Bool :=
  0xE000 ≤ c.toNat && c.toNat < 0xE080

/-- The code point of a character; that of a byte is half of a surrogate pair. -/
def codeOf (c : Char) : Nat :=
  if isByte c then c.toNat - 0x380 else c.toNat

/-- The character of a code point. Of the halves of surrogate pairs only those of
bytes have one. -/
def charOf? (n : Nat) : Option Char :=
  if 0xDC80 ≤ n && n < 0xDD00 then some (.ofNat (n + 0x380))
  else if isSurrogate n then none
  else some (.ofNat n)

/-- Whether a string holds a byte that is no text. -/
def hasByte (s : String) : Bool :=
  s.toList.any isByte

/-- The code points of a string. -/
def textOf (s : String) : Text :=
  s.toList.map codeOf

/-- The string of a text, if there is one. -/
def stringOf? (t : Text) : Option String :=
  (t.mapM charOf?).map .ofList

/-- A number. -/
inductive Number where
  /-- A whole number. -/
  | integer (n : Int)
  /-- A fraction, with its sign. -/
  | fraction (negative : Bool) (value : Decimal.Binary)
  /-- No number at all. -/
  | nan
  deriving Repr, DecidableEq

/-- A value. -/
inductive Value where
  | null
  | boolean (b : Bool)
  | number (n : Number)
  | string (t : Text)
  | array (items : List Value)
  | object (members : List (Text × Value))
  deriving Repr

namespace Value

/-- The value of a string. -/
def ofString (s : String) : Value :=
  string (textOf s)

/-- A whole number. -/
def ofInt (n : Int) : Value :=
  number (.integer n)

/-- The object with the given members. -/
def ofMembers (members : List (String × Value)) : Value :=
  object (members.map fun m => (textOf m.1, m.2))

end Value

/-- The members of an object. -/
abbrev Members := List (Text × Value)

namespace Members

/-- Set a member: in its place if the key is there, else at the end. -/
def set (key : Text) (value : Value) (members : Members) : Members :=
  if members.any (·.1 = key) then
    members.map fun m => if m.1 = key then (key, value) else m
  else members ++ [(key, value)]

/-- Add a member at the end unless the key is there. -/
def setDefault (key : Text) (value : Value) (members : Members) : Members :=
  if members.any (·.1 = key) then members else members ++ [(key, value)]

end Members

end Ratchet.Json
