import Ratchet.Json.Value

/-!
# Reading JSON

`read` turns a text into a value, or tells what is wrong with it and where.
Beside the numbers of JSON it knows `NaN`, `Infinity` and `-Infinity`. Of two
members with one key the later value counts, at the earlier place.

Places are numbers of characters from the start of the text.
-/

namespace Ratchet.Json

/-- What is wrong with a text, at a place. -/
inductive FaultKind where
  | byteOrderMark
  | value
  | propertyName
  | colon
  | comma
  | extraData
  | controlCharacter
  | unterminatedString
  | escape
  | unicodeEscape
  deriving Repr, DecidableEq

/-- The wording of a kind of fault. -/
def FaultKind.message : FaultKind → String
  | byteOrderMark => "Unexpected UTF-8 BOM (decode using utf-8-sig)"
  | value => "Expecting value"
  | propertyName => "Expecting property name enclosed in double quotes"
  | colon => "Expecting ':' delimiter"
  | comma => "Expecting ',' delimiter"
  | extraData => "Extra data"
  | controlCharacter => "Invalid control character at"
  | unterminatedString => "Unterminated string starting at"
  | escape => "Invalid \\escape"
  | unicodeEscape => "Invalid \\uXXXX escape"

/-- Why a text cannot be read. -/
inductive Fault where
  /-- It is not JSON. -/
  | malformed (kind : FaultKind) (place : Nat)
  /-- It holds a whole number of so many digits, which are too many. -/
  | tooManyDigits (count : Nat)
  deriving Repr, DecidableEq

/-- A place in words: line, column and number of the character. -/
def placeText (source : List Char) (place : Nat) : String :=
  let before := source.take place
  let line := before.count '\n' + 1
  let column := (before.reverse.takeWhile (· ≠ '\n')).length + 1
  s!"line {line} column {column} (char {place})"

/-- The most digits a whole number may have. -/
def maxDigits : Nat := 4300

/-! ## Reading from a place

A reader is given the place that it has reached and the text from there on. -/

/-- A fault at a place. -/
def fail {α : Type} (kind : FaultKind) (place : Nat) : Except Fault α :=
  .error (.malformed kind place)

/-- Whether a character may stand between the parts of a document. -/
def isSpace (c : Char) : Bool :=
  c = ' ' || c = '\t' || c = '\n' || c = '\r'

/-- Skip the blanks at a place. -/
def skip (place : Nat) (cs : List Char) : Nat × List Char :=
  let blanks := (cs.takeWhile isSpace).length
  (place + blanks, cs.drop blanks)

/-- The value of a hexadecimal digit. -/
def hexDigit? (c : Char) : Option Nat :=
  if c.isDigit then some (c.toNat - 48)
  else if 'a' ≤ c ∧ c ≤ 'f' then some (c.toNat - 87)
  else if 'A' ≤ c ∧ c ≤ 'F' then some (c.toNat - 55)
  else none

/-- The value of four hexadecimal digits. -/
def hexFour? (cs : List Char) : Option Nat :=
  (cs.take 4).foldlM (fun n c => (hexDigit? c).map (16 * n + ·)) 0

/-- The character that a letter behind a backslash stands for. -/
def escaped? : Char → Option Nat
  | '"' => some 34
  | '\\' => some 92
  | '/' => some 47
  | 'b' => some 8
  | 'f' => some 12
  | 'n' => some 10
  | 'r' => some 13
  | 't' => some 9
  | _ => none

/-- What follows a first half of a surrogate pair: the second half, if the
text goes on with an escape sequence for it. The flag tells that there is an
escape sequence, but a broken one. -/
def secondHalf (rest : List Char) : Option (Option Nat) :=
  match rest with
  | '\\' :: 'u' :: digits =>
    if digits.length < 5 then none else some (hexFour? digits)
  | _ => none

/-- Read an escape sequence with four digits, of which `place` is the place of
the letter and `cs` the text behind it: the code point and the number of
characters read. -/
def unicodeEscape (place : Nat) (cs : List Char) : Except Fault (Nat × Nat) :=
  if cs.length < 5 then fail .unicodeEscape place
  else match hexFour? cs with
    | none => fail .unicodeEscape place
    | some c =>
      if 0xD800 ≤ c ∧ c < 0xDC00 then
        match secondHalf (cs.drop 4) with
        | none => .ok (c, 4)
        | some none => fail .unicodeEscape (place + 6)
        | some (some d) =>
          if 0xDC00 ≤ d ∧ d < 0xE000 then
            .ok (0x10000 + (c - 0xD800) * 0x400 + (d - 0xDC00), 10)
          else .ok (c, 4)
      else .ok (c, 4)

/-- Read a string from behind its opening quote, which stands at `start`. -/
def readString (start : Nat) (read : Text) (place : Nat) (cs : List Char) :
    Except Fault (Text × Nat × List Char) :=
  match cs with
  | [] => fail .unterminatedString start
  | '"' :: rest => .ok (read.reverse, place + 1, rest)
  | '\\' :: [] => fail .unterminatedString start
  | '\\' :: 'u' :: rest =>
    match unicodeEscape (place + 1) rest with
    | .error fault => .error fault
    | .ok (c, used) => readString start (c :: read) (place + 2 + used) (rest.drop used)
  | '\\' :: c :: rest =>
    match escaped? c with
    | some code => readString start (code :: read) (place + 2) rest
    | none => fail .escape place
  | c :: rest =>
    if c.toNat ≤ 0x1F then fail .controlCharacter place
    else readString start (c.toNat :: read) (place + 1) rest
termination_by cs.length
decreasing_by
  all_goals simp only [List.length_cons, List.length_drop]
  all_goals omega

/-- A run of decimal digits, and what follows. -/
def spanDigits (cs : List Char) : List Char × List Char :=
  (cs.takeWhile Char.isDigit, cs.dropWhile Char.isDigit)

/-- The number that decimal digits write. -/
def decimal (digits : List Char) : Nat :=
  digits.foldl (fun n c => 10 * n + (c.toNat - 48)) 0

/-- The digits behind a decimal point, if there are any. -/
def fractionPart : List Char → Option (List Char × List Char)
  | '.' :: cs => if (spanDigits cs).1 = [] then none else some (spanDigits cs)
  | _ => none

/-- The exponent behind its letter, if there are digits. -/
def exponentPart : List Char → Option (Int × List Char)
  | e :: cs =>
    if e = 'e' ∨ e = 'E' then
      let (sign, digits) := match cs with
        | '-' :: cs => ((-1 : Int), cs)
        | '+' :: cs => (1, cs)
        | cs => (1, cs)
      if (spanDigits digits).1 = [] then none
      else some (sign * decimal (spanDigits digits).1, (spanDigits digits).2)
    else none
  | [] => none

/-- The digits before the point: nought alone, or digits of which the first is
not nought. -/
def integerPart : List Char → Option (List Char × List Char)
  | '0' :: cs => some (['0'], cs)
  | cs => if (spanDigits cs).1 = [] then none else some (spanDigits cs)

/-- Read a number behind its sign, and what follows; `none` if there is no
number. -/
def readNumber (negative : Bool) (cs : List Char) :
    Option (Except Fault Number × List Char) := do
  let (whole, rest) ← integerPart cs
  let fraction := fractionPart rest
  let rest := (fraction.map (·.2)).getD rest
  let exponent := exponentPart rest
  let rest := (exponent.map (·.2)).getD rest
  match fraction, exponent with
  | none, none =>
    let n : Int := decimal whole
    return (if maxDigits < whole.length then .error (.tooManyDigits whole.length)
      else .ok (.integer (if negative then -n else n)), rest)
  | _, _ =>
    let behind := (fraction.map (·.1)).getD []
    let power := (exponent.map (·.1)).getD 0 - behind.length
    return (.ok (.fraction negative (.ofDecimal (decimal (whole ++ behind)) power)), rest)

/-- The words that stand for values. -/
def wordValues : List (String × Value) :=
  [("null", .null), ("true", .boolean true), ("false", .boolean false),
   ("NaN", .number .nan), ("Infinity", .number (.fraction false .infinite)),
   ("-Infinity", .number (.fraction true .infinite))]

/-- Read a value that has no parts. -/
def readScalar (place : Nat) (cs : List Char) : Except Fault (Value × Nat × List Char) :=
  match wordValues.find? fun w => w.1.toList.isPrefixOf cs with
  | some (word, value) => .ok (value, place + word.length, cs.drop word.length)
  | none =>
    let (negative, digits) := match cs with
      | '-' :: cs => (true, cs)
      | cs => (false, cs)
    match readNumber negative digits with
    | none => fail .value place
    | some (.error fault, _) => .error fault
    | some (.ok n, rest) => .ok (.number n, place + (cs.length - rest.length), rest)

/-! ## Values with parts

`depth` bounds the nesting and `budget` the number of parts; the length of the
text is enough for both. -/

/-- Read the items of an array from behind its bracket. -/
def readItems (value : Nat → List Char → Except Fault (Value × Nat × List Char)) :
    Nat → Nat → List Char → Except Fault (List Value × Nat × List Char)
  | 0, place, _ => fail .value place
  | budget + 1, place, cs => do
    let (item, place, cs) ← value place cs
    let (place, cs) := skip place cs
    match cs with
    | ']' :: rest => return ([item], place + 1, rest)
    | ',' :: rest =>
      let (place, cs) := skip (place + 1) rest
      let (items, place, cs) ← readItems value budget place cs
      return (item :: items, place, cs)
    | _ => fail .comma place

/-- Read the members of an object from behind its brace. -/
def readMembers (value : Nat → List Char → Except Fault (Value × Nat × List Char)) :
    Nat → Members → Nat → List Char → Except Fault (Members × Nat × List Char)
  | 0, _, place, _ => fail .value place
  | budget + 1, members, place, cs => do
    match cs with
    | '"' :: rest =>
      let (key, place, cs) ← readString place [] (place + 1) rest
      let (place, cs) := skip place cs
      match cs with
      | ':' :: rest =>
        let (place, cs) := skip (place + 1) rest
        let (v, place, cs) ← value place cs
        let members := Members.set key v members
        let (place, cs) := skip place cs
        match cs with
        | '\x7d' :: rest => return (members, place + 1, rest)
        | ',' :: rest =>
          let (place, cs) := skip (place + 1) rest
          readMembers value budget members place cs
        | _ => fail .comma place
      | _ => fail .colon place
    | _ => fail .propertyName place

/-- Read a value. -/
def readValue : Nat → Nat → List Char → Except Fault (Value × Nat × List Char)
  | 0, place, _ => fail .value place
  | depth + 1, place, cs =>
    match cs with
    | '"' :: rest => do
      let (text, place, rest) ← readString place [] (place + 1) rest
      return (.string text, place, rest)
    | '[' :: rest =>
      match skip (place + 1) rest with
      | (place, ']' :: rest) => .ok (.array [], place + 1, rest)
      | (place, cs) => do
        let (items, place, rest) ← readItems (readValue depth) (cs.length + 1) place cs
        return (.array items, place, rest)
    | '\x7b' :: rest =>
      match skip (place + 1) rest with
      | (place, '\x7d' :: rest) => .ok (.object [], place + 1, rest)
      | (place, cs) => do
        let (members, place, rest) ← readMembers (readValue depth) (cs.length + 1) [] place cs
        return (.object members, place, rest)
    | cs => readScalar place cs

/-- **Read a document.** -/
def read (source : List Char) : Except Fault Value :=
  if source.head? = some '\ufeff' then fail .byteOrderMark 0
  else do
    let (place, cs) := skip 0 source
    let (value, place, cs) ← readValue (source.length + 1) place cs
    let (place, cs) := skip place cs
    if cs = [] then return value else fail .extraData place

end Ratchet.Json
