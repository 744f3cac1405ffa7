/-!
# UTF-8

Bytes are read as a list of `Piece`s: characters, and faulty runs of bytes,
each as long as it could still have become a character. Strict reading stops
at the first fault and tells where it is; lenient reading puts the
replacement character in its place.
-/

namespace Ratchet.Text.Utf8

/-- What is wrong with a run of bytes. -/
inductive Reason where
  /-- No character starts with this byte. -/
  | invalidStart
  /-- The character that was started does not go on like this. -/
  | invalidContinuation
  /-- The bytes end within a character. -/
  | unexpectedEnd
  deriving Repr, DecidableEq

/-- The wording of a reason. -/
def Reason.message : Reason → String
  | .invalidStart => "invalid start byte"
  | .invalidContinuation => "invalid continuation byte"
  | .unexpectedEnd => "unexpected end of data"

/-- Bytes that are not UTF-8: where the fault is. -/
structure Fault where
  /-- The offset of the first faulty byte. -/
  position : Nat
  /-- The faulty bytes. -/
  bytes : List UInt8
  /-- What is wrong with them. -/
  reason : Reason
  deriving Repr, DecidableEq

/-- A byte in two hexadecimal digits. -/
def hexByte (b : UInt8) : String :=
  .ofList [(b.toNat / 16).digitChar, (b.toNat % 16).digitChar]

/-- The message of a fault. -/
def Fault.message (f : Fault) : String :=
  let place := match f.bytes with
    | [b] => s!"byte 0x{hexByte b} in position {f.position}"
    | bytes => s!"bytes in position {f.position}-{f.position + bytes.length - 1}"
  s!"'utf-8' codec can't decode {place}: {f.reason.message}"

/-- One step of reading. -/
inductive Piece where
  /-- A character of so many bytes. -/
  | char (c : Char) (size : Nat)
  /-- So many bytes that are no character. -/
  | fault (reason : Reason) (size : Nat)
  deriving Repr

/-- The number of bytes of a piece. -/
def Piece.size : Piece → Nat
  | .char _ n => n
  | .fault _ n => n

/-- Whether a byte can only continue a character. -/
def isContinuation (b : UInt8) : Bool :=
  0x80 ≤ b && b < 0xC0

/-- The smallest second byte after a first byte. -/
def secondLow (first : UInt8) : UInt8 :=
  if first = 0xE0 then 0xA0 else if first = 0xF0 then 0x90 else 0x80

/-- The greatest second byte after a first byte. -/
def secondHigh (first : UInt8) : UInt8 :=
  if first = 0xED then 0x9F else if first = 0xF4 then 0x8F else 0xBF

/-- How many bytes follow a first byte. -/
def following? (first : UInt8) : Option Nat :=
  if first < 0x80 then some 0
  else if first < 0xC2 then none
  else if first < 0xE0 then some 1
  else if first < 0xF0 then some 2
  else if first < 0xF5 then some 3
  else none

/-- How many of the bytes that should follow are there and fit. -/
def fitting (first : UInt8) (needed : Nat) (rest : List UInt8) : Nat :=
  match rest with
  | [] => 0
  | second :: more =>
    if secondLow first ≤ second && second ≤ secondHigh first then
      1 + ((more.take (needed - 1)).takeWhile isContinuation).length
    else 0

/-- The code point written by a first byte and those that follow it. -/
def codePoint (first : UInt8) (tail : List UInt8) : Nat :=
  let lead := match tail.length with
    | 0 => first.toNat
    | 1 => first.toNat % 0x20
    | 2 => first.toNat % 0x10
    | _ => first.toNat % 0x08
  tail.foldl (fun n b => n * 64 + b.toNat % 64) lead

/-- Read one piece. -/
def piece (first : UInt8) (rest : List UInt8) : Piece :=
  match following? first with
  | none => .fault .invalidStart 1
  | some 0 => .char (Char.ofNat first.toNat) 1
  | some needed =>
    let fit := fitting first needed rest
    if fit = needed then .char (Char.ofNat (codePoint first (rest.take needed))) (1 + needed)
    else if fit = rest.length then .fault .unexpectedEnd (1 + fit)
    else .fault .invalidContinuation (1 + fit)

/-- Read everything. -/
def pieces : List UInt8 → List Piece
  | [] => []
  | first :: rest =>
    let p := piece first rest
    p :: pieces (rest.drop (p.size - 1))
termination_by bytes => bytes.length
decreasing_by
  simp only [List.length_cons, List.length_drop]
  omega

/-- Read strictly, from an offset on. -/
def strictFrom (bytes : List UInt8) : Nat → List Piece → Except Fault (List Char)
  | _, [] => .ok []
  | at_, .char c n :: more => (strictFrom bytes (at_ + n) more).map (c :: ·)
  | at_, .fault reason n :: _ =>
    .error { position := at_, bytes := (bytes.drop at_).take n, reason }

/-- **Strict reading**: all of it, or the first fault. -/
def decode (bytes : List UInt8) : Except Fault (List Char) :=
  strictFrom bytes 0 (pieces bytes)

/-- **Lenient reading**: a replacement character for each fault. -/
def decodeLossy (bytes : List UInt8) : List Char :=
  (pieces bytes).map fun
    | .char c _ => c
    | .fault _ _ => '\ufffd'

end Ratchet.Text.Utf8
