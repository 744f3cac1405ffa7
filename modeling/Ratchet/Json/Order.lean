import Ratchet.Json.Value

/-!
# Comparing JSON values

Values without parts can be told apart and, when they are all texts or all
numbers, be put in order. A truth value counts as the number nought or one,
and a whole number equals the fraction of the same value.

NaN compares false with every number. Values with it among them
are left in some order, an `Arrangement`, which depends on how they are kept.
-/

namespace Ratchet.Json

/-- A number on the line from minus to plus infinity, as a numerator over a
denominator; `none` at the ends. -/
structure Magnitude where
  /-- Whether the number is below nought. -/
  negative : Bool
  /-- The absolute value, unless it is infinite. -/
  ratio : Option (Nat × Nat)
  deriving Repr, DecidableEq

namespace Magnitude

/-- Whether one absolute value is less than another. -/
def absLess (a b : Magnitude) : Bool :=
  match a.ratio, b.ratio with
  | some (m, n), some (p, q) => m * q < p * n
  | some _, none => true
  | none, _ => false

/-- Whether a number is nought. -/
def isZero (a : Magnitude) : Bool :=
  a.ratio.any (·.1 = 0)

/-- Whether one number is less than another. -/
def less (a b : Magnitude) : Bool :=
  if a.isZero && b.isZero then false
  else match a.negative, b.negative with
    | false, false => a.absLess b
    | true, true => b.absLess a
    | true, false => true
    | false, true => false

/-- Whether two numbers are equal. -/
def equal (a b : Magnitude) : Bool :=
  !a.less b && !b.less a

end Magnitude

namespace Number

/-- The magnitude of a number, if it is one. -/
def magnitude? : Number → Option Magnitude
  | .integer n => some ⟨n < 0, some (n.natAbs, 1)⟩
  | .fraction negative (.finite m e) =>
    some ⟨negative, some (m * Decimal.Binary.twoTo e, Decimal.Binary.twoTo (-e))⟩
  | .fraction negative .infinite => some ⟨negative, none⟩
  | .nan => none

/-- Whether one number stands before another. -/
def less (m n : Number) : Bool :=
  match m.magnitude?, n.magnitude? with
  | some a, some b => a.less b
  | _, _ => false

/-- Whether two numbers are the same, or both are none. -/
def equal (m n : Number) : Bool :=
  match m.magnitude?, n.magnitude? with
  | some a, some b => a.equal b
  | a, b => a.isNone && b.isNone

end Number

/-- The number that a value counts as. -/
def Value.number? : Value → Option Number
  | .number n => some n
  | .boolean b => some (.integer (if b then 1 else 0))
  | _ => none

/-- Whether two values without parts are the same. -/
def same (v w : Value) : Bool :=
  match v, w with
  | .null, .null => true
  | .string t, .string u => t = u
  | v, w =>
    match v.number?, w.number? with
    | some m, some n => m.equal n
    | _, _ => false

/-- Whether a value has no parts. -/
def isScalar : Value → Bool
  | .array _ => false
  | .object _ => false
  | _ => true

/-- The values of a list, each once, in the order in which they first stand
there; `none` if one of them has parts. -/
def distinct (vs : List Value) : Option (List Value) :=
  if vs.all isScalar then
    some (vs.foldl (fun seen v => if seen.any (same v) then seen else seen ++ [v]) [])
  else none

/-- Whether one text stands before another. -/
def textLess : Text → Text → Bool
  | _, [] => false
  | [], _ :: _ => true
  | a :: as, b :: bs => if a = b then textLess as bs else a < b

/-- Whether one value stands before another; `none` if they do not compare. -/
def less? (v w : Value) : Option Bool :=
  match v, w with
  | .string t, .string u => some (textLess t u)
  | v, w =>
    match v.number?, w.number? with
    | some m, some n => some (m.less n)
    | _, _ => none

/-- How values come out when they have been put in order and NaN stood among
them. None of them is lost. -/
structure Arrangement where
  /-- The values, as they come out. -/
  arrange : List Value → List Value
  /-- They are the values that went in. -/
  perm : ∀ vs, (arrange vs).Perm vs

/-- Whether a value is NaN. -/
def Value.isBlank : Value → Bool
  | .number .nan => true
  | _ => false

/-- The values of a list in ascending order; `none` if two do not compare. -/
def sorted? (a : Arrangement) (vs : List Value) : Option (List Value) :=
  match vs with
  | [] => some []
  | [v] => some [v]
  | vs =>
    if vs.all fun v => vs.all fun w => (less? v w).isSome then
      some (if vs.any Value.isBlank then a.arrange vs
        else vs.mergeSort fun v w => !(less? w v).getD false)
    else none

end Ratchet.Json
