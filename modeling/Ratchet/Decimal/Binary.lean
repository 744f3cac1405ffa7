/-!
# Binary fractions

The numbers that a computer keeps in 64 bits: a mantissa below 2^53 times a
power of two, with bounds on the exponent, and infinity. `Binary.ofRatio`
rounds a fraction to the nearest of them; of two equally near ones it takes
the one with the even mantissa.
-/

namespace Ratchet.Decimal

/-- A number that is not negative and fits into 64 bits. -/
inductive Binary where
  /-- The mantissa times two to the power of the exponent. -/
  | finite (mantissa : Nat) (exponent : Int)
  /-- Infinity. -/
  | infinite
  deriving Repr, DecidableEq

/-- A quotient rounded to the nearest number; of two, to the even one. -/
def roundDiv (num den : Nat) : Nat :=
  let q := num / den
  let r := num % den
  if 2 * r < den then q
  else if den < 2 * r then q + 1
  else if q % 2 = 0 then q else q + 1

namespace Binary

/-- The smallest exponent. -/
def minExponent : Int := -1074

/-- The greatest exponent. -/
def maxExponent : Int := 971

/-- Two to a power, as the numerator or denominator of a fraction. -/
def twoTo (e : Int) : Nat := Nat.pow 2 e.toNat

/-- Ten to a power, likewise. -/
def tenTo (e : Int) : Nat := Nat.pow 10 e.toNat

/-- The exponent that leaves a fraction a mantissa of 53 bits. The logarithms
tell it up to one. -/
def exponentFor (num den : Nat) : Int :=
  let guess : Int := (num.log2 : Int) - den.log2
  let power := if num * twoTo (-guess) < den * twoTo guess then guess - 1 else guess
  max (power - 52) minExponent

/-- Round a fraction. -/
def ofRatio (num den : Nat) : Binary :=
  if num = 0 then finite 0 minExponent
  else
    let e := exponentFor num den
    let m := roundDiv (num * twoTo (-e)) (den * twoTo e)
    let (m, e) := if m = twoTo 53 then (twoTo 52, e + 1) else (m, e)
    if maxExponent < e then infinite else finite m e

/-- Round a whole number times a power of ten. Far outside the range of the
exponents nothing has to be computed. -/
def ofDecimal (digits : Nat) (exponent : Int) : Binary :=
  let magnitude := exponent + (Nat.toDigits 10 digits).length
  if digits = 0 ∨ magnitude < -400 then finite 0 minExponent
  else if 400 < magnitude then infinite
  else ofRatio (digits * tenTo exponent) (tenTo (-exponent))

end Binary

end Ratchet.Decimal
