import Ratchet.Decimal.Binary

/-!
# The fewest digits that read back

A binary fraction is written with the fewest decimal digits that round back to
it, and of several such numbers with the nearest. For one digit, two digits
and so on, the value's two neighbours on that decimal grid are read back.
Seventeen digits are enough; every binary fraction can be written out exactly
as well, so that nothing here rests on that.
-/

namespace Ratchet.Decimal

/-- A positive decimal number: digits, the first and last of them not nought,
behind a point, times a power of ten. -/
structure Digits where
  /-- The digits as one number. -/
  number : Nat
  /-- How many of the digits stand before the point. -/
  point : Int
  deriving Repr, DecidableEq

/-- A whole number of steps on a decimal grid with so many places behind the
point. -/
structure GridPoint where
  /-- The number of steps. -/
  steps : Nat
  /-- The places behind the point. -/
  places : Int
  deriving Repr, DecidableEq

/-- The binary fraction that a point of a grid is read as. -/
def GridPoint.read (w : GridPoint) : Binary :=
  .ofDecimal w.steps (-w.places)

/-- The point of the grid with so many places that writes a value, if one
does: of the value's two neighbours, the nearer one that reads back. -/
def pick (m : Nat) (e : Int) (places : Int) : Option GridPoint :=
  let num := m * Binary.twoTo e * Binary.tenTo places
  let den := Binary.twoTo (-e) * Binary.tenTo (-places)
  let low := num / den
  let near := roundDiv num den
  let far := if near = low then low + 1 else low
  [⟨near, places⟩, ⟨far, places⟩].find? fun (w : GridPoint) => w.read = .finite m e

/-- A value with all its places. -/
def exact (m : Nat) (e : Int) : GridPoint :=
  { steps := m * Binary.twoTo e * Nat.pow 5 (-e).toNat, places := (-e).toNat }

/-- How many digits a value has before the point; when it is below one, minus
the number of noughts behind the point. -/
def pointOf (m : Nat) (e : Int) : Int :=
  let num := m * Binary.twoTo e
  let den := Binary.twoTo (-e)
  if den ≤ num then (Nat.toDigits 10 (num / den)).length
  else
    let noughts : Int := (List.range 330).countP fun (k : Nat) => num * Binary.tenTo (k + 1) < den
    0 - noughts

/-- Take away noughts at the end of a number, at most so many. -/
def trimNoughts : Nat → Nat → Nat
  | 0, n => n
  | budget + 1, n => if n % 10 = 0 then trimNoughts budget (n / 10) else n

/-- The first of the grids on which a value is written, by how many digits it
has there, and the point that writes it. -/
def written (m : Nat) (e : Int) : GridPoint :=
  let point := pointOf m e
  ((List.range 17).findSome? fun (k : Nat) => pick m e ((k : Int) + 1 - point)).getD (exact m e)

/-- **The digits that write a binary fraction** other than nought. -/
def shortest (m : Nat) (e : Int) : Digits :=
  let w := written m e
  { number := trimNoughts 20 w.steps, point := (Nat.toDigits 10 w.steps).length - w.places }

end Ratchet.Decimal
