import Ratchet.Json.Order

/-!
# Values in slots

A set keeps its values in slots, and they come out in the order of these. Where
the search for the slot of a number begins is told by its mark, and once the
slots fill up there are more of them. NaN has a mark of no meaning.

* `Slots.fill`: a set, as its values come in.
* `Slots.sorted`: the values of a set in the order in which sorting leaves them;
  exact for fewer than 64 values, which are put in their places one by one.
* `Arrangement.ofMark`: both, given the mark of NaN.
-/

namespace Ratchet.Json

namespace Slots

/-! ## Marks -/

/-- The mark of a number, of 64 bits, from its sign and its size modulo a prime. -/
def signed (negative : Bool) (size : Nat) : Nat :=
  if negative && size ≠ 0 then Nat.pow 2 64 - max size 2 else size

/-- The prime, which is one less than a power of two. -/
def prime : Nat := Nat.pow 2 61 - 1

/-- The mark of a value among numbers, given that of NaN. -/
def mark (blank : Nat) : Value → Nat
  | .number (.integer n) => signed (n < 0) (n.natAbs % prime)
  | .number (.fraction negative (.finite m e)) =>
    signed negative (m * Nat.pow 2 (e % 61).toNat % prime)
  | .number (.fraction negative .infinite) => signed negative 314159
  | .number .nan => blank
  | .boolean b => if b then 1 else 0
  | _ => 0

/-! ## Filling slots -/

/-- The slot where a search ends. It looks at a slot, and at the nine after it
if there are as many, before it goes elsewhere; what is left of the mark tells
where. -/
def search (slots : List (Option Nat)) : Nat → Nat → Nat → Nat
  | 0, i, _ => i
  | steps + 1, i, rest =>
    let near := if i + 9 < slots.length then 10 else 1
    match (List.range' i near).find? fun j => slots[j]? = some none with
    | some j => j
    | none => search slots steps ((5 * i + 1 + rest / 32) % slots.length) (rest / 32)

/-- Put the value of a number, of which the marks are given, into a slot. -/
def put (marks : List Nat) (slots : List (Option Nat)) (k : Nat) : List (Option Nat) :=
  let m := marks.getD k 0
  slots.set (search slots (slots.length + 13) (m % slots.length) m) (some k)

/-- Put one more value in, and make room when three fifths are taken. -/
def add (marks : List Nat) (slots : List (Option Nat)) (k : Nat) : List (Option Nat) :=
  let slots := put marks slots k
  if 5 * (k + 1) < 3 * (slots.length - 1) then slots
  else
    let wanted := if 50000 < k + 1 then 2 * (k + 1) else 4 * (k + 1)
    (slots.filterMap id).foldl (put marks)
      (List.replicate (max 8 (Nat.pow 2 (wanted.log2 + 1))) none)

/-- The numbers of some values as they come out of the slots. -/
def fill (marks : List Nat) : List Nat :=
  ((List.range marks.length).foldl (add marks) (List.replicate 8 none)).filterMap id

/-! ## Sorting -/

section

variable (less : Nat → Nat → Bool)

/-- How far a list goes on from one to the next. -/
def runLength (goesOn : Nat → Nat → Bool) : List Nat → Nat
  | k :: l :: ks => if goesOn k l then runLength goesOn (l :: ks) + 1 else 1
  | ks => ks.length

/-- The run at the start of a list, ascending, and what follows it. A run that
falls is turned round. -/
def splitRun (ks : List Nat) : List Nat × List Nat :=
  if 1 < runLength (fun k l => less l k) ks then
    let n := runLength (fun k l => less l k) ks
    ((ks.take n).reverse, ks.drop n)
  else
    let n := runLength (fun k l => !less l k) ks
    (ks.take n, ks.drop n)

/-- Where to put a value into a run, between two places. -/
def halve (run : List Nat) (k : Nat) : Nat → Nat → Nat → Nat
  | 0, low, _ => low
  | steps + 1, low, high =>
    if low < high then
      let middle := (low + high) / 2
      if less k (run.getD middle 0) then halve run k steps low middle
      else halve run k steps (middle + 1) high
    else low

/-- Put a value into a run. -/
def insert (run : List Nat) (k : Nat) : List Nat :=
  run.insertIdx (halve less run k run.length 0 run.length) k

/-- The numbers of some values as sorting leaves them. -/
def sorted (ks : List Nat) : List Nat :=
  let (run, rest) := splitRun less ks
  rest.foldl (insert less) run

end

/-- The numbers of values, in the order in which a set that was sorted has them. -/
def order (blank : Nat) (vs : List Value) : List Nat :=
  sorted (fun k l => ((do less? (← vs[k]?) (← vs[l]?)) : Option Bool).getD false)
    (fill (vs.map (mark blank)))

/-- Values taken by their numbers, if each is taken once. -/
def pick (vs : List Value) (ks : List Nat) : List Value :=
  if ks.isPerm (List.range vs.length) then ks.map (vs.getD · .null) else vs

/-- None of the values is lost. -/
theorem pick_perm (vs : List Value) (ks : List Nat) : (pick vs ks).Perm vs := by
  unfold pick
  split
  · rename_i hperm
    have hall : (List.range vs.length).map (vs.getD · .null) = vs :=
      List.ext_getElem (by simp) fun k _ hk => by simp [hk]
    exact ((List.isPerm_iff.mp hperm).map _).trans (.of_eq hall)
  · exact .refl _

end Slots

/-- The arrangement of values that are kept in slots. -/
def Arrangement.ofMark (blank : Nat) : Arrangement where
  arrange vs := Slots.pick vs (Slots.order blank vs)
  perm vs := Slots.pick_perm vs _

end Ratchet.Json
