/-!
# Wildcards

Patterns for names: a star stands for any text, a question mark for one
character, and a set in square brackets for one character in it, or not in it
behind an exclamation mark. A bracket that is not closed stands for itself.

In a set a hyphen between two characters makes a range; a range that ends
before it begins is empty, and of the characters around it nothing is left.
-/

namespace Ratchet.Text

/-- One piece of a pattern. -/
inductive Wildcard where
  /-- Any text. -/
  | star
  /-- Any character. -/
  | one
  /-- This character. -/
  | char (c : Char)
  /-- A character in one of the ranges, or in none of them. -/
  | set (negated : Bool) (ranges : List (Char × Char))
  deriving Repr, DecidableEq

namespace Wildcard

/-- How many characters at the start of a set belong to it in any case: an
exclamation mark, and a closing bracket behind it or in its place. -/
def setStart : List Char → Nat
  | '!' :: ']' :: _ => 2
  | '!' :: _ => 1
  | ']' :: _ => 1
  | _ => 0

/-- The length of the text of a set up to its closing bracket. -/
def setLength (cs : List Char) : Nat :=
  setStart cs + ((cs.drop (setStart cs)).takeWhile (· ≠ ']')).length

/-- The text of a set up to its closing bracket, if it has one, and what
follows the bracket. -/
def setText? (cs : List Char) : Option (List Char × List Char) :=
  if setLength cs < cs.length then some (cs.take (setLength cs), cs.drop (setLength cs + 1))
  else none

theorem length_setText {cs text rest : List Char} (h : setText? cs = some (text, rest)) :
    rest.length < cs.length := by
  unfold setText? at h
  split at h
  · simp only [Option.some.injEq, Prod.mk.injEq] at h
    rw [← h.2, List.length_drop]
    omega
  · simp at h

/-- Cut a set at the hyphens that make ranges. A piece has at least one
character before such a hyphen, and two behind another: the end of one range
is not the start of the next. -/
def chunks (piece : List Char) (least : Nat) : List Char → List (List Char)
  | [] => if piece = [] then [] else [piece.reverse]
  | c :: cs =>
    if c = '-' && least ≤ piece.length then
      match cs with
      | [] => [('-' :: piece).reverse]
      | cs => piece.reverse :: chunks [] 2 cs
    else chunks (c :: piece) least cs

/-- Join the pieces around every empty range. -/
def dropEmpty : List (List Char) → List (List Char)
  | [] => []
  | piece :: pieces =>
    match dropEmpty pieces with
    | [] => [piece]
    | next :: more =>
      match piece.getLast?, next.head? with
      | some low, some high =>
        if high < low then (piece.dropLast ++ next.tail) :: more else piece :: next :: more
      | _, _ => piece :: next :: more

/-- The ranges of the pieces: from the end of one to the start of the next,
and every other character by itself. -/
def ranges : List (List Char) → List (Char × Char)
  | [] => []
  | [piece] => piece.map fun c => (c, c)
  | piece :: next :: pieces =>
    match piece.getLast?, next with
    | some low, high :: rest =>
      piece.dropLast.map (fun c => (c, c)) ++ (low, high) :: ranges (rest :: pieces)
    | _, _ => ranges (next :: pieces)
termination_by pieces => pieces.length

/-- The piece of a pattern that a set stands for. -/
def ofSet (text : List Char) : Wildcard :=
  let pieces := dropEmpty (chunks [] (if text.head? = some '!' then 2 else 1) text)
  match pieces with
  | ('!' :: piece) :: pieces =>
    if piece = [] && pieces = [] then one else set true (ranges (piece :: pieces))
  | pieces => set false (ranges pieces)

/-- Read a pattern. -/
def parse : List Char → List Wildcard
  | [] => []
  | '*' :: cs => star :: parse cs
  | '?' :: cs => one :: parse cs
  | '[' :: cs =>
    match h : setText? cs with
    | some (text, rest) =>
      have := length_setText h
      ofSet text :: parse rest
    | none => char '[' :: parse cs
  | c :: cs => char c :: parse cs
termination_by cs => cs.length

/-- Whether a piece other than a star stands for a character. -/
def accepts (c : Char) : Wildcard → Bool
  | star => true
  | one => true
  | char d => c = d
  | set negated ranges => (ranges.any fun r => r.1 ≤ c && c ≤ r.2) != negated

/-- **Whether a pattern stands for a text**, from end to end. -/
def matchesAll : List Wildcard → List Char → Bool
  | [], cs => cs.isEmpty
  | star :: ps, [] => matchesAll ps []
  | star :: ps, c :: cs => matchesAll ps (c :: cs) || matchesAll (star :: ps) cs
  | _ :: _, [] => false
  | p :: ps, c :: cs => p.accepts c && matchesAll ps cs
termination_by ps cs => ps.length + cs.length

end Wildcard

/-- Whether a name fits a pattern. -/
def fits (pattern name : String) : Bool :=
  Wildcard.matchesAll (Wildcard.parse pattern.toList) name.toList

end Ratchet.Text
