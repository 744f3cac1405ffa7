import Ratchet.Text.Split

/-!
# Paths

A path is where it starts and the names it passes. Empty names and the name
`.` are dropped when a path is read; the name `..` stays until the path is
resolved. Resolving is lexical: there are no links.
-/

namespace Ratchet

/-- A path to a file or directory. -/
structure Path where
  /-- What it starts with: nothing, one slash, or exactly two. -/
  anchor : String := ""
  /-- The names it passes, none of them empty or `.`. -/
  parts : List String := []
  deriving Repr, DecidableEq

namespace Path

/-- What a text starts with. -/
def anchorOf : List Char → String
  | '/' :: '/' :: '/' :: _ => "/"
  | '/' :: '/' :: _ => "//"
  | '/' :: _ => "/"
  | _ => ""

/-- Read a path. -/
def ofString (s : String) : Path where
  anchor := anchorOf s.toList
  parts := (Text.splitString '/' s).filter fun part => part ≠ "" ∧ part ≠ "."

/-- The parts of a path written with slashes. -/
def slashed (parts : List String) : String :=
  "/".intercalate parts

/-- Write a path. -/
def toString (p : Path) : String :=
  if p.anchor = "" ∧ p.parts = [] then "." else p.anchor ++ slashed p.parts

/-- The path of a list of names below the root. -/
def ofParts (parts : List String) : Path where
  anchor := "/"
  parts

/-- Whether a path starts at the root. -/
def isAbsolute (p : Path) : Bool :=
  p.anchor ≠ ""

/-- A path seen from another; an absolute path stays what it is. -/
def append (p q : Path) : Path :=
  if q.isAbsolute then q else { p with parts := p.parts ++ q.parts }

instance : Append Path := ⟨append⟩

/-- A path below another. -/
def child (p : Path) (name : String) : Path :=
  { p with parts := p.parts ++ [name] }

/-- The last name; empty when there is none. -/
def name (p : Path) : String :=
  p.parts.getLastD ""

/-- The path without its last name. -/
def parent (p : Path) : Path :=
  { p with parts := p.parts.dropLast }

/-- The path with another last name, if it has one. -/
def withName? (p : Path) (name : String) : Option Path :=
  if p.parts = [] then none else some (p.parent.child name)

/-- The part of a name before its last dot and the part from there on. A dot
at either end of the name does not count. -/
def splitName (name : String) : String × String :=
  let cs := name.toList
  let tail := cs.reverse.takeWhile (· ≠ '.')
  let stem := cs.take (cs.length - tail.length - 1)
  if tail.length = cs.length ∨ tail = [] ∨ stem = [] then (name, "")
  else (.ofList stem, .ofList ('.' :: tail.reverse))

/-- The path as seen from a directory it lies in. -/
def relativeTo? (p base : Path) : Option Path :=
  if p.anchor = base.anchor ∧ base.parts.isPrefixOf p.parts then
    some { parts := p.parts.drop base.parts.length }
  else none

/-- Follow one name: `..` goes back, any other name goes on. -/
def follow (at_ : List String) (part : String) : List String :=
  if part = ".." then at_.dropLast else at_ ++ [part]

/-- Follow the names of a path from a directory. -/
def followAll (at_ : List String) (parts : List String) : List String :=
  parts.foldl follow at_

/-- **The place a path leads to**, from a working directory. -/
def resolve (p : Path) (cwd : List String) : Path :=
  ofParts (followAll (if p.isAbsolute then [] else cwd) p.parts)

/-- Whether a path holds a null character, which no file name can. -/
def hasNull (p : Path) : Bool :=
  p.parts.any fun part => part ≠ ".." && part.toList.contains '\x00'

/-- The length of what two lists have in common at the start. -/
def commonLength : List String → List String → Nat
  | a :: as, b :: bs => if a = b then commonLength as bs + 1 else 0
  | _, _ => 0

/-- The way from one place to another: back to where they part, and on. -/
def route (start goal : List String) : List String :=
  let common := commonLength start goal
  List.replicate (start.length - common) ".." ++ goal.drop common

end Path

end Ratchet
