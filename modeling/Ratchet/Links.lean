import Ratchet.Path

/-!
# Symbolic links

A link stands at a place and holds a path, which starts from the directory of the
link. A path is resolved by following its names one by one, and the path of every
link on the way. A link that leads through itself leads nowhere.

* `Links.resolve?`: the place that a path leads to.
-/

namespace Ratchet

/-- Links: the place of each, and the path that it holds. -/
abbrev Links := List (List String × Path)

namespace Links

/-- Follow one name from a place. What a link holds is followed by `through`. -/
def step (links : Links) (through : List String → Path → Option (List String))
    (at_ : List String) (name : String) : Option (List String) :=
  if name = ".." then some at_.dropLast
  else match links.lookup (at_ ++ [name]) with
    | none => some (at_ ++ [name])
    | some held => through at_ held

/-- Follow a path from a place, through links that lead through each other no deeper
than the number says. Where they do so deeper than there are links, one of them leads
through itself. -/
def follow (links : Links) : Nat → List String → Path → Option (List String)
  | 0, _, _ => none
  | depth + 1, at_, p =>
    p.parts.foldlM (links.step (links.follow depth)) (if p.isAbsolute then [] else at_)

/-- **The place a path leads to**, from a working directory; nothing where a link
leads through itself, or for a path that no file can have. -/
def resolve? (links : Links) (cwd : List String) (p : Path) : Option Path :=
  if p.hasNull then none
  else
    let names := if p.isAbsolute then p.parts else cwd ++ p.parts
    (links.follow (links.length + 1) [] (.ofParts names)).map .ofParts

end Links

end Ratchet
