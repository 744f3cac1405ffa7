import Ratchet.Path
import Ratchet.Text.Wildcard

/-!
# Glob patterns

A pattern stands for paths below a directory, name by name: `..` goes back, `**`
stands for any directories in between, a name with wildcards for every entry
that fits, and any other name for the entry of that name. Every part but the
last selects directories only, and a slash at the end makes the last do so.
-/

namespace Ratchet

/-- Why a text is no pattern. -/
inductive GlobFault where
  /-- It names nothing. -/
  | empty
  /-- It asks for the directory it starts from. -/
  | here
  /-- It is not relative. -/
  | absolute
  /-- Two stars stand next to something else. -/
  | doubleStar
  deriving Repr, DecidableEq

/-- The message of a fault. -/
def GlobFault.message : GlobFault → String
  | .doubleStar => "Invalid pattern: '**' can only be an entire path component"
  | .absolute => "Non-relative patterns are unsupported"
  | .empty => "tuple index out of range"
  | .here => "the pattern has no component"

namespace Glob

/-- What one part of a pattern selects. -/
inductive Selector where
  /-- The directory above. -/
  | up
  /-- Any directory below, and the one it starts from. -/
  | anywhere
  /-- Every entry that fits. -/
  | fitting (pattern : String)
  /-- The entry of a name. -/
  | named (name : String)
  deriving Repr, DecidableEq

/-- A pattern: its parts, and whether it selects directories only. -/
structure Pattern where
  /-- What the parts select, in order. -/
  selectors : List Selector
  /-- Whether the last part selects directories only. -/
  directoriesOnly : Bool := false
  deriving Repr, DecidableEq

/-- Whether a name holds two stars in a row. -/
def hasDoubleStar : List Char → Bool
  | '*' :: '*' :: _ => true
  | _ :: cs => hasDoubleStar cs
  | [] => false

/-- Read one part. -/
def Selector.ofPart (part : String) : Except GlobFault Selector :=
  if part = "**" then .ok anywhere
  else if part = ".." then .ok up
  else if hasDoubleStar part.toList then .error .doubleStar
  else if part.toList.any "*?[".toList.contains then .ok (fitting part)
  else .ok (named part)

/-- Read a pattern. -/
def Pattern.ofString (s : String) : Except GlobFault Pattern := do
  let path := Path.ofString s
  if path.isAbsolute then throw .absolute
  let directoriesOnly := s.toList.getLast? = some '/'
  if path.parts = [] then throw (if directoriesOnly then .here else .empty)
  return { selectors := ← path.parts.mapM Selector.ofPart, directoriesOnly }

end Glob

end Ratchet
