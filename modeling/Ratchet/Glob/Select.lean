import Ratchet.FileSystem
import Ratchet.Glob.Pattern

/-!
# Selecting paths

`Glob.select` lists the paths below a directory that a pattern stands for.
-/

namespace Ratchet

namespace Glob

/-- Whether a path may be selected: whether anything is there, or, if more
parts follow, a directory. -/
def stands (fs : FileSystem) (directory : Bool) (p : Path) : Except Failure Bool :=
  if directory then fs.isDirectory p else fs.occurs p

/-- The entries of a directory that one part selects. -/
def entries (fs : FileSystem) (directory : Bool) (p : Path) (pattern : String) :
    Except Failure (List Path) := do
  let selected := (← fs.entriesAt p).filter fun e =>
    (!directory || e.2.isDirectory) && Text.fits pattern e.1
  return selected.map fun e => p.child e.1

/-- The directories below a path, and the one at the path. Each of them is
opened on the way. -/
def directories (fs : FileSystem) (p : Path) : Except Failure (List Path) := do
  let below := ((fs.find p).toOption.getD .empty).descendants.filter (·.2.isDirectory)
  let found := p :: below.map fun e => { p with parts := p.parts ++ e.1 }
  fs.askAll found
  return found

/-- The paths that the parts of a pattern select from a directory. -/
def selectFrom (fs : FileSystem) (directoriesOnly : Bool) :
    List Selector → Path → Except Failure (List Path)
  | [], p => .ok [p]
  | s :: ss, p => do
    let directory := directoriesOnly || !ss.isEmpty
    let next ← match s with
      | .up => pure [p.child ".."]
      | .anywhere => directories fs p
      | .fitting pattern => entries fs directory p pattern
      | .named name =>
        if ← stands fs directory (p.child name) then pure [p.child name] else pure []
    return (← next.mapM (selectFrom fs directoriesOnly ss)).flatten

/-- **The paths below a directory that a pattern selects.** -/
def select (fs : FileSystem) (p : Path) (pattern : Pattern) : Except Failure (List Path) := do
  if ← fs.isDirectory p then
    return (← selectFrom fs pattern.directoriesOnly pattern.selectors p).eraseDups
  else return []

end Glob

end Ratchet
