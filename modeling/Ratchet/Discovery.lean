import Ratchet.Ascending
import Ratchet.FileSystem
import Ratchet.Language
import Ratchet.Text.Wildcard

/-!
# Discovery

The tracked files of a project are the source files below its directory, but
for those in skipped directories. Only the directories between the project's
and the file count, never those above.

The files are met on a walk through everything below the directory, skipped or
not. Where it meets a path that is too long to be asked about, there is no list.
-/

namespace Ratchet

/-- The directories skipped when nothing else is said. -/
def usualSkips : List String :=
  ["node_modules", ".git", "__pycache__", ".mypy_cache", "build", "dist", ".venv", "venv",
   "env"]

/-- The directories skipped in a project when nothing else is said. -/
def projectSkips : List String :=
  usualSkips ++ [".eggs", "*.egg-info", ".tox"]

/-- The skipped directories asked for, or the usual ones. -/
def orUsual (skips : List String) : List String :=
  if skips = [] then usualSkips else skips

/-- Whether one of the directories that lead to a file is skipped. -/
def isSkipped (skips : List String) (parts : List String) : Bool :=
  parts.dropLast.any fun part => skips.any (Text.fits · part)

/-- Whether something below a directory is a tracked file. -/
def isDiscovered (languages : List Language) (skips : List String) (root : Path)
    (entry : List String × Node) : Bool :=
  !entry.2.isDirectory && !isSkipped skips entry.1 &&
    isTracked languages (root ++ { parts := entry.1 })

/-- **The tracked files below a directory**, ascending. Without a language
there is nothing to walk for. -/
def discover (fs : FileSystem) (directory : Path) (languages : List Language)
    (skips : List String) : Except Failure (List String) := do
  if languages = [] then return []
  let root ← fs.resolve directory
  if ← fs.isDirectory root then
    let below := ((fs.find root).toOption.getD .empty).descendants
    fs.askAll (below.map fun entry => root ++ { parts := entry.1 })
    let found := below.filter (isDiscovered languages (orUsual skips) root)
    return ascending (found.map fun entry => (root ++ { parts := entry.1 }).toString)
  else return []

end Ratchet
