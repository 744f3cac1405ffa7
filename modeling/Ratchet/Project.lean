import Ratchet.AllowList
import Ratchet.Discovery
import Ratchet.Json.Slots

/-!
# Projects

A project is a directory of source files in some languages, with an allow-list
of those that are checked.
-/

namespace Ratchet

/-- A project. -/
structure Project where
  /-- The directory of the source files. -/
  sourceDir : Path
  /-- Where the allow-list is kept, if not at its usual place. -/
  allowListPath : Option Path := none
  /-- The languages of the tracked files. -/
  languages : List Language := [.python]
  /-- The directories that are skipped. -/
  skips : List String := projectSkips
  /-- How numbers in the allow-list come out with NaN among them. -/
  arrangement : Json.Arrangement := .ofMark 1

namespace Project

/-- Where the allow-list is kept. -/
def allowListFile (p : Project) : Path :=
  p.allowListPath.getD (p.sourceDir.child "strict-files.json")

/-- The allow-list of a project. -/
def allowList (p : Project) (fs : FileSystem) : Except Failure AllowList :=
  AllowList.atPath fs p.allowListFile p.languages p.arrangement

end Project

end Ratchet
