import Ratchet.Ascending
import Ratchet.Language
import Ratchet.Python.Resolution
import Ratchet.TypeScript.Resolution

/-!
# Extraction

The files that a file imports, by the rules of its language. No file imports
itself.
-/

namespace Ratchet

/-- What finds the imports of the files of one language. -/
inductive Extractor where
  | python (project : Python.Project)
  | typescript (root : Path)
  deriving Repr

namespace Extractor

/-- The extractor of a language, for the project in a directory. -/
def load (fs : FileSystem) (sourceRoot : Path) : Language → Except Failure Extractor
  | .python => python <$> Python.Project.load fs sourceRoot none
  | .typescript => typescript <$> fs.resolve sourceRoot

/-- The extractors of several languages. -/
def loadAll (fs : FileSystem) (sourceRoot : Path) (languages : List Language) :
    Except Failure (List Extractor) :=
  languages.mapM (load fs sourceRoot)

/-- The language of an extractor. -/
def language : Extractor → Language
  | python _ => .python
  | typescript _ => .typescript

/-- Whether a file is one of the extractor's language. -/
def handles (e : Extractor) (file : String) : Bool :=
  e.language.hasExtension file

/-- What the imports of a file bring, itself included if it imports itself. -/
def find (e : Extractor) (fs : FileSystem) (file : String) : Finding :=
  match e with
  | python project => project.findImports fs file
  | typescript root => TypeScript.findImports fs root file

/-- **The files that a file imports**, ascending, by the first extractor that
handles it. -/
def extract (es : List Extractor) (fs : FileSystem) (file : String) : Finding :=
  match es.find? (·.handles file) with
  | none => {}
  | some e =>
    let found := e.find fs file
    let self := ((Path.ofString file).resolve fs.cwd).toString
    { found with targets := ascending (found.targets.filter (· ≠ self)) }

end Extractor

end Ratchet
