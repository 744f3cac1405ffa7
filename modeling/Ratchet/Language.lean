import Ratchet.Path

/-!
# Languages

The languages whose files can be tracked, and the paths that look like source
files of a language.
-/

namespace Ratchet

/-- A language of source files. -/
inductive Language where
  | python
  | typescript
  deriving Repr, DecidableEq

namespace Language

/-- The name of a language. -/
def name : Language → String
  | python => "python"
  | typescript => "typescript"

/-- The language of a name. -/
def ofName? (s : String) : Option Language :=
  [python, typescript].find? (·.name = s)

/-- How the names of source files end. -/
def extensions : Language → List String
  | python => [".py"]
  | typescript => [".ts", ".tsx"]

/-- Whether a text ends like the name of a source file. -/
def hasExtension (l : Language) (s : String) : Bool :=
  l.extensions.any fun e => e.toList.isSuffixOf s.toList

/-- Whether a path with the right extension is tracked. Stories are compiled
apart, and installed packages are not part of a project. -/
def considers (l : Language) (p : Path) : Bool :=
  match l with
  | python => true
  | typescript =>
    !".stories.tsx".toList.isSuffixOf p.name.toList && !p.parts.contains "node_modules"

/-- **Whether a path looks like a source file.** -/
def accepts (l : Language) (p : Path) : Bool :=
  l.hasExtension p.name && l.considers p

end Language

/-- Whether a path looks like a source file of one of the languages. -/
def isTracked (languages : List Language) (p : Path) : Bool :=
  languages.any (·.accepts p)

end Ratchet
