import Ratchet.FileSystem
import Ratchet.Finding
import Ratchet.TypeScript.Specifier

/-!
# TypeScript imports

Where a specifier leads. One that starts with a dot is relative to the
directory of the importing file, any other with a slash in it to the source
root; the rest name installed packages. The specifier may leave out the
extension of a file, and may name a directory for the index file in it.
-/

namespace Ratchet.TypeScript

/-- How specifiers end that lead to no source file. -/
def foreignExtensions : List String :=
  [".css", ".scss", ".svg", ".json", ".png", ".js", ".jsx"]

/-- The extensions that a specifier may leave out, in order. -/
def impliedExtensions : List String :=
  [".ts", ".tsx", ".d.ts"]

/-- The files that stand for their directory, in order. -/
def indexFiles : List String :=
  ["index.ts", "index.tsx", "index.d.ts"]

/-- Whether one text ends with another. -/
def endsWith (s ending : String) : Bool :=
  ending.toList.isSuffixOf s.toList

/-- Whether one text starts with another. -/
def startsWith (s start : String) : Bool :=
  start.toList.isPrefixOf s.toList

/-- Whether a specifier is relative to the importing file. -/
def isRelative (specifier : String) : Bool :=
  startsWith specifier "./" || startsWith specifier "../" || specifier = "." || specifier = ".."

/-- Whether a specifier can only name a directory. -/
def namesDirectory (specifier : String) : Bool :=
  specifier = "." || specifier = ".." || endsWith specifier "/"

/-- The path that a specifier names, unless it leads out of the project. -/
def basePath (root importer : Path) (specifier : String) : Option Path :=
  if foreignExtensions.any (endsWith specifier) then none
  else if isRelative specifier then some (importer.parent ++ Path.ofString specifier)
  else if specifier.toList.contains '/' then some (root ++ Path.ofString specifier)
  else none

/-- A path as it stands in a warning. -/
def shown (root path : Path) : String :=
  ((path.relativeTo? root).getD path).toString

/-- The file at a path with one of the implied extensions. -/
def withExtension (fs : FileSystem) (base : Path) : List String → Except Failure (Option String)
  | [] => .ok none
  | extension :: extensions =>
    match base.withName? (base.name ++ extension) with
    | none => .error (.emptyName base.toString)
    | some file => do
      if ← fs.isFile file then return some (← fs.resolve file).toString
      else withExtension fs base extensions

/-- The file that a path names, with or without its extension. -/
def fileAt (fs : FileSystem) (base : Path) : Except Failure (Option String) := do
  match ← withExtension fs base impliedExtensions with
  | some file => return some file
  | none =>
    if ← fs.isFile base then return some (← fs.resolve base).toString
    else return none

/-- The index file of the directory at a path. -/
def indexAt (fs : FileSystem) (base : Path) : Except Failure (Option String) := do
  if ← fs.isDirectory base then
    let index ← indexFiles.findSomeM? fun name => do
      let file := base.child name
      if ← fs.isFile file then return some (← fs.resolve file).toString else return none
    return index
  else return none

/-- The file that a path names, and whether it does so through a directory. -/
def target (fs : FileSystem) (base : Path) (directoryOnly : Bool) :
    Except Failure (Option (String × Bool)) := do
  let file ← if directoryOnly then pure none else fileAt fs base
  match file with
  | some file => return some (file, false)
  | none => return (← indexAt fs base).map (·, true)

/-- The warning for a specifier that leads nowhere. Those of scoped packages
may do so. -/
def missed (root importer : Path) (specifier : String) : List Warning :=
  if startsWith specifier "@" then [] else [.unresolved specifier (shown root importer)]

/-- **What a specifier brings**, seen from the importing file. -/
def findSpecifier (fs : FileSystem) (root importer : Path) (specifier : String) : Finding :=
  match basePath root importer specifier with
  | none => {}
  | some base =>
    match target fs base (namesDirectory specifier) with
    | .error cause => .failed cause
    | .ok (some (file, throughDirectory)) =>
      { targets := [file]
        warnings :=
          if throughDirectory then [.barrel (shown root (base.resolve fs.cwd))] else [] }
    | .ok none => { warnings := missed root (importer.resolve fs.cwd) specifier }

/-- **What the imports of a TypeScript file bring.** -/
def findImports (fs : FileSystem) (root : Path) (file : String) : Finding :=
  let path := Path.ofString file
  match fs.readTextLossy path with
  | .error cause => .failed cause
  | .ok source =>
    .all ((specifiers (withoutComments source)).map (findSpecifier fs root path))

end Ratchet.TypeScript
