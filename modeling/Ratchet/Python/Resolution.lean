import Ratchet.FileSystem
import Ratchet.Finding
import Ratchet.Python.Program

/-!
# Python imports

Where the imports of a Python file lead. A module is looked for under each
search root in turn, as a file and then as a package. An import of a dotted
name leads to the longest part of it that is a module; an import of a name
from a module leads to the submodule of that name, or else to the module.

Only an import whose first name belongs to the project, and a relative one,
is missed when it leads nowhere.
-/

namespace Ratchet.Python

/-- What is known of a project when its imports are resolved. -/
structure Project where
  /-- The directory to which paths in warnings are relative. -/
  sourceRoot : Path
  /-- The directories under which modules are looked for, in order. -/
  searchRoots : List Path
  /-- The names of modules and packages right below a search root. -/
  firstParty : List String
  deriving Repr

/-- The name that an entry of a search root gives to a module or package. -/
def firstPartyName? (fs : FileSystem) (root : Path) (name : String) :
    Except Failure (Option String) := do
  let child := root.child name
  let isPackage ← if ← fs.isDirectory child then fs.isFile (child.child "__init__.py")
    else pure false
  let (stem, extension) := Path.splitName name
  return if isPackage then some name else if extension = ".py" then some stem else none

/-- The names right below some search roots. -/
def firstPartyNames (fs : FileSystem) (roots : List Path) : Except Failure (List String) := do
  let names ← roots.mapM fun root => do
    if ← fs.isDirectory root then
      let found ← (← fs.entriesAt root).mapM fun entry => firstPartyName? fs root entry.1
      return found.filterMap id
    else return []
  return names.flatten

namespace Project

/-- Look at a project. Unless search roots are given, they are the source root
and, if there is one, the directory `src` in it. -/
def load (fs : FileSystem) (sourceRoot : Path) (searchRoots : Option (List Path)) :
    Except Failure Project := do
  let root ← fs.resolve sourceRoot
  let roots ← match searchRoots with
    | some roots => pure roots
    | none =>
      let src := root.child "src"
      if ← fs.isDirectory src then pure [root, src] else pure [root]
  let roots ← roots.mapM fs.resolve
  return { sourceRoot := root, searchRoots := roots
           firstParty := ← firstPartyNames fs roots }

/-- Whether a dotted name starts with a name of the project. -/
def isFirstParty (p : Project) (dotted : String) : Bool :=
  p.firstParty.contains ((Text.splitString '.' dotted).headD "")

/-- A path as it stands in a warning. -/
def shown (p : Project) (path : Path) : String :=
  ((path.relativeTo? p.sourceRoot).getD path).toString

/-! ## Modules -/

/-- The first of some paths at which there is a file. -/
def firstFile (fs : FileSystem) : List Path → Except Failure (Option String)
  | [] => .ok none
  | path :: paths => do
    if ← fs.isFile path then return some (← fs.resolve path).toString
    else firstFile fs paths

/-- The paths at which a module may be, under one search root. -/
def modulePaths (root : Path) (parts : List String) : Except Failure (List Path) :=
  let base := parts.foldl (fun path part => path ++ Path.ofString part) root
  match base.withName? (base.name ++ ".py") with
  | none => .error (.emptyName base.toString)
  | some file => .ok [file, base.child "__init__.py"]

/-- Look for a module under some search roots in turn. -/
def findModule (fs : FileSystem) (parts : List String) :
    List Path → Except Failure (Option String)
  | [] => .ok none
  | root :: roots => do
    match ← firstFile fs (← modulePaths root parts) with
    | some file => return some file
    | none => findModule fs parts roots

/-- **The file of a module**, if there is one. -/
def moduleFile (p : Project) (fs : FileSystem) (dotted : String) :
    Except Failure (Option String) :=
  if dotted = "" then .ok none
  else findModule fs (Text.splitString '.' dotted) p.searchRoots

/-- The file of the longest part of a dotted name that is a module. -/
def nearestModule (p : Project) (fs : FileSystem) : List String → Except Failure (Option String)
  | [] => .ok none
  | part :: parts => do
    match ← p.moduleFile fs (".".intercalate (part :: parts)) with
    | some file => return some file
    | none => nearestModule p fs (part :: parts).dropLast
termination_by parts => parts.length

/-- The file that an import of a dotted name leads to. -/
def importedFile (p : Project) (fs : FileSystem) (dotted : String) :
    Except Failure (Option String) :=
  p.nearestModule fs (Text.splitString '.' dotted)

/-- The package that holds a file: the directories that lead to it from the
innermost search root it lies under. -/
def packageOf (p : Project) (fs : FileSystem) (file : Path) :
    Except Failure (Option (List String)) := do
  let place ← fs.resolve file
  let roots := p.searchRoots.mergeSort fun a b => b.parts.length ≤ a.parts.length
  return (roots.findSome? place.relativeTo?).map (·.parts.dropLast)

/-! ## Statements -/

/-- What an import of one dotted name brings. -/
def findModuleImport (p : Project) (fs : FileSystem) (file : Path) (dotted : String) : Finding :=
  .ofResult (p.importedFile fs dotted)
    (if p.isFirstParty dotted then [.unresolved dotted (p.shown file)] else [])

/-- The file that one name imported from a module leads to: the submodule of
that name, or else the module. -/
def importedName (p : Project) (fs : FileSystem) (module name : String) :
    Except Failure (Option String) := do
  let submodule ←
    if name = "*" then pure none
    else p.moduleFile fs (if module = "" then name else module ++ "." ++ name)
  match submodule with
  | some file => return some file
  | none => p.moduleFile fs module

/-- What an import of names from a module brings. `written` is the module as it
stands in the statement; one warning is enough for a statement. -/
def findNames (p : Project) (fs : FileSystem) (file : Path) (module : String)
    (missed : Bool) (written : String → String) (names : List String) : Finding :=
  let found := Finding.all <| names.map fun name =>
    .ofResult (p.importedName fs module name)
      (if missed then [.unresolved (written name) (p.shown file)] else [])
  { found with warnings := found.warnings.take 1 }

/-- The module that a relative import names: the package of the file climbed
by all dots but one, and the name behind the dots. -/
def climb (package : List String) (level : Nat) (module : Option String) : Option String :=
  if package.length < level - 1 then none
  else some (".".intercalate
    (package.take (package.length - (level - 1)) ++
      (module.map (Text.splitString '.')).getD []))

/-- **What an import statement brings.** -/
def findStatement (p : Project) (fs : FileSystem) (file : Path)
    (package : Option (List String)) : ImportStatement → Finding
  | .modules names => .all (names.map (p.findModuleImport fs file))
  | .names 0 module names _ =>
    let module := module.getD ""
    p.findNames fs file module (p.isFirstParty module)
      (fun name => if module = "" then name else module) names
  | .names (level + 1) module names line =>
    match package.bind fun parts => climb parts (level + 1) module with
    | none => { warnings := [.beyondTop (p.shown file) line] }
    | some target =>
      p.findNames fs file target true
        (fun name => .ofList (List.replicate (level + 1) '.') ++ module.getD name) names

/-- **What the imports of a Python file bring.** -/
def findImports (p : Project) (fs : FileSystem) (file : String) : Finding :=
  let path := Path.ofString file
  match fs.readTextLossy path with
  | .error cause => .failed cause
  | .ok source =>
    if source.contains '\x00' then .failed .nullInSource
    else match Program.parse? source with
      | none => { warnings := [.unparsable (p.shown path)] }
      | some program =>
        match p.packageOf fs path with
        | .error cause => .failed cause
        | .ok package => .all (program.imports.map (p.findStatement fs path package))

end Project

end Ratchet.Python
