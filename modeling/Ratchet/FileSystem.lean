import Ratchet.Failure
import Ratchet.Path
import Ratchet.Text.Lines

/-!
# File systems

A file system is a tree of directories and files, and a working directory.
There are no links, so a path leads to the place its names spell.

* `find`: what stands at a path, or why nothing can be reached there.
* `isFile`, `isDirectory`, `occurs`: questions about a path. Nothing there,
  and a file in the way, are an answer; a name that is too long is a failure.
* `askAll`: questions about all that a walk meets.
* `put`, `remove`: changes, which tests and edits make.
* `makeDirectory`, `write`: changes that the file system may refuse.
-/

namespace Ratchet

/-- A file or a directory. -/
inductive Node where
  /-- A file: its bytes, and whether it can be run. -/
  | file (content : ByteArray) (executable : Bool)
  /-- A directory: its entries by name. -/
  | directory (entries : List (String × Node))

namespace Node

/-- An empty directory. -/
def empty : Node := .directory []

instance : Inhabited Node := ⟨empty⟩

/-- Whether a node is a directory. -/
def isDirectory : Node → Bool
  | .directory _ => true
  | .file .. => false

/-- The entries of a directory; a file has none. -/
def entries : Node → List (String × Node)
  | .directory es => es
  | .file .. => []

mutual

/-- Everything below a node, each with the names that lead to it. -/
def descendants : Node → List (List String × Node)
  | .file .. => []
  | .directory es => descendantsOfAll es

/-- Everything below some entries, and the entries themselves. -/
def descendantsOfAll : List (String × Node) → List (List String × Node)
  | [] => []
  | (name, node) :: es =>
    ([name], node) :: (descendants node).map (fun p => (name :: p.1, p.2)) ++ descendantsOfAll es

end

/-- Put a node at a place, over whatever is in the way. -/
def put (old : Node) : List String → Node → Node
  | [], new => new
  | name :: names, new =>
    let child := (old.entries.lookup name).getD empty
    .directory (old.entries.filter (·.1 ≠ name) ++ [(name, child.put names new)])

/-- Take away what stands at a place. -/
def remove (old : Node) : List String → Node
  | [] => old
  | name :: names =>
    match old, names with
    | .file content executable, _ => .file content executable
    | .directory es, [] => .directory (es.filter (·.1 ≠ name))
    | .directory es, names =>
      .directory (es.map fun e => if e.1 = name then (e.1, e.2.remove names) else e)

/-- Follow names from a node. `up` holds the directories passed, the latest
first; at the root, `..` leads nowhere. -/
def follow : List Node → Node → List String → Except FileFault Node
  | _, node, [] => .ok node
  | up, node, part :: parts =>
    if !node.isDirectory then .error .notDirectory
    else if part = ".." then
      match up with
      | [] => follow [] node parts
      | above :: up => follow up above parts
    else if 255 < part.utf8ByteSize then .error .nameTooLong
    else match node.entries.lookup part with
      | none => .error .missing
      | some child => follow (node :: up) child parts

end Node

/-- A tree of files with a working directory. -/
structure FileSystem where
  /-- The root directory. -/
  root : Node := .empty
  /-- The names that lead from the root to the working directory. -/
  cwd : List String := []

namespace FileSystem

/-- The names that lead from the root to what a path names. -/
def walk (fs : FileSystem) (p : Path) : List String :=
  if p.isAbsolute then p.parts else fs.cwd ++ p.parts

/-- **What stands at a path.** -/
def find (fs : FileSystem) (p : Path) : Except FileFault Node :=
  if 4096 ≤ p.toString.utf8ByteSize then .error .nameTooLong
  else Node.follow [] fs.root (fs.walk p)

/-- Ask about what stands at a path. -/
def ask (fs : FileSystem) (p : Path) (question : Node → Bool) : Except Failure Bool :=
  if p.hasNull then .ok false
  else match fs.find p with
    | .ok node => .ok (question node)
    | .error .missing => .ok false
    | .error .notDirectory => .ok false
    | .error fault => .error (.file fault)

/-- Whether there is a file at a path. -/
def isFile (fs : FileSystem) (p : Path) : Except Failure Bool :=
  fs.ask p (!·.isDirectory)

/-- Whether there is a directory at a path. -/
def isDirectory (fs : FileSystem) (p : Path) : Except Failure Bool :=
  fs.ask p (·.isDirectory)

/-- Whether there is anything at a path. -/
def occurs (fs : FileSystem) (p : Path) : Except Failure Bool :=
  fs.ask p fun _ => true

/-- Ask about some paths, one after the other, as a walk does with whatever it
meets. -/
def askAll (fs : FileSystem) : List Path → Except Failure Unit
  | [] => .ok ()
  | p :: ps => do
    let _ ← fs.occurs p
    askAll fs ps

/-- The entries of the directory at a path; none if there is no directory. -/
def entriesAt (fs : FileSystem) (p : Path) : Except Failure (List (String × Node)) :=
  match fs.find p with
  | .ok node => .ok node.entries
  | .error .nameTooLong => .error (.file .nameTooLong)
  | .error _ => .ok []

/-- The place a path leads to. -/
def resolve (fs : FileSystem) (p : Path) : Except Failure Path :=
  if p.hasNull then .error .nullCharacter else .ok (p.resolve fs.cwd)

/-! ## Reading -/

/-- The bytes of the file at a path. -/
def read (fs : FileSystem) (p : Path) : Except Failure (List UInt8) :=
  if p.hasNull then .error .nullCharacter
  else match fs.find p with
    | .ok (.file content _) => .ok content.toList
    | .ok (.directory _) => .error (.file .isDirectory)
    | .error fault => .error (.file fault)

/-- The text of the file at a path, with unified line ends. Its bytes have to
be UTF-8. -/
def readText (fs : FileSystem) (p : Path) : Except Failure (List Char) := do
  match Text.Utf8.decode (← fs.read p) with
  | .ok text => return Text.unifyNewlines text
  | .error fault => throw (.undecodable fault)

/-- The text of the file at a path, with unified line ends and a replacement
character for every fault. -/
def readTextLossy (fs : FileSystem) (p : Path) : Except Failure (List Char) := do
  return Text.unifyNewlines (Text.Utf8.decodeLossy (← fs.read p))

/-! ## Changing -/

/-- Put a node at a place, making the directories that lead there. -/
def put (fs : FileSystem) (place : List String) (node : Node) : FileSystem :=
  { fs with root := fs.root.put place node }

/-- Take away what stands at a place. -/
def remove (fs : FileSystem) (place : List String) : FileSystem :=
  { fs with root := fs.root.remove place }

/-- The place where a path leads, if the directory it lies in exists. -/
def placeFor (fs : FileSystem) (p : Path) : Except Failure (List String) :=
  if p.hasNull then .error .nullCharacter
  else if p.parts = [] then .ok (fs.walk p)
  else match fs.find p.parent with
    | .error fault => .error (.file fault)
    | .ok (.file ..) => .error (.file .notDirectory)
    | .ok (.directory _) =>
      if 255 < p.name.utf8ByteSize || 4096 ≤ p.toString.utf8ByteSize then
        .error (.file .nameTooLong)
      else .ok (p.resolve fs.cwd).parts

/-- Make one directory at a path. -/
def makeOne (fs : FileSystem) (p : Path) : Except Failure FileSystem := do
  let place ← fs.placeFor p
  match fs.find p with
  | .ok _ => throw (.file .occupied)
  | .error _ => return fs.put place .empty

/-- Make the directory at a path, and those above it as far as needed. It may
exist already. `depth` bounds the number of directories. -/
def makeAll : Nat → FileSystem → Path → Except Failure FileSystem
  | 0, fs, p => fs.makeOne p
  | depth + 1, fs, p =>
    match fs.makeOne p with
    | .ok fs => .ok fs
    | .error (.file .missing) =>
      if p.parts = [] then .error (.file .missing)
      else do
        let fs ← makeAll depth fs p.parent
        match fs.makeOne p with
        | .ok fs => return fs
        | .error cause => if ← fs.isDirectory p then return fs else throw cause
    | .error (.file fault) => do
      if ← fs.isDirectory p then return fs else throw (.file fault)
    | .error cause => .error cause

/-- Make the directory at a path, with those above it. -/
def makeDirectory (fs : FileSystem) (p : Path) : Except Failure FileSystem :=
  makeAll (p.parts.length + 1) fs p

/-- Write a file. An existing file stays as executable as it was. -/
def write (fs : FileSystem) (p : Path) (content : ByteArray) : Except Failure FileSystem := do
  let place ← fs.placeFor p
  match fs.find p with
  | .ok (.directory _) => throw (.file .isDirectory)
  | .ok (.file _ executable) => return fs.put place (.file content executable)
  | .error _ => return fs.put place (.file content false)

/-- Write a file of text. -/
def writeText (fs : FileSystem) (p : Path) (text : String) : Except Failure FileSystem :=
  fs.write p text.toUTF8

end FileSystem

end Ratchet
