import Ratchet.Ascending
import Ratchet.Glob.Select
import Ratchet.Json.Order
import Ratchet.Json.Reader
import Ratchet.Json.Writer
import Ratchet.Language

/-!
# The allow-list

The record of the checked files is a JSON document with three lists: patterns
of files to include, patterns of files to exclude from these, and single
files. The checked files are the included ones that are not excluded, and the
single ones. Everything is relative to the directory that holds the document,
and whatever else the document holds is kept as it is.

* `load`: the checked files.
* `add`: record files. One that is excluded by name but included by a pattern
  is taken off the excluded ones; any other joins the single files.

Nothing is written before everything that may fail has been done.
-/

namespace Ratchet

/-- An allow-list: where it is kept, and what it tracks. -/
structure AllowList where
  /-- The path of the document. -/
  path : Path
  /-- The languages of the tracked files. -/
  languages : List Language
  /-- How single files that are numbers come out with NaN among them. -/
  arrangement : Json.Arrangement

namespace AllowList

open Json (Value Members)

/-- The allow-list at a path. -/
def atPath (fs : FileSystem) (path : Path) (languages : List Language)
    (arrangement : Json.Arrangement) : Except Failure AllowList := do
  return { path := ← fs.resolve path
           languages := if languages = [] then [.python] else languages
           arrangement }

/-- The directory that holds the document. -/
def root (a : AllowList) : Path :=
  a.path.parent

/-- The name of a list of the document. -/
inductive Key where
  | included
  | excluded
  | files
  deriving Repr, DecidableEq

/-- A name as it stands in the document. -/
def Key.text : Key → Json.Text
  | .included => Json.textOf "include"
  | .excluded => Json.textOf "exclude"
  | .files => Json.textOf "files"

/-- A document with its three lists. -/
def complete (m : Members) : Members :=
  [Key.included, .excluded, .files].foldl (fun m k => Members.setDefault k.text (.array []) m) m

/-- The document, or an empty one if there is none. -/
def read (a : AllowList) (fs : FileSystem) : Except Failure Members := do
  if !(← fs.occurs a.path) then return complete []
  let source ← fs.readText a.path
  match Json.read source with
  | .error (.malformed kind place) =>
    throw (.allowList a.path.toString
      (kind.message ++ ": " ++ Json.placeText source place))
  | .error (.tooManyDigits count) => throw (.tooManyDigits count)
  | .ok (.object members) => return complete members
  | .ok _ => throw (.allowList a.path.toString "expected a JSON object")

/-- What a list of the document holds: the items of an array, the characters
of a text, or the keys of an object. -/
def listed (m : Members) (k : Key) : Except Failure (List Value) :=
  match m.lookup k.text with
  | some (.array items) => .ok items
  | some (.string t) => .ok (t.map fun c => .string [c])
  | some (.object members) => .ok (members.map fun e => .string e.1)
  | _ => .error (.shape .notList)

/-! ## Patterns -/

/-- A text as a string, in which half of a surrogate pair that no name has is the
null character, which no name has either. -/
def patternString (t : Json.Text) : String :=
  .ofList (t.map fun c => (Json.charOf? c).getD '\x00')

/-- Whether a text starts with a dot and a slash. -/
def isHere (t : Json.Text) : Bool :=
  (Json.textOf "./").isPrefixOf t

/-- The tracked files that a pattern selects. -/
def filesOf (a : AllowList) (fs : FileSystem) (pattern : Value) : Except Failure (List String) := do
  match pattern with
  | .string t =>
    let t := if isHere t then t.drop 2 else t
    if t = [] then return []
    match Glob.Pattern.ofString (patternString t) with
    | .error fault => throw (.pattern fault)
    | .ok p =>
      let selected ← Glob.select fs a.root p
      let files ← selected.filterM fun p => do
        return (← fs.isFile p) && isTracked a.languages p
      files.mapM fun p => Path.toString <$> fs.resolve p
  | _ => throw (.shape .patternNotText)

/-- The tracked files that some patterns select. -/
def filesOfAll (a : AllowList) (fs : FileSystem) (patterns : List Value) :
    Except Failure (List String) := do
  return (← patterns.mapM (a.filesOf fs)).flatten

/-! ## Loading -/

/-- The file that an entry of the single files names, if it is tracked. -/
def fileOf (a : AllowList) (fs : FileSystem) (entry : Value) : Except Failure (List String) := do
  match entry with
  | .string t =>
    match Json.stringOf? t with
    | none => throw .unencodable
    | some s =>
      let place ← fs.resolve (a.root ++ Path.ofString s)
      return if isTracked a.languages place then [place.toString] else []
  | _ => throw (.shape .entryNotText)

/-- **The checked files**, ascending. -/
def load (a : AllowList) (fs : FileSystem) : Except Failure (List String) := do
  let document ← a.read fs
  let included ← a.filesOfAll fs (← listed document .included)
  let excluded ← a.filesOfAll fs (← listed document .excluded)
  let single ← (← listed document .files).mapM (a.fileOf fs)
  return ascending (included.filter (!excluded.contains ·) ++ single.flatten)

/-! ## Adding -/

/-- A file as it is written in the document. -/
def entryFor (a : AllowList) (fs : FileSystem) (file : String) : Except Failure String := do
  let place ← fs.resolve (Path.ofString file)
  let route : Path := { parts := Path.route a.root.parts place.parts }
  let written := route.toString
  return if "../".toList.isPrefixOf written.toList then written else "./" ++ written

/-- How a file may be written where it is excluded: with a dot and a slash at
the start, or without. -/
def aliases (entry : String) : List Json.Text :=
  let t := Json.textOf entry
  if isHere t then [t, t.drop 2] else [t]

/-- Whether a value is a text. -/
def isText (t : Json.Text) : Value → Bool
  | .string u => t = u
  | _ => false

/-- Take the first occurrence of a text off a list. -/
def takeOff (t : Json.Text) : List Value → List Value
  | [] => []
  | v :: vs => if isText t v then vs else v :: takeOff t vs

/-- The lists that adding changes, and the entries written so far. -/
structure Draft where
  /-- The excluded patterns. -/
  excluded : List Value
  /-- The single files. -/
  files : List Value
  /-- The entries written, the latest first. -/
  written : List String := []
  deriving Repr

/-- Add an entry to the single files, unless it is there. -/
def Draft.join (d : Draft) (entry : String) : Draft :=
  if d.files.any (isText (Json.textOf entry)) then d
  else { d with files := d.files ++ [.ofString entry], written := entry :: d.written }

/-- Record one file under its entry; `included` tells whether a pattern
includes it. -/
def Draft.record (d : Draft) (entry : String) (included : Bool) : Draft :=
  match (aliases entry).find? fun t => d.excluded.any (isText t) with
  | some t =>
    if included then
      { d with excluded := takeOff t d.excluded, written := entry :: d.written }
    else d.join entry
  | none => d.join entry

/-- Record one file. -/
def addOne (a : AllowList) (fs : FileSystem) (included : List String) (d : Draft)
    (file : String) : Except Failure Draft := do
  let entry ← a.entryFor fs file
  let place ← fs.resolve (Path.ofString file)
  return d.record entry (included.contains place.toString)

/-- The values of a list, each once. -/
def distinct (vs : List Value) : Except Failure (List Value) :=
  (Json.distinct vs).elim (.error (.shape .unhashable)) .ok

/-- The values of a list, ascending. -/
def sorted (a : AllowList) (vs : List Value) : Except Failure (List Value) :=
  (Json.sorted? a.arrangement vs).elim (.error (.shape .unordered)) .ok

/-- The document that records files, and the entries written. -/
def revise (a : AllowList) (fs : FileSystem) (files : List String) :
    Except Failure (Members × List String) := do
  let document ← a.read fs
  let excluded ← listed document .excluded
  let single ← distinct (← listed document .files)
  let included ← a.filesOfAll fs (← listed document .included)
  let draft ← files.foldlM (a.addOne fs included) { excluded, files := single }
  let single ← a.sorted draft.files
  let document := Members.set Key.excluded.text (.array draft.excluded) document
  return (Members.set Key.files.text (.array single) document, draft.written.reverse)

/-- The text of a document. -/
def textOf (document : Members) : String :=
  Json.write .indented (.object document) ++ "\n"

/-- **Record files as checked**: the entries written, and the file system with
the new document. -/
def add (a : AllowList) (fs : FileSystem) (files : List String) :
    Except Failure (List String × FileSystem) := do
  let files := ascending files
  if files = [] then return ([], fs)
  let (document, written) ← a.revise fs files
  let fs ← fs.makeDirectory a.root
  return (written, ← fs.writeText a.path (textOf document))

end AllowList

end Ratchet
