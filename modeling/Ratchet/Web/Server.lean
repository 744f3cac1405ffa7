import Ratchet.Links
import Ratchet.Project.Report
import Ratchet.Text.Quoted
import Ratchet.Web.Message

/-!
# The report service

The service scans projects and answers questions about what it found. A scan
is kept as it was made, whatever becomes of the files, until it is deleted. What
it tells of a scan is seen from the directory of the project, which is resolved
once more for every question about the summary or the components.

* `Server.handle`: the answer to a request, and the server afterwards.
-/

namespace Ratchet.Web

open Json (Value)

/-- A name for a scan, which is a text. -/
abbrev ScanName := { name : String // Json.hasByte name = false }

/-- A scan that is kept. -/
structure Scan where
  /-- The name it goes by. -/
  name : ScanName
  /-- The directory of the project. -/
  sourceDir : Path
  /-- Where the allow-list is kept. -/
  allowList : String
  /-- What was found. -/
  standing : Standing

/-- The scans that are kept, and how many were made. -/
structure Server where
  /-- The scans, in the order in which they were made. -/
  scans : List Scan := []
  /-- How many were made. -/
  made : Nat := 0

/-- What the service works on: the files, the links to their places, where the
user is at home, and how the scans are named. -/
structure Surroundings where
  /-- The files. -/
  fs : FileSystem
  /-- The links. A scan reads nothing by way of one, but the way to its directory. -/
  links : Links := []
  /-- The directory of the user. -/
  home : Path
  /-- The names of the scans, in the order in which they are made. -/
  nameOf : Nat → ScanName

/-- The place a path leads to. -/
def Surroundings.resolve? (s : Surroundings) (p : Path) : Option Path :=
  s.links.resolve? s.fs.cwd p

/-! ## Making a scan -/

/-- What a scan is asked to be about. -/
structure ScanOrder where
  /-- The directory of the project. -/
  path : String
  /-- Where the allow-list is kept, if not at its usual place. -/
  allowList : Option String
  /-- The names of the languages. -/
  languages : List String
  deriving Repr, DecidableEq

/-- The string that a value is, if it is one. -/
def stringOf? : Value → Option String
  | .string t => Json.stringOf? t
  | _ => none

/-- Read what a scan is to be about. -/
def ScanOrder.ofBody? (body : Option Value) : Option ScanOrder :=
  match body with
  | some (.object members) => do
    let path ← (members.lookup (Json.textOf "path")).bind stringOf?
    let allowList ← match members.lookup (Json.textOf "allowlist") with
      | none | some .null => some none
      | some v => (stringOf? v).map some
    let languages ← match members.lookup (Json.textOf "languages") with
      | none => some ["python"]
      | some (.array items) => items.mapM stringOf?
      | some _ => none
    return { path, allowList, languages }
  | _ => none

/-- A path in which a tilde at the start stands for the user's directory;
nothing if it stands for someone else's. -/
def expandHome (home : Path) (p : Path) : Option Path :=
  match p.isAbsolute, p.parts with
  | false, part :: parts =>
    if part = "~" then some { home with parts := home.parts ++ parts }
    else if part.startsWith "~" then none
    else some p
  | _, _ => some p

/-- The answer to a failure of a scan. -/
def answerTo (cause : Failure) : Response :=
  if cause.isInvalidInput then .detail 400 cause.message
  else match cause with
    | .layers .noSuchComponent => .broken
    | .layers fault => .detail 500 fault.message
    | _ => .broken

/-- The directory that a scan is to be about. -/
def directoryOf (s : Surroundings) (path : String) : Except Response Path := do
  let some p := expandHome s.home (.ofString path) | throw .broken
  match s.resolve? p with
  | none => throw .broken
  | some place =>
    match s.fs.occurs place, s.fs.isDirectory place with
    | .ok true, .ok true => return place
    | .ok true, .ok false => throw (.detail 400 ("Not a directory: " ++ place.toString))
    | .ok false, _ => throw (.detail 404 ("Path not found: " ++ place.toString))
    | _, _ => throw .broken

/-- The languages of the given names. -/
def languagesOf (names : List String) : Except Response (List Language) :=
  match names.mapM Language.ofName? with
  | some languages => .ok languages
  | none => .error (.detail 400 ("Unsupported language in " ++ Text.quotedList names))

/-- The project that a scan is to be about. -/
def projectOf (s : Surroundings) (order : ScanOrder) : Except Response Project := do
  let sourceDir ← directoryOf s order.path
  let languages ← languagesOf order.languages
  match order.allowList.filter (· ≠ "") with
  | none => return { sourceDir, languages }
  | some list =>
    match expandHome s.home (.ofString list) with
    | none => throw .broken
    | some p => return { sourceDir, languages, allowListPath := some p }

/-- The report on a scan, with files as seen from a directory. -/
def Scan.report (s : Scan) (root : Path) : Report :=
  s.standing.report root [] ""

/-- Make a scan. -/
def scanOf (s : Surroundings) (name : ScanName) (order : ScanOrder) : Except Response Scan := do
  let p ← projectOf s order
  match p.standing s.fs none with
  | .error cause => throw (answerTo cause)
  | .ok standing =>
    return { name, sourceDir := p.sourceDir, allowList := p.allowListFile.toString, standing }

/-! ## Looking at a scan -/

/-- What a scan is about, and its summary. -/
def Scan.overview (s : Scan) (root : Path) : Value :=
  .ofMembers
    [("scan_id", .ofString s.name.val),
     ("source_dir", .ofString s.sourceDir.toString),
     ("allowlist", .ofString s.allowList),
     ("summary", .ofMembers (s.report root).summary)]

/-- The components of a scan, or only those on the frontier. -/
def Scan.components (s : Scan) (root : Path) (eligibleOnly : Bool) : Value :=
  let nodes := (s.report root).nodes
  let nodes := if eligibleOnly then nodes.filter (·.eligible) else nodes
  .array (nodes.map fun n => .ofMembers (n.members []))

/-- A candidate as a document. -/
def candidateDocument (root : Path) (c : Graph.Candidate) : Value :=
  .ofMembers
    [("file", .ofString (seenFrom root c.file)),
     ("direct_importers", .ofInt c.directImporters),
     ("importers", .ofInt c.importers)]

/-- The first candidates of a scan. -/
def Scan.candidates (s : Scan) (limit : Nat) : Value :=
  .array ((s.standing.candidates.take limit).map (candidateDocument s.sourceDir))

/-- Answer with something that the report on a scan tells. The directory of the
project is resolved once more, as things are now. -/
def Scan.reported (s : Scan) (around : Surroundings) (view : Path → Value) : Response :=
  match around.resolve? s.sourceDir with
  | none => .broken
  | some root => .ok (view root)

/-- The answer to a question about a scan. -/
def Scan.answer (s : Scan) (around : Surroundings) : Question → Response
  | .overview => s.reported around s.overview
  | .components eligibleOnly => s.reported around (s.components · eligibleOnly)
  | .candidates limit => .ok (s.candidates limit)

/-! ## The service -/

namespace Server

/-- The scan of a name. -/
def find? (server : Server) (name : String) : Option Scan :=
  server.scans.find? (·.name.val = name)

/-- Keep a scan. -/
def keep (server : Server) (s : Scan) : Server where
  scans := server.scans ++ [s]
  made := server.made + 1

/-- Delete a scan. -/
def delete (server : Server) (name : String) : Server :=
  { server with scans := server.scans.filter (·.name.val ≠ name) }

/-- The answer when there is no such scan. -/
def unknown : Response :=
  .detail 404 "Scan not found"

/-- Make a scan and keep it. -/
def post (server : Server) (s : Surroundings) (body : Option Value) : Response × Server :=
  match ScanOrder.ofBody? body with
  | none => (.invalid, server)
  | some order =>
    match scanOf s (s.nameOf server.made) order with
    | .error response => (response, server)
    | .ok scan =>
      (scan.reported s fun root =>
          .ofMembers (("scan_id", .ofString scan.name.val) :: (scan.report root).summary),
        server.keep scan)

/-- Answer a question about the scan of a name. -/
def answer (server : Server) (s : Surroundings) (name : String) (question : Question) : Response :=
  match server.find? name with
  | none => unknown
  | some scan => scan.answer s question

/-- Answer a question, if its parameters are valid. -/
def get (server : Server) (s : Surroundings) (query : List (String × String)) (route : Route) :
    Response :=
  match route.question? query with
  | none => .invalid
  | some (name, question) => server.answer s name question

/-- Delete a scan, if there is one of that name. -/
def remove (server : Server) (name : String) : Response × Server :=
  match server.find? name with
  | none => (unknown, server)
  | some _ => (.ok (.ofMembers [("deleted", .ofString name)]), server.delete name)

/-- The response to a request, before it is sent. -/
def respond (server : Server) (s : Surroundings) (r : Request) : Response × Server :=
  match Route.ofPath? r.path with
  | none => (.detail 404 "Not Found", server)
  | some route =>
    if !route.methods.contains r.method then (.detail 405 "Method Not Allowed", server)
    else match r.method, route with
      | "POST", _ => server.post s r.body
      | "DELETE", .scan name => server.remove name
      | _, route => (server.get s r.query route, server)

/-- **Answer a request.** -/
def handle (server : Server) (s : Surroundings) (r : Request) : Response × Server :=
  let (response, server) := server.respond s r
  (response.sent, server)

end Server

end Ratchet.Web
