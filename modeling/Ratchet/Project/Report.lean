import Ratchet.Project.Standing

/-!
# Reports

A report tells of every component of a project where it stands. It is written
as a JSON document, and its nodes once more as a script that a page can load.
-/

namespace Ratchet

open Json (Value)

/-- What a report tells of a component. -/
structure ReportNode where
  /-- The component. -/
  component : Graph.Component
  /-- Its files, as seen from the directory of the project. -/
  files : List String
  /-- Whether every file is checked. -/
  checked : Bool
  /-- Whether it is on the frontier. -/
  eligible : Bool
  /-- The number of errors of its first file, if they were counted. -/
  errorCount : Option Int

/-- A report. -/
structure Report where
  /-- When it was made. -/
  generated : String
  /-- The directory of the project. -/
  sourceDirectory : String
  /-- How many files are tracked. -/
  totalFiles : Nat
  /-- How many of them are checked. -/
  checkedFiles : Nat
  /-- How many files the components on the frontier have. -/
  eligibleFiles : Nat
  /-- How many components are cycles. -/
  cycles : Nat
  /-- The components. -/
  nodes : List ReportNode

/-- A file as seen from a directory it lies in. -/
def seenFrom (root : Path) (file : String) : String :=
  (((Path.ofString file).relativeTo? root).map Path.toString).getD file

/-- **The report on a project**, with what was counted of errors. -/
def Standing.report (s : Standing) (root : Path) (counts : List (Nat × Int))
    (generated : String) : Report where
  generated
  sourceDirectory := root.toString
  totalFiles := s.survey.files.length
  checkedFiles := s.checkedCount
  eligibleFiles := (s.eligible.flatMap (·.files)).length
  cycles := s.survey.components.components.countP (·.isCycle)
  nodes :=
    let eligible := s.eligible.map (·.id)
    s.survey.components.components.map fun c =>
      { component := c
        files := c.files.map (seenFrom root)
        checked := c.isChecked s.checked
        eligible := eligible.contains c.id
        errorCount := counts.lookup c.id }

/-! ## Writing -/

/-- A depth; one that is not known counts as less than none. -/
def depthOf (c : Graph.Component) (which : Graph.Depth → Nat) : Value :=
  Value.ofInt ((c.depth.map fun d => (which d : Int)).getD (-1))

namespace ReportNode

/-- What every account of a component tells of it. -/
def members (n : ReportNode) (more : List (String × Value)) : List (String × Value) :=
  [("id", Value.ofInt n.component.id),
   ("files", .array (n.files.map .ofString)),
   ("checked", .boolean n.checked),
   ("eligible", .boolean n.eligible)] ++ more ++
  [("dependencies", .array (n.component.dependencies.map fun (i : Nat) => Value.ofInt i)),
   ("dependents", .array (n.component.dependents.map fun (i : Nat) => Value.ofInt i)),
   ("dependency_depth", depthOf n.component (·.dependency)),
   ("dependent_depth", depthOf n.component (·.dependent))]

/-- A node as a document. -/
def document (n : ReportNode) : Value :=
  Value.ofMembers (n.members [("error_count", n.errorCount.elim .null Value.ofInt)])

end ReportNode

namespace Report

/-- The numbers that sum a report up. -/
def summary (r : Report) : List (String × Value) :=
  [("total_files", Value.ofInt r.totalFiles),
   ("checked_files", Value.ofInt r.checkedFiles),
   ("eligible_files", Value.ofInt r.eligibleFiles),
   ("components", Value.ofInt r.nodes.length),
   ("cycles", Value.ofInt r.cycles)]

/-- The nodes as a document. -/
def nodeList (r : Report) : Value :=
  .array (r.nodes.map (·.document))

/-- The report as a document. -/
def document (r : Report) : Value :=
  Value.ofMembers
    [("version", .ofString "1.0"),
     ("generated", .ofString r.generated),
     ("source_directory", .ofString r.sourceDirectory),
     ("summary", Value.ofMembers r.summary),
     ("nodes", r.nodeList)]

/-- The files that a report is written to, with their texts. -/
def texts (r : Report) : List (String × String) :=
  [("report.json", Json.write .indented r.document ++ "\n"),
   ("data.js", "window.nodes = " ++ Json.write .line r.nodeList ++ "\n")]

/-- Write some texts into a directory, up to the first that cannot be
written: the paths written, and the file system with what was written. -/
def writeTexts (directory : Path) :
    List (String × String) → FileSystem → Except Failure (List Path) × FileSystem
  | [], fs => (.ok [], fs)
  | (name, text) :: texts, fs =>
    let p := directory.child name
    match fs.writeText p text with
    | .error cause => (.error cause, fs)
    | .ok fs =>
      let (rest, fs) := writeTexts directory texts fs
      (rest.map (p :: ·), fs)

/-- **Write a report** into a directory. -/
def write (r : Report) (fs : FileSystem) (directory : Path) :
    Except Failure (List Path) × FileSystem :=
  match fs.makeDirectory directory with
  | .error cause => (.error cause, fs)
  | .ok fs => writeTexts directory r.texts fs

end Report

end Ratchet
