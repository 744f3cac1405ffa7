import Ratchet.Graph.ImportMap
import Ratchet.Graph.Search

/-!
# Condensation

The classes of mutually importing files are the components of a project.
`condense` numbers them in the order in which a depth-first search closes
them, so every component has a higher number than the components it imports.

* `components`: one `Component` for each class, at the position of its number.
* `fileTable`: the number of the component of each file.
* `dependencies`, `dependents`: the imports between components, both ways.
-/

namespace Ratchet.Graph

/-- How far a component is from the ends of the import chains through it. -/
structure Depth where
  /-- The length of the longest chain of dependencies below it. -/
  dependency : Nat
  /-- The length of the longest chain of dependents above it. -/
  dependent : Nat
  deriving Repr, DecidableEq

/-- A class of mutually importing files, or a single file outside any cycle. -/
structure Component where
  /-- Its number, which is its position among the components. -/
  id : Nat
  /-- Its files, ascending. -/
  files : List String
  /-- The components it imports. -/
  dependencies : List Nat
  /-- The components that import it. -/
  dependents : List Nat
  /-- Its depth, once the components are layered. -/
  depth : Option Depth := none
  deriving Repr

namespace Component

/-- Whether the component is an import cycle of several files. -/
def isCycle (c : Component) : Bool :=
  1 < c.files.length

end Component

/-- The components of a project. -/
structure Condensation where
  /-- The components; each stands at the position that is its number. -/
  components : List Component := []
  /-- Every file with the number of its component. -/
  fileTable : List (String × Nat) := []
  deriving Repr

/-- The number of the component that holds a file. -/
def Condensation.componentOf? (g : Condensation) (file : String) : Option Nat :=
  g.fileTable.lookup file

/-- Every file of some classes with the position of its class. -/
def filesByClass (classes : List (List String)) : List (String × Nat) :=
  (classes.mapIdx fun id files => files.map fun f => (f, id)).flatten

/-- The other way round of a table of edges: each node is entered in turn for
the nodes that it points to. -/
def reversedTable (table : List (List Nat)) : List (List Nat) :=
  let enter (reversed : List (List Nat)) (entry : List Nat × Nat) :=
    entry.1.foldl (fun reversed d => reversed.modify d (· ++ [entry.2])) reversed
  (table.zipIdx.foldl enter (table.map fun _ => [])).map (·.mergeSort (· ≤ ·))

namespace ImportMap

/-- **The classes of mutually importing files**, each ascending, in the order
in which a depth-first search through the ascending files closes them. -/
def classes (m : ImportMap) : List (List String) :=
  m.digraph.classes.map (·.mergeSort (· ≤ ·))

/-- The numbers of the components, other than its own, that the files of a
component import. -/
def classDependencies (m : ImportMap) (table : List (String × Nat)) (id : Nat)
    (files : List String) : List Nat :=
  let ids := (files.flatMap m.targets).filterMap fun t => table.lookup t
  ascending (ids.filter (· ≠ id))

/-- What each class depends on. -/
def dependencyTable (m : ImportMap) (classes : List (List String)) : List (List Nat) :=
  classes.mapIdx (m.classDependencies (filesByClass classes))

/-- **The components of an import map**, with the imports between them. -/
def condense (m : ImportMap) : Condensation :=
  let classes := m.classes
  let below := m.dependencyTable classes
  let above := reversedTable below
  { components := classes.mapIdx fun id files =>
      { id, files, dependencies := below.getD id [], dependents := above.getD id [] }
    fileTable := filesByClass classes }

end ImportMap

end Ratchet.Graph
