import Ratchet.Ascending
import Ratchet.Graph.Digraph

/-!
# Import maps

An `ImportMap` gives each file the files it imports. It is read as a finite
map from files to sets: `files` lists the keys and `targets` the set of one
key, both ascending, whatever order and repetition the rows have. A target
need not be a file of the map.
-/

namespace Ratchet.Graph

/-- The files of a project with the files each imports. -/
structure ImportMap where
  /-- One row for each file: the file and what it imports. -/
  rows : List (String × List String) := []
  deriving Repr, DecidableEq

namespace ImportMap

/-- The files, ascending. -/
def files (m : ImportMap) : List String :=
  ascending (m.rows.map (·.1))

/-- What a file imports, ascending; nothing for a file that has no row. -/
def targets (m : ImportMap) (file : String) : List String :=
  ascending ((m.rows.lookup file).getD [])

/-- The number of imports, over all files. -/
def edgeCount (m : ImportMap) : Nat :=
  (m.files.flatMap m.targets).length

/-- The files as a graph: an edge for each import of one file by another. -/
def digraph (m : ImportMap) : Digraph String where
  vertices := m.files
  succ := m.targets

/-- A map given by its files and a function. -/
def ofFunction (files : List String) (targets : String → List String) : ImportMap where
  rows := files.map fun f => (f, targets f)

end ImportMap

end Ratchet.Graph
