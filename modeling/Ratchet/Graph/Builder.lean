import Ratchet.Graph.ImportMap
import Ratchet.Warning

/-!
# Building the import graph

An `ImportGraph` keeps the imports between the listed files and, apart, the
imports that lead to files not listed. A `Builder` asks for the imports of a
file once in its life and remembers the answer, also when none could be had.

* `Builder.fill`: ask for the files not asked for yet, in any order.
* `Builder.build`: the graph of the listed files, from what is remembered.
-/

namespace Ratchet.Graph

/-- The imports of a project: those between its files, and those dropped. -/
structure ImportGraph where
  /-- The imports between listed files. -/
  imports : ImportMap := {}
  /-- For each file that has some, its imports of files not listed, ascending. -/
  dropped : List (String × List String) := []
  deriving Repr, DecidableEq

/-- A warning for each dropped import. -/
def ImportGraph.warnings (g : ImportGraph) : List Warning :=
  g.dropped.flatMap fun (file, targets) =>
    targets.map fun target => .untracked target file

/-- What a builder remembers: each file asked for with the imports found. -/
structure Builder where
  /-- The files asked for and what each imports, ascending. -/
  known : List (String × List String) := []
  deriving Repr, DecidableEq

namespace Builder

/-- Whether a file has been asked for. -/
def knows (b : Builder) (file : String) : Bool :=
  b.known.any (·.1 == file)

/-- What is remembered of a file. -/
def importsOf (b : Builder) (file : String) : List String :=
  (b.known.lookup file).getD []

/-- Remember what a file imports. -/
def remember (b : Builder) (file : String) (imports : List String) : Builder where
  known := b.known ++ [(file, ascending imports)]

/-- The listed files not asked for yet, ascending. -/
def pending (b : Builder) (files : List String) : List String :=
  (ascending files).filter fun f => !b.knows f

/-- Ask for each of the files and remember the answers. -/
def fill (extract : String → List String) (files : List String) (b : Builder) : Builder :=
  files.foldl (fun b f => b.remember f (extract f)) b

/-- The graph of the listed files, from what is remembered. -/
def graph (b : Builder) (files : List String) : ImportGraph :=
  let listed := ascending files
  { imports := .ofFunction listed fun f =>
      (b.importsOf f).filter fun t => t ≠ f ∧ t ∈ listed
    dropped := (listed.map fun f =>
      (f, (b.importsOf f).filter fun t => t ≠ f ∧ t ∉ listed)).filter (!·.2.isEmpty) }

/-- **Build the graph of the listed files**: ask for the new ones, remember
the answers, and keep the imports between listed files. -/
def build (b : Builder) (extract : String → List String) (files : List String) :
    ImportGraph × Builder :=
  let filled := b.fill extract (b.pending files)
  (filled.graph files, filled)

end Builder

end Ratchet.Graph
