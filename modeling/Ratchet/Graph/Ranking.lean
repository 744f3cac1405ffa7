import Ratchet.Graph.ImportMap

/-!
# Ranking

Candidates are ranked by how much of the project imports them. `expand` adds
to every file the imports of its imports; applied again and again it doubles
the number of import steps followed. A candidate's importers are counted in
the map itself and in the map expanded `order - 1` times.
-/

namespace Ratchet.Graph

namespace ImportMap

/-- Add to each file what its imports import, but never the file itself. -/
def expand (m : ImportMap) : ImportMap :=
  .ofFunction m.files fun f =>
    ascending ((m.targets f ++ (m.targets f).flatMap m.targets).filter (· ≠ f))

/-- Expand a number of times. -/
def expandTimes (m : ImportMap) : Nat → ImportMap
  | 0 => m
  | n + 1 => m.expand.expandTimes n

/-- The files that import a file. -/
def importers (m : ImportMap) (file : String) : List String :=
  m.files.filter fun f => (m.targets f).contains file

end ImportMap

/-- A file with the number of files that import it. -/
structure Candidate where
  /-- The file. -/
  file : String
  /-- How many files import it. -/
  directImporters : Nat
  /-- How many files import it, indirectly too. -/
  importers : Nat
  deriving Repr, DecidableEq

namespace Candidate

/-- The more importers the earlier; among equals the path decides. -/
def precedes (a b : Candidate) : Bool :=
  if a.importers = b.importers then a.file ≤ b.file else b.importers < a.importers

end Candidate

/-- **Candidates by importers, most imported first.** `order` bounds how
often indirect imports are expanded, plus one. -/
def rankCandidates (m : ImportMap) (files : List String) (order : Int) : List Candidate :=
  let expanded := m.expandTimes (max order 1 - 1).toNat
  let candidates := files.map fun file =>
    { file, directImporters := (m.importers file).length,
      importers := (expanded.importers file).length : Candidate }
  candidates.mergeSort Candidate.precedes

/-- How often indirect imports are followed when nothing else is said. -/
def defaultOrder : Int := 3

end Ratchet.Graph
