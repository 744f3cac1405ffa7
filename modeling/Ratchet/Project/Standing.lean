import Ratchet.Checker
import Ratchet.Graph.Frontier
import Ratchet.Graph.Ranking
import Ratchet.Project.Survey

/-!
# Where a project stands

A `Standing` is a survey with its components layered, together with the files
that are checked. From it the frontier and the candidates are read off.
-/

namespace Ratchet

open Ratchet.Graph (Candidate Component)

/-- A survey against a set of checked files. -/
structure Standing where
  /-- The survey; its components are layered. -/
  survey : Survey
  /-- The checked files, ascending. -/
  checked : List String

namespace Standing

/-- The components on the frontier. -/
def eligible (s : Standing) : List Component :=
  s.survey.components.eligible s.checked

/-- The files on the frontier, ascending. -/
def eligibleFiles (s : Standing) : List String :=
  s.survey.components.eligibleFiles s.checked

/-- The cycles on the frontier. -/
def eligibleCycles (s : Standing) : List Component :=
  s.survey.components.eligibleCycles s.checked

/-- The files on the frontier, the most wanted first. -/
def candidates (s : Standing) : List Candidate :=
  Graph.rankCandidates s.survey.graph.imports s.eligibleFiles Graph.defaultOrder

/-- How many of the tracked files are checked. -/
def checkedCount (s : Standing) : Nat :=
  s.survey.files.countP s.checked.contains

/-- The number of errors of the first file of each component on the frontier,
by the component's number. -/
def tally {σ : Type} (s : Standing) (c : Checker σ) (w : σ) :
    Except Failure (List (Nat × Int)) × σ :=
  let (answer, w) := c.session (s.eligible.map fun e => e.files.headD "") w
  (answer.map fun counts => (s.eligible.map (·.id)).zip (counts.map (·.2)), w)

end Standing

/-- **Where a project stands**, against the given files or those of its
allow-list. -/
def Project.standing (p : Project) (fs : FileSystem) (checked : Option (List String)) :
    Except Failure Standing := do
  let checked ← match checked with
    | some files => pure (ascending files)
    | none => (← p.allowList fs).load fs
  let surveyor ← Surveyor.new fs p
  let (survey, _) ← surveyor.survey fs
  match survey.components.layer with
  | .error fault => throw (.layers fault)
  | .ok components => return { survey := { survey with components }, checked }

end Ratchet
