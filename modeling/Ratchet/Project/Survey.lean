import Ratchet.Extraction
import Ratchet.Graph.Builder
import Ratchet.Graph.Layers
import Ratchet.Project

/-!
# Surveys

A survey finds the tracked files of a project, the imports between them, and
the components. A `Surveyor` makes one survey after another, and reads each
file once in its life.
-/

namespace Ratchet

open Ratchet.Graph (Builder Condensation ImportGraph)

/-- What a survey of a project brings. -/
structure Survey where
  /-- The tracked files, ascending. -/
  files : List String := []
  /-- The imports. -/
  graph : ImportGraph := {}
  /-- The components. -/
  components : Condensation := {}
  /-- The warnings, in order. -/
  warnings : List Warning := []

/-- What makes surveys of a project. -/
structure Surveyor where
  /-- The project. -/
  project : Project
  /-- What finds the imports of a file. -/
  extractors : List Extractor
  /-- What has been found so far. -/
  builder : Builder := {}

namespace Surveyor

/-- A new surveyor of a project. -/
def new (fs : FileSystem) (project : Project) : Except Failure Surveyor := do
  return { project, extractors := ← Extractor.loadAll fs project.sourceDir project.languages }

/-- The imports of a file; none if they cannot be had. -/
def importsOf (s : Surveyor) (fs : FileSystem) (file : String) : List String :=
  (Extractor.extract s.extractors fs file).result.toOption.getD []

/-- The warnings that reading a file brings. -/
def warningsFor (s : Surveyor) (fs : FileSystem) (file : String) : List Warning :=
  let found := Extractor.extract s.extractors fs file
  found.warnings ++ if found.failure.isSome then [.extractionFailed file] else []

/-- **Survey the project as it stands.** Only files that are new to the
surveyor are read. -/
def survey (s : Surveyor) (fs : FileSystem) : Except Failure (Survey × Surveyor) := do
  let files ← discover fs s.project.sourceDir s.project.languages s.project.skips
  let read := (s.builder.pending files).flatMap (s.warningsFor fs)
  let (graph, builder) := s.builder.build (s.importsOf fs) files
  let components := graph.imports.condense
  match components.verifyAcyclic with
  | .error fault => throw (.layers fault)
  | .ok () =>
    return ({ files, graph, components, warnings := read ++ graph.warnings },
      { s with builder })

end Surveyor

end Ratchet
