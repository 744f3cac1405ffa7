import Ratchet.Campaign
import Ratchet.Project.Survey

/-!
# Campaigns on a project

A campaign on a project surveys it in every pass and records what it commits
in the allow-list. The files may be changed between two passes, and by the
checker.
-/

namespace Ratchet

/-- A project under way: its files, and what belongs to the campaign on it. -/
structure Worksite (σ : Type) where
  /-- The files. -/
  fs : FileSystem
  /-- The surveyor. -/
  surveyor : Surveyor
  /-- The warnings so far. -/
  warnings : List Warning := []
  /-- The state of the checker and of whatever else is outside. -/
  rest : σ

namespace Worksite

variable {σ : Type}

/-- Let something change the files and the rest. -/
def change (w : Worksite σ) (f : FileSystem × σ → FileSystem × σ) : Worksite σ :=
  let (fs, rest) := f (w.fs, w.rest)
  { w with fs, rest }

/-- Let something that answers change the files and the rest. -/
def ask {α : Type} (w : Worksite σ) (f : FileSystem × σ → α × FileSystem × σ) :
    α × Worksite σ :=
  let (answer, fs, rest) := f (w.fs, w.rest)
  (answer, { w with fs, rest })

/-- Survey the project. -/
def scan (w : Worksite σ) : Except Failure Graph.Condensation × Worksite σ :=
  match w.surveyor.survey w.fs with
  | .error cause => (.error cause, w)
  | .ok (survey, surveyor) =>
    (.ok survey.components, { w with surveyor, warnings := w.warnings ++ survey.warnings })

/-- Record files as checked. -/
def commit (allowList : AllowList) (files : List String) (w : Worksite σ) :
    Except Failure Unit × Worksite σ :=
  match allowList.add w.fs files with
  | .error cause => (.error cause, w)
  | .ok (_, fs) => (.ok (), { w with fs })

/-- The environment of a campaign on a project. -/
def environment (allowList : AllowList) (checker : Checker (FileSystem × σ))
    (poll : FileSystem × σ → Bool × FileSystem × σ) : Environment (Worksite σ) where
  load := fun w => (allowList.load w.fs, w)
  scan := scan
  start := fun w => w.change checker.start
  check := fun file w => w.ask (checker.check file)
  stop := fun w => w.change checker.stop
  commit := commit allowList
  poll := fun w => w.ask poll

end Worksite

/-- **Run a campaign on a project.** `budget` bounds the number of passes. -/
def Project.migrate {σ : Type} (p : Project) (checker : Checker (FileSystem × σ))
    (poll : FileSystem × σ → Bool × FileSystem × σ) (maxPasses : Option Nat) (budget : Nat)
    (fs : FileSystem) (rest : σ) : Except Failure (Conclusion × Journal (Worksite σ)) := do
  let surveyor ← Surveyor.new fs p
  let allowList ← p.allowList fs
  return (Worksite.environment allowList checker poll).run maxPasses budget
    { fs, surveyor, rest }

/-- As many passes as the files of a project can bring about, and some more
for files that appear under way. -/
def Project.passBudget (fs : FileSystem) : Nat :=
  fs.root.descendants.length + 1000

end Ratchet
