import Ratchet.CheckedSet
import Ratchet.Checker
import Ratchet.Graph.Frontier

/-!
# Campaigns

A campaign checks the files of the frontier, commits the clean ones, and
starts again on the larger checked set, until a pass commits nothing.

* `Environment`: what a campaign needs from outside, as functions on a state
  of any type.
* `Journal`: the state, the trace of events and the checked set, as they stand
  at any moment of a run, also when it failed.
* `Journal.pass`: one pass. The components of the frontier are gone through
  one after the other inside one session. A component is committed as a whole
  or not at all.
* `Environment.run`: pass after pass, each of them a `Round`.
-/

namespace Ratchet

open Ratchet.Graph (Condensation Component)

/-- What a campaign does, as seen from outside. -/
inductive Event where
  /-- The components are determined anew. -/
  | scan
  /-- A checking session is opened. -/
  | start
  /-- So many of so many files have been taken up. -/
  | progress (done total : Nat)
  /-- A file is checked. -/
  | check (file : String)
  /-- The checking session is closed. -/
  | stop
  /-- Files are recorded as checked. -/
  | commit (files : List String)
  deriving Repr, DecidableEq

/-- What a campaign is about to do. -/
inductive Phase where
  | idle
  | scanning
  | testing
  | committing
  | done
  deriving Repr, DecidableEq

/-- The name of a phase. -/
def Phase.name : Phase → String
  | .idle => "idle"
  | .scanning => "scanning"
  | .testing => "testing"
  | .committing => "committing"
  | .done => "done"

/-- What a campaign needs from outside: a checker and more. Each function may
change the state. -/
structure Environment (σ : Type) extends Checker σ where
  /-- The files recorded as checked. -/
  load : σ → Except Failure (List String) × σ
  /-- The components of the project as it stands. -/
  scan : σ → Except Failure Condensation × σ
  /-- Record files as checked. -/
  commit : List String → σ → Except Failure Unit × σ
  /-- Whether to stop before the next pass. -/
  poll : σ → Bool × σ

/-- One file checked, with the number of errors found. -/
structure Outcome where
  /-- The file. -/
  file : String
  /-- The number of errors. -/
  errors : Nat
  deriving Repr, DecidableEq

/-- Whether no error was found. -/
def Outcome.passed (o : Outcome) : Bool :=
  o.errors == 0

/-- The files with errors, with their number. -/
def failuresOf (outcomes : List Outcome) : List (String × Nat) :=
  (outcomes.filter (!·.passed)).map fun o => (o.file, o.errors)

/-- What happened in one pass. -/
structure PassReport where
  /-- Passes count from one. -/
  number : Nat
  /-- How many components were on the frontier. -/
  eligibleComponents : Nat := 0
  /-- The files checked, in order. -/
  tested : List Outcome := []
  /-- The files committed, ascending. -/
  committed : List String := []
  deriving Repr

/-- The files that failed in a pass. -/
def PassReport.failures (p : PassReport) : List (String × Nat) :=
  failuresOf p.tested

/-- The result of a campaign. -/
structure Migration where
  /-- The passes, in order. -/
  passes : List PassReport := []
  /-- Every file committed, in order. -/
  committed : List String := []
  /-- The files that still fail, with the number of errors last found. -/
  failures : List (String × Nat) := []
  /-- Whether the campaign was stopped from outside. -/
  cancelled : Bool := false
  deriving Repr

namespace Migration

/-- Enter a count for each failing file, in place of an older one. -/
def noteFailures (new old : List (String × Nat)) : List (String × Nat) :=
  old.filter (fun e => !new.any (·.1 == e.1)) ++ new

/-- Add a pass: what it committed fails no longer, what failed in it does. -/
def addPass (m : Migration) (p : PassReport) : Migration where
  passes := m.passes ++ [p]
  committed := m.committed ++ p.committed
  failures := noteFailures p.failures
    (m.failures.filter fun e => !p.committed.contains e.1)
  cancelled := m.cancelled

end Migration

/-- How a run of a campaign ends. -/
inductive Conclusion where
  /-- It came to an end of its own, or was stopped between two passes. -/
  | finished (result : Migration)
  /-- A pass could not be completed. -/
  | failed (cause : Failure)
  /-- The passes allowed were used up before either. -/
  | unfinished (soFar : Migration)
  deriving Repr

/-! ## What a pass finds -/

/-- What a session has found so far. -/
structure Findings where
  /-- The files checked, in order. -/
  tested : List Outcome := []
  /-- The files checked of the components that were clean throughout. -/
  passing : List String := []
  deriving Repr

/-- Add the outcomes of one component: its files pass together or not at all. -/
def Findings.addComponent (found : Findings) (outcomes : List Outcome) : Findings where
  tested := found.tested ++ outcomes
  passing := found.passing ++
    if outcomes.all (·.passed) then outcomes.map (·.file) else []

namespace Graph

/-- Components in the order in which they are tested: by the first file. -/
def testOrder (frontier : List Component) : List Component :=
  frontier.mergeSort fun a b => a.files.headD "" ≤ b.files.headD ""

/-- How many files of some components are not checked yet. -/
def countUnchecked (frontier : List Component) (checked : List String) : Nat :=
  (frontier.flatMap (·.uncheckedFiles checked)).length

end Graph

/-! ## Running -/

/-- A campaign under way. -/
structure Journal (σ : Type) where
  /-- The state of what is outside. -/
  world : σ
  /-- The events so far, in order. -/
  trace : List Event := []
  /-- The files checked so far. -/
  checked : CheckedSet := {}
  /-- What is being done. -/
  phase : Phase := .idle

namespace Journal

variable {σ : Type}

/-- Note events, in order. -/
def note (j : Journal σ) (events : List Event) : Journal σ :=
  { j with trace := j.trace ++ events }

/-- Check one file; a failure of the checker names the pass and the file. -/
def checkOne (env : Environment σ) (number : Nat) (file : String) (j : Journal σ) :
    Except Failure Outcome × Journal σ :=
  let (answer, world) := env.check file j.world
  let j := { j with world }.note [.check file]
  match answer with
  | .error (.checker text) =>
    (.error (.checker s!"Pass {number}: checking {file} failed: {text}"), j)
  | .error other => (.error other, j)
  | .ok count =>
    if count < 0 then
      (.error (.checker
        s!"Pass {number}: checker reported a negative error count for {file}"), j)
    else (.ok { file, errors := count.toNat }, j)

/-- Check the files of one component one after the other, up to the first that
cannot be checked. A file taken up before in the session, or checked in an
earlier pass, is passed over. `before` are the outcomes of the session so far,
`outcomes` those of the component. -/
def checkFiles (env : Environment σ) (number total : Nat) (before : List Outcome) :
    List Outcome → List String → Journal σ → Except Failure (List Outcome) × Journal σ
  | outcomes, [], j => (.ok outcomes, j)
  | outcomes, file :: files, j =>
    let taken := before ++ outcomes
    if taken.any (·.file == file) || j.checked.contains file then
      checkFiles env number total before outcomes files j
    else
      match (j.note [.progress (taken.length + 1) total]).checkOne env number file with
      | (.error cause, j) => (.error cause, j)
      | (.ok outcome, j) => checkFiles env number total before (outcomes ++ [outcome]) files j

/-- Check some components one after the other. -/
def checkComponents (env : Environment σ) (number total : Nat) :
    Findings → List Component → Journal σ → Except Failure Findings × Journal σ
  | found, [], j => (.ok found, j)
  | found, c :: components, j =>
    match j.checkFiles env number total found.tested [] c.files with
    | (.error cause, j) => (.error cause, j)
    | (.ok outcomes, j) =>
      checkComponents env number total (found.addComponent outcomes) components j

/-- Check the frontier inside a session, which is closed in any case. -/
def session (env : Environment σ) (number : Nat) (frontier : List Component)
    (j : Journal σ) : Except Failure Findings × Journal σ :=
  let total := Graph.countUnchecked frontier j.checked.files
  let opened := { j with world := env.start j.world, phase := .testing }.note [.start]
  let (answer, j) := opened.checkComponents env number total {} (Graph.testOrder frontier)
  (answer, { j with world := env.stop j.world }.note [.stop])

/-- Commit files and record them; nothing is recorded when there are none. -/
def commit (env : Environment σ) (files : List String) (j : Journal σ) :
    Except Failure (List String) × Journal σ :=
  let j := { j with phase := .committing }
  if files.isEmpty then (.ok [], j)
  else
    let (new, checked) := j.checked.insertAll files
    let (answer, world) := env.commit new j.world
    (answer.map fun _ => new, { j with world, checked }.note [.commit new])

/-- **One pass**: scan, test the frontier, commit what is clean. -/
def pass (env : Environment σ) (number : Nat) (j : Journal σ) :
    Except Failure PassReport × Journal σ :=
  let (scanned, world) := env.scan j.world
  let j := { j with world, phase := .scanning }.note [.scan]
  match scanned with
  | .error cause => (.error cause, j)
  | .ok components =>
    let frontier := components.eligible j.checked.files
    match j.session env number frontier with
    | (.error cause, j) => (.error cause, j)
    | (.ok found, j) =>
      match j.commit env found.passing with
      | (.error cause, j) => (.error cause, j)
      | (.ok committed, j) =>
        (.ok { number, eligibleComponents := frontier.length, tested := found.tested,
               committed }, j)

end Journal

/-- What a round of a campaign comes to. -/
inductive Round (σ : Type) where
  /-- The campaign has ended. -/
  | ended (conclusion : Conclusion) (j : Journal σ)
  /-- Another round follows. -/
  | going (m : Migration) (j : Journal σ)

namespace Environment

variable {σ : Type}

/-- Ask whether to stop. -/
def pollStop (env : Environment σ) (j : Journal σ) : Bool × Journal σ :=
  let (stopped, world) := env.poll j.world
  (stopped, { j with world })

/-- End a run between two passes. -/
def conclude (m : Migration) (j : Journal σ) : Round σ :=
  .ended (.finished m) { j with phase := .done }

/-- One round: a pass, unless the poll or `maxPasses` forbids it. The campaign
ends with a pass that commits nothing. -/
def round (env : Environment σ) (maxPasses : Option Nat) (m : Migration) (j : Journal σ) :
    Round σ :=
  let (stopped, j) := env.pollStop j
  if stopped || maxPasses.any (· ≤ m.passes.length) then
    conclude { m with cancelled := true } j
  else
    match j.pass env (m.passes.length + 1) with
    | (.error cause, j) => .ended (.failed cause) j
    | (.ok report, j) =>
      let m := m.addPass report
      if report.committed.isEmpty then conclude m j else .going m j

/-- Round after round, `budget` of them at most. -/
def rounds (env : Environment σ) (maxPasses : Option Nat) :
    Nat → Migration → Journal σ → Conclusion × Journal σ
  | 0, m, j => (.unfinished m, j)
  | budget + 1, m, j =>
    match env.round maxPasses m j with
    | .ended conclusion j => (conclusion, j)
    | .going m j => env.rounds maxPasses budget m j

/-- **Run a campaign** from the recorded files on. -/
def run (env : Environment σ) (maxPasses : Option Nat) (budget : Nat) (world : σ) :
    Conclusion × Journal σ :=
  match env.load world with
  | (.error cause, world) => (.failed cause, { world })
  | (.ok files, world) =>
    env.rounds maxPasses budget {} { world, checked := .ofList files }

end Environment

end Ratchet
