import Ratchet.Checker.Session
import Ratchet.CommandLine.Request
import Ratchet.Project.Migration
import Ratchet.Project.Report

/-!
# Running commands

Each command of the command line as a function from its surroundings and the
files to what it prints, the code it exits with, and the files it leaves.
-/

namespace Ratchet.CommandLine

open Ratchet.Graph (Candidate Component)

/-- What a command comes to. -/
structure Outcome where
  /-- The code it exits with. -/
  exitCode : Nat := 0
  /-- What it prints. -/
  output : String := ""
  /-- What broke it off without a word, if anything did. -/
  broken : Option Failure := none
  /-- The files it leaves. -/
  fs : FileSystem

/-- What surrounds the commands. -/
structure Surroundings where
  /-- The time for reports. -/
  now : String
  /-- The name of the strict checker, if it is set. -/
  strictChecker : Option String
  /-- What runs the checkers. -/
  system : Checker.System
  /-- Where the cache of each session lies. -/
  cacheAt : Nat → String

/-- The version of the program. -/
def version : String := "0.1.0"

/-- Lines, each with its end. -/
def lines (ls : List String) : String :=
  .join (ls.map (· ++ "\n"))

namespace Outcome

/-- A command that printed some lines. -/
def printed (fs : FileSystem) (ls : List String) : Outcome where
  output := lines ls
  fs

/-- A command that a failure ended, behind some lines. A failure that `told`
applies to is reported in words. -/
def ended (fs : FileSystem) (ls : List String) (cause : Failure) (told : Failure → Bool) :
    Outcome :=
  if told cause then
    { exitCode := 1, output := lines (ls ++ ["Error: " ++ cause.message]), fs }
  else { exitCode := 1, output := lines ls, broken := some cause, fs }

end Outcome

/-- The failures that are reported when no checker is run. -/
def isToldWithoutChecker : Failure → Bool
  | .layers fault => Failure.isReported (.layers fault)
  | cause => cause.isInvalidInput

/-- The failures that are reported when a checker is run. -/
def isTold (cause : Failure) : Bool :=
  cause.isReported || cause.isInvalidInput

namespace Request

/-- The project that a request is about. -/
def project (r : Request) (fs : FileSystem) : Except Failure Project := do
  return { sourceDir := ← fs.resolve r.sourceDir
           allowListPath := r.allowList
           languages := r.languages }

/-- The session of the checker that a request asks for. -/
def session (r : Request) (around : Surroundings) (fs : FileSystem) (root : Path) :
    Except Failure Checker.Session := do
  let command ← match r.checker with
    | some command => Checker.Command.ofCommand fs command root
    | none => Checker.Command.strict fs r.strictChecker [] root
  return { command, directories := around.cacheAt }

end Request

/-! ## Candidates -/

/-- The cycles on the frontier. -/
def cycleLines (root : Path) (cycles : List Component) : List String :=
  if cycles = [] then []
  else
    ["The following cycles are eligible for migration:"] ++
    cycles.flatMap (fun c =>
      let size := c.files.length
      s!"Cycle of {size} files:" :: c.files.map fun f => "  " ++ seenFrom root f) ++
    [""]

/-- A candidate, with the number of files that depend on it if asked for. -/
def candidateLine (root : Path) (counts : Bool) (c : Candidate) : String :=
  let file := seenFrom root c.file
  let line := s!"- [ ] ./{file}"
  if counts then
    line ++ s!"  depended on by {c.importers} ({c.directImporters} direct)"
  else line

/-- What there is to tell about the candidates of a project. -/
def candidateLines (root : Path) (counts : Bool) (s : Standing) : List String :=
  cycleLines root s.eligibleCycles ++
  if s.eligibleFiles = [] then ["No eligible files found."]
  else
    ["Files eligible for migration:",
     "These files only import files that are already checked."] ++
    (if counts then
      ["The dependent count is approximate (imports are followed to third order)."] else []) ++
    s.candidates.map (candidateLine root counts) ++
    (let total := s.survey.files.length
     let eligible := s.eligibleFiles.length
     ["", s!"Progress: {s.checkedCount}/{total} files checked, {eligible} eligible"])

/-- List the candidates. -/
def runCandidates (fs : FileSystem) (r : Request) (p : Project) : Outcome :=
  match p.standing fs none with
  | .error cause => .ended fs [] cause isToldWithoutChecker
  | .ok s => .printed fs (candidateLines p.sourceDir r.counts s)

/-! ## Migration -/

/-- The lines that tell of the progress of a campaign. -/
def progressLines (trace : List Event) : List String :=
  trace.filterMap fun
    | .progress done total => some s!"  Testing: {done}/{total}"
    | _ => none

/-- What there is to tell about a pass. -/
def passLine (p : PassReport) : String :=
  let tested := p.tested.length
  let committed := p.committed.length
  let failed := p.failures.length
  s!"Pass {p.number}: {p.eligibleComponents} eligible, {tested} tested, " ++
    s!"{committed} committed, {failed} failed"

/-- What there is to tell about a campaign. -/
def migrationLines (root : Path) (m : Migration) : List String :=
  let added := m.committed.length
  let failing := m.failures.length
  m.passes.map passLine ++
  (if m.committed = [] then []
   else ["", s!"Added {added} file(s):"] ++
    m.committed.map fun f => "  + " ++ seenFrom root f) ++
  (if m.failures = [] then []
   else ["", s!"Still failing ({failing}):"] ++
    (m.failures.mergeSort fun a b => a.1 ≤ b.1).map fun (f, errors) =>
      let file := seenFrom root f
      s!"  x {file}  ({errors} error(s))") ++
  (if m.cancelled then ["", "Stopped before reaching a fixpoint."] else [])

/-- Run a campaign. -/
def runMigrate (around : Surroundings) (fs : FileSystem) (r : Request) (p : Project) : Outcome :=
  let root := p.sourceDir.toString
  let list := p.allowListFile.toString
  let header := [s!"Migrating {root} (allow-list: {list})", ""]
  match r.session around fs p.sourceDir with
  | .error cause => .ended fs [] cause fun _ => false
  | .ok session =>
    match p.migrate (Checker.Session.checker around.system) (fun w => (false, w)) r.maxPasses
      (Project.passBudget fs) fs session with
    | .error cause => .ended fs header cause isTold
    | .ok (conclusion, j) =>
      let told := header ++ progressLines j.trace
      match conclusion with
      | .failed cause => .ended j.world.fs told cause isTold
      | .finished m | .unfinished m =>
        .printed j.world.fs (told ++ migrationLines p.sourceDir m)

/-! ## Reports -/

/-- What there is to tell about a report. -/
def reportLines (r : Report) : List String :=
  let components := r.nodes.length
  [s!"Progress: {r.checkedFiles}/{r.totalFiles} files checked",
   s!"Eligible files: {r.eligibleFiles}",
   s!"Components: {components} ({r.cycles} cycles)"]

/-- Where a project stands, and the errors on its frontier if they are to be
counted. -/
def countedStanding (around : Surroundings) (fs : FileSystem) (r : Request) (p : Project) :
    Except Failure (Standing × List (Nat × Int)) × FileSystem :=
  match p.standing fs none with
  | .error cause => (.error cause, fs)
  | .ok s =>
    if r.countErrors then
      match r.session around fs p.sourceDir with
      | .error cause => (.error cause, fs)
      | .ok session =>
        let (counts, fs, _) := s.tally (Checker.Session.checker around.system) (fs, session)
        (counts.map fun counts => (s, counts), fs)
    else (.ok (s, []), fs)

/-- Write a report. -/
def runReport (around : Surroundings) (fs : FileSystem) (r : Request) (p : Project) : Outcome :=
  match countedStanding around fs r p with
  | (.error cause, fs) => .ended fs [] cause isTold
  | (.ok (s, counts), fs) =>
    let report := s.report p.sourceDir counts around.now
    match report.write fs r.output with
    | (.error cause, fs) => .ended fs (reportLines report) cause fun _ => false
    | (.ok paths, fs) =>
      .printed fs (reportLines report ++ paths.map fun path => "  " ++ path.toString)

/-! ## Commands -/

/-- Do what a request asks for. -/
def runRequest (around : Surroundings) (fs : FileSystem) (r : Request) : Outcome :=
  match r.project fs with
  | .error cause => .ended fs [] cause fun _ => false
  | .ok p =>
    match r.action with
    | .candidates => runCandidates fs r p
    | .migrate => runMigrate around fs r p
    | .report => runReport around fs r p

/-- How the commands are called. -/
def usage : List String :=
  ["Usage: ratchet [OPTIONS] COMMAND [ARGS]...",
   "",
   "Commands:",
   "  candidates  List files (and cycles) eligible for migration next.",
   "  migrate     Test eligible files and record every clean one.",
   "  report      Write report.json and data.js describing every component."]

/-- **Run a command line** on the files. -/
def run (around : Surroundings) (fs : FileSystem) (words : List String) : Outcome :=
  match readLine fs around.strictChecker words with
  | .request r => runRequest around fs r
  | .help => .printed fs usage
  | .version => .printed fs ["cli, version " ++ version]
  | .unclear fault => { exitCode := 2, output := lines ["Error: " ++ fault.message], fs }
  | .failed cause => { exitCode := 1, broken := some cause, fs }

end Ratchet.CommandLine
