import Ratchet.CommandLine.Switch
import Ratchet.FileSystem
import Ratchet.Language
import Ratchet.Text.Whole

/-!
# Requests on the command line

What can be asked for on the command line, and how it is read from the words.
A value is checked in the order in which the switches stand; the directory of
the project comes behind them.
-/

namespace Ratchet.CommandLine

/-- What a switch sets. -/
inductive Key where
  | help
  | version
  | verbose
  | allowList
  | language
  | counts
  | noCounts
  | checker
  | strictChecker
  | maxPasses
  | output
  | countErrors
  deriving Repr, DecidableEq

/-- A command. -/
inductive Action where
  /-- List what may be checked next. -/
  | candidates
  /-- Check files and record the clean ones. -/
  | migrate
  /-- Write a report. -/
  | report
  deriving Repr, DecidableEq

/-- The command of a name. -/
def Action.ofName? : String → Option Action
  | "candidates" => some .candidates
  | "migrate" => some .migrate
  | "report" => some .report
  | _ => none

/-- The switches before the command. -/
def mainSwitches : List (Switch Key) :=
  [⟨.version, ["--version"], false⟩, ⟨.verbose, ["--verbose", "-v"], false⟩,
   ⟨.help, ["--help"], false⟩]

/-- The switches of every command. -/
def commonSwitches : List (Switch Key) :=
  [⟨.allowList, ["--allowlist", "-a"], true⟩, ⟨.language, ["--language", "-l"], true⟩,
   ⟨.help, ["--help"], false⟩]

/-- The switches that choose a checker. -/
def checkerSwitches : List (Switch Key) :=
  [⟨.checker, ["--checker", "-c"], true⟩, ⟨.strictChecker, ["--mypy"], true⟩]

/-- The switches of a command. -/
def Action.switches : Action → List (Switch Key)
  | .candidates =>
    commonSwitches ++ [⟨.counts, ["--counts"], false⟩, ⟨.noCounts, ["--no-counts"], false⟩]
  | .migrate => commonSwitches ++ checkerSwitches ++ [⟨.maxPasses, ["--max-passes"], true⟩]
  | .report =>
    commonSwitches ++ checkerSwitches ++
      [⟨.output, ["-o", "--output"], true⟩, ⟨.countErrors, ["--count-errors"], false⟩]

/-- What is asked for. -/
structure Request where
  /-- The command. -/
  action : Action
  /-- The directory of the project. -/
  sourceDir : Path
  /-- Where the allow-list is kept, if not at its usual place. -/
  allowList : Option Path
  /-- The languages. -/
  languages : List Language
  /-- Whether to show how many files depend on each candidate. -/
  counts : Bool
  /-- The command that checks a file, if not the strict checker. -/
  checker : Option String
  /-- The strict checker. -/
  strictChecker : String
  /-- The largest number of passes. -/
  maxPasses : Option Nat
  /-- The directory of the report. -/
  output : Path
  /-- Whether the report counts errors. -/
  countErrors : Bool
  deriving Repr

/-- What a command line comes to. -/
inductive Intent where
  /-- Something is asked for. -/
  | request (r : Request)
  /-- Help is asked for. -/
  | help
  /-- The version is asked for. -/
  | version
  /-- The words are not understood. -/
  | unclear (fault : UsageFault)
  /-- A value cannot even be looked at. -/
  | failed (cause : Failure)

/-! ## Values -/

/-- What stands at the path that a word spells, as far as it can be told. -/
def nodeAt (fs : FileSystem) (word : String) : Except Failure (Option Node) :=
  if word.contains '\x00' then .error .nullCharacter
  else if word = "" then .ok none
  else .ok (fs.find (.ofString word)).toOption

/-- The whole number that a word spells. -/
def integerOf? (word : String) : Option Int :=
  Text.integer? Text.isDigit word.toList

/-- What checking a value comes to, if it is not in order. -/
def valueFault? (fs : FileSystem) (key : Key) (value : String) : Option Intent :=
  match key with
  | .allowList =>
    match nodeAt fs value with
    | .error cause => some (.failed cause)
    | .ok node =>
      if node.any (·.isDirectory) then some (.unclear (.badValue value)) else none
  | .output =>
    match nodeAt fs value with
    | .error cause => some (.failed cause)
    | .ok _ => none
  | .language => if (Language.ofName? value).isNone then some (.unclear (.badValue value)) else none
  | .maxPasses =>
    if (integerOf? value).any (1 ≤ ·) then none else some (.unclear (.badValue value))
  | _ => none

/-- What checking the directory of the project comes to, if it is not in
order. -/
def directoryFault? (fs : FileSystem) (value : String) : Option Intent :=
  match nodeAt fs value with
  | .error cause => some (.failed cause)
  | .ok node =>
    if node.any (·.isDirectory) then none else some (.unclear (.badValue value))

/-- The values that count: every language, and the last value of any other
switch in the place of its first. -/
def valuesInOrder (w : Words Key) : List (Key × String) :=
  let keys := (w.set.map (·.1)).eraseDups
  keys.flatMap fun k =>
    if k = .language then (w.all k).map (k, ·)
    else (w.last? k).toList.map (k, ·)

/-- Whether the first of two switches is set, or was set later. -/
def lastOf (w : Words Key) (yes no : Key) (otherwise : Bool) : Bool :=
  ((w.set.reverse.find? fun s => s.1 = yes || s.1 = no).map (·.1 == yes)).getD otherwise

/-! ## Reading -/

/-- The request that the words of a command spell. -/
def requestOf (action : Action) (w : Words Key) (strictChecker : Option String) : Request where
  action
  sourceDir := .ofString (w.others.headD ".")
  allowList := (w.last? .allowList).map Path.ofString
  languages :=
    let ls := (w.all .language).filterMap Language.ofName?
    if ls = [] then [.python] else ls
  counts := lastOf w .counts .noCounts true
  checker := (w.last? .checker).filter (· ≠ "")
  strictChecker := (w.last? .strictChecker).getD (strictChecker.getD "mypy")
  maxPasses := ((w.last? .maxPasses).bind integerOf?).map Int.toNat
  output := .ofString ((w.last? .output).getD "strict-report")
  countErrors := (w.all .countErrors) ≠ []

/-- Read the words behind a command. -/
def readAction (fs : FileSystem) (strictChecker : Option String) (action : Action)
    (words : List String) : Intent :=
  match readWords action.switches true words with
  | .error fault => .unclear fault
  | .ok w =>
    if w.all .help ≠ [] then .help
    else
      let faults := (valuesInOrder w).filterMap fun (key, value) => valueFault? fs key value
      let faults := faults ++ (directoryFault? fs (w.others.headD ".")).toList
      match faults, w.others with
      | fault :: _, _ => fault
      | [], _ :: extra :: _ => .unclear (.needlessWord extra)
      | [], _ => .request (requestOf action w strictChecker)

/-- **Read a command line.** `strictChecker` is the one that the surroundings
name; an empty name counts as none. -/
def readLine (fs : FileSystem) (strictChecker : Option String) (words : List String) : Intent :=
  match readWords mainSwitches false words with
  | .error fault => .unclear fault
  | .ok w =>
    match (w.set.map (·.1)).find? fun k => k = Key.help || k = Key.version with
    | some Key.help => .help
    | some _ => .version
    | none =>
      match w.others with
      | [] => .unclear .missingCommand
      | name :: words =>
        match Action.ofName? name with
        | none => .unclear (.unknownCommand name)
        | some action => readAction fs (strictChecker.filter (· ≠ "")) action words

end Ratchet.CommandLine
