import Ratchet.Checker.ErrorCount
import Ratchet.FileSystem
import Ratchet.Shell.Words
import Ratchet.Text.Blank
import Ratchet.Text.Substitute

/-!
# Checker commands

A checker is a command that is run on one file at a time. Its template names
the place of the file; the file is given as seen from the working directory of
the checker if it lies there. A checker may keep a cache for a session, whose
directory it is told.
-/

namespace Ratchet.Checker

/-- A checker: how it is called, and when its answer counts. -/
structure Command where
  /-- The command, with the mark for the file. -/
  template : String
  /-- The directory in which it runs. -/
  cwd : Path
  /-- The exit codes with which its answer counts. -/
  okExitCodes : List Int := [0, 1]
  /-- The text of the time it may take, in seconds. -/
  timeout : String := "600"
  /-- Whether it keeps a cache for a session. -/
  caches : Bool := false
  deriving Repr

/-- The mark that stands for the file. -/
def fileMark : List Char :=
  "\x7bfile\x7d".toList

/-- The template of a command; the mark is added where it is missing. -/
def templateOf (command : String) : String :=
  if Text.occursIn fileMark command.toList then command
  else .ofList (command.toList ++ ' ' :: fileMark)

/-- The options with which the strict checker is always called. -/
def strictOptions : List String :=
  ["--strict", "--follow-imports=silent", "--no-color-output"]

/-- The command of the strict checker with further arguments. -/
def strictCommand (executable : String) (extra : List String) : String :=
  let words := executable :: strictOptions ++ extra
  .ofList (List.intercalate [' '] (words.map fun w => Shell.quote w.toList))

namespace Command

/-- A checker that runs a command in a directory. -/
def ofCommand (fs : FileSystem) (command : String) (cwd : Path) : Except Failure Command := do
  return { template := templateOf command, cwd := ← fs.resolve cwd }

/-- The strict checker in a directory. -/
def strict (fs : FileSystem) (executable : String) (extra : List String) (cwd : Path) :
    Except Failure Command := do
  return { ← ofCommand fs (strictCommand executable extra) cwd with caches := true }

/-- A file as the checker is told it. -/
def shown (c : Command) (fs : FileSystem) (file : String) : String :=
  match fs.resolve (Path.ofString file) with
  | .error _ => file
  | .ok place => ((place.relativeTo? c.cwd).map Path.toString).getD file

/-- The words of the command for a file. -/
def wordsFor (c : Command) (fs : FileSystem) (file : String) : Except Failure (List String) := do
  match Shell.words c.template.toList with
  | .error fault => throw (.quoting fault)
  | .ok words =>
    let shown := (c.shown fs file).toList
    return words.map fun w => .ofList (Text.substitute fileMark shown w)

/-- **The arguments with which a file is checked**, with the cache of the
session if there is one. -/
def arguments (c : Command) (fs : FileSystem) (cache : Option String) (file : String) :
    Except Failure (List String) := do
  let words ← c.wordsFor fs file
  match cache with
  | none => return words
  | some directory => return words.take 1 ++ ["--cache-dir", directory] ++ words.drop 1

end Command

/-! ## Answers -/

/-- How a run of a checker ends. -/
inductive Ending where
  /-- It exits with a code; a signal counts as a negative one. -/
  | exited (code : Int)
  /-- It takes longer than it may. -/
  | timedOut
  deriving Repr, DecidableEq

/-- What a run of a checker leaves behind. -/
structure Run where
  /-- What it wrote to its standard output. -/
  output : List UInt8 := []
  /-- What it wrote to its standard error. -/
  errors : List UInt8 := []
  /-- How it ended. -/
  ending : Ending
  deriving Repr

/-- The text of what a checker wrote. -/
def written (bytes : List UInt8) : Except Failure (List Char) :=
  match Text.Utf8.decode bytes with
  | .ok text => .ok (Text.unifyNewlines text)
  | .error fault => .error (.undecodable fault)

/-- How much of an output a failure quotes. -/
def quotedLength : Nat := 500

/-- **The number of errors of a file**, from a run of its checker. -/
def Command.answer (c : Command) (file : String) (run : Run) : Except Failure Nat := do
  match run.ending with
  | .timedOut => throw (.checker s!"Checker timed out after {c.timeout}s on {file}")
  | .exited code =>
    let text := (← written run.output) ++ (← written run.errors)
    if c.okExitCodes.contains code then
      match countErrors text with
      | .ok count => return count
      | .error digits => throw (.tooManyDigits digits)
    else
      let quoted := String.ofList ((Text.trim text).take quotedLength)
      throw (.checker s!"Checker exited with code {code} on {file}: {quoted}")

end Ratchet.Checker
