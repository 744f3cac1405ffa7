import Ratchet.Checker
import Ratchet.Checker.Command

/-!
# Checking sessions

A checker that keeps a cache gets a new directory for it when a session
starts, and loses the directory when the session stops. A session that starts
inside another leaves the directory of the other behind. What starts the
programs, a `System`, is not part of a session but given to it.
-/

namespace Ratchet.Checker

/-- What runs the words of a command line: it is given the files, the directory
to run in and the text of the time allowed, and tells how the run went and what
files it leaves, or why there was none. -/
abbrev System :=
  FileSystem → Path → String → List String → Except Failure (Run × FileSystem)

/-- A checker at work. The caches are numbered as they are made. -/
structure Session where
  /-- The checker. -/
  command : Command
  /-- Where each cache lies. -/
  directories : Nat → String
  /-- The cache in use. -/
  cache : Option Nat := none
  /-- The caches that exist. -/
  caches : List Nat := []
  /-- How many caches have been made. -/
  made : Nat := 0

namespace Session

/-- Start a session. -/
def start (s : Session) : Session :=
  if s.command.caches then
    { s with cache := some s.made, caches := s.made :: s.caches, made := s.made + 1 }
  else s

/-- Stop the session. -/
def stop (s : Session) : Session :=
  match s.cache with
  | none => s
  | some n => { s with cache := none, caches := s.caches.filter (· ≠ n) }

/-- Where the cache in use lies. -/
def cacheDirectory (s : Session) : Option String :=
  s.cache.map s.directories

/-- The arguments with which a file is checked. -/
def arguments (s : Session) (fs : FileSystem) (file : String) : Except Failure (List String) :=
  s.command.arguments fs s.cacheDirectory file

variable (system : System)

/-- **Check a file**: the number of its errors, and the files as the checker
leaves them. -/
def check (s : Session) (fs : FileSystem) (file : String) : Except Failure Nat × FileSystem :=
  match s.arguments fs file with
  | .error cause => (.error cause, fs)
  | .ok args =>
    match system fs s.command.cwd s.command.timeout args with
    | .error (.file .missing) =>
      let name := args.headD ""
      (.error (.checker s!"Checker executable not found: {name}"), fs)
    | .error cause => (.error cause, fs)
    | .ok (run, fs) => (s.command.answer file run, fs)

/-- A session as a checker on a file system. -/
def checker : Checker (FileSystem × Session) where
  start := fun (fs, s) => (fs, s.start)
  check := fun file (fs, s) =>
    let (answer, fs) := s.check system fs file
    (answer.map Int.ofNat, fs, s)
  stop := fun (fs, s) => (fs, s.stop)

end Session

end Ratchet.Checker
