import Ratchet.Calendar
import Ratchet.CommandLine.Run

/-!
# The program

The outer layer: it reads the files below the working directory, runs the
command line on them, prints what it has to say, and writes the files that
have changed. It starts no programs, so every checker is one that is not found.
-/

namespace Ratchet.Main

open Ratchet

/-- A file or directory of the disk. A file that starts as a script can be
run. -/
partial def load (entry : IO.FS.DirEntry) : IO (String × Node) := do
  if ← entry.path.isDir then
    let entries ← entry.path.readDir
    return (entry.fileName, .directory (← entries.toList.mapM load))
  else
    let content ← IO.FS.readBinFile entry.path
    let isScript := content.toList.take 2 = [35, 33]
    return (entry.fileName, .file content isScript)

/-- The file system with the working directory in it. -/
def loadHere : IO FileSystem := do
  let here ← IO.currentDir
  let entries ← here.readDir
  let cwd := (Path.ofString here.toString).parts
  let node := Node.directory (← entries.toList.mapM load)
  return { root := Node.empty.put cwd node, cwd }

/-- Write what is new or has changed. -/
def save (old new : FileSystem) : IO Unit := do
  for (names, node) in new.root.descendants do
    let path := (Path.ofParts names).toString
    match node, Node.follow [] old.root names with
    | .directory _, .ok (.directory _) => pure ()
    | .directory _, _ => IO.FS.createDirAll path
    | .file content _, .ok (.file before _) =>
      if content != before then IO.FS.writeBinFile path content
    | .file content _, _ => IO.FS.writeBinFile path content

/-- The time, which is that of a file made for the purpose. -/
def now : IO String := do
  let (_, path) ← IO.FS.createTempFile
  let time := (← path.metadata).modified
  IO.FS.removeFile path
  return momentText time.sec.toNat (time.nsec.toNat / 1000)

end Ratchet.Main

/-- Run the command line. -/
def main (words : List String) : IO UInt32 := do
  let fs ← Ratchet.Main.loadHere
  let checker ← IO.getEnv "STRICT_MIGRATE_MYPY"
  let around : Ratchet.CommandLine.Surroundings :=
    { now := ← Ratchet.Main.now, strictChecker := checker,
      system := fun _ _ _ _ => .error (.file .missing), cacheAt := fun n => s!"cache-{n}" }
  let out := Ratchet.CommandLine.run around fs words
  IO.print out.output
  Ratchet.Main.save fs out.fs
  match out.broken with
  | some cause => IO.eprintln ("Failed: " ++ cause.message)
  | none => pure ()
  return out.exitCode.toUInt32
