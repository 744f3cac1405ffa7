/-!
# Warnings

What is reported without ending an operation.
-/

namespace Ratchet

/-- A warning. -/
inductive Warning where
  /-- The imports of a file could not be had. -/
  | extractionFailed (file : String)
  /-- A file is not a program. -/
  | unparsable (file : String)
  /-- A relative import leads out of the package that holds everything. -/
  | beyondTop (file : String) (line : Nat)
  /-- An import that should lead to a file of the project leads to none. -/
  | unresolved (name file : String)
  /-- A directory is imported through its index. -/
  | barrel (directory : String)
  /-- An import leads to a file that is not tracked. -/
  | untracked (target file : String)
  deriving Repr, DecidableEq

/-- The text of a warning. -/
def Warning.text : Warning → String
  | .extractionFailed file => s!"Import extraction failed for {file}"
  | .unparsable file => s!"Could not parse {file}"
  | .beyondTop file line =>
    s!"Relative import beyond top-level package in {file} (line {line})"
  | .unresolved name file => s!"Unresolved import {name} in {file}"
  | .barrel directory => s!"Barrel import: {directory}"
  | .untracked target file => s!"Dropping import of untracked file {target} in {file}"

end Ratchet
