import Ratchet.Failure
import Ratchet.Warning

/-!
# Findings

A `Finding` is what looking for imported files has brought: the files, the
warnings, and the failure that ended the search, if one did. Findings are
joined in order, and nothing is looked for after a failure.
-/

namespace Ratchet

/-- What a search for imported files has brought. -/
structure Finding where
  /-- The files found. -/
  targets : List String := []
  /-- The warnings, in order. -/
  warnings : List Warning := []
  /-- What ended the search early. -/
  failure : Option Failure := none
  deriving Repr

namespace Finding

/-- One search after another. -/
def andThen (a b : Finding) : Finding :=
  match a.failure with
  | some _ => a
  | none =>
    { targets := a.targets ++ b.targets
      warnings := a.warnings ++ b.warnings
      failure := b.failure }

/-- Searches in order. -/
def all (findings : List Finding) : Finding :=
  findings.foldr andThen {}

/-- A search that only fails. -/
def failed (cause : Failure) : Finding where
  failure := some cause

/-- What has been found: a file, a warning in its place, or a failure. -/
def ofResult (found : Except Failure (Option String)) (otherwise : List Warning) : Finding :=
  match found with
  | .ok (some target) => { targets := [target] }
  | .ok none => { warnings := otherwise }
  | .error cause => failed cause

/-- The result of a search: the files, unless it failed. -/
def result (f : Finding) : Except Failure (List String) :=
  match f.failure with
  | some cause => .error cause
  | none => .ok f.targets

end Finding

end Ratchet
