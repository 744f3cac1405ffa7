import Ratchet.Failure

/-!
# Checkers

What a campaign and a report need of a checker: sessions, and the number of
errors of a file. The functions work on a state of any type.
-/

namespace Ratchet

/-- A checker at work. -/
structure Checker (σ : Type) where
  /-- Open a checking session. -/
  start : σ → σ
  /-- The number of errors of a file. -/
  check : String → σ → Except Failure Int × σ
  /-- Close the checking session. -/
  stop : σ → σ

namespace Checker

variable {σ : Type}

/-- The number of errors of some files, up to the first that cannot be
checked. -/
def checkAll (c : Checker σ) : List String → σ → Except Failure (List (String × Int)) × σ
  | [], w => (.ok [], w)
  | file :: files, w =>
    match c.check file w with
    | (.error cause, w) => (.error cause, w)
    | (.ok count, w) =>
      match c.checkAll files w with
      | (.error cause, w) => (.error cause, w)
      | (.ok counts, w) => (.ok ((file, count) :: counts), w)

/-- **Check files inside a session**, which is closed in any case. -/
def session (c : Checker σ) (files : List String) (w : σ) :
    Except Failure (List (String × Int)) × σ :=
  let (answer, w) := c.checkAll files (c.start w)
  (answer, c.stop w)

end Checker

end Ratchet
