import Ratchet.Ascending

/-!
# The checked set

The files that have passed the stricter check. The set only grows:
`CheckedSet.insertAll` is its one operation, and tells which files were new.
-/

namespace Ratchet

/-- A set of files, listed in ascending order. -/
structure CheckedSet where
  /-- The files, each once, ascending. -/
  files : List String := []
  deriving Repr, DecidableEq

namespace CheckedSet

/-- The set of the files of a list. -/
def ofList (files : List String) : CheckedSet where
  files := ascending files

/-- Whether a file is checked. -/
def contains (s : CheckedSet) (file : String) : Bool :=
  s.files.contains file

/-- The number of checked files. -/
def size (s : CheckedSet) : Nat :=
  s.files.length

/-- The files of a list that are not checked yet, ascending. -/
def missing (s : CheckedSet) (files : List String) : List String :=
  ascending (files.filter fun f => !s.contains f)

/-- **Add files**, and list those that were new, ascending. -/
def insertAll (s : CheckedSet) (files : List String) : List String × CheckedSet :=
  let new := s.missing files
  (new, .ofList (new ++ s.files))

/-! ## Membership -/

variable {s : CheckedSet} {files : List String} {f : String}

theorem contains_iff : s.contains f ↔ f ∈ s.files :=
  List.contains_iff_mem

theorem mem_ofList : f ∈ (ofList files).files ↔ f ∈ files :=
  mem_ascending

theorem mem_missing : f ∈ s.missing files ↔ f ∈ files ∧ f ∉ s.files := by
  rw [missing, mem_ascending, List.mem_filter, Bool.not_eq_true', ← Bool.not_eq_true,
    contains_iff]

theorem mem_insertAll : f ∈ (s.insertAll files).2.files ↔ f ∈ s.files ∨ f ∈ s.missing files := by
  rw [insertAll, mem_ofList, List.mem_append, or_comm]

end CheckedSet

end Ratchet
