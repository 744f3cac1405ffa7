import Mathlib.Data.List.Induction
import Ratchet.Proofs.FileSystem.Write

/-!
# Paths that are too long

A question about a path has no answer where the path or a name on its way is too
long, and only there. A walk asks about all that it meets, so one such path keeps
it from coming to an end.

* `IsTooLong`: the paths that cannot be asked about.
* `ask_eq_error`: a path about which no question is answered.
* `IsShort`: a directory at and below which every path can be asked about.
* `askAll_eq_ok`: a walk that comes to its end.
* `deepPlace`: a place below which paths are too long.
-/

namespace Ratchet

namespace Node

variable {n c : Node} {parts : List String}

/-- On the way to something, a name that is too long is in the way. -/
theorem follow_of_long (up : List Node) (hup : ".." ∉ parts) (h : n.get? parts = some c)
    (hlong : ∃ part ∈ parts, 255 < part.utf8ByteSize) :
    follow up n parts = .error .nameTooLong := by
  induction parts generalizing up n with
  | nil => simp at hlong
  | cons part parts ih =>
    have hpart : part ≠ ".." := fun hpart => hup (hpart ▸ .head _)
    obtain ⟨child, hchild, hget⟩ := Option.bind_eq_some_iff.mp h
    by_cases hsize : part.utf8ByteSize ≤ 255
    · have hgoes : Goes part up n (n :: up) child := .on hpart hsize hchild
      rw [hgoes.follow_eq]
      refine ih (n :: up) (fun hmem => hup (.tail _ hmem)) hget ?_
      simpa [Nat.not_lt.mpr hsize] using hlong
    · have hstuck : Stuck part n .nameTooLong :=
        .nameTooLong (isDirectory_of_lookup hchild) hpart (Nat.not_le.mp hsize)
      exact hstuck.follow_eq up parts

end Node

namespace FileSystem

variable {fs fs' : FileSystem} {p : Path} {ps : List Path} {names place start : List String}
  {c : Node}

/-! ## One path -/

/-- Nothing is found at a path that is too long as a whole, and where one of its names
does not lead on. -/
theorem find_eq_error {fault : FileFault} (h : fs.find p = .error fault) :
    (fault = .nameTooLong ∧ 4096 ≤ p.toString.utf8ByteSize) ∨
      ∃ part ∈ fs.walk p, ∃ n, Node.Stuck part n fault := by
  rw [find] at h
  split at h
  · rename_i hlong
    cases h
    exact .inl ⟨rfl, hlong⟩
  · exact .inr (Node.exists_stuck h)

/-- A question has no answer only where a name or the path as a whole is too
long. -/
theorem ask_eq_error {question : Node → Bool} {cause : Failure} :
    fs.ask p question = .error cause ↔
      cause = .file .nameTooLong ∧ p.hasNull = false ∧ fs.find p = .error .nameTooLong := by
  unfold ask
  split
  · rename_i hnull
    simp [hnull]
  · rename_i hnull
    cases hfault : fs.find p with
    | ok n => simp
    | error fault =>
      -- the two other faults mean that there is nothing, and that is an answer
      obtain ⟨rfl, -⟩ | ⟨part, -, n, hstuck⟩ := find_eq_error hfault
      · simp [hnull, eq_comm]
      · cases hstuck with
        | notDirectory => simp
        | missing => simp
        | nameTooLong => simp [hnull, eq_comm]

/-- A path that is too long, as a whole or in one of the names on its way. -/
def IsTooLong (fs : FileSystem) (p : Path) : Prop :=
  4096 ≤ p.toString.utf8ByteSize ∨ ∃ part ∈ fs.walk p, 255 < part.utf8ByteSize

/-- To find no file because of the length of a name is to have one. -/
theorem isTooLong_of_find (h : fs.find p = .error .nameTooLong) : fs.IsTooLong p := by
  obtain ⟨-, hlong⟩ | ⟨part, hpart, n, hstuck⟩ := find_eq_error h
  · exact .inl hlong
  · cases hstuck with
    | nameTooLong _ _ hsize => exact .inr ⟨part, hpart, hsize⟩

/-- Only about a path that is too long there is no answer. -/
theorem isTooLong_of_ask {question : Node → Bool} {cause : Failure}
    (h : fs.ask p question = .error cause) : cause = .file .nameTooLong ∧ fs.IsTooLong p := by
  obtain ⟨rfl, -, hfind⟩ := ask_eq_error.mp h
  exact ⟨rfl, isTooLong_of_find hfind⟩

/-- Nothing is found where a path leads that is too long. -/
theorem find_of_isTooLong (hup : ".." ∉ names) (hc : fs.root.get? names = some c)
    (hlong : fs.IsTooLong (.ofParts names)) : fs.find (.ofParts names) = .error .nameTooLong := by
  rw [find]
  split
  · rfl
  · rename_i hsize
    exact Node.follow_of_long [] hup hc (hlong.resolve_left hsize)

/-- What is found is not too long. -/
theorem not_isTooLong_of_find (hup : ".." ∉ names) (h : fs.find (.ofParts names) = .ok c) :
    ¬ fs.IsTooLong (.ofParts names) := by
  obtain ⟨hsize, hfollow⟩ := find_eq_ok.mp h
  rintro (hlong | ⟨part, hpart, hlong⟩)
  · omega
  · exact absurd ((Node.get?_of_follow hup hfollow).2 part hpart) (Nat.not_le.mpr hlong)

/-- What leads to a place that is not too long is not too long. -/
theorem isTooLong_of_prefix (hinit : names <+: place) (h : fs.IsTooLong (.ofParts names)) :
    fs.IsTooLong (.ofParts place) := by
  obtain ⟨more, rfl⟩ := hinit
  induction more using List.reverseRecOn with
  | nil => rwa [List.append_nil]
  | append_singleton more name ih =>
    have hparent : (Path.ofParts (names ++ (more ++ [name]))).parent =
        .ofParts (names ++ more) := by
      rw [← List.append_assoc]
      exact congrArg Path.ofParts List.dropLast_concat
    obtain hsize | ⟨part, hpart, hsize⟩ := ih
    · left
      by_contra hshort
      have := Path.size_parent (Nat.not_le.mp hshort)
      rw [hparent] at this
      omega
    · rw [← List.append_assoc]
      exact .inr ⟨part, List.mem_append_left _ hpart, hsize⟩

/-! ## All that a walk meets -/

/-- All paths can be asked for when each can. -/
theorem askAll_eq_ok : fs.askAll ps = .ok () ↔ ∀ p ∈ ps, ∃ b, fs.occurs p = .ok b := by
  induction ps with
  | nil => simp [askAll]
  | cons p ps ih =>
    rw [askAll, List.forall_mem_cons, ← ih]
    cases fs.occurs p <;> simp [bind, Except.bind]

/-- **A directory can be asked about, and so can everything below it.** -/
def IsShort (fs : FileSystem) (start : List String) : Prop :=
  ∀ names c, fs.root.get? (start ++ names) = some c → ¬ fs.IsTooLong (.ofParts (start ++ names))

end FileSystem

/-! ## A place that is deep -/

/-- A long name, which a file may have. -/
def longName : String :=
  .ofList (List.replicate 254 'd')

/-- The names of a directory that is sixteen levels deep. -/
def deepPlace : List String :=
  List.replicate 16 longName

/-- The names of the way to a file in that directory are what a test holds of. -/
theorem forall_mem_deepPlace {q : String → Prop} {name : String} (hlong : q longName)
    (hname : q name) : ∀ part ∈ deepPlace ++ [name], q part := by
  intro part hpart
  obtain hpart | hpart := List.mem_append.mp hpart
  · exact List.eq_of_mem_replicate hpart ▸ hlong
  · exact List.mem_singleton.mp hpart ▸ hname

theorem toList_longName : longName.toList = List.replicate 254 'd' :=
  String.toList_ofList

theorem longName_ne {s : String} (h : s.toList.length ≠ 254) : longName ≠ s := by
  rintro rfl
  rw [toList_longName, List.length_replicate] at h
  exact h rfl

theorem notMem_longName {c : Char} (h : c ≠ 'd') : c ∉ longName.toList := by
  rw [toList_longName]
  exact fun hmem => h (List.eq_of_mem_replicate hmem)

theorem size_longName : longName.utf8ByteSize = 254 := by
  decide +kernel

/-- How long the path of a file in the deep place is. -/
theorem size_deepPlace (name : String) :
    (Path.ofParts (deepPlace ++ [name])).toString.utf8ByteSize = 4081 + name.utf8ByteSize := by
  have hslash : "/".utf8ByteSize = 1 := by decide
  have hslashed : ∀ n, (Path.slashed (List.replicate n longName ++ [name])).utf8ByteSize =
      n * 255 + name.utf8ByteSize := by
    intro n
    induction n with
    | zero => simp [Path.slashed]
    | succ n ih =>
      obtain ⟨next, rest, hrest⟩ :
          ∃ next rest, List.replicate n longName ++ [name] = next :: rest :=
        List.exists_cons_of_ne_nil (by simp)
      rw [Path.slashed, hrest] at ih
      rw [List.replicate_succ, List.cons_append, hrest, Path.slashed, String.intercalate_cons_cons,
        String.utf8ByteSize_append, String.utf8ByteSize_append, ih, size_longName, hslash]
      omega
  have htext : (Path.ofParts (deepPlace ++ [name])).toString =
      "/" ++ Path.slashed (List.replicate 16 longName ++ [name]) := by
    rw [Path.toString, if_neg (by simp [Path.ofParts])]
    rfl
  rw [htext, String.utf8ByteSize_append, hslashed, hslash]
  omega

theorem hasNull_deepPlace {name : String} (h : '\x00' ∉ name.toList) :
    (Path.ofParts (deepPlace ++ [name])).hasNull = false :=
  Path.hasNull_eq_false.mpr (forall_mem_deepPlace (notMem_longName (by decide)) h)

end Ratchet
