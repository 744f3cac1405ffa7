import Ratchet.Proofs.FileSystem.Extension

/-!
# Places

A path leads to a place by its names alone: a name goes on, and `..` goes back. What
is found at the path stands at that place. The path may not be followed at all, since
every name on the way has to lead to a directory, also one that is gone back from.

* `IsPlace`: a path in words that is the text of its place.
* `along_of_find`: what is found at a path stands at its place.
* `isFile_child`: whether there is a file in a directory that has been found.
-/

namespace Ratchet

namespace Node

variable {root n c : Node} {up : List Node} {at_ parts : List String} {name : String}

/-- A node, the names that lead to it from a root and the directories passed on the
way, the latest first. -/
inductive Along (root : Node) : List Node → List String → Node → Prop where
  /-- No name leads to the root. -/
  | start : Along root [] [] root
  /-- One more name, in the directory reached so far. -/
  | down {up : List Node} {at_ : List String} {n c : Node} {name : String}
      (h : Along root up at_ n) (hc : n.entries.lookup name = some c) :
      Along root (n :: up) (at_ ++ [name]) c

theorem Along.get? (h : Along root up at_ n) : root.get? at_ = some n := by
  induction h with
  | start => rfl
  | down _ hc ih => rw [get?_append, ih, Option.bind_some, get?_singleton, hc]

/-- One name goes on to the next place, or back. -/
theorem Along.goes {part : String} {up' : List Node} (h : Along root up at_ n)
    (hgoes : Goes part up n up' c) : Along root up' (Path.follow at_ part) c := by
  cases hgoes with
  | top _ hpart =>
    cases h
    subst hpart
    exact .start
  | back _ hpart =>
    cases h with
    | down h =>
      subst hpart
      rw [Path.follow, if_pos rfl, List.dropLast_concat]
      exact h
  | on hpart _ hc =>
    rw [Path.follow, if_neg hpart]
    exact h.down hc

/-- **Following names goes from place to place**, and where it ends it can go on. -/
theorem Along.follow (h : Along root up at_ n) (hc : follow up n parts = .ok c) :
    ∃ up', Along root up' (Path.followAll at_ parts) c ∧
      ∀ more, Node.follow up n (parts ++ more) = Node.follow up' c more := by
  induction parts generalizing up at_ n with
  | nil =>
    cases hc
    exact ⟨up, h, fun _ => rfl⟩
  | cons part parts ih =>
    obtain ⟨up', m, hgoes, hrest⟩ := goes_of_follow hc
    simp only [List.cons_append, hgoes.follow_eq, Path.followAll, List.foldl_cons]
    exact ih (h.goes hgoes) hrest

end Node

namespace FileSystem

variable {fs fs' : FileSystem} {file name : String} {p : Path} {n : Node}
  {es : List (String × Node)}

/-! ## Paths in words -/

/-- A path in words that is the text of the place it leads to. -/
def IsPlace (fs : FileSystem) (file : String) : Prop :=
  ∃ p, fs.resolve (Path.ofString file) = .ok p ∧ p.toString = file

theorem isPlace_of_toString (hnull : (Path.ofString file).hasNull = false)
    (htext : ((Path.ofString file).resolve fs.cwd).toString = file) : fs.IsPlace file :=
  ⟨_, resolve_eq_ok.mpr ⟨hnull, rfl⟩, htext⟩

/-- Which paths are places depends on the working directory only. -/
theorem IsPlace.congr (h : fs.IsPlace file) (hcwd : fs'.cwd = fs.cwd) : fs'.IsPlace file := by
  obtain ⟨p, hp, hfile⟩ := h
  exact ⟨p, (resolve_congr hcwd _).trans hp, hfile⟩

/-- What is known of a place that is written out in full. -/
theorem place_of_resolve (h : fs.resolve (Path.ofString file) = .ok p) (hp : p.toString = file) :
    p = .ofParts p.parts ∧ (∀ part ∈ p.parts, Path.IsName part) ∧ ".." ∉ p.parts ∧
      p.hasNull = false := by
  obtain ⟨hnull, rfl⟩ := resolve_eq_ok.mp h
  -- the text of a place starts with a slash, so the working directory plays no part in it
  have habs : (Path.ofString file).isAbsolute = true := by
    obtain ⟨rest, hrest⟩ : ∃ rest, file.toList = '/' :: rest := by
      rw [← hp, Path.toString, if_neg (by simp [Path.resolve, Path.ofParts]), String.toList_append]
      exact ⟨_, congrArg (· ++ _) (show "/".toList = ['/'] from rfl)⟩
    have hanchor : Path.anchorOf file.toList ≠ "" := by
      rw [hrest]
      unfold Path.anchorOf
      split <;> simp_all
    simpa [Path.isAbsolute, Path.ofString] using hanchor
  have hparts : ((Path.ofString file).resolve fs.cwd).parts =
      Path.followAll [] (Path.ofString file).parts := by
    rw [Path.resolve, if_pos habs]
    rfl
  have hmem : ∀ part ∈ ((Path.ofString file).resolve fs.cwd).parts,
      part ∈ (Path.ofString file).parts := fun part hpart =>
    (Path.mem_of_mem_followAll (hparts ▸ hpart)).resolve_left (by simp)
  refine ⟨rfl, fun part hpart => Path.isName_of_mem_ofString (hmem part hpart), ?_, ?_⟩
  · rw [hparts]
    exact Path.notMem_followAll (by simp) _
  · rw [Path.hasNull, List.any_eq_false] at hnull ⊢
    exact fun part hpart => hnull part (hmem part hpart)

/-! ## What is found at a path -/

/-- Whether there is a file at a place. -/
def hasFile (fs : FileSystem) (place : List String) : Bool :=
  (fs.root.get? place).any (!·.isDirectory)

section

variable (hcwd : ".." ∉ fs.cwd)

include hcwd

/-- Walking a path ends at what it resolves to. -/
theorem followAll_walk (p : Path) :
    Path.followAll [] (fs.walk p) = (p.resolve fs.cwd).parts := by
  rw [walk, Path.resolve]
  split
  · rfl
  · rw [Path.followAll_append, Path.followAll_eq_append [] hcwd]
    rfl

/-- **What is found at a path stands at its place**, and from there it is gone on. -/
theorem along_of_find (h : fs.find p = .ok n) :
    ∃ up, Node.Along fs.root up (p.resolve fs.cwd).parts n ∧
      ∀ more, Node.follow [] fs.root (fs.walk p ++ more) = Node.follow up n more := by
  rw [← followAll_walk hcwd]
  exact Node.Along.start.follow (find_eq_ok.mp h).2

/-- **Whether there is a file in a directory** is told by its entries, unless the path
of the file is too long. -/
theorem isFile_child (h : fs.isDirectory p = .ok true) (hup : name ≠ "..")
    (hnull : '\x00' ∉ name.toList) (hsize : name.utf8ByteSize ≤ 255) :
    fs.isFile (p.child name) =
      if 4096 ≤ (p.child name).toString.utf8ByteSize then .error (.file .nameTooLong)
      else .ok (fs.hasFile ((p.resolve fs.cwd).parts ++ [name])) := by
  obtain ⟨hpnull, es, hes⟩ := isDirectory_eq_true.mp h
  obtain ⟨up, halong, hmore⟩ := along_of_find hcwd hes
  have hchildnull : (p.child name).hasNull = false := by
    refine Path.hasNull_eq_false.mpr fun part hpart => ?_
    obtain hpart | hpart := List.mem_append.mp hpart
    · exact Path.hasNull_eq_false.mp hpnull part hpart
    · rwa [List.mem_singleton.mp hpart]
  have hwalk : fs.walk (p.child name) = fs.walk p ++ [name] := by
    unfold walk
    change (if p.isAbsolute then p.parts ++ [name] else fs.cwd ++ (p.parts ++ [name])) = _
    split
    · rfl
    · rw [List.append_assoc]
  have hfollow : Node.follow [] fs.root (fs.walk (p.child name)) =
      (es.lookup name).elim (.error .missing) .ok := by
    rw [hwalk, hmore]
    cases hc : es.lookup name with
    | none => exact (Node.Stuck.missing (n := .directory es) rfl hup hsize hc).follow_eq up []
    | some c => exact (Node.Goes.on (n := .directory es) hup hsize hc).follow_eq []
  have hget : fs.root.get? ((p.resolve fs.cwd).parts ++ [name]) = es.lookup name := by
    rw [Node.get?_append, halong.get?, Option.bind_some, Node.get?_singleton]
    rfl
  rw [isFile, ask, hchildnull, if_neg (by simp), find, hfollow, hasFile, hget]
  by_cases hlong : 4096 ≤ (p.child name).toString.utf8ByteSize
  · rw [if_pos hlong, if_pos hlong]
  · rw [if_neg hlong, if_neg hlong]
    cases es.lookup name <;> rfl

end

end FileSystem

end Ratchet
