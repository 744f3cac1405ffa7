import Ratchet.Proofs.FileSystem.Tree
import Ratchet.Proofs.Path
import Ratchet.Proofs.Text.Plain

/-!
# Writing a file

What is written at a path is found there again, and only what a file holds
changes: no other question about a path gets another answer. A directory that
exists is not made again.

* `Alike`: file systems that give the same answers about every path.
* `makeDirectory_of_find`: making a directory that exists.
* `alike_write`: writing over a file.
* `readText_writeText`: what is written is read again.
-/

namespace Ratchet

namespace Path

variable {p : Path} {cwd : List String}

theorem hasNull_parent (h : p.hasNull = false) : p.parent.hasNull = false := by
  rw [hasNull, List.any_eq_false] at h ⊢
  exact fun part hpart => h part (List.dropLast_subset _ hpart)

theorem size_slashed_dropLast (parts : List String) :
    (slashed parts.dropLast).utf8ByteSize ≤ (slashed parts).utf8ByteSize := by
  induction parts with
  | nil => exact Nat.le_refl _
  | cons part parts ih =>
    cases parts with
    | nil => exact Nat.zero_le _
    | cons next parts =>
      rw [List.dropLast_cons_cons]
      rw [slashed, slashed, String.intercalate_cons_cons]
      cases hrest : (next :: parts).dropLast with
      | nil =>
        simp only [String.intercalate_singleton, String.utf8ByteSize_append]
        omega
      | cons q qs =>
        rw [hrest] at ih
        rw [String.intercalate_cons_cons]
        simp only [slashed, String.utf8ByteSize_append] at ih ⊢
        omega

/-- The text of a path is no longer without the last name. -/
theorem size_parent (h : p.toString.utf8ByteSize < 4096) :
    p.parent.toString.utf8ByteSize < 4096 := by
  have hle := size_slashed_dropLast p.parts
  have hsize : (p.anchor ++ slashed p.parts).utf8ByteSize < 4096 := by
    rw [toString] at h
    split at h
    · rename_i hempty
      rw [hempty.1, hempty.2]
      decide
    · exact h
  rw [toString, parent]
  split
  · decide
  · rw [String.utf8ByteSize_append] at hsize ⊢
    dsimp only
    omega

theorem resolve_of_isAbsolute (habs : p.isAbsolute = true) (hup : ".." ∉ p.parts) :
    p.resolve cwd = ofParts p.parts := by
  rw [resolve, if_pos habs, followAll_eq_append _ hup, List.nil_append]

end Path

namespace FileSystem

variable {fs fs' : FileSystem} {p q : Path} {n : Node} {content : ByteArray}

/-! ## Answers -/

/-- A path finds a node when it is short enough and leads there. -/
theorem find_eq_ok : fs.find p = .ok n ↔
    p.toString.utf8ByteSize < 4096 ∧ Node.follow [] fs.root (fs.walk p) = .ok n := by
  rw [find]
  split
  · rename_i hsize
    exact ⟨fun h => (nomatch h), fun h => absurd hsize (Nat.not_le.mpr h.1)⟩
  · rename_i hsize
    exact ⟨fun h => ⟨Nat.not_le.mp hsize, h⟩, fun h => h.2⟩

/-- What stands somewhere lies in a directory. -/
theorem find_parent (h : fs.find p = .ok n) (hne : p.parts ≠ []) :
    ∃ es, fs.find p.parent = .ok (.directory es) := by
  obtain ⟨hsize, hfollow⟩ := find_eq_ok.mp h
  have hwalk : fs.walk p = fs.walk p.parent ++ [p.parts.getLast hne] := by
    have hparts := List.dropLast_append_getLast hne
    unfold walk
    change _ = (if p.isAbsolute then p.parts.dropLast else fs.cwd ++ p.parts.dropLast) ++ _
    split
    · exact hparts.symm
    · rw [List.append_assoc, hparts]
  rw [hwalk] at hfollow
  obtain ⟨m, hm, hdirectory⟩ := Node.follow_append hfollow
  cases m with
  | file => cases hdirectory
  | directory es => exact ⟨es, find_eq_ok.mpr ⟨Path.size_parent hsize, hm⟩⟩

/-- Resolving a path takes the working directory only. -/
theorem resolve_congr (hcwd : fs.cwd = fs'.cwd) (p : Path) : fs.resolve p = fs'.resolve p := by
  rw [resolve, resolve, hcwd]

theorem resolve_eq_ok : fs.resolve p = .ok q ↔ p.hasNull = false ∧ p.resolve fs.cwd = q := by
  rw [resolve]
  split <;> simp_all

/-- A path is resolved to names that do not go back. -/
theorem exists_of_resolve (hcwd : ".." ∉ fs.cwd) (h : fs.resolve p = .ok q) :
    ∃ parts, q = .ofParts parts ∧ ".." ∉ parts := by
  obtain ⟨-, rfl⟩ := resolve_eq_ok.mp h
  refine ⟨_, rfl, Path.notMem_followAll ?_ _⟩
  split
  · simp
  · exact hcwd

/-- A question about a path is answered by what stands there. -/
theorem ask_eq_true {question : Node → Bool} : fs.ask p question = .ok true ↔
    p.hasNull = false ∧ ∃ n, fs.find p = .ok n ∧ question n = true := by
  unfold ask
  split
  · rename_i hnull
    simp [hnull]
  · rename_i hnull
    cases hfind : fs.find p with
    | ok n => simp [hnull]
    | error fault => cases fault <;> simp

/-- A path is one of a directory when it finds one. -/
theorem isDirectory_eq_true : fs.isDirectory p = .ok true ↔
    p.hasNull = false ∧ ∃ es, fs.find p = .ok (.directory es) := by
  refine ask_eq_true.trans (and_congr_right fun _ => ⟨?_, ?_⟩)
  · rintro ⟨n, hn, hdirectory⟩
    cases n with
    | file => cases hdirectory
    | directory es => exact ⟨es, hn⟩
  · rintro ⟨es, hes⟩
    exact ⟨_, hes, rfl⟩

/-- Two trees give the same answers about a path. -/
structure AgreeAt (fs fs' : FileSystem) (p : Path) : Prop where
  isFile : fs.isFile p = fs'.isFile p
  isDirectory : fs.isDirectory p = fs'.isDirectory p

/-- A file system as it can be: no directory holds a name twice, and the names
that lead to the working directory do not go back. -/
structure Proper (fs : FileSystem) : Prop where
  root : fs.root.Proper
  cwd : ".." ∉ fs.cwd

theorem Proper.find (h : fs.Proper) (hn : fs.find p = .ok n) : n.Proper :=
  Node.proper_follow (by simp) h.root (find_eq_ok.mp hn).2

/-- File systems that give the same answers about every path. -/
structure Alike (fs fs' : FileSystem) : Prop where
  root : fs.root.Alike fs'.root
  cwd : fs.cwd = fs'.cwd

namespace Alike

theorem trans {fs₁ : FileSystem} (h : fs.Alike fs₁) (h' : fs₁.Alike fs') : fs.Alike fs' :=
  ⟨fun names => (h.root names).trans (h'.root names), h.cwd.trans h'.cwd⟩

variable (h : fs.Alike fs')

include h

/-- A path finds alike nodes among files that are alike. -/
theorem find (p : Path) : Node.SameFind (fs.find p) (fs'.find p) := by
  rw [FileSystem.find, FileSystem.find, walk, walk, h.cwd]
  split
  · exact .error _
  · exact Node.follow_alike .nil h.root _

/-- What is found in both, where no directory holds a name twice. -/
theorem find_cases (hfs : fs.Proper) (hfs' : fs'.Proper) (p : Path) :
    (∃ fault, fs.find p = .error fault ∧ fs'.find p = .error fault) ∨
      ∃ n n', fs.find p = .ok n ∧ fs'.find p = .ok n' ∧ n.Alike n' ∧ n.Proper ∧ n'.Proper := by
  have hfind := h.find p
  cases hn : fs.find p with
  | error fault =>
    rw [hn] at hfind
    generalize fs'.find p = found' at hfind ⊢
    cases hfind
    exact .inl ⟨fault, rfl, rfl⟩
  | ok n =>
    cases hn' : fs'.find p with
    | error fault =>
      rw [hn, hn'] at hfind
      cases hfind
    | ok n' =>
      rw [hn, hn'] at hfind
      cases hfind with
      | ok halike => exact .inr ⟨n, n', rfl, rfl, halike, hfs.find hn, hfs'.find hn'⟩

/-- Files that are alike answer a question alike, if their nodes do. -/
theorem ask {question : Node → Bool} (hquestion : ∀ {n n'}, n.Alike n' → question n = question n')
    (p : Path) : fs.ask p question = fs'.ask p question := by
  have hfind := h.find p
  rw [FileSystem.ask, FileSystem.ask]
  generalize fs.find p = found at hfind ⊢
  generalize fs'.find p = found' at hfind ⊢
  cases hfind with
  | error fault => rfl
  | ok hn => simp only [hquestion hn]

theorem occurs (p : Path) : fs.occurs p = fs'.occurs p :=
  h.ask (fun _ => rfl) p

theorem isDirectory (p : Path) : fs.isDirectory p = fs'.isDirectory p :=
  h.ask (fun hn => hn.isDirectory_eq) p

theorem isFile (p : Path) : fs.isFile p = fs'.isFile p :=
  h.ask (fun hn => by rw [hn.isDirectory_eq]) p

end Alike

/-! ## Making directories -/

/-- Making one directory does not change the working directory. -/
theorem cwd_makeOne (h : fs.makeOne p = .ok fs') : fs'.cwd = fs.cwd := by
  obtain ⟨place, -, h⟩ := Outcome.bind_eq_ok.mp h
  split at h
  · cases h
  · cases h
    rfl

/-- Making one directory leaves proper files. -/
theorem proper_makeOne (hfs : fs.Proper) (h : fs.makeOne p = .ok fs') : fs'.Proper := by
  obtain ⟨place, -, h⟩ := Outcome.bind_eq_ok.mp h
  split at h
  · cases h
  · cases h
    exact ⟨Node.proper_put hfs.root Node.proper_empty place, hfs.cwd⟩

/-- **What making one directory keeps, making several keeps.** `Q` is what is known
of the paths at which they are made. -/
theorem makeAll_keeps {P : FileSystem → Prop} {Q : Path → Prop} {depth : Nat}
    (hparent : ∀ {p}, Q p → Q p.parent)
    (hone : ∀ {fs p fs'}, P fs → Q p → fs.makeOne p = .ok fs' → P fs') (hp : Q p) (hfs : P fs)
    (h : makeAll depth fs p = .ok fs') : P fs' := by
  induction depth generalizing p fs' with
  | zero => exact hone hfs hp h
  | succ depth ih =>
    rw [makeAll] at h
    split at h
    · cases h
      exact hone hfs hp ‹_›
    · split at h
      · cases h
      · obtain ⟨fs₁, habove, h⟩ := Outcome.bind_eq_ok.mp h
        have hfs₁ := ih (hparent hp) habove
        split at h
        · cases h
          exact hone hfs₁ hp ‹_›
        · obtain ⟨b, -, h⟩ := Outcome.bind_eq_ok.mp h
          cases b <;> cases h
          exact hfs₁
    · obtain ⟨b, -, h⟩ := Outcome.bind_eq_ok.mp h
      cases b <;> cases h
      exact hfs
    · cases h

theorem cwd_makeDirectory (h : fs.makeDirectory p = .ok fs') : fs'.cwd = fs.cwd :=
  makeAll_keeps (P := fun fs₁ => fs₁.cwd = fs.cwd) (Q := fun _ => True) id
    (fun hfs _ hone => (cwd_makeOne hone).trans hfs) trivial rfl h

theorem proper_makeDirectory (hfs : fs.Proper) (h : fs.makeDirectory p = .ok fs') : fs'.Proper :=
  makeAll_keeps (P := Proper) (Q := fun _ => True) id (fun hfs _ => proper_makeOne hfs) trivial
    hfs h

/-- Nothing is made where something stands, and not for want of a directory
above it. -/
theorem makeOne_of_find (h : fs.find p = .ok n) :
    p.hasNull = true ∧ fs.makeOne p = .error .nullCharacter ∨
      ∃ fault, fs.makeOne p = .error (.file fault) ∧ fault ≠ .missing := by
  rw [makeOne, h, placeFor]
  split
  · exact .inl ⟨‹_›, rfl⟩
  refine .inr ?_
  split
  · exact ⟨.occupied, rfl, by simp⟩
  rename_i hne
  obtain ⟨es, hes⟩ := find_parent h hne
  rw [hes]
  dsimp only
  split
  · exact ⟨.nameTooLong, rfl, by simp⟩
  · exact ⟨.occupied, rfl, by simp⟩

/-- **What exists is not made again**: it is a directory already, or nothing is. -/
theorem makeDirectory_of_find (h : fs.find p = .ok n) :
    fs.makeDirectory p = .ok fs' ↔ fs' = fs ∧ fs.isDirectory p = .ok true := by
  rw [makeDirectory, makeAll]
  obtain ⟨hnull, hone⟩ | ⟨fault, hone, hmissing⟩ := makeOne_of_find h
  · have hno : fs.isDirectory p = .ok false := by rw [isDirectory, ask, if_pos hnull]
    simp [hone, hno]
  · rw [hone]
    split
    · cases ‹Except.error _ = .ok _›
    · rename_i heq
      cases heq
      exact absurd rfl hmissing
    · cases hdirectory : fs.isDirectory p with
      | error cause => simp [bind, Except.bind]
      | ok b => cases b <;> simp [bind, Except.bind, pure, Except.pure, throw, throwThe,
          MonadExceptOf.throw, eq_comm]
    · rename_i hfile heq
      cases heq
      exact absurd rfl (hfile fault)

/-! ## Writing -/

section

variable {place parts : List String} (hup : ".." ∉ parts)

include hup

/-- Where a place leads to, if something may be put there. -/
theorem placeFor_ok (h : fs.placeFor (.ofParts parts) = .ok place) :
    (Path.ofParts parts).hasNull = false ∧ place = parts ∧
      (Path.ofParts parts).toString.utf8ByteSize < 4096 ∧
      ∀ part ∈ parts, part.utf8ByteSize ≤ 255 := by
  unfold placeFor at h
  split at h
  · cases h
  rename_i hnull
  refine ⟨by simpa using hnull, ?_⟩
  split at h
  · rename_i hparts
    cases h
    cases hparts
    exact ⟨rfl, by decide, by simp⟩
  split at h
  · cases h
  · cases h
  rename_i hne _ es hparent
  split at h
  · cases h
  rename_i hsizes
  cases h
  simp only [Bool.or_eq_true, decide_eq_true_eq, not_or, Nat.not_lt, Nat.not_le] at hsizes
  obtain ⟨hname, hsize⟩ := hsizes
  refine ⟨congrArg Path.parts (Path.resolve_of_isAbsolute rfl hup), hsize, fun part hpart => ?_⟩
  have hparents := (Node.get?_of_follow (fun hmem => hup (List.dropLast_subset _ hmem))
    (find_eq_ok.mp hparent).2).2
  rw [← List.dropLast_append_getLast (show parts ≠ [] from hne)] at hpart
  obtain hpart | hpart := List.mem_append.mp hpart
  · exact hparents part hpart
  · have hlast : (Path.ofParts parts).name = parts.getLast hne := by
      rw [Path.name, List.getLastD_eq_getLast?]
      exact congrArg (·.getD "") (List.getLast?_eq_some_getLast hne)
    rw [List.mem_singleton.mp hpart, ← hlast]
    exact hname

/-- **What writing does**: it puts a file in its place, where it is found. -/
theorem write_ok (h : fs.write (.ofParts parts) content = .ok fs') :
    (Path.ofParts parts).hasNull = false ∧ ∃ executable,
      fs' = fs.put parts (.file content executable) ∧
      fs'.find (.ofParts parts) = .ok (.file content executable) := by
  obtain ⟨place, hplace, h⟩ := Outcome.bind_eq_ok.mp h
  obtain ⟨hnull, rfl, hsize, hsizes⟩ := placeFor_ok hup hplace
  have hfind : ∀ executable, (fs.put place (.file content executable)).find (.ofParts place) =
      .ok (.file content executable) := fun executable =>
    find_eq_ok.mpr ⟨hsize, Node.follow_of_get? [] hup (Node.get?_put ..) hsizes⟩
  refine ⟨hnull, ?_⟩
  split at h
  · cases h
  · cases h
    exact ⟨_, rfl, hfind _⟩
  · cases h
    exact ⟨_, rfl, hfind _⟩

omit hup in
/-- Whether something can be written does not depend on what it is. -/
theorem exists_write (h : fs.write p content = .ok fs') (content' : ByteArray) :
    ∃ fs₁, fs.write p content' = .ok fs₁ := by
  obtain ⟨place, hplace, h⟩ := Outcome.bind_eq_ok.mp h
  cases hfind : fs.find p with
  | error fault => exact ⟨_, Outcome.bind_eq_ok.mpr ⟨place, hplace, by rw [hfind]; rfl⟩⟩
  | ok n =>
    rw [hfind] at h
    cases n with
    | file => exact ⟨_, Outcome.bind_eq_ok.mpr ⟨place, hplace, by rw [hfind]; rfl⟩⟩
    | directory => cases h

/-- **What has been written can be written over.** -/
theorem exists_write_over (h : fs.write (.ofParts parts) content = .ok fs')
    (content' : ByteArray) : ∃ fs₁, fs'.write (.ofParts parts) content' = .ok fs₁ := by
  obtain ⟨hnull, executable, -, hfind⟩ := write_ok hup h
  obtain ⟨place, hplace, -⟩ := Outcome.bind_eq_ok.mp h
  obtain ⟨place', hplace'⟩ : ∃ place', fs'.placeFor (.ofParts parts) = .ok place' := by
    unfold placeFor at hplace ⊢
    rw [hnull, if_neg Bool.false_ne_true] at hplace ⊢
    split
    · exact ⟨_, rfl⟩
    rename_i hne
    -- the file that was written lies in a directory
    obtain ⟨es, hes⟩ := find_parent hfind hne
    rw [if_neg hne] at hplace
    rw [hes]
    split at hplace
    · cases hplace
    · cases hplace
    split at hplace
    · cases hplace
    · rw [if_neg ‹_›]
      exact ⟨_, rfl⟩
  exact ⟨_, Outcome.bind_eq_ok.mpr ⟨place', hplace', by rw [hfind]; rfl⟩⟩

/-- Writing over a file changes no answer but what the file holds. -/
theorem alike_write {old : ByteArray} {executable : Bool}
    (hold : fs.find (.ofParts parts) = .ok (.file old executable))
    (h : fs.write (.ofParts parts) content = .ok fs') : fs.Alike fs' := by
  obtain ⟨-, executable', rfl, -⟩ := write_ok hup h
  exact ⟨Node.alike_put (Node.get?_of_follow hup (find_eq_ok.mp hold).2).1, rfl⟩

theorem proper_write (hfs : fs.Proper) (h : fs.write (.ofParts parts) content = .ok fs') :
    fs'.Proper := by
  obtain ⟨-, executable, rfl, -⟩ := write_ok hup h
  exact ⟨Node.proper_put hfs.root (Node.proper_file _ _) parts, hfs.cwd⟩

/-- **A file holds the bytes that were written.** -/
theorem read_write (h : fs.write (.ofParts parts) content = .ok fs') :
    fs'.read (.ofParts parts) = .ok content.toList := by
  obtain ⟨hnull, executable, -, hfind⟩ := write_ok hup h
  rw [read, hnull, if_neg Bool.false_ne_true, hfind]

/-- **A plain text is read as it was written.** -/
theorem readText_writeText {text : String} (hplain : ∀ c ∈ text.toList, Text.IsPlain c)
    (h : fs.writeText (.ofParts parts) text = .ok fs') :
    fs'.occurs (.ofParts parts) = .ok true ∧ fs'.readText (.ofParts parts) = .ok text.toList := by
  obtain ⟨hnull, executable, -, hfind⟩ := write_ok hup h
  constructor
  · rw [occurs, ask, hnull, hfind]
    rfl
  · rw [readText, read, hnull, hfind]
    simp only [Bool.false_eq_true, if_false, bind, Except.bind, Text.Utf8.decode_toUTF8 hplain,
      Text.unifyNewlines_eq hplain]
    rfl

end

/-- A plain text is read as it was written. -/
theorem readTextLossy_of_find {text : String} {executable : Bool}
    (hplain : ∀ c ∈ text.toList, Text.IsPlain c) (hnull : p.hasNull = false)
    (hfind : fs.find p = .ok (.file text.toUTF8 executable)) :
    fs.readTextLossy p = .ok text.toList := by
  rw [readTextLossy, read, hnull, hfind]
  simp only [Bool.false_eq_true, if_false, bind, Except.bind,
    Text.Utf8.decodeLossy_toUTF8 hplain, Text.unifyNewlines_eq hplain]
  rfl

end FileSystem

end Ratchet
