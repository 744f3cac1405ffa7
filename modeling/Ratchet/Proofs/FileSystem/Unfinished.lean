import Ratchet.Proofs.FileSystem.Extension

/-!
# Changes that are left unfinished

Directories are made one after another, and the bytes of a file are written one
after another. When this fails half-way, what has been done so far stays. A host
may make it fail where the file system alone would not.

* `Host`: what a host refuses to do.
* `makeDirectoryOn`, `writeOn`: changes, with what is left when they fail.
* `makeDirectory_eq`, `write_eq`: on a host that refuses nothing they are the
  changes of the file system.
* `get?_makeDirectoryOn`: making directories changes no place that is not above
  or at one of them.
-/

namespace Ratchet

/-- What a host refuses to do. -/
structure Host where
  /-- Why no directory can be made at a path, if so. -/
  refuses : Path → Option FileFault := fun _ => none
  /-- How many bytes of a file are written until the host gives up, if it does,
  and why. -/
  givesUp : Option (Nat × FileFault) := none

namespace Node

/-- Making a directory where nothing was changes nothing but the places above it and
its own. -/
theorem get?_put_empty {n : Node} {place names : List String} (hnone : n.get? place = none)
    (hapart : ¬ names <+: place) : (n.put place empty).get? names = n.get? names := by
  induction place generalizing n names with
  | nil => cases hnone
  | cons name place ih =>
    cases names with
    | nil => exact absurd List.nil_prefix hapart
    | cons key names =>
      rw [get?_cons, get?_cons, lookup_put]
      split
      · rename_i hkey
        subst hkey
        have hapart : ¬ names <+: place := fun h => hapart (List.cons_prefix_cons.mpr ⟨rfl, h⟩)
        have hne : names ≠ [] := fun h => hapart (h ▸ List.nil_prefix)
        have hempty : empty.get? names = none := by
          cases names with
          | nil => exact absurd rfl hne
          | cons => rfl
        rw [get?_cons] at hnone
        cases hchild : n.entries.lookup key with
        | some child =>
          rw [hchild] at hnone
          exact ih hnone hapart
        | none =>
          -- nothing was there, and only the way to the place is there now
          refine Eq.trans ?_ hempty
          rw [Option.bind_some, Option.getD_none]
          by_cases hplace : place = []
          · rw [hplace, put]
          · refine ih ?_ hapart
            cases place with
            | nil => exact absurd rfl hplace
            | cons => rfl
      · rfl

end Node

namespace FileSystem

variable {fs fs' : FileSystem} {host : Host} {p : Path} {place parts : List String} {depth : Nat}
  {cause : Failure} {content : ByteArray}

/-- Make one directory at a path. -/
def makeOneOn (host : Host) (fs : FileSystem) (p : Path) : Except Failure FileSystem :=
  match host.refuses p with
  | some fault => .error (.file fault)
  | none => fs.makeOne p

/-- A directory that cannot be made may exist already. -/
def excuse (fs : FileSystem) (p : Path) (cause : Failure) : Except Failure Unit := do
  if ← fs.isDirectory p then return () else throw cause

/-- Make the directory at a path, and those above it as far as needed. Those that
have been made stay, if another one cannot be made. -/
def makeAllOn (host : Host) : Nat → FileSystem → Path → Except Failure Unit × FileSystem
  | 0, fs, p =>
    match fs.makeOneOn host p with
    | .ok fs => (.ok (), fs)
    | .error cause => (.error cause, fs)
  | depth + 1, fs, p =>
    match fs.makeOneOn host p with
    | .ok fs => (.ok (), fs)
    | .error (.file .missing) =>
      if p.parts = [] then (.error (.file .missing), fs)
      else
        match makeAllOn host depth fs p.parent with
        | (.error cause, fs) => (.error cause, fs)
        | (.ok (), fs) =>
          match fs.makeOneOn host p with
          | .ok fs => (.ok (), fs)
          | .error cause => (fs.excuse p cause, fs)
    | .error (.file fault) => (fs.excuse p (.file fault), fs)
    | .error cause => (.error cause, fs)

/-- Make the directory at a path, with those above it. -/
def makeDirectoryOn (host : Host) (fs : FileSystem) (p : Path) :
    Except Failure Unit × FileSystem :=
  makeAllOn host (p.parts.length + 1) fs p

/-- Write a file. If the host gives up, the file holds what has been written. -/
def writeOn (host : Host) (fs : FileSystem) (p : Path) (content : ByteArray) :
    Except Failure Unit × FileSystem :=
  match host.givesUp with
  | none =>
    match fs.write p content with
    | .ok fs => (.ok (), fs)
    | .error cause => (.error cause, fs)
  | some (count, fault) =>
    match fs.write p (content.extract 0 count) with
    | .ok fs => (.error (.file fault), fs)
    | .error cause => (.error cause, fs)

/-! ## Where nothing is refused -/

/-- On a host that refuses nothing, directories are made as ever. -/
theorem makeAll_eq (depth : Nat) (fs : FileSystem) (p : Path) :
    makeAll depth fs p = (makeAllOn {} depth fs p).1.map fun _ => (makeAllOn {} depth fs p).2 := by
  have hone : ∀ (fs : FileSystem) (p : Path), fs.makeOneOn {} p = fs.makeOne p := fun _ _ => rfl
  have hexcuse : ∀ (fs : FileSystem) (p : Path) (cause : Failure),
      (do if ← fs.isDirectory p then return fs else throw cause) =
        (fs.excuse p cause).map fun _ => fs := by
    intro fs p cause
    rw [excuse]
    cases fs.isDirectory p with
    | error => rfl
    | ok b => cases b <;> rfl
  induction depth generalizing fs p with
  | zero =>
    rw [makeAll, makeAllOn, hone]
    cases fs.makeOne p <;> rfl
  | succ depth ih =>
    rw [makeAll, makeAllOn, hone]
    cases fs.makeOne p with
    | ok => rfl
    | error cause =>
      cases cause with
      | file fault =>
        cases fault with
        | missing =>
          dsimp only
          split
          · rfl
          · rw [ih fs p.parent]
            obtain ⟨outcome, fs⟩ := makeAllOn {} depth fs p.parent
            cases outcome with
            | error => rfl
            | ok =>
              dsimp only [Except.map, bind, Except.bind]
              rw [hone]
              cases fs.makeOne p with
              | ok => rfl
              | error cause => exact hexcuse fs p cause
        | _ => exact hexcuse fs p _
      | _ => rfl

theorem makeDirectory_eq (fs : FileSystem) (p : Path) : fs.makeDirectory p =
    (fs.makeDirectoryOn {} p).1.map fun _ => (fs.makeDirectoryOn {} p).2 :=
  makeAll_eq _ fs p

/-- On a host that refuses nothing, a file is written as ever. -/
theorem write_eq (fs : FileSystem) (p : Path) (content : ByteArray) : fs.write p content =
    (fs.writeOn {} p content).1.map fun _ => (fs.writeOn {} p content).2 := by
  rw [writeOn]
  dsimp only
  cases fs.write p content <;> rfl

/-! ## What stays -/

/-- **What making one directory keeps, making some of several keeps**, whether or
not all of them can be made. -/
theorem makeAllOn_keeps {P : FileSystem → Prop} {Q : Path → Prop}
    (hparent : ∀ {p}, Q p → Q p.parent)
    (hone : ∀ {fs p fs'}, P fs → Q p → fs.makeOne p = .ok fs' → P fs') (hp : Q p) (hfs : P fs) :
    P (makeAllOn host depth fs p).2 := by
  have hmake : ∀ {fs p fs'}, P fs → Q p → fs.makeOneOn host p = .ok fs' → P fs' := by
    intro fs p fs' hfs hp h
    unfold makeOneOn at h
    split at h
    · cases h
    · exact hone hfs hp h
  induction depth generalizing fs p with
  | zero =>
    rw [makeAllOn]
    split
    · exact hmake hfs hp ‹_›
    · exact hfs
  | succ depth ih =>
    rw [makeAllOn]
    split
    · exact hmake hfs hp ‹_›
    · split
      · exact hfs
      · have habove := ih (hparent hp) hfs
        split
        · rename_i heq
          rwa [heq] at habove
        · rename_i heq
          rw [heq] at habove
          split
          · exact hmake habove hp ‹_›
          · exact habove
    · exact hfs
    · exact hfs

/-- What is written, as far as it goes. -/
theorem writeOn_cases (host : Host) (fs : FileSystem) (p : Path) (content : ByteArray) :
    (∃ fs', fs.writeOn host p content = (.ok (), fs') ∧ host.givesUp = none ∧
      fs.write p content = .ok fs') ∨
    (∃ cause, fs.writeOn host p content = (.error cause, fs)) ∨
    ∃ fs' count fault, fs.writeOn host p content = (.error (.file fault), fs') ∧
      host.givesUp = some (count, fault) ∧ fs.write p (content.extract 0 count) = .ok fs' := by
  unfold writeOn
  split
  · rename_i hnone
    split
    · exact .inl ⟨_, rfl, hnone, ‹_›⟩
    · exact .inr (.inl ⟨_, rfl⟩)
  · rename_i count fault hsome
    split
    · exact .inr (.inr ⟨_, _, _, rfl, hsome, ‹_›⟩)
    · exact .inr (.inl ⟨_, rfl⟩)

/-- What stands at a place. -/
theorem find_ofParts {n : Node} (hup : ".." ∉ parts) : fs.find (.ofParts parts) = .ok n ↔
    (Path.ofParts parts).toString.utf8ByteSize < 4096 ∧ fs.root.get? parts = some n ∧
      ∀ part ∈ parts, part.utf8ByteSize ≤ 255 := by
  rw [find_eq_ok]
  exact and_congr_right fun _ =>
    ⟨Node.get?_of_follow hup, fun ⟨hget, hsizes⟩ => Node.follow_of_get? [] hup hget hsizes⟩

/-- **Making directories changes nothing beside and below them**, whether or not all
of them can be made. The root directory, which is there, is not made. -/
theorem get?_makeDirectoryOn (hup : ".." ∉ place) (hapart : parts <+: place → place = []) :
    (fs.makeDirectoryOn host (.ofParts place)).2.root.get? parts = fs.root.get? parts := by
  refine makeAllOn_keeps (P := fun fs' => fs'.root.get? parts = fs.root.get? parts)
    (Q := fun p => ∃ names, p = .ofParts names ∧ names <+: place) ?_ ?_
    ⟨place, rfl, List.prefix_refl place⟩ rfl
  · rintro _ ⟨names, rfl, hle⟩
    exact ⟨names.dropLast, rfl, (List.dropLast_prefix names).trans hle⟩
  · rintro fs₁ _ fs' hfs ⟨names, rfl, hle⟩ hone
    have hup : ".." ∉ names := fun hmem => hup (hle.subset hmem)
    obtain ⟨at_, hplace, h⟩ := Outcome.bind_eq_ok.mp hone
    split at h
    · cases h
    rename_i hfind
    cases h
    obtain ⟨-, rfl, -, -⟩ := placeFor_ok hup hplace
    have hnone : fs₁.root.get? at_ = none := get?_of_find_error hup hplace hfind
    refine (Node.get?_put_empty hnone fun hle' => ?_).trans hfs
    rw [hapart (hle'.trans hle), List.prefix_nil] at hle
    subst hle
    cases hnone

end FileSystem

end Ratchet
