import Ratchet.Proofs.AllowList.Entries
import Ratchet.Proofs.FileSystem.Extension
import Ratchet.Proofs.FileSystem.Length
import Ratchet.Proofs.Survey.Memory

/-!
# Tracked files

The tracked files of a project are told by the names that lead to them from its
directory. Each is listed under the text of its place, which is the one name that
the allow-list has for it. A file that is added elsewhere changes nothing about
them.

* `Tracks`: names that lead to a tracked file.
* `mem_discover`: which files are listed.
* `exists_discover`: where there is a list of them.
* `discover_extends`: the tracked files are the same when an untracked one is added.
* `isCanonical_of_discover`: tracked files are named by their places.
-/

namespace Ratchet

/-- A name that a file can have. -/
structure Path.IsLegal (s : String) : Prop extends Path.IsName s where
  /-- It does not lead back. -/
  ne_up : s ≠ ".."
  /-- It holds no null character. -/
  null : '\x00' ∉ s.toList

instance (s : String) : Decidable (Path.IsLegal s) :=
  decidable_of_iff (Path.IsName s ∧ s ≠ ".." ∧ '\x00' ∉ s.toList)
    ⟨fun ⟨isName, ne_up, null⟩ => ⟨isName, ne_up, null⟩, fun h => ⟨h.toIsName, h.ne_up, h.null⟩⟩

/-- Every name in the tree is one that a file can have. -/
def FileSystem.Named (fs : FileSystem) : Prop :=
  ∀ names c, fs.root.get? names = some c → ∀ part ∈ names, Path.IsLegal part

/-- **Names that lead from a directory to a tracked file.** -/
structure Tracks (fs : FileSystem) (languages : List Language) (skips start names : List String) :
    Prop where
  /-- There is a file. -/
  file : ∃ content executable, fs.root.get? (start ++ names) = some (.file content executable)
  /-- No directory on the way is skipped. -/
  unskipped : isSkipped skips names = false
  /-- It looks like a source file. -/
  tracked : isTracked languages (.ofParts (start ++ names)) = true

variable {fs fs' : FileSystem} {directory : Path} {languages : List Language}
  {skips start names place files : List String} {es : List (String × Node)} {f : String}

/-- Files with legal names are named. -/
theorem FileSystem.Proper.named (hfs : fs.Proper)
    (h : ∀ entry ∈ fs.root.descendants, ∀ part ∈ entry.1, Path.IsLegal part) : fs.Named := by
  intro names c hc part hpart
  have hne : names ≠ [] := List.ne_nil_of_mem hpart
  exact h (names, c) (hfs.root.mem_descendants.mpr ⟨hne, hc⟩) part hpart

/-! ## Listing them -/

/-- What is discovered is a file that is not skipped and is tracked. -/
theorem isDiscovered_iff {c : Node} :
    isDiscovered languages skips (.ofParts start) (names, c) = true ↔
      (∃ content executable, c = .file content executable) ∧ isSkipped skips names = false ∧
        isTracked languages (.ofParts (start ++ names)) = true := by
  have hfile : (!c.isDirectory) = true ↔ ∃ content executable, c = .file content executable := by
    cases c with
    | file content executable => simp [Node.isDirectory]
    | directory es => simp [Node.isDirectory]
  have hpath : Path.ofParts start ++ { parts := names } = Path.ofParts (start ++ names) := rfl
  rw [isDiscovered, Bool.and_eq_true, Bool.and_eq_true, hfile, hpath, Bool.not_eq_true', and_assoc]

/-- Without a language there is nothing to list. -/
theorem discover_nil : discover fs directory [] skips = .ok [] := rfl

/-- Where tracked files are found, there is the directory of the project. -/
theorem exists_find_of_discover (hcwd : ".." ∉ fs.cwd)
    (h : discover fs directory languages skips = .ok files) (hf : f ∈ files) :
    languages ≠ [] ∧ ∃ start es, fs.resolve directory = .ok (.ofParts start) ∧ ".." ∉ start ∧
      (Path.ofParts start).hasNull = false ∧ fs.find (.ofParts start) = .ok (.directory es) := by
  have hlanguages : languages ≠ [] := by
    rintro rfl
    cases h
    cases hf
  refine ⟨hlanguages, ?_⟩
  rw [discover, if_neg hlanguages] at h
  obtain ⟨root, hroot, h⟩ := Outcome.bind_eq_ok.mp h
  obtain ⟨b, hb, h⟩ := Outcome.bind_eq_ok.mp h
  obtain ⟨start, rfl, hup⟩ := FileSystem.exists_of_resolve hcwd hroot
  cases b with
  | false =>
    cases h
    cases hf
  | true =>
    obtain ⟨hnull, es, hes⟩ := FileSystem.isDirectory_eq_true.mp hb
    exact ⟨start, es, hroot, hup, hnull, hes⟩

/-- The paths of all that is below a place. -/
def pathsBelow (start : List String) (es : List (String × Node)) : List Path :=
  (Node.directory es).descendants.map fun entry => .ofParts (start ++ entry.1)

/-- The paths below a directory are those of what is there. -/
theorem mem_pathsBelow (hfs : fs.Proper) (hget : fs.root.get? start = some (.directory es))
    {p : Path} : p ∈ pathsBelow start es ↔ ∃ names c, names ≠ [] ∧
      fs.root.get? (start ++ names) = some c ∧ .ofParts (start ++ names) = p := by
  have hproper : (Node.directory es).Proper := hfs.root.get? hget
  simp only [pathsBelow, List.mem_map, Prod.exists, hproper.mem_descendants, Node.get?_append, hget,
    Option.bind_some, and_assoc]

/-- **A walk comes to its end** below a directory whose paths are short, -/
theorem askAll_of_isShort (hfs : fs.Proper) (hget : fs.root.get? start = some (.directory es))
    (hshort : fs.IsShort start) : fs.askAll (pathsBelow start es) = .ok () := by
  refine FileSystem.askAll_eq_ok.mpr fun p hp => ?_
  obtain ⟨names, c, hne, hc, rfl⟩ := (mem_pathsBelow hfs hget).mp hp
  cases hanswer : fs.occurs (.ofParts (start ++ names)) with
  | ok b => exact ⟨b, rfl⟩
  | error cause => exact absurd (FileSystem.isTooLong_of_ask hanswer).2 (hshort names c hc)

/-- and below no other one. -/
theorem isShort_of_askAll (hfs : fs.Proper) (hnamed : fs.Named) (hup : ".." ∉ start)
    (hfind : fs.find (.ofParts start) = .ok (.directory es))
    (h : fs.askAll (pathsBelow start es) = .ok ()) : fs.IsShort start := by
  have hget : fs.root.get? start = some (.directory es) :=
    (Node.get?_of_follow hup (FileSystem.find_eq_ok.mp hfind).2).1
  intro names c hc hlong
  have hne : names ≠ [] := by
    rintro rfl
    rw [List.append_nil] at hlong
    exact FileSystem.not_isTooLong_of_find hup hfind hlong
  have hlegal := hnamed _ _ hc
  have hmem := (mem_pathsBelow hfs hget).mpr ⟨names, c, hne, hc, rfl⟩
  obtain ⟨b, hb⟩ := FileSystem.askAll_eq_ok.mp h _ hmem
  have hfind := FileSystem.find_of_isTooLong (fun hmem => (hlegal _ hmem).ne_up rfl) hc hlong
  have hnull : (Path.ofParts (start ++ names)).hasNull = false :=
    Path.hasNull_eq_false.mpr fun part hpart => (hlegal part hpart).null
  exact nomatch hb.symm.trans (FileSystem.ask_eq_error.mpr ⟨rfl, hnull, hfind⟩)

section

variable (hfs : fs.Proper) (hup : ".." ∉ start)
  (hroot : fs.resolve directory = .ok (.ofParts start))
  (hnull : (Path.ofParts start).hasNull = false)
  (hfind : fs.find (.ofParts start) = .ok (.directory es))

include hroot hnull hfind

/-- What discovery comes to in the directory of a project. -/
theorem discover_eq (hlanguages : languages ≠ []) (skips : List String) :
    discover fs directory languages skips = (do
      fs.askAll (pathsBelow start es)
      return ascending (((Node.directory es).descendants.filter
        (isDiscovered languages (orUsual skips) (.ofParts start))).map fun entry =>
          (Path.ofParts (start ++ entry.1)).toString)) := by
  have hdirectory : fs.isDirectory (.ofParts start) = .ok true :=
    FileSystem.isDirectory_eq_true.mpr ⟨hnull, es, hfind⟩
  rw [discover, if_neg hlanguages]
  simp only [hroot, hdirectory, hfind, bind, Except.bind, if_true]
  rfl

include hfs hup

/-- **The tracked files** are those to which names lead from the directory of the
project. -/
theorem mem_discover (h : discover fs directory languages skips = .ok files) :
    files.Pairwise (· < ·) ∧
      ∀ f, f ∈ files ↔ ∃ names, Tracks fs languages (orUsual skips) start names ∧
        (Path.ofParts (start ++ names)).toString = f := by
  by_cases hlanguages : languages = []
  · subst hlanguages
    cases h
    refine ⟨.nil, fun f => iff_of_false (by simp) ?_⟩
    rintro ⟨names, htracks, -⟩
    cases htracks.tracked
  rw [discover_eq hroot hnull hfind hlanguages] at h
  obtain ⟨-, -, h⟩ := Outcome.bind_eq_ok.mp h
  cases h
  have hget : fs.root.get? start = some (.directory es) :=
    (Node.get?_of_follow hup (FileSystem.find_eq_ok.mp hfind).2).1
  have hbelow : ∀ names, (Node.directory es).get? names = fs.root.get? (start ++ names) := by
    intro names
    rw [Node.get?_append, hget]
    rfl
  have hproper : (Node.directory es).Proper := hfs.find hfind
  refine ⟨pairwise_ascending _, fun f => ?_⟩
  rw [mem_ascending, List.mem_map]
  constructor
  · rintro ⟨⟨names, c⟩, hentry, rfl⟩
    obtain ⟨hmem, hdiscovered⟩ := List.mem_filter.mp hentry
    obtain ⟨⟨content, executable, rfl⟩, hskip, htracked⟩ := isDiscovered_iff.mp hdiscovered
    have hc := (hproper.mem_descendants.mp hmem).2
    rw [hbelow] at hc
    exact ⟨names, ⟨⟨content, executable, hc⟩, hskip, htracked⟩, rfl⟩
  · rintro ⟨names, ⟨⟨content, executable, hc⟩, hskip, htracked⟩, rfl⟩
    have hne : names ≠ [] := by
      rintro rfl
      rw [List.append_nil, hget] at hc
      cases hc
    rw [← hbelow] at hc
    exact ⟨(names, _), List.mem_filter.mpr ⟨hproper.mem_descendants.mpr ⟨hne, hc⟩,
      isDiscovered_iff.mpr ⟨⟨content, executable, rfl⟩, hskip, htracked⟩⟩, rfl⟩

/-- Below a directory whose paths are short the tracked files can be listed, -/
theorem exists_discover (languages : List Language) (skips : List String)
    (hshort : languages ≠ [] → fs.IsShort start) :
    ∃ files, discover fs directory languages skips = .ok files := by
  by_cases hlanguages : languages = []
  · exact ⟨[], by rw [hlanguages, discover_nil]⟩
  · have hget : fs.root.get? start = some (.directory es) :=
      (Node.get?_of_follow hup (FileSystem.find_eq_ok.mp hfind).2).1
    rw [discover_eq hroot hnull hfind hlanguages,
      askAll_of_isShort hfs hget (hshort hlanguages)]
    exact ⟨_, rfl⟩

/-- and only there. -/
theorem isShort_of_discover (hnamed : fs.Named) (hlanguages : languages ≠ [])
    (h : discover fs directory languages skips = .ok files) : fs.IsShort start := by
  rw [discover_eq hroot hnull hfind hlanguages] at h
  obtain ⟨u, hall, -⟩ := Outcome.bind_eq_ok.mp h
  exact isShort_of_askAll hfs hnamed hup hfind hall

end

/-- The names that lead to a listed file. -/
theorem exists_tracks (hfs : fs.Proper) (h : discover fs directory languages skips = .ok files)
    (hf : f ∈ files) : ∃ start names, ".." ∉ start ∧
      Tracks fs languages (orUsual skips) start names ∧
      (Path.ofParts (start ++ names)).toString = f := by
  obtain ⟨-, start, es, hroot, hup, hnull, hfind⟩ := exists_find_of_discover hfs.cwd h hf
  obtain ⟨names, htracks, hname⟩ := ((mem_discover hfs hup hroot hnull hfind h).2 f).mp hf
  exact ⟨start, names, hup, htracks, hname⟩

/-! ## Adding a file -/

/-- Paths stay short when a file is added whose path is short. -/
theorem FileSystem.IsShort.extends (h : fs.IsShort start) (hextends : fs.ExtendsAt place fs')
    (hplace : ¬ fs'.IsTooLong (.ofParts place)) : fs'.IsShort start := by
  intro names c hc hlong
  obtain hinit | ⟨c', hc'⟩ := hextends.new hc
  · exact hplace (FileSystem.isTooLong_of_prefix hinit hlong)
  · exact h names c' hc' hlong

/-- **The tracked files are the same when an untracked one is added.** -/
theorem discover_extends (hfs : fs.Proper) (hnamed : fs.Named) (hfs' : fs'.Proper)
    (hextends : fs.ExtendsAt place fs') (hplace : ¬ fs'.IsTooLong (.ofParts place))
    (huntracked : isTracked languages (.ofParts place) = false)
    (h : discover fs directory languages skips = .ok files) (hf : f ∈ files) :
    discover fs' directory languages skips = .ok files := by
  obtain ⟨hlanguages, start, es, hroot, hup, hnull, hfind⟩ := exists_find_of_discover hfs.cwd h hf
  obtain ⟨hsize, hfollow⟩ := FileSystem.find_eq_ok.mp hfind
  obtain ⟨hget, hsizes⟩ := Node.get?_of_follow hup hfollow
  -- the directory of the project is there after the change
  obtain ⟨es', hget'⟩ := hextends.directories hget
  have hfind' : fs'.find (.ofParts start) = .ok (.directory es') :=
    FileSystem.find_eq_ok.mpr ⟨hsize, Node.follow_of_get? [] hup hget' hsizes⟩
  have hroot' : fs'.resolve directory = .ok (.ofParts start) :=
    (FileSystem.resolve_congr hextends.cwd directory).trans hroot
  have hshort := (isShort_of_discover hfs hup hroot hnull hfind hnamed hlanguages h).extends
    hextends hplace
  obtain ⟨all', hall'⟩ :=
    exists_discover hfs' hup hroot' hnull hfind' languages skips fun _ => hshort
  obtain ⟨hpairwise, hmem⟩ := mem_discover hfs hup hroot hnull hfind h
  obtain ⟨hpairwise', hmem'⟩ := mem_discover hfs' hup hroot' hnull hfind' hall'
  -- the same names lead to tracked files, since none of them is the one added
  have hsame : ∀ names, Tracks fs' languages (orUsual skips) start names ↔
      Tracks fs languages (orUsual skips) start names := by
    have hne : ∀ {names}, isTracked languages (.ofParts (start ++ names)) = true →
        start ++ names ≠ place := by
      rintro names htracked rfl
      exact nomatch htracked.symm.trans huntracked
    intro names
    constructor
    · rintro ⟨⟨content, executable, hc⟩, hskip, htracked⟩
      have hold := (hextends.files (hne htracked) content executable).mp hc
      exact ⟨⟨content, executable, hold⟩, hskip, htracked⟩
    · rintro ⟨⟨content, executable, hc⟩, hskip, htracked⟩
      have hnew := (hextends.files (hne htracked) content executable).mpr hc
      exact ⟨⟨content, executable, hnew⟩, hskip, htracked⟩
  have heq : all' = files := by
    refine hpairwise'.eq_of_mem_iff hpairwise fun f => ?_
    rw [hmem', hmem]
    simp only [hsame]
  rw [hall', heq]

/-! ## Names and places -/

/-- **A tracked file is listed under the text of its place.** -/
theorem isCanonical_of_discover {a : AllowList} (hfs : fs.Proper) (hnamed : fs.Named)
    (h : discover fs directory languages skips = .ok files) (hf : f ∈ files)
    (hlanguages : ∀ p, isTracked languages p = true → isTracked a.languages p = true) :
    a.IsCanonical fs f := by
  obtain ⟨start, names, hup, ⟨⟨content, executable, hc⟩, -, htracked⟩, rfl⟩ :=
    exists_tracks hfs h hf
  have hlegal : ∀ part ∈ start ++ names, Path.IsLegal part := hnamed _ _ hc
  have hback : Path.ofString (Path.ofParts (start ++ names)).toString =
      .ofParts (start ++ names) :=
    Path.ofString_ofParts fun part hpart => (hlegal part hpart).toIsName
  refine ⟨.ofParts (start ++ names), ?_, rfl, hlanguages _ htracked⟩
  rw [hback]
  refine FileSystem.resolve_eq_ok.mpr
    ⟨Path.hasNull_eq_false.mpr fun part hpart => (hlegal part hpart).null, ?_⟩
  exact Path.resolve_of_isAbsolute rfl fun hmem => (hlegal ".." hmem).ne_up rfl

end Ratchet
