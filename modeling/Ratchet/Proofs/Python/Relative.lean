import Ratchet.Proofs.Python.Reference

/-!
# Relative imports

A relative import names a module by its place in the package of the file. The
name is looked up like any other, under each search root in turn, so it may
lead to a module of the same name that lies under another search root.

* `relative_names_by_roots`: where a relative import leads, and when it stays
  in the package of the file.
* `relative_name_strays`: a relative import that leads out of its package.
-/

namespace Ratchet.Python

open Text (splitString)

/-! ## Names with dots -/

/-- The parts of a name that is put together from names. -/
theorem splitString_intercalate {parts : List String} (hne : parts ≠ []) :
    splitString '.' (".".intercalate parts) = parts.flatMap (splitString '.') := by
  induction parts with
  | nil => exact absurd rfl hne
  | cons part parts ih =>
    cases parts with
    | nil => simp
    | cons next parts =>
      rw [String.intercalate_cons_cons, Text.splitString_append_dot, ih (by simp)]
      rfl

/-- A piece of a name between its dots is empty or a name. -/
theorem eq_empty_or_isName_of_mem_split {s piece : String} (hs : Path.IsName s)
    (h : piece ∈ splitString '.' s) : piece = "" ∨ Path.IsName piece := by
  by_cases hempty : piece = ""
  · exact .inl hempty
  refine .inr ⟨hempty, ?_, ?_⟩
  · rintro rfl
    obtain ⟨cs, hcs, heq⟩ := List.mem_map.mp h
    have hdot := Text.notMem_of_mem_split hcs
    have hlist : cs = ['.'] := by
      have := congrArg String.toList heq
      rwa [String.toList_ofList] at this
    rw [hlist] at hdot
    exact hdot (.head _)
  · intro hslash
    have hmem : '/' ∈ (".".intercalate (splitString '.' s)).toList := by
      rw [toList_dotted]
      exact Text.mem_join_of_mem (List.mem_map_of_mem h) hslash
    rw [intercalate_splitString] at hmem
    exact hs.slash hmem

namespace Project

variable {p : Project} {fs : FileSystem} {root file : Path} {roots : List Path}
  {dirs climbed parts pieces : List String} {base module name : String} {level : Nat}

/-- Empty pieces of a name are skipped on the way to a module. -/
theorem modulePaths_pieces (h : ∀ piece ∈ pieces, piece = "" ∨ Path.IsName piece)
    (hne : pieces.filter (· ≠ "") ≠ []) (root : Path) :
    modulePaths root pieces = .ok (root.moduleFiles (pieces.filter (· ≠ ""))) := by
  have hfold : ∀ (pieces : List String) (root : Path),
      (∀ piece ∈ pieces, piece = "" ∨ Path.IsName piece) →
      pieces.foldl (fun path part => path ++ Path.ofString part) root =
        (pieces.filter (· ≠ "")).foldl (fun path part => path ++ Path.ofString part) root := by
    intro pieces
    induction pieces with
    | nil =>
      intro root _
      rfl
    | cons piece pieces ih =>
      intro root h
      have hrest := fun root => ih root fun q hq => h q (.tail _ hq)
      obtain rfl | hname := h piece (.head _)
      · have hskip : root ++ Path.ofString "" = root := by
          have hempty : Path.ofString "" = {} := by decide
          rw [hempty]
          show Path.append root {} = root
          simp [Path.append, Path.isAbsolute]
        rw [List.foldl_cons, hskip, List.filter_cons_of_neg (by simp), hrest]
      · rw [List.foldl_cons, List.filter_cons_of_pos (by simpa using hname.ne_empty),
          List.foldl_cons, hrest]
  have hnames : ∀ piece ∈ pieces.filter (· ≠ ""), Path.IsName piece := by
    intro piece hpiece
    obtain ⟨hmem, hempty⟩ := List.mem_filter.mp hpiece
    exact (h piece hmem).resolve_left (by simpa using hempty)
  rw [← modulePaths_eq hnames hne root, modulePaths, modulePaths, hfold pieces root h]

/-- The names that names of directories are divided into by their dots. -/
def divided (dirs : List String) : List String :=
  (dirs.flatMap (splitString '.')).filter (· ≠ "")

/-- Names without dots are not divided. -/
theorem divided_eq_self (hdirs : ∀ dir ∈ dirs, Path.IsName dir)
    (hdots : ∀ dir ∈ dirs, '.' ∉ dir.toList) : divided dirs = dirs := by
  have hself : dirs.flatMap (splitString '.') = dirs := by
    rw [List.flatMap_congr fun dir hdir => Text.splitString_eq_singleton (hdots dir hdir)]
    simp
  rw [divided, hself]
  exact List.filter_eq_self.mpr fun dir hdir => by simpa using (hdirs dir hdir).ne_empty

/-! A module below some directories is named by the names of the directories,
which may hold dots, and by its own parts. -/

section Below

variable (hdirs : ∀ dir ∈ dirs, Path.IsName dir) (hparts : ∀ part ∈ parts, IsPart part)
  (hne : parts ≠ [])

include hparts hne

/-- A dotted name below directories is divided at the dots of both. -/
theorem splitString_below (dirs : List String) :
    splitString '.' (".".intercalate (dirs ++ parts)) =
      dirs.flatMap (splitString '.') ++ parts := by
  have hself : ∀ part ∈ parts, splitString '.' part = [part] := fun part hpart =>
    Text.splitString_eq_singleton (hparts part hpart).dot
  rw [splitString_intercalate (by simp [hne]), List.flatMap_append, List.flatMap_congr hself]
  simp

/-- The name is not empty. -/
theorem below_ne_empty (dirs : List String) : ".".intercalate (dirs ++ parts) ≠ "" := by
  intro hempty
  have hsplit := splitString_below hparts hne dirs
  have hnone : splitString '.' "" = [""] := by decide
  obtain ⟨part, hpart⟩ := List.exists_mem_of_ne_nil parts hne
  have hmem : part ∈ splitString '.' (".".intercalate (dirs ++ parts)) := by
    rw [hsplit]
    exact List.mem_append_right _ hpart
  rw [hempty, hnone] at hmem
  exact (hparts part hpart).ne_empty (List.mem_singleton.mp hmem)

theorem submodule_below (dirs : List String) (name : String) :
    submodule (".".intercalate (dirs ++ parts)) name =
      ".".intercalate (dirs ++ (parts ++ [name])) := by
  rw [submodule, if_neg (below_ne_empty hparts hne dirs), ← List.append_assoc,
    intercalate_concat (by simp [hne])]

/-- The module has a path under every search root. -/
theorem exists_modulePaths_below (root : Path) (dirs : List String) :
    ∃ paths, modulePaths root (splitString '.' (".".intercalate (dirs ++ parts))) = .ok paths := by
  rw [splitString_below hparts hne]
  obtain ⟨first, last, rfl⟩ : ∃ first last, parts = first ++ [last] :=
    ⟨parts.dropLast, parts.getLast hne, (List.dropLast_append_getLast hne).symm⟩
  rw [← List.append_assoc]
  exact exists_modulePaths_concat (hparts last (by simp)).isName root _

include hdirs

/-- Where a module below directories is looked up. -/
theorem modulePlaces_below :
    p.modulePlaces (".".intercalate (dirs ++ parts)) = p.places (divided dirs ++ parts) := by
  have hkept : (dirs.flatMap (splitString '.') ++ parts).filter (· ≠ "") =
      divided dirs ++ parts := by
    have hself : parts.filter (· ≠ "") = parts :=
      List.filter_eq_self.mpr fun part hpart => by simpa using (hparts part hpart).ne_empty
    rw [List.filter_append, hself, divided]
  have hpieces : ∀ piece ∈ dirs.flatMap (splitString '.') ++ parts,
      piece = "" ∨ Path.IsName piece := by
    intro piece hpiece
    obtain hpiece | hpiece := List.mem_append.mp hpiece
    · obtain ⟨dir, hdir, hpiece⟩ := List.mem_flatMap.mp hpiece
      exact eq_empty_or_isName_of_mem_split (hdirs dir hdir) hpiece
    · exact .inr (hparts piece hpiece).isName
  have hsomewhere : (dirs.flatMap (splitString '.') ++ parts).filter (· ≠ "") ≠ [] := by
    rw [hkept]
    simp [hne]
  rw [modulePlaces, if_neg (below_ne_empty hparts hne dirs), splitString_below hparts hne, places]
  congr 1
  funext root
  rw [modulePaths_pieces hpieces hsomewhere, hkept]
  rfl

/-- Where a submodule below directories is looked up. -/
theorem submodulePlaces_below (hname : IsPart name) :
    p.modulePlaces (submodule (".".intercalate (dirs ++ parts)) name) =
      p.places (divided dirs ++ (parts ++ [name])) := by
  rw [submodule_below hparts hne]
  exact modulePlaces_below hdirs
    (List.forall_mem_append.mpr ⟨hparts, List.forall_mem_singleton.mpr hname⟩) (by simp)

end Below

/-! ## The package of a file -/

/-- The search roots of a project are places. -/
theorem searchRoots_eq_ofParts {sourceDir : Path} {given : Option (List Path)}
    (h : load fs sourceDir given = .ok p) : ∀ r ∈ p.searchRoots, r = .ofParts r.parts := by
  have hplaces : ∀ {roots : List Path} {top : Path}, (do
      let roots ← roots.mapM fs.resolve
      let names ← firstPartyNames fs roots
      return ⟨top, roots, names⟩ : Except Failure Project) = .ok p →
      ∀ r ∈ p.searchRoots, r = .ofParts r.parts := by
    intro roots top h r hr
    obtain ⟨places, hroots, h⟩ := Outcome.bind_eq_ok.mp h
    obtain ⟨names, -, h⟩ := Outcome.bind_eq_ok.mp h
    cases h
    obtain ⟨path, -, hpath⟩ := (Outcome.mem_mapM hroots).mp hr
    obtain ⟨-, rfl⟩ := FileSystem.resolve_eq_ok.mp hpath
    rfl
  obtain ⟨top, -, h⟩ := Outcome.bind_eq_ok.mp h
  cases given with
  | some roots => exact hplaces h
  | none =>
    obtain ⟨src, -, h⟩ := Outcome.bind_eq_ok.mp h
    cases src with
    | true => exact hplaces h
    | false => exact hplaces h

/-- A place is relative to those on the way to it. -/
theorem relativeTo?_ofParts {r : Path} (hr : r = .ofParts r.parts) (parts : List String) :
    (Path.ofParts parts).relativeTo? r =
      if r.parts <+: parts then some { parts := parts.drop r.parts.length } else none := by
  have hanchor : r.anchor = "/" := congrArg Path.anchor hr
  simp [Path.relativeTo?, Path.ofParts, hanchor]

/-- Among roots of which none is longer than one before it, the first that holds a
place is the innermost. -/
theorem findSome?_relativeTo? (hroots : ∀ r ∈ roots, r = .ofParts r.parts) (hroot : root ∈ roots)
    (hinner : ∀ r ∈ roots, r.parts <+: root.parts ++ parts → r.parts.length ≤ root.parts.length)
    (hsorted : roots.Pairwise fun a b => b.parts.length ≤ a.parts.length) :
    roots.findSome? (Path.ofParts (root.parts ++ parts)).relativeTo? = some { parts } := by
  induction roots with
  | nil => cases hroot
  | cons r roots ih =>
    obtain ⟨hr, hrest⟩ := List.pairwise_cons.mp hsorted
    rw [List.findSome?_cons, relativeTo?_ofParts (hroots r (.head _))]
    by_cases hstart : r.parts <+: root.parts ++ parts
    · -- this root is as long as the innermost one, and so the same
      have hge : root.parts.length ≤ r.parts.length := by
        obtain rfl | hin := List.mem_cons.mp hroot
        · exact Nat.le_refl _
        · exact hr root hin
      have hlength := Nat.le_antisymm (hinner r (.head _) hstart) hge
      rw [if_pos hstart, hlength, List.drop_left]
    · have hne : r ≠ root := by
        rintro rfl
        exact hstart (List.prefix_append _ _)
      rw [if_neg hstart]
      exact ih (fun q hq => hroots q (.tail _ hq)) ((List.mem_cons.mp hroot).resolve_left hne.symm)
        (fun q hq => hinner q (.tail _ hq)) hrest

/-- **The package of a file** is the way to it from the innermost search root. -/
theorem packageOf_eq (hroots : ∀ r ∈ p.searchRoots, r = .ofParts r.parts)
    (hroot : root ∈ p.searchRoots)
    (hplace : fs.resolve file = .ok (.ofParts (root.parts ++ dirs ++ [base])))
    (hinner : ∀ r ∈ p.searchRoots, r.parts <+: root.parts ++ dirs ++ [base] →
      r.parts.length ≤ root.parts.length) : p.packageOf fs file = .ok (some dirs) := by
  have hsorted : (p.searchRoots.mergeSort fun a b => b.parts.length ≤ a.parts.length).Pairwise
      fun a b => decide (b.parts.length ≤ a.parts.length) = true :=
    List.pairwise_mergeSort (by simp; omega) (by simp; omega) _
  rw [List.append_assoc] at hplace hinner
  have hfound := findSome?_relativeTo? (fun r hr => hroots r (List.mem_mergeSort.mp hr))
    (List.mem_mergeSort.mpr hroot) (fun r hr => hinner r (List.mem_mergeSort.mp hr))
    (hsorted.imp of_decide_eq_true)
  rw [packageOf, hplace]
  simp only [bind, Except.bind, hfound]
  simp [pure, Except.pure]

/-! ## Other search roots -/

/-- What a name stands for is told by the first files there are. -/
theorem isMember_congr {sub sub' whole whole' : List Path} {t : String}
    (hsub : name ≠ "*" → fs.first sub = fs.first sub')
    (hwhole : fs.first whole = fs.first whole') :
    IsMember fs sub whole name t ↔ IsMember fs sub' whole' name t := by
  by_cases hstar : name = "*"
  · simp [IsMember, hstar, hwhole]
  · simp [IsMember, hstar, hwhole, hsub hstar]

/-- No other search root comes between: none before this one holds the module,
and where this one does not, none after it does. -/
def IsUndisturbed (p : Project) (fs : FileSystem) (root : Path) (parts : List String) : Prop :=
  ∃ before after, p.searchRoots = before ++ root :: after ∧
    (∀ r ∈ before, fs.first (r.moduleFiles parts) = none) ∧
    (fs.first (root.moduleFiles parts) = none → ∀ r ∈ after, fs.first (r.moduleFiles parts) = none)

/-- Then the module is looked for under this search root alone. -/
theorem first_places (h : p.IsUndisturbed fs root parts) :
    fs.first (p.places parts) = fs.first (root.moduleFiles parts) := by
  obtain ⟨before, after, hsplit, hbefore, hafter⟩ := h
  rw [places, hsplit, List.flatMap_append, List.flatMap_cons, FileSystem.first_append,
    FileSystem.first_append, FileSystem.first_flatMap_eq_none hbefore, Option.none_or]
  cases hfirst : fs.first (root.moduleFiles parts) with
  | some t => rfl
  | none => rw [FileSystem.first_flatMap_eq_none (hafter hfirst), Option.none_or]

/-- The files of a module below directories are those below the last. -/
theorem moduleFiles_append (hroot : root = .ofParts root.parts) (hne : parts ≠ []) :
    root.moduleFiles (dirs ++ parts) = (Path.ofParts (root.parts ++ dirs)).moduleFiles parts := by
  obtain ⟨first, last, rfl⟩ : ∃ first last, parts = first ++ [last] :=
    ⟨parts.dropLast, parts.getLast hne, (List.dropLast_append_getLast hne).symm⟩
  rw [hroot, ← List.append_assoc]
  simp [Path.moduleFiles, Path.ofParts]

/-! ## Where a relative import leads -/

/-- The name of the module that a relative import names, where the climb stays
inside the search root. -/
theorem climb_eq (hlevel : level ≤ dirs.length) (module : String) :
    climb dirs (level + 1) (some module) =
      some (".".intercalate (dirs.take (dirs.length - level) ++ splitString '.' module)) := by
  have hstays : ¬ dirs.length < level + 1 - 1 := by omega
  rw [climb, if_neg hstays]
  rfl

/-- The rule for a name in a relative import. -/
theorem leadsTo_relative (hclimbed : ∀ dir ∈ climbed, Path.IsName dir) (hmodule : IsDotted module)
    (hname : IsPart name) (hclimb : climb dirs (level + 1) (some module) =
      some (".".intercalate (climbed ++ splitString '.' module))) (t : String) :
    p.LeadsTo fs (some dirs) (.member (level + 1) (some module) name) t ↔
      IsMember fs (p.places (divided climbed ++ (splitString '.' module ++ [name])))
        (p.places (divided climbed ++ splitString '.' module)) name t := by
  have hne : splitString '.' module ≠ [] := Text.splitString_ne_nil _ _
  rw [← submodulePlaces_below hclimbed hmodule hne hname, ← modulePlaces_below hclimbed hmodule hne]
  simp only [LeadsTo, Option.bind_some, hclimb, Option.some.injEq, exists_eq_left']

/-- A name in a relative import cannot be looked up only where a path is too
long. -/
theorem refusal_relative (hclimbed : ∀ dir ∈ climbed, Path.IsName dir) (hmodule : IsDotted module)
    (hname : IsPart name) (hclimb : climb dirs (level + 1) (some module) =
      some (".".intercalate (climbed ++ splitString '.' module))) {cause : Failure}
    (h : p.Refusal fs (some dirs) (.member (level + 1) (some module) name) cause) :
    cause = .file .nameTooLong ∧
      ∃ path ∈ p.places (divided climbed ++ (splitString '.' module ++ [name])) ++
        p.places (divided climbed ++ splitString '.' module), fs.IsTooLong path := by
  have hne : splitString '.' module ≠ [] := Text.splitString_ne_nil _ _
  have hlookups : p.referencePlaces (some dirs) (.member (level + 1) (some module) name) =
      p.namePlaces (".".intercalate (climbed ++ splitString '.' module)) name := by
    rw [referencePlaces, Option.bind_some, hclimb]
  cases h with
  | tooLong hpath hlong =>
    rw [← submodulePlaces_below hclimbed hmodule hne hname,
      ← modulePlaces_below hclimbed hmodule hne]
    rw [hlookups] at hpath
    exact ⟨rfl, _, hpath, hlong⟩
  | nameless htarget hroot hnameless =>
    -- the module has a name, and so a path under every search root
    cases hclimb.symm.trans htarget
    obtain ⟨paths, hpaths⟩ := exists_modulePaths_below hmodule hne _ climbed
    rw [hpaths] at hnameless
    cases hnameless

/-- **Where a relative import leads.** Its names are looked up by the names of
the directories between the search root and the module, under every search
root, and a dot in the name of a directory divides it. Where there is none, and
no other search root comes between, they lead into the package of the file. -/
theorem relative_names_by_roots {sourceDir : Path} {given : Option (List Path)} {text : String}
    {source : List Char} {program : Program} {listed : List String} {line : Nat}
    (hload : load fs sourceDir given = .ok p) (hroot : root ∈ p.searchRoots)
    (hplace : fs.resolve (Path.ofString text) = .ok (.ofParts (root.parts ++ dirs ++ [base])))
    (hinner : ∀ r ∈ p.searchRoots, r.parts <+: root.parts ++ dirs ++ [base] →
      r.parts.length ≤ root.parts.length)
    (hdirs : ∀ dir ∈ dirs, Path.IsName dir) (hparse : Program.parse? source = some program)
    (hs : .names (level + 1) (some module) listed line ∈ program.imports)
    (hlevel : level ≤ dirs.length) :
    let parts := splitString '.' module
    let climbed := dirs.take (dirs.length - level)
    let home := Path.ofParts (root.parts ++ climbed)
    let brought := (do
      let package ← p.packageOf fs (Path.ofString text)
      (p.findStatement fs (Path.ofString text) package
        (.names (level + 1) (some module) listed line)).result : Except Failure (List String))
    (∃ targets, brought = .ok targets ∧
        (∀ t, t ∈ targets ↔ ∃ name ∈ listed, IsMember fs
          (p.places (divided climbed ++ (parts ++ [name]))) (p.places (divided climbed ++ parts))
          name t) ∧
        ((∀ dir ∈ climbed, '.' ∉ dir.toList) → p.IsUndisturbed fs root (climbed ++ parts) →
          (∀ name ∈ listed, name ≠ "*" → p.IsUndisturbed fs root (climbed ++ (parts ++ [name]))) →
          ∀ t, t ∈ targets ↔ ∃ name ∈ listed,
            IsMember fs (home.moduleFiles (parts ++ [name])) (home.moduleFiles parts) name t)) ∨
      brought = .error (.file .nameTooLong) ∧ ∃ name ∈ listed,
        ∃ path ∈ p.places (divided climbed ++ (parts ++ [name])) ++
          p.places (divided climbed ++ parts), fs.IsTooLong path := by
  intro parts climbed home brought
  have hproper : (ImportStatement.names (level + 1) (some module) listed line).IsProper :=
    Program.isProper_of_parse hparse _ hs
  have hmodule : IsDotted module := hproper.2.1 module rfl
  have hnames : ∀ name ∈ listed, IsPart name := by
    intro name hname
    obtain rfl | hpart := hproper.2.2 name hname
    · exact ⟨by decide, by decide, by decide⟩
    · exact hpart
  have hclimbed : ∀ dir ∈ climbed, Path.IsName dir := fun dir hdir =>
    hdirs dir (List.mem_of_mem_take hdir)
  have hclimb := climb_eq hlevel module
  have hroots := searchRoots_eq_ofParts hload
  have hbrought : brought = Outcome.collect (p.outcome fs (some dirs))
      (listed.map (.member (level + 1) (some module))) := by
    simp only [brought, packageOf_eq hroots hroot hplace hinner]
    exact result_findStatement _
  have hanswers : ∀ r ∈ listed.map (Reference.member (level + 1) (some module)),
      Answers (p.Refusal fs (some dirs) r) (p.LeadsTo fs (some dirs) r)
        (p.outcome fs (some dirs) r) := fun r hr => outcome_answers hproper hr
  cases hcollect : Outcome.collect (p.outcome fs (some dirs))
      (listed.map (.member (level + 1) (some module))) with
  | error cause =>
    obtain ⟨r, hr, hcause⟩ := Outcome.collect_eq_error hcollect
    have hrefusal := (hanswers r hr).failed hcause
    obtain ⟨name, hname, rfl⟩ := List.mem_map.mp hr
    obtain ⟨rfl, hlong⟩ := refusal_relative hclimbed hmodule (hnames name hname) hclimb hrefusal
    exact .inr ⟨hbrought.trans hcollect, name, hname, hlong⟩
  | ok targets =>
    have htargets : ∀ t, t ∈ targets ↔ ∃ name ∈ listed, IsMember fs
        (p.places (divided climbed ++ (parts ++ [name]))) (p.places (divided climbed ++ parts))
        name t := by
      intro t
      rw [mem_collect_of_answers hanswers hcollect]
      simp only [List.mem_map, exists_exists_and_eq_and]
      exact exists_congr fun name => and_congr_right fun hname =>
        leadsTo_relative hclimbed hmodule (hnames name hname) hclimb t
    refine .inl ⟨targets, hbrought.trans hcollect, htargets, ?_⟩
    intro hdots hwhole hsub t
    have hhome : ∀ more : List String, more ≠ [] →
        root.moduleFiles (climbed ++ more) = home.moduleFiles more :=
      fun more hmore => moduleFiles_append (hroots root hroot) hmore
    rw [htargets t, divided_eq_self hclimbed hdots]
    refine exists_congr fun name => and_congr_right fun hname => isMember_congr ?_ ?_
    · intro hstar
      rw [first_places (hsub name hname hstar), hhome _ (by simp)]
    · rw [first_places hwhole, hhome _ (Text.splitString_ne_nil _ _)]

deriving instance DecidableEq for Project

/-- A package with a file that imports from the package beside its own. -/
def beside : FileSystem where
  root := .directory [("w", .directory [("src", .directory [("app", .directory [
    ("__init__.py", .file .empty false),
    ("core", .directory [("a.py", .file "from ..util import x, y".toUTF8 false)]),
    ("util", .directory [("__init__.py", .file .empty false), ("x.py", .file .empty false)])])])])]
  cwd := ["w"]

/-- The project of that package: one search root lies within the other. -/
def besideProject : Project where
  sourceRoot := .ofParts ["w"]
  searchRoots := [.ofParts ["w"], .ofParts ["w", "src"]]
  firstParty := ["app"]

/-- A submodule, and a name that is none, in the package beside that of the
file. -/
theorem names_beside_by_roots :
    load beside (.ofString "/w") none = .ok besideProject ∧
      Path.ofParts ["w", "src"] ∈ besideProject.searchRoots ∧
      beside.resolve (Path.ofString "/w/src/app/core/a.py") =
        .ok (.ofParts (["w", "src"] ++ ["app", "core"] ++ ["a.py"])) ∧
      (∀ r ∈ besideProject.searchRoots, r.parts <+: ["w", "src"] ++ ["app", "core"] ++ ["a.py"] →
        r.parts.length ≤ 2) ∧
      (∀ dir ∈ ["app", "core"], Path.IsName dir) ∧
      (∃ program, Program.parse? "from ..util import x, y".toList = some program ∧
        .names 2 (some "util") ["x", "y"] 1 ∈ program.imports) ∧
      1 ≤ ["app", "core"].length ∧
      ∀ t, t ∈ ["/w/src/app/util/x.py", "/w/src/app/util/__init__.py"] ↔ ∃ name ∈ ["x", "y"],
        IsMember beside ((Path.ofParts ["w", "src", "app"]).moduleFiles ["util", name])
          ((Path.ofParts ["w", "src", "app"]).moduleFiles ["util"]) name t := by
  have hroot : Path.ofParts ["w", "src"] ∈ besideProject.searchRoots := by decide
  have hload : load beside (.ofString "/w") none = .ok besideProject :=
    Outcome.toOption_eq_some.mp (by decide +kernel)
  have hplace : beside.resolve (Path.ofString "/w/src/app/core/a.py") =
      .ok (.ofParts (["w", "src"] ++ ["app", "core"] ++ ["a.py"])) :=
    Outcome.toOption_eq_some.mp (by decide +kernel)
  have hinner : ∀ r ∈ besideProject.searchRoots,
      r.parts <+: ["w", "src"] ++ ["app", "core"] ++ ["a.py"] → r.parts.length ≤ 2 := by
    decide +kernel
  obtain ⟨program, hparse, himports⟩ := Option.map_eq_some_iff.mp <|
    show (Program.parse? "from ..util import x, y".toList).map (·.imports) =
      some [.names 2 (some "util") ["x", "y"] 1] by decide +kernel
  have hs : .names 2 (some "util") ["x", "y"] 1 ∈ program.imports := by simp [himports]
  have hundisturbed : ∀ parts, beside.first ((Path.ofParts ["w"]).moduleFiles parts) = none →
      besideProject.IsUndisturbed beside (.ofParts ["w", "src"]) parts := fun parts hnone =>
    ⟨[.ofParts ["w"]], [], rfl, by simpa using hnone, by simp⟩
  have hpackage : besideProject.packageOf beside (Path.ofString "/w/src/app/core/a.py") = _ :=
    packageOf_eq (searchRoots_eq_ofParts hload) hroot hplace hinner
  have hbrought : (do
      let package ← besideProject.packageOf beside (Path.ofString "/w/src/app/core/a.py")
      (besideProject.findStatement beside (Path.ofString "/w/src/app/core/a.py") package
        (.names 2 (some "util") ["x", "y"] 1)).result : Except Failure (List String)) =
      .ok ["/w/src/app/util/x.py", "/w/src/app/util/__init__.py"] := by
    rw [hpackage]
    exact Outcome.toOption_eq_some.mp (by decide +kernel)
  have hdirs : ∀ dir ∈ ["app", "core"], Path.IsName dir := by decide
  refine ⟨hload, hroot, hplace, hinner, hdirs, ⟨program, hparse, hs⟩, by decide, ?_⟩
  obtain ⟨targets, htargets, -, hhome⟩ | ⟨herror, -⟩ :=
    relative_names_by_roots hload hroot hplace hinner hdirs hparse hs (by decide)
  · cases hbrought.symm.trans htargets
    have hparts : splitString '.' "util" = ["util"] := by decide
    rw [hparts] at hhome
    refine hhome (by decide) (hundisturbed _ (by decide +kernel)) ?_
    intro name hname _
    refine hundisturbed _ ?_
    revert name
    decide +kernel
  · cases hbrought.symm.trans herror

/-- Two packages of one name, under both search roots, and a file in one of
them that imports a module that both have. -/
def strayed : FileSystem where
  root := .directory [("w", .directory [
    ("app", .directory [("b.py", .file .empty false)]),
    ("src", .directory [("app", .directory [("__init__.py", .file .empty false),
      ("a.py", .file "from .b import x".toUTF8 false), ("b.py", .file .empty false)])])])]
  cwd := ["w"]

/-- **A relative import strays from the package of the file**: it leads to the
module of another package that has the name of its own. -/
theorem relative_name_strays :
    load strayed (.ofString "/w") none = .ok besideProject ∧
      besideProject.packageOf strayed (Path.ofString "/w/src/app/a.py") = .ok (some ["app"]) ∧
      (∃ program, Program.parse? "from .b import x".toList = some program ∧
        program.imports = [.names 1 (some "b") ["x"] 1]) ∧
      (∀ t, IsMember strayed ((Path.ofParts ["w", "src", "app"]).moduleFiles ["b", "x"])
          ((Path.ofParts ["w", "src", "app"]).moduleFiles ["b"]) "x" t ↔
        t = "/w/src/app/b.py") ∧
      (besideProject.findStatement strayed (Path.ofString "/w/src/app/a.py") (some ["app"])
        (.names 1 (some "b") ["x"] 1)).result = .ok ["/w/app/b.py"] := by
  have hsub : strayed.first ((Path.ofParts ["w", "src", "app"]).moduleFiles ["b", "x"]) = none := by
    decide +kernel
  have hwhole : strayed.first ((Path.ofParts ["w", "src", "app"]).moduleFiles ["b"]) =
      some "/w/src/app/b.py" := by decide +kernel
  have hroot : Path.ofParts ["w", "src"] ∈ besideProject.searchRoots := by decide
  have hload : load strayed (.ofString "/w") none = .ok besideProject :=
    Outcome.toOption_eq_some.mp (by decide +kernel)
  have hplace : strayed.resolve (Path.ofString "/w/src/app/a.py") =
      .ok (.ofParts (["w", "src"] ++ ["app"] ++ ["a.py"])) :=
    Outcome.toOption_eq_some.mp (by decide +kernel)
  have hpackage : besideProject.packageOf strayed (Path.ofString "/w/src/app/a.py") = _ :=
    packageOf_eq (searchRoots_eq_ofParts hload) hroot hplace (by decide +kernel)
  refine ⟨hload, hpackage, Option.map_eq_some_iff.mp (by decide +kernel), fun t => ?_,
    Outcome.toOption_eq_some.mp (by decide +kernel)⟩
  simp [IsMember, hsub, hwhole, eq_comm]

end Project

end Ratchet.Python
