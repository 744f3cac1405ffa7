import Ratchet.Proofs.Extraction.Search
import Ratchet.Proofs.Python.Statement
import Ratchet.Proofs.Survey.Lookups

/-!
# References of a Python program

The import statements of a program refer to modules and to names in modules.
Each reference leads to one file at most, and what a file imports is what its
references lead to.

* `Project.outcome`: where one reference leads, or why this cannot be told.
* `Project.LeadsTo`: the rules by which a reference leads to a file.
* `Project.outcome_answers`: the search for a reference follows the rules.
* `Project.result_findImports`: what a file imports, reference by reference.
-/

namespace Ratchet

namespace Path

variable {root : Path} {parts : List String}

/-- The paths of a module below a directory: the file of its last name, then
the package of that name. -/
def moduleFiles (root : Path) (parts : List String) : List Path :=
  [{ root with parts := root.parts ++ parts.dropLast ++ [parts.getLastD "" ++ ".py"] },
    { root with parts := root.parts ++ parts ++ ["__init__.py"] }]

/-- A name is a path of one part. -/
theorem ofString_name {s : String} (h : IsName s) : ofString s = { parts := [s] } := by
  have hslashed : slashed [s] = s := by simp [slashed]
  have hread : ofString (slashed [s]) = { parts := [s] } :=
    ofString_slashed (by simpa using h) (by simp)
  rwa [hslashed] at hread

/-- Names are followed one by one. -/
theorem foldl_append_names (h : ∀ part ∈ parts, IsName part) :
    parts.foldl (fun path part => path ++ ofString part) root =
      { root with parts := root.parts ++ parts } := by
  induction parts generalizing root with
  | nil => simp
  | cons part parts ih =>
    have hstep : root ++ ofString part = { root with parts := root.parts ++ [part] } := by
      rw [ofString_name (h part (.head _))]
      rfl
    rw [List.foldl_cons, hstep, ih fun p hp => h p (.tail _ hp)]
    simp

end Path

namespace FileSystem

variable {fs : FileSystem} {path : Path} {source : List Char}

theorem hasNull_of_readTextLossy (h : fs.readTextLossy path = .ok source) :
    path.hasNull = false := by
  obtain ⟨bytes, hbytes, -⟩ := Outcome.bind_eq_ok.mp h
  rw [read] at hbytes
  split at hbytes
  · cases hbytes
  · rename_i hnull
    simpa using hnull

end FileSystem

namespace Python

/-- What a name in an import statement refers to. -/
inductive Reference where
  /-- A whole module, by its dotted name. -/
  | whole (dotted : String)
  /-- A name from a module: the dots before the module, the module if it is
  named, and the name. -/
  | member (level : Nat) (module : Option String) (name : String)
  deriving Repr, DecidableEq

/-- What an import statement refers to. -/
def ImportStatement.references : ImportStatement → List Reference
  | .modules listed => listed.map .whole
  | .names level module listed _ => listed.map (.member level module)

/-- What the import statements of a program refer to. -/
def Program.references (program : Program) : List Reference :=
  program.imports.flatMap (·.references)

namespace Project

variable {p : Project} {fs : FileSystem} {file : Path} {package : Option (List String)}
  {dotted module name : String} {parts : List String} {root : Path} {Fault : Failure → Prop}

/-- **Where a reference leads**, seen from a package. -/
def outcome (p : Project) (fs : FileSystem) (package : Option (List String)) :
    Reference → Except Failure (Option String)
  | .whole dotted => p.importedFile fs dotted
  | .member 0 module name => p.importedName fs (module.getD "") name
  | .member (level + 1) module name =>
    match package.bind fun parts => climb parts (level + 1) module with
    | none => .ok none
    | some target => p.importedName fs target name

/-! ## What a file imports -/

/-- A file that can be read lies in a package, or outside the search roots. -/
theorem exists_packageOf {source : List Char} (h : fs.readTextLossy file = .ok source) :
    ∃ package, p.packageOf fs file = .ok package := by
  have hresolve : fs.resolve file = .ok (file.resolve fs.cwd) :=
    FileSystem.resolve_eq_ok.mpr ⟨FileSystem.hasNull_of_readTextLossy h, rfl⟩
  rw [packageOf, hresolve]
  exact ⟨_, rfl⟩

theorem result_findNames (missed : Bool) (written : String → String) (names : List String) :
    (p.findNames fs file module missed written names).result =
      Outcome.collect (p.importedName fs module) names :=
  Finding.result_all_ofResult

/-- What a statement brings is where its references lead. -/
theorem result_findStatement (s : ImportStatement) :
    (p.findStatement fs file package s).result =
      Outcome.collect (p.outcome fs package) s.references := by
  match s with
  | .modules listed =>
    rw [ImportStatement.references, Outcome.collect, List.mapM_map]
    exact Finding.result_all_ofResult
  | .names 0 module listed _ =>
    rw [ImportStatement.references, Outcome.collect, List.mapM_map]
    exact result_findNames ..
  | .names (level + 1) module listed line =>
    rw [ImportStatement.references, Outcome.collect, List.mapM_map, findStatement]
    cases hclimb : package.bind fun parts => climb parts (level + 1) module with
    | none =>
      have hnone : listed.mapM (p.outcome fs package ∘ Reference.member (level + 1) module) =
          .ok (listed.map fun _ => none) :=
        Outcome.mapM_eq_map fun name _ => by simp [outcome, hclimb]
      rw [hnone, List.map_const']
      exact congrArg Except.ok (List.reduceOption_replicate_none).symm
    | some target =>
      have hsome : p.outcome fs package ∘ Reference.member (level + 1) module =
          p.importedName fs target := funext fun name => by simp [outcome, hclimb]
      rw [hsome]
      exact result_findNames ..

/-- **What a file imports** is where its references lead. -/
theorem result_findImports {path : String} {source : List Char} {program : Program}
    (htext : fs.readTextLossy (Path.ofString path) = .ok source)
    (hnull : source.contains '\x00' = false) (hparse : Program.parse? source = some program)
    (hpackage : p.packageOf fs (Path.ofString path) = .ok package) :
    (p.findImports fs path).result =
      Outcome.collect (p.outcome fs package) program.references := by
  rw [findImports, htext]
  simp only [hnull, Bool.false_eq_true, if_false, hparse, hpackage]
  rw [Finding.result_all, Program.references, Outcome.collect_flatMap]
  simp only [result_findStatement]

/-! ## Modules -/

/-- The paths of a module, search root by search root. -/
def places (p : Project) (parts : List String) : List Path :=
  p.searchRoots.flatMap (·.moduleFiles parts)

/-- A module has no paths only where the path is without a name. -/
theorem exists_emptyName {cause : Failure} (h : modulePaths root parts = .error cause) :
    ∃ text, cause = .emptyName text := by
  unfold modulePaths at h
  dsimp only at h
  split at h
  · cases h
    exact ⟨_, rfl⟩
  · cases h

/-- A dotted name that can be one has its two paths below a root. -/
theorem modulePaths_eq (h : ∀ part ∈ parts, Path.IsName part) (hne : parts ≠ []) (root : Path) :
    modulePaths root parts = .ok (root.moduleFiles parts) := by
  obtain ⟨first, last, rfl⟩ : ∃ first last, parts = first ++ [last] :=
    ⟨parts.dropLast, parts.getLast hne, (List.dropLast_append_getLast hne).symm⟩
  rw [modulePaths, Path.foldl_append_names h]
  simp [Path.withName?, Path.moduleFiles, Path.name, Path.parent, Path.child, ← List.append_assoc]

/-- The paths of a module whose name is parts with dots between them. -/
theorem modulePlaces_eq (h : ∀ part ∈ parts, IsPart part) (hne : parts ≠ []) :
    p.modulePlaces (".".intercalate parts) = p.places parts := by
  have hread := splitString_dotted (fun part hpart => (h part hpart).dot) hne
  have hnotempty : ".".intercalate parts ≠ "" := by
    intro hempty
    rw [hempty] at hread
    have hsplit : Text.splitString '.' "" = [""] := by decide
    rw [hsplit] at hread
    exact (h "" (hread ▸ .head _)).ne_empty rfl
  rw [modulePlaces, if_neg hnotempty, hread, places]
  congr 1
  funext root
  rw [modulePaths_eq (fun part hpart => (h part hpart).isName) hne]
  rfl

/-- The first file is found among the paths, unless there is a fault. -/
theorem firstFile_finds {paths : List Path}
    (h : ∀ path ∈ paths, ∀ cause, fs.isFile path = .error cause → Fault cause) :
    fs.Finds Fault paths (firstFile fs paths) := by
  induction paths with
  | nil => exact .nil
  | cons path paths ih =>
    have hpath : fs.Finds Fault [path] _ := .path (h path (.head _))
    have hboth := hpath.orElse (ih fun q hq => h q (.tail _ hq))
    refine Eq.mp (congrArg (fs.Finds Fault (path :: paths)) ?_) hboth
    rw [firstFile]
    cases fs.isFile path with
    | error cause => rfl
    | ok b =>
      cases b with
      | false => rfl
      | true => cases fs.resolve path <;> rfl

/-- The search for a module takes the search roots in turn. -/
theorem findModule_finds {roots : List Path}
    (hname : ∀ root ∈ roots, ∀ cause, modulePaths root parts = .error cause → Fault cause)
    (h : ∀ path ∈ roots.flatMap fun root => (modulePaths root parts).toOption.getD [],
      ∀ cause, fs.isFile path = .error cause → Fault cause) :
    fs.Finds Fault (roots.flatMap fun root => (modulePaths root parts).toOption.getD [])
      (findModule fs parts roots) := by
  induction roots with
  | nil => exact .nil
  | cons root roots ih =>
    have hrest := ih (fun r hr => hname r (.tail _ hr)) fun path hpath =>
      h path (by rw [List.flatMap_cons]; exact List.mem_append_right _ hpath)
    rw [findModule, List.flatMap_cons]
    cases hpaths : modulePaths root parts with
    | error cause => exact .error (hname root (.head _) cause hpaths)
    | ok paths =>
      have hroot : fs.Finds Fault paths (firstFile fs paths) := firstFile_finds fun path hpath =>
        h path (by
          rw [List.flatMap_cons, hpaths]
          exact List.mem_append_left _ hpath)
      exact hroot.orElse hrest

/-- A module is found among its places, unless there is a fault. -/
theorem moduleFile_finds
    (hname : ∀ root ∈ p.searchRoots, ∀ cause,
      modulePaths root (Text.splitString '.' dotted) = .error cause → Fault cause)
    (h : ∀ path ∈ p.modulePlaces dotted, ∀ cause, fs.isFile path = .error cause → Fault cause) :
    fs.Finds Fault (p.modulePlaces dotted) (p.moduleFile fs dotted) := by
  rw [modulePlaces] at h ⊢
  rw [moduleFile]
  split
  · exact .nil
  · rename_i hempty
    rw [if_neg hempty] at h
    exact findModule_finds hname h

/-- No path of a proper module is without a name. -/
theorem module_finds (hparts : ∀ part ∈ parts, IsPart part) (hne : parts ≠ [])
    (h : ∀ path ∈ p.places parts, ∀ cause, fs.isFile path = .error cause → Fault cause) :
    fs.Finds Fault (p.places parts) (p.moduleFile fs (".".intercalate parts)) := by
  have hplaces := modulePlaces_eq (p := p) hparts hne
  rw [← hplaces] at h ⊢
  refine moduleFile_finds (fun root _ cause hcause => ?_) h
  rw [splitString_dotted (fun part hpart => (hparts part hpart).dot) hne,
    modulePaths_eq (fun part hpart => (hparts part hpart).isName) hne] at hcause
  cases hcause

/-! ## The rules -/

/-- A dotted name stands for the longest part of it that is a module. -/
def IsNearest (p : Project) (fs : FileSystem) (parts : List String) (t : String) : Prop :=
  ∃ first rest, parts = first ++ rest ∧ first ≠ [] ∧ fs.first (p.places first) = some t ∧
    ∀ more, more ≠ [] → more <+: rest → fs.first (p.places (first ++ more)) = none

/-- A name from a module stands for the submodule of that name, from the paths
`sub`, or else for the module, from the paths `whole`; a star for the module. -/
def IsMember (fs : FileSystem) (sub whole : List Path) (name t : String) : Prop :=
  name ≠ "*" ∧ fs.first sub = some t ∨
    (name = "*" ∨ fs.first sub = none) ∧ fs.first whole = some t

/-- The name of a submodule. -/
def submodule (module name : String) : String :=
  if module = "" then name else module ++ "." ++ name

/-- **The rules by which a reference leads to a file**, seen from a package. -/
def LeadsTo (p : Project) (fs : FileSystem) (package : Option (List String)) :
    Reference → String → Prop
  | .whole dotted, t => p.IsNearest fs (Text.splitString '.' dotted) t
  | .member 0 module name, t =>
    let parts := Text.splitString '.' (module.getD "")
    IsMember fs (p.places (parts ++ [name])) (p.places parts) name t
  | .member (level + 1) module name, t =>
    ∃ target, (package.bind fun parts => climb parts (level + 1) module) = some target ∧
      IsMember fs (p.modulePlaces (submodule target name)) (p.modulePlaces target) name t

/-- The paths at which a reference may lead. -/
def referencePlaces (p : Project) (package : Option (List String)) : Reference → List Path
  | .whole dotted => p.importPlaces dotted
  | .member 0 module name => p.namePlaces (module.getD "") name
  | .member (level + 1) module name =>
    match package.bind fun parts => climb parts (level + 1) module with
    | none => []
    | some target => p.namePlaces target name

/-- **Why a reference cannot be looked up.** -/
inductive Refusal (p : Project) (fs : FileSystem) (package : Option (List String)) :
    Reference → Failure → Prop
  /-- A path at which it may lead is too long. -/
  | tooLong {r : Reference} {path : Path} (hpath : path ∈ p.referencePlaces package r)
      (hlong : fs.IsTooLong path) : Refusal p fs package r (.file .nameTooLong)
  /-- The module of a relative reference is the root of the file system. -/
  | nameless {level : Nat} {module : Option String} {name target : String} {root : Path}
      {cause : Failure}
      (htarget : (package.bind fun parts => climb parts (level + 1) module) = some target)
      (hroot : root ∈ p.searchRoots)
      (hname : modulePaths root (Text.splitString '.' target) = .error cause) :
      Refusal p fs package (.member (level + 1) module name) cause

/-- A search for what a rule leads to, to one file at most: it comes to that
file, or fails for a known reason. -/
structure Answers (Fault : Failure → Prop) (rule : String → Prop)
    (search : Except Failure (Option String)) : Prop where
  /-- What is found is what the rule leads to. -/
  found : ∀ {r}, search = .ok r → ∀ t, r = some t ↔ rule t
  /-- The search fails for a reason only. -/
  failed : ∀ {cause}, search = .error cause → Fault cause

theorem Answers.congr {Fault : Failure → Prop} {rule rule' : String → Prop}
    {search : Except Failure (Option String)} (h : Answers Fault rule search)
    (hrule : ∀ t, rule t ↔ rule' t) : Answers Fault rule' search :=
  ⟨fun hr t => (h.found hr t).trans (hrule t), h.failed⟩

/-- Searches by rules bring together what the rules lead to. -/
theorem mem_collect_of_answers {α : Type} {faults : α → Failure → Prop}
    {rules : α → String → Prop} {f : α → Except Failure (Option String)} {xs : List α}
    {targets : List String} (hanswers : ∀ x ∈ xs, Answers (faults x) (rules x) (f x))
    (h : Outcome.collect f xs = .ok targets) {t : String} :
    t ∈ targets ↔ ∃ x ∈ xs, rules x t := by
  rw [Outcome.mem_collect h]
  constructor
  · rintro ⟨x, hx, hfound⟩
    exact ⟨x, hx, ((hanswers x hx).found hfound t).mp rfl⟩
  · rintro ⟨x, hx, hrule⟩
    -- no search has failed, so this one has come to an end
    obtain ⟨found, hfound, -⟩ := Outcome.map_eq_ok.mp h
    obtain ⟨y, hy⟩ := Outcome.exists_mapM.mp ⟨found, hfound⟩ x hx
    have hsome := ((hanswers x hx).found hy t).mpr hrule
    exact ⟨x, hx, by rw [hy, hsome]⟩

theorem not_isNearest_nil (t : String) : ¬ p.IsNearest fs [] t := by
  rintro ⟨first, rest, hparts, hne, -⟩
  exact hne (List.append_eq_nil_iff.mp hparts.symm).1

/-- The longest part is the whole, or else the longest part of all parts but
the last. -/
theorem isNearest_concat (parts : List String) (part t : String) :
    p.IsNearest fs (parts ++ [part]) t ↔
      fs.first (p.places (parts ++ [part])) = some t ∨
        fs.first (p.places (parts ++ [part])) = none ∧ p.IsNearest fs parts t := by
  constructor
  · rintro ⟨first, rest, hparts, hne, hfirst, hmore⟩
    cases rest using List.reverseRecOn with
    | nil =>
      rw [List.append_nil] at hparts
      rw [hparts]
      exact .inl hfirst
    | append_singleton rest last =>
      rw [← List.append_assoc] at hparts
      obtain ⟨rfl, hlast⟩ := List.append_inj' hparts rfl
      cases hlast
      have hwhole := hmore (rest ++ [part]) (by simp) List.prefix_rfl
      rw [← List.append_assoc] at hwhole
      refine .inr ⟨hwhole, first, rest, rfl, hne, hfirst, fun more hmore' hstart => ?_⟩
      exact hmore more hmore' (hstart.trans (List.prefix_append _ _))
  · rintro (hwhole | ⟨hwhole, first, rest, rfl, hne, hfirst, hmore⟩)
    · refine ⟨parts ++ [part], [], by simp, by simp, hwhole, fun more hmore hstart => ?_⟩
      exact absurd (List.prefix_nil.mp hstart) hmore
    · refine ⟨first, rest ++ [part], by simp, hne, hfirst, fun more hne' hstart => ?_⟩
      obtain rfl | hstart := List.prefix_concat_iff.mp hstart
      · rw [← List.append_assoc]
        exact hwhole
      · exact hmore more hne' hstart

/-- The nearest module is what the search answers. -/
theorem nearestModule_answers (hparts : ∀ part ∈ parts, IsPart part)
    (h : ∀ first, first <+: parts → ∀ path ∈ p.modulePlaces (".".intercalate first),
      ∀ cause, fs.isFile path = .error cause → Fault cause) :
    Answers Fault (p.IsNearest fs parts) (p.nearestModule fs parts) := by
  -- a search that finds nothing goes on with all parts but the last
  induction parts using List.reverseRecOn with
  | nil =>
    rw [nearestModule]
    refine ⟨fun hr t => ?_, fun hr => by cases hr⟩
    cases hr
    exact ⟨fun h => (by cases h), fun h => absurd h (not_isNearest_nil t)⟩
  | append_singleton parts part ih =>
    have hrest := ih (fun q hq => hparts q (List.mem_append_left _ hq)) fun first hfirst =>
      h first (hfirst.trans (List.prefix_append _ _))
    have hwhole : fs.Finds Fault (p.places (parts ++ [part]))
        (p.moduleFile fs (".".intercalate (parts ++ [part]))) := by
      refine module_finds hparts (by simp) ?_
      rw [← modulePlaces_eq hparts (by simp)]
      exact h _ List.prefix_rfl
    rw [nearestModule_concat]
    cases hsearch : p.moduleFile fs (".".intercalate (parts ++ [part])) with
    | error cause =>
      exact ⟨fun hr => (by cases hr), fun hr => Except.error.inj hr ▸ hwhole.failed hsearch⟩
    | ok found =>
      have hfound := hwhole.found hsearch
      cases found with
      | some file =>
        refine ⟨fun hr t => ?_, fun hr => by cases hr⟩
        rw [isNearest_concat, ← hfound, ← Except.ok.inj hr]
        simp
      | none =>
        refine ⟨fun hr t => ?_, hrest.failed⟩
        rw [isNearest_concat, ← hfound, hrest.found hr t]
        simp

/-- The search for a name from a module. -/
theorem importedName_answers {sub whole : List Path}
    (hsub : name ≠ "*" → fs.Finds Fault sub (p.moduleFile fs (submodule module name)))
    (hwhole : fs.Finds Fault whole (p.moduleFile fs module)) :
    Answers Fault (IsMember fs sub whole name) (p.importedName fs module name) := by
  rw [importedName]
  by_cases hstar : name = "*"
  · rw [if_pos hstar]
    refine ⟨fun hr t => ?_, hwhole.failed⟩
    simp [IsMember, hstar, hwhole.found hr]
  · rw [if_neg hstar]
    have hboth := (hsub hstar).orElse hwhole
    refine ⟨fun {r} hr t => ?_, hboth.failed⟩
    rw [hboth.found hr, FileSystem.first_append]
    cases hfirst : fs.first sub <;> simp [IsMember, hstar, hfirst]

/-! ## Searches by the rules -/

/-- The name of a submodule has one part more than that of the module. -/
theorem splitString_submodule (hmodule : IsDotted module) (hname : IsPart name) :
    Text.splitString '.' (submodule module name) = Text.splitString '.' module ++ [name] := by
  have hne : module ≠ "" := by
    rintro rfl
    exact (hmodule "" (by decide)).ne_empty rfl
  rw [submodule, if_neg hne, Text.splitString_append_dot, Text.splitString_eq_singleton hname.dot]

/-- A name below a dotted name makes a dotted name. -/
theorem isDotted_submodule (hmodule : IsDotted module) (hname : IsPart name) :
    IsDotted (submodule module name) := by
  rw [IsDotted, splitString_submodule hmodule hname]
  exact List.forall_mem_append.mpr ⟨hmodule, List.forall_mem_singleton.mpr hname⟩

/-- The search for a module by its dotted name. -/
theorem dotted_finds (h : IsDotted dotted) (hask : ∀ path ∈ p.modulePlaces dotted,
    ∀ cause, fs.isFile path = .error cause → Fault cause) :
    fs.Finds Fault (p.places (Text.splitString '.' dotted)) (p.moduleFile fs dotted) := by
  have hne := Text.splitString_ne_nil '.' dotted
  have hplaces := modulePlaces_eq (p := p) h hne
  rw [intercalate_splitString] at hplaces
  rw [hplaces] at hask
  have hfinds := module_finds h hne hask
  rwa [intercalate_splitString] at hfinds

/-- The name of a submodule ends with the name from the module. -/
theorem exists_splitString_submodule (hname : '.' ∉ name.toList) (module : String) :
    ∃ parts, Text.splitString '.' (submodule module name) = parts ++ [name] := by
  unfold submodule
  split
  · exact ⟨[], Text.splitString_eq_singleton hname⟩
  · refine ⟨Text.splitString '.' module, ?_⟩
    rw [Text.splitString_append_dot, Text.splitString_eq_singleton hname]

/-- A path that ends with a name has one. -/
theorem exists_modulePaths_concat (hname : Path.IsName name) (root : Path) (parts : List String) :
    ∃ paths, modulePaths root (parts ++ [name]) = .ok paths := by
  have hbase : ∀ base : Path, (base ++ Path.ofString name).parts ≠ [] := by
    intro base
    rw [Path.ofString_name hname]
    have happend : (base ++ ({ parts := [name] } : Path)).parts = base.parts ++ [name] := rfl
    simp [happend]
  rw [modulePaths, List.foldl_append]
  simp [Path.withName?, hbase]

/-- A path that cannot be asked for is too long. -/
theorem refusal_of_isFile {r : Reference} {path : Path} (hpath : path ∈ p.referencePlaces package r)
    {cause : Failure} (h : fs.isFile path = .error cause) : p.Refusal fs package r cause := by
  obtain ⟨rfl, hlong⟩ := FileSystem.isTooLong_of_ask h
  exact .tooLong hpath hlong

/-- The search for a whole module. -/
theorem whole_answers (h : IsDotted dotted) :
    Answers (p.Refusal fs package (.whole dotted)) (p.LeadsTo fs package (.whole dotted))
      (p.outcome fs package (.whole dotted)) := by
  refine nearestModule_answers h fun first hfirst path hpath _ => refusal_of_isFile ?_
  exact List.mem_flatMap.mpr ⟨first, (List.mem_inits _ _).mpr hfirst, hpath⟩

/-- The search for a name from a module that is named in full. -/
theorem member_answers (hmodule : IsDotted module) (hname : name = "*" ∨ IsPart name) :
    Answers (p.Refusal fs package (.member 0 (some module) name))
      (p.LeadsTo fs package (.member 0 (some module) name))
      (p.outcome fs package (.member 0 (some module) name)) := by
  refine importedName_answers (fun hstar => ?_) ?_
  · have hpart := hname.resolve_left hstar
    rw [Option.getD_some, ← splitString_submodule hmodule hpart]
    exact dotted_finds (isDotted_submodule hmodule hpart) fun path hpath _ =>
      refusal_of_isFile (List.mem_append_left _ hpath)
  · exact dotted_finds hmodule fun path hpath _ =>
      refusal_of_isFile (List.mem_append_right _ hpath)

/-- The search for a name from a module that is named by its place, where the climb
leads to one. -/
theorem climbed_answers {level : Nat} {named : Option String} {target : String}
    (hclimb : (package.bind fun parts => climb parts (level + 1) named) = some target)
    (hname : name = "*" ∨ IsPart name) :
    Answers (p.Refusal fs package (.member (level + 1) named name))
      (IsMember fs (p.modulePlaces (submodule target name)) (p.modulePlaces target) name)
      (p.importedName fs target name) := by
  have hask : ∀ path ∈ p.namePlaces target name, ∀ cause, fs.isFile path = .error cause →
      p.Refusal fs package (.member (level + 1) named name) cause := by
    refine fun path hpath _ => refusal_of_isFile ?_
    rwa [referencePlaces, hclimb]
  refine importedName_answers (fun hstar => ?_) ?_
  · refine moduleFile_finds (fun root _ cause hcause => ?_) fun path hpath =>
      hask path (List.mem_append_left _ hpath)
    -- the path of a submodule ends with its name
    have hpart := hname.resolve_left hstar
    obtain ⟨parts, hparts⟩ := exists_splitString_submodule hpart.dot target
    obtain ⟨paths, hpaths⟩ := exists_modulePaths_concat hpart.isName root parts
    rw [hparts, hpaths] at hcause
    cases hcause
  · exact moduleFile_finds (fun root hroot cause hcause => .nameless hclimb hroot hcause)
      fun path hpath => hask path (List.mem_append_right _ hpath)

/-- **The search for a reference follows the rules**, or the reference cannot
be looked up. -/
theorem outcome_answers {s : ImportStatement} (hs : s.IsProper) {r : Reference}
    (hr : r ∈ s.references) :
    Answers (p.Refusal fs package r) (p.LeadsTo fs package r) (p.outcome fs package r) := by
  match s with
  | .modules listed =>
    obtain ⟨dotted, hdotted, rfl⟩ := List.mem_map.mp hr
    exact whole_answers (hs dotted hdotted)
  | .names 0 module listed _ =>
    obtain ⟨name, hname, rfl⟩ := List.mem_map.mp hr
    obtain ⟨hsome, hdotted, hnames⟩ := hs
    obtain ⟨m, rfl⟩ := Option.isSome_iff_exists.mp (hsome rfl)
    exact member_answers (hdotted m rfl) (hnames name hname)
  | .names (level + 1) module listed _ =>
    obtain ⟨name, hname, rfl⟩ := List.mem_map.mp hr
    obtain ⟨-, -, hnames⟩ := hs
    rw [outcome]
    cases hclimb : package.bind fun parts => climb parts (level + 1) module with
    | none =>
      refine ⟨fun hr t => ?_, fun hr => nomatch hr⟩
      cases hr
      simp [LeadsTo, hclimb]
    | some target =>
      refine (climbed_answers hclimb (hnames name hname)).congr fun t => ?_
      simp [LeadsTo, hclimb]

end Project

end Python

end Ratchet
