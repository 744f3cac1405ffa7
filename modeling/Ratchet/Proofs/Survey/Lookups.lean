import Mathlib.Data.List.Infix
import Ratchet.Extraction
import Ratchet.Proofs.FileSystem.Write

/-!
# Where imports are looked up

What a file imports depends on its text and on a few paths of the tree: those
at which one of its imports could be found. `lookups` lists them, without
asking at which of them something is. Two trees in which a file has the same
text, and which agree at its lookups, give it the same imports.

* `Finding.Agrees`: two findings with the same files, but for the warnings.
* `findImports_agrees`: the imports of a Python or a TypeScript file.
* `extract_agrees`: the imports of a file of any language.
-/

namespace Ratchet

/-! ## Findings -/

namespace Finding

variable {a b a' b' : Finding}

/-- Two searches have brought the same files and ended alike; the warnings may
differ. -/
structure Agrees (a b : Finding) : Prop where
  targets : a.targets = b.targets
  failure : a.failure = b.failure

theorem Agrees.rfl : a.Agrees a :=
  ⟨Eq.refl _, Eq.refl _⟩

/-- Findings agree if their parts do. -/
theorem Agrees.andThen (h : a.Agrees b) (h' : a'.Agrees b') :
    (a.andThen a').Agrees (b.andThen b') := by
  have hf := h.failure
  unfold Finding.andThen
  rw [hf]
  cases b.failure with
  | some cause => exact ⟨h.targets, hf⟩
  | none => exact ⟨by rw [h.targets, h'.targets], h'.failure⟩

/-- Searches that agree one by one agree in a row. -/
theorem agrees_all {α : Type} {xs : List α} {f g : α → Finding}
    (h : ∀ x ∈ xs, (f x).Agrees (g x)) : (all (xs.map f)).Agrees (all (xs.map g)) := by
  induction xs with
  | nil => exact .rfl
  | cons x xs ih =>
    exact (h x (.head _)).andThen (ih fun y hy => h y (.tail _ hy))

theorem agrees_ofResult (found : Except Failure (Option String)) (ws ws' : List Warning) :
    (ofResult found ws).Agrees (ofResult found ws') := by
  cases found with
  | error cause => exact .rfl
  | ok target =>
    cases target with
    | none => exact ⟨Eq.refl _, Eq.refl _⟩
    | some file => exact .rfl

theorem Agrees.result (h : a.Agrees b) : a.result = b.result := by
  rw [Finding.result, Finding.result, h.failure, h.targets]

end Finding

variable {fs fs' : FileSystem}

/-! ## Python -/

namespace Python.Project

variable {p p' : Python.Project} {dotted module name : String} {file : Path}
  {package : Option (List String)}

/-- The paths at which a module may be found. -/
def modulePlaces (p : Python.Project) (dotted : String) : List Path :=
  if dotted = "" then []
  else p.searchRoots.flatMap fun root =>
    (modulePaths root (Text.splitString '.' dotted)).toOption.getD []

/-- The paths at which an import of a dotted name may lead: those of every
module that its first parts name. -/
def importPlaces (p : Python.Project) (dotted : String) : List Path :=
  (Text.splitString '.' dotted).inits.flatMap fun parts => p.modulePlaces (".".intercalate parts)

/-- The paths at which an import of a name from a module may lead. -/
def namePlaces (p : Python.Project) (module name : String) : List Path :=
  p.modulePlaces (if module = "" then name else module ++ "." ++ name) ++ p.modulePlaces module

/-- The paths at which an import statement may lead. -/
def statementPlaces (p : Python.Project) (package : Option (List String)) :
    ImportStatement → List Path
  | .modules names => names.flatMap p.importPlaces
  | .names 0 module names _ => names.flatMap (p.namePlaces (module.getD ""))
  | .names (level + 1) module names _ =>
    match package.bind fun parts => climb parts (level + 1) module with
    | none => []
    | some target => names.flatMap (p.namePlaces target)

/-- The paths at which the imports of a Python file may lead. -/
def lookups (p : Python.Project) (fs : FileSystem) (file : String) : List Path :=
  match fs.readTextLossy (Path.ofString file) with
  | .error _ => []
  | .ok source =>
    match Program.parse? source, p.packageOf fs (Path.ofString file) with
    | some program, .ok package => program.imports.flatMap (p.statementPlaces package)
    | _, _ => []

/-- The nearest module is the one of the whole name, or of the name but its last part. -/
theorem nearestModule_concat (p : Python.Project) (fs : FileSystem) (parts : List String)
    (part : String) :
    p.nearestModule fs (parts ++ [part]) = (do
      match ← p.moduleFile fs (".".intercalate (parts ++ [part])) with
      | some file => return some file
      | none => p.nearestModule fs parts) := by
  cases parts with
  | nil => exact nearestModule.eq_2 p fs part []
  | cons first parts =>
    have hstep := nearestModule.eq_2 p fs first (parts ++ [part])
    rw [← List.cons_append, List.dropLast_concat] at hstep
    exact hstep

section

variable (hcwd : fs.cwd = fs'.cwd)

include hcwd

/-- The first file is the same where the files agree at the paths. -/
theorem firstFile_congr {paths : List Path} (h : ∀ path ∈ paths, fs.AgreeAt fs' path) :
    firstFile fs paths = firstFile fs' paths := by
  induction paths with
  | nil => rfl
  | cons path paths ih =>
    rw [firstFile, firstFile, (h path (.head _)).isFile, FileSystem.resolve_congr hcwd path,
      ih fun q hq => h q (.tail _ hq)]

theorem findModule_congr {parts : List String} {roots : List Path}
    (h : ∀ root ∈ roots, ∀ path ∈ (modulePaths root parts).toOption.getD [],
      fs.AgreeAt fs' path) : findModule fs parts roots = findModule fs' parts roots := by
  induction roots with
  | nil => rfl
  | cons root roots ih =>
    have hroot := h root (.head _)
    rw [findModule, findModule, ih fun r hr => h r (.tail _ hr)]
    cases hpaths : modulePaths root parts with
    | error cause => rfl
    | ok paths =>
      have hfirst : firstFile fs paths = firstFile fs' paths :=
        firstFile_congr hcwd fun path hpath => hroot path (by rw [hpaths]; exact hpath)
      simp only [bind, Except.bind, hfirst]

/-- The search for a module takes the search roots and what is at its places. -/
theorem moduleFile_congr (hroots : p.searchRoots = p'.searchRoots)
    (h : ∀ path ∈ p.modulePlaces dotted, fs.AgreeAt fs' path) :
    p.moduleFile fs dotted = p'.moduleFile fs' dotted := by
  rw [moduleFile, moduleFile, ← hroots]
  by_cases hempty : dotted = ""
  · rw [if_pos hempty, if_pos hempty]
  · rw [modulePlaces, if_neg hempty] at h
    rw [if_neg hempty, if_neg hempty]
    exact findModule_congr hcwd fun root hroot path hpath =>
      h path (List.mem_flatMap.mpr ⟨root, hroot, hpath⟩)

/-- The nearest module is the same where the files agree at its places. -/
theorem nearestModule_congr (hroots : p.searchRoots = p'.searchRoots) {parts : List String}
    (h : ∀ first, first <+: parts → ∀ path ∈ p.modulePlaces (".".intercalate first),
      fs.AgreeAt fs' path) : p.nearestModule fs parts = p'.nearestModule fs' parts := by
  -- a search that finds nothing goes on with all parts but the last
  induction parts using List.reverseRecOn with
  | nil => rw [nearestModule, nearestModule]
  | append_singleton parts part ih =>
    rw [nearestModule_concat, nearestModule_concat,
      moduleFile_congr hcwd hroots (h _ List.prefix_rfl),
      ih fun first hfirst => h first (hfirst.trans (List.prefix_append _ _))]

/-- An import is the same where the files agree at its places. -/
theorem importedFile_congr (hroots : p.searchRoots = p'.searchRoots)
    (h : ∀ path ∈ p.importPlaces dotted, fs.AgreeAt fs' path) :
    p.importedFile fs dotted = p'.importedFile fs' dotted :=
  nearestModule_congr hcwd hroots fun first hfirst path hpath =>
    h path (List.mem_flatMap.mpr ⟨first, (List.mem_inits _ _).mpr hfirst, hpath⟩)

/-- An imported name is the same where the files agree at its places. -/
theorem importedName_congr (hroots : p.searchRoots = p'.searchRoots)
    (h : ∀ path ∈ p.namePlaces module name, fs.AgreeAt fs' path) :
    p.importedName fs module name = p'.importedName fs' module name := by
  have hsub := moduleFile_congr hcwd hroots fun path hpath =>
    h path (List.mem_append_left _ hpath)
  have hmodule := moduleFile_congr hcwd hroots fun path hpath =>
    h path (List.mem_append_right _ hpath)
  rw [importedName, importedName, hsub, hmodule]

theorem packageOf_congr (hroots : p.searchRoots = p'.searchRoots) (file : Path) :
    p.packageOf fs file = p'.packageOf fs' file := by
  rw [packageOf, packageOf, hroots, FileSystem.resolve_congr hcwd]

/-! ### Statements -/

theorem findModuleImport_agrees (hroots : p.searchRoots = p'.searchRoots)
    (h : ∀ path ∈ p.importPlaces dotted, fs.AgreeAt fs' path) :
    (p.findModuleImport fs file dotted).Agrees (p'.findModuleImport fs' file dotted) := by
  rw [findModuleImport, findModuleImport, importedFile_congr hcwd hroots h]
  exact Finding.agrees_ofResult ..

/-- Imported names are found alike where the files agree at their places. -/
theorem findNames_agrees (hroots : p.searchRoots = p'.searchRoots) {missed missed' : Bool}
    {written written' : String → String} {names : List String}
    (h : ∀ path ∈ names.flatMap (p.namePlaces module), fs.AgreeAt fs' path) :
    (p.findNames fs file module missed written names).Agrees
      (p'.findNames fs' file module missed' written' names) := by
  have hall : (Finding.all (names.map fun name => .ofResult (p.importedName fs module name)
      (if missed then [.unresolved (written name) (p.shown file)] else []))).Agrees
      (Finding.all (names.map fun name => .ofResult (p'.importedName fs' module name)
        (if missed' then [.unresolved (written' name) (p'.shown file)] else []))) := by
    refine Finding.agrees_all fun name hname => ?_
    rw [importedName_congr hcwd hroots fun path hpath =>
      h path (List.mem_flatMap.mpr ⟨name, hname, hpath⟩)]
    exact Finding.agrees_ofResult ..
  exact ⟨hall.targets, hall.failure⟩

/-- A statement is found alike where the files agree at its places. -/
theorem findStatement_agrees (hroots : p.searchRoots = p'.searchRoots) {i : ImportStatement}
    (h : ∀ path ∈ p.statementPlaces package i, fs.AgreeAt fs' path) :
    (p.findStatement fs file package i).Agrees (p'.findStatement fs' file package i) := by
  match i with
  | .modules names =>
    exact Finding.agrees_all fun dotted hdotted =>
      findModuleImport_agrees hcwd hroots fun path hpath =>
        h path (List.mem_flatMap.mpr ⟨dotted, hdotted, hpath⟩)
  | .names 0 module names _ => exact findNames_agrees hcwd hroots h
  | .names (level + 1) module names _ =>
    rw [statementPlaces] at h
    rw [findStatement, findStatement]
    cases hclimb : package.bind fun parts => climb parts (level + 1) module with
    | none => exact ⟨rfl, rfl⟩
    | some target =>
      rw [hclimb] at h
      exact findNames_agrees hcwd hroots h

/-- **What a Python file imports** depends on its text, the search roots and
what is at its lookups. -/
theorem findImports_agrees (hroots : p.searchRoots = p'.searchRoots) {file : String}
    (htext : fs.readTextLossy (Path.ofString file) = fs'.readTextLossy (Path.ofString file))
    (h : ∀ path ∈ p.lookups fs file, fs.AgreeAt fs' path) :
    (p.findImports fs file).Agrees (p'.findImports fs' file) := by
  rw [lookups] at h
  rw [findImports, findImports, ← htext, ← packageOf_congr hcwd hroots]
  cases hread : fs.readTextLossy (Path.ofString file) with
  | error cause => exact .rfl
  | ok source =>
    dsimp only
    split
    · exact .rfl
    cases hparse : Program.parse? source with
    | none => exact ⟨rfl, rfl⟩
    | some program =>
      dsimp only
      cases hpackage : p.packageOf fs (Path.ofString file) with
      | error cause => exact .rfl
      | ok package =>
        simp only [hread, hparse, hpackage] at h
        exact Finding.agrees_all fun i hi => findStatement_agrees hcwd hroots fun path hpath =>
          h path (List.mem_flatMap.mpr ⟨i, hi, hpath⟩)

end

end Python.Project

/-! ## TypeScript -/

namespace TypeScript

variable {root base importer : Path} {specifier : String}

/-- The paths at which what a path names may be: the path itself, with each
implied extension, and the index files in it. -/
def targetPlaces (base : Path) : List Path :=
  base :: impliedExtensions.filterMap (fun extension => base.withName? (base.name ++ extension)) ++
    indexFiles.map base.child

/-- The paths at which a specifier may lead. -/
def specifierPlaces (root importer : Path) (specifier : String) : List Path :=
  match basePath root importer specifier with
  | none => []
  | some base => targetPlaces base

/-- The paths at which the imports of a TypeScript file may lead. -/
def lookups (fs : FileSystem) (root : Path) (file : String) : List Path :=
  match fs.readTextLossy (Path.ofString file) with
  | .error _ => []
  | .ok source =>
    (specifiers (withoutComments source)).flatMap (specifierPlaces root (Path.ofString file))

section

variable (hcwd : fs.cwd = fs'.cwd)

include hcwd

theorem withExtension_congr {extensions : List String}
    (h : ∀ path ∈ extensions.filterMap (fun extension => base.withName? (base.name ++ extension)),
      fs.AgreeAt fs' path) :
    withExtension fs base extensions = withExtension fs' base extensions := by
  induction extensions with
  | nil => rfl
  | cons extension extensions ih =>
    rw [withExtension, withExtension]
    cases hname : base.withName? (base.name ++ extension) with
    | none => rfl
    | some file =>
      have hplaces := List.filterMap_cons_some
        (f := fun extension => base.withName? (base.name ++ extension)) (l := extensions) hname
      rw [hplaces] at h
      simp only [(h file (.head _)).isFile, FileSystem.resolve_congr hcwd file,
        ih fun path hpath => h path (.tail _ hpath)]

theorem indexAt_congr (hbase : fs.AgreeAt fs' base)
    (h : ∀ path ∈ indexFiles.map base.child, fs.AgreeAt fs' path) :
    indexAt fs base = indexAt fs' base := by
  simp only [indexFiles, List.map_cons, List.map_nil, List.mem_cons, List.not_mem_nil, or_false,
    forall_eq_or_imp, forall_eq] at h
  obtain ⟨h₁, h₂, h₃⟩ := h
  simp only [indexAt, indexFiles, List.findSomeM?, hbase.isDirectory, h₁.isFile, h₂.isFile,
    h₃.isFile, FileSystem.resolve_congr hcwd]

/-- A target is the same where the files agree at its places. -/
theorem target_congr (h : ∀ path ∈ targetPlaces base, fs.AgreeAt fs' path) (directoryOnly : Bool) :
    target fs base directoryOnly = target fs' base directoryOnly := by
  have hbase := h base (.head _)
  have hfile : fileAt fs base = fileAt fs' base := by
    rw [fileAt, fileAt, withExtension_congr hcwd fun path hpath =>
      h path (.tail _ (List.mem_append_left _ hpath)), hbase.isFile,
      FileSystem.resolve_congr hcwd]
  rw [target, target, hfile, indexAt_congr hcwd hbase fun path hpath =>
    h path (.tail _ (List.mem_append_right _ hpath))]

/-- A specifier is found alike where the files agree at its places. -/
theorem findSpecifier_agrees
    (h : ∀ path ∈ specifierPlaces root importer specifier, fs.AgreeAt fs' path) :
    (findSpecifier fs root importer specifier).Agrees
      (findSpecifier fs' root importer specifier) := by
  rw [specifierPlaces] at h
  rw [findSpecifier, findSpecifier, ← hcwd]
  cases hbase : basePath root importer specifier with
  | none => exact .rfl
  | some base =>
    rw [hbase] at h
    dsimp only
    rw [target_congr hcwd h]
    exact .rfl

/-- **What a TypeScript file imports** depends on its text and on what is at
its lookups. -/
theorem findImports_agrees {file : String}
    (htext : fs.readTextLossy (Path.ofString file) = fs'.readTextLossy (Path.ofString file))
    (h : ∀ path ∈ lookups fs root file, fs.AgreeAt fs' path) :
    (findImports fs root file).Agrees (findImports fs' root file) := by
  rw [lookups] at h
  rw [findImports, findImports, ← htext]
  cases hread : fs.readTextLossy (Path.ofString file) with
  | error cause => exact .rfl
  | ok source =>
    rw [hread] at h
    exact Finding.agrees_all fun specifier hspecifier =>
      findSpecifier_agrees hcwd fun path hpath =>
        h path (List.mem_flatMap.mpr ⟨specifier, hspecifier, hpath⟩)

end

end TypeScript

/-! ## All languages -/

namespace Extractor

variable {es es' : List Extractor} {file : String}

/-- Two extractors that look in the same directories. -/
inductive Alike : Extractor → Extractor → Prop where
  | python {p p' : Python.Project} (roots : p.searchRoots = p'.searchRoots) :
      Alike (.python p) (.python p')
  | typescript (root : Path) : Alike (.typescript root) (.typescript root)

/-- The paths at which the imports of a file may lead. -/
def lookups (es : List Extractor) (fs : FileSystem) (file : String) : List Path :=
  match es.find? (·.handles file) with
  | none => []
  | some (.python p) => p.lookups fs file
  | some (.typescript root) => TypeScript.lookups fs root file

theorem Alike.handles {e e' : Extractor} (h : e.Alike e') (file : String) :
    e.handles file = e'.handles file := by
  cases h <;> rfl

/-- Of extractors that are alike one by one, those that handle a file first
are alike. -/
theorem find?_alike (h : List.Forall₂ Alike es es') (file : String) :
    Option.Rel Alike (es.find? (·.handles file)) (es'.find? (·.handles file)) := by
  induction h with
  | nil => exact .none
  | @cons e e' es es' he _ ih =>
    rw [List.find?_cons, List.find?_cons, ← he.handles file]
    cases e.handles file with
    | true => exact .some he
    | false => exact ih

/-- **What a file imports** depends on its text, the directories that are
looked in and what is at its lookups. -/
theorem extract_agrees (hcwd : fs.cwd = fs'.cwd) (hes : List.Forall₂ Alike es es')
    (htext : fs.readTextLossy (Path.ofString file) = fs'.readTextLossy (Path.ofString file))
    (h : ∀ path ∈ lookups es fs file, fs.AgreeAt fs' path) :
    (extract es fs file).Agrees (extract es' fs' file) := by
  have hfind := find?_alike hes file
  rw [lookups] at h
  rw [extract, extract, ← hcwd]
  generalize es.find? (·.handles file) = found at h hfind
  generalize es'.find? (·.handles file) = found' at hfind
  cases hfind with
  | none => exact .rfl
  | @some e e' halike =>
    have hagree : (e.find fs file).Agrees (e'.find fs' file) := by
      cases halike with
      | python hroots => exact Python.Project.findImports_agrees hcwd hroots htext h
      | typescript root => exact TypeScript.findImports_agrees hcwd htext h
    exact ⟨by simp only [hagree.targets], hagree.failure⟩

/-- The directories in which a Python project looks for modules. -/
theorem load_searchRoots {sourceDir root : Path} {p : Python.Project}
    (hroot : fs.resolve sourceDir = .ok root)
    (h : Python.Project.load fs sourceDir none = .ok p) :
    ∃ src, fs.isDirectory (root.child "src") = .ok src ∧
      (if src then [root, root.child "src"] else [root]).mapM fs.resolve = .ok p.searchRoots := by
  obtain ⟨root', hroot', h⟩ := Outcome.bind_eq_ok.mp h
  rw [hroot] at hroot'
  cases hroot'
  obtain ⟨src, hsrc, h⟩ := Outcome.bind_eq_ok.mp h
  refine ⟨src, hsrc, ?_⟩
  -- the names of the project are found last, and do not change where it looks
  have hrest : ∀ roots : List Path, (do
      let roots ← roots.mapM fs.resolve
      let names ← Python.firstPartyNames fs roots
      return ⟨root, roots, names⟩ : Except Failure Python.Project) = .ok p →
      roots.mapM fs.resolve = .ok p.searchRoots := by
    intro roots h
    obtain ⟨places, hplaces, h⟩ := Outcome.bind_eq_ok.mp h
    obtain ⟨names, -, h⟩ := Outcome.bind_eq_ok.mp h
    cases h
    exact hplaces
  cases src with
  | true => exact hrest _ h
  | false => exact hrest _ h

/-- Extractors are alike where the files agree about the source directory. -/
theorem load_alike {sourceDir root : Path} {l : Language} {e e' : Extractor}
    (hcwd : fs.cwd = fs'.cwd) (hroot : fs.resolve sourceDir = .ok root)
    (hsrc : fs.isDirectory (root.child "src") = fs'.isDirectory (root.child "src"))
    (h : load fs sourceDir l = .ok e) (h' : load fs' sourceDir l = .ok e') : e.Alike e' := by
  have hresolve : fs.resolve = fs'.resolve := funext (FileSystem.resolve_congr hcwd)
  cases l with
  | python =>
    obtain ⟨p, hp, rfl⟩ := Outcome.map_eq_ok.mp h
    obtain ⟨p', hp', rfl⟩ := Outcome.map_eq_ok.mp h'
    obtain ⟨src, hsrc₁, hroots⟩ := load_searchRoots hroot hp
    obtain ⟨src', hsrc₂, hroots'⟩ := load_searchRoots (hresolve ▸ hroot) hp'
    rw [← hsrc, hsrc₁] at hsrc₂
    cases hsrc₂
    rw [← hresolve, hroots] at hroots'
    exact .python (Except.ok.inj hroots')
  | typescript =>
    obtain ⟨place, hplace, rfl⟩ := Outcome.map_eq_ok.mp h
    obtain ⟨place', hplace', rfl⟩ := Outcome.map_eq_ok.mp h'
    rw [← hresolve, hplace] at hplace'
    cases hplace'
    exact .typescript place

/-- Extractors loaded from two trees are alike, if both trees have a directory
`src` in the project's, or neither. -/
theorem loadAll_alike {sourceDir root : Path} {languages : List Language} (hcwd : fs.cwd = fs'.cwd)
    (hroot : fs.resolve sourceDir = .ok root)
    (hsrc : fs.isDirectory (root.child "src") = fs'.isDirectory (root.child "src"))
    (h : loadAll fs sourceDir languages = .ok es) (h' : loadAll fs' sourceDir languages = .ok es') :
    List.Forall₂ Alike es es' := by
  have hloads := Outcome.mapM_eq_ok.mp h
  have hloads' := Outcome.mapM_eq_ok.mp h'
  clear h h'
  induction hloads generalizing es' with
  | nil =>
    rw [List.forall₂_nil_left_iff] at hloads'
    rw [hloads']
    exact .nil
  | cons hload _ ih =>
    obtain ⟨e', es', hload', hloads'', rfl⟩ := List.forall₂_cons_left_iff.mp hloads'
    exact .cons (load_alike hcwd hroot hsrc hload hload') (ih hloads'')

end Extractor

end Ratchet
