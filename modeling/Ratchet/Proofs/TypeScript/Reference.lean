import Ratchet.Proofs.Extraction.Search
import Ratchet.Proofs.Survey.Lookups

/-!
# References of a TypeScript file

Each specifier of a TypeScript file leads to one file at most, and what the
file imports is what its specifiers lead to. A specifier that cannot be looked
up names a path that is too long, or the root of the file system.

* `outcome`: where one specifier leads, or why this cannot be told.
* `result_findImports`: what a file imports, specifier by specifier.
* `cause_of_outcome`: why a specifier cannot be looked up.
-/

namespace Ratchet.TypeScript

open FileSystem (cause_of_ask)

variable {fs fs' : FileSystem} {root importer base : Path} {specifier : String} {cause : Failure}

/-- **Where a specifier leads**, seen from the importing file. -/
def outcome (fs : FileSystem) (root importer : Path) (specifier : String) :
    Except Failure (Option String) :=
  match basePath root importer specifier with
  | none => .ok none
  | some base => Option.map Prod.fst <$> target fs base (namesDirectory specifier)

/-- What a specifier brings is its outcome. -/
theorem result_findSpecifier (fs : FileSystem) (root importer : Path) (specifier : String) :
    (findSpecifier fs root importer specifier).result =
      Option.toList <$> outcome fs root importer specifier := by
  rw [findSpecifier, outcome]
  cases basePath root importer specifier with
  | none => rfl
  | some base =>
    dsimp only
    cases target fs base (namesDirectory specifier) with
    | error cause => rfl
    | ok found => cases found <;> rfl

/-- **What a file imports** is where its specifiers lead. -/
theorem result_findImports {file : String} {source : List Char}
    (htext : fs.readTextLossy (Path.ofString file) = .ok source) :
    (findImports fs root file).result =
      Outcome.collect (outcome fs root (Path.ofString file))
        (specifiers (withoutComments source)) := by
  rw [findImports, htext]
  exact Finding.result_all_of fun specifier _ => result_findSpecifier ..

/-- Trees of one shape lead a specifier to the same file. -/
theorem outcome_alike (h : fs.Alike fs') (root importer : Path) (specifier : String) :
    outcome fs root importer specifier = outcome fs' root importer specifier := by
  rw [outcome, outcome]
  cases basePath root importer specifier with
  | none => rfl
  | some base =>
    dsimp only
    rw [target_congr h.cwd fun path _ => ⟨h.isFile path, h.isDirectory path⟩]

/-! ## Specifiers that cannot be looked up -/

/-- Looking at one path fails only where it is too long. -/
theorem cause_of_look {path : Path} {places : List Path} {more : Except Failure (Option String)}
    (hpath : path ∈ places) (hmore : more = .error cause → fs.IsCause places cause)
    (h : (do if ← fs.isFile path then return some (← fs.resolve path).toString else more) =
      .error cause) : fs.IsCause places cause := by
  obtain hfile | ⟨b, hfile, h⟩ := Outcome.bind_eq_error.mp h
  · exact cause_of_ask hpath hfile
  cases b with
  | false => exact hmore h
  | true =>
    -- a file that is there has a place
    have hresolve : fs.resolve path = .ok (path.resolve fs.cwd) :=
      FileSystem.resolve_eq_ok.mpr ⟨(FileSystem.ask_eq_true.mp hfile).1, rfl⟩
    rw [hresolve] at h
    cases h

theorem cause_of_withExtension {extensions : List String}
    (h : withExtension fs base extensions = .error cause) :
    fs.IsCause (extensions.filterMap fun extension => base.withName? (base.name ++ extension))
      cause := by
  induction extensions with
  | nil => cases h
  | cons extension extensions ih =>
    rw [withExtension] at h
    rw [List.filterMap_cons]
    cases hname : base.withName? (base.name ++ extension) with
    | none =>
      rw [hname] at h
      cases h
      exact .inr ⟨_, rfl⟩
    | some path =>
      rw [hname] at h
      exact cause_of_look (.head _) (fun hrest => (ih hrest).mono (List.subset_cons_self _ _)) h

/-- A file fails for a cause at one of its places. -/
theorem cause_of_fileAt (h : fileAt fs base = .error cause) :
    fs.IsCause (targetPlaces base) cause := by
  obtain hextension | ⟨found, -, h⟩ := Outcome.bind_eq_error.mp h
  · refine (cause_of_withExtension hextension).mono fun path hpath => ?_
    exact List.mem_append_left _ (.tail _ hpath)
  cases found with
  | some file => cases h
  | none => exact cause_of_look (.head _) (by simp [pure, Except.pure]) h

/-- An index fails for a cause at one of its places. -/
theorem cause_of_indexAt (h : indexAt fs base = .error cause) :
    fs.IsCause (targetPlaces base) cause := by
  have hsearch : ∀ names : List String, (∀ name ∈ names, name ∈ indexFiles) →
      (names.findSomeM? fun name => do
        if ← fs.isFile (base.child name) then
          return some (← fs.resolve (base.child name)).toString
        else return none) = .error cause → fs.IsCause (targetPlaces base) cause := by
    intro names hnames h
    induction names with
    | nil => cases h
    | cons name names ih =>
      have hplace : base.child name ∈ targetPlaces base :=
        List.mem_append_right _ (List.mem_map_of_mem (hnames name (.head _)))
      obtain hlook | ⟨found, -, h⟩ := Outcome.bind_eq_error.mp h
      · exact cause_of_look hplace (by simp [pure, Except.pure]) hlook
      cases found with
      | some file => cases h
      | none => exact ih (fun n hn => hnames n (.tail _ hn)) h
  obtain hdirectory | ⟨b, -, h⟩ := Outcome.bind_eq_error.mp h
  · exact cause_of_ask (.head _) hdirectory
  cases b with
  | false => cases h
  | true =>
    rw [if_pos rfl] at h
    exact hsearch indexFiles (fun _ hname => hname) h

/-- Behind the search for the file itself comes the one for an index file. -/
theorem cause_of_rest (file : Option String)
    (h : (do
      match file with
      | some file => return some (file, false)
      | none => return (← indexAt fs base).map (·, true)) = .error cause) :
    fs.IsCause (targetPlaces base) cause := by
  cases file with
  | some file => cases h
  | none =>
    obtain hindex | ⟨found, -, h⟩ := Outcome.bind_eq_error.mp h
    · exact cause_of_indexAt hindex
    · cases h

/-- A target fails for a cause at one of its places. -/
theorem cause_of_target {directoryOnly : Bool} (h : target fs base directoryOnly = .error cause) :
    fs.IsCause (targetPlaces base) cause := by
  cases directoryOnly with
  | true => exact cause_of_rest none h
  | false =>
    obtain hfile | ⟨file, -, h⟩ := Outcome.bind_eq_error.mp h
    · exact cause_of_fileAt hfile
    · exact cause_of_rest file h

/-- **Why a specifier cannot be looked up.** -/
theorem cause_of_outcome (h : outcome fs root importer specifier = .error cause) :
    fs.IsCause (specifierPlaces root importer specifier) cause := by
  rw [outcome] at h
  rw [specifierPlaces]
  cases hbase : basePath root importer specifier with
  | none =>
    rw [hbase] at h
    cases h
  | some base =>
    rw [hbase] at h
    dsimp only at h ⊢
    cases htarget : target fs base (namesDirectory specifier) with
    | ok found =>
      rw [htarget] at h
      cases h
    | error cause' =>
      rw [htarget] at h
      cases h
      exact cause_of_target htarget

end Ratchet.TypeScript
