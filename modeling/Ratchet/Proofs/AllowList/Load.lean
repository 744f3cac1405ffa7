import Ratchet.Proofs.AllowList.Document
import Ratchet.Proofs.Glob.Select

/-!
# The checked files

The checked files are read off the three lists of the document: each item of a
list stands for some files. In file systems that give the same answers about
every path, an item stands for the same files.

* `Holds`: the files that the items of a list stand for.
* `Accepts`: documents of which every item can be read.
* `mem_load`: the checked files.
* `filesOf_alike`: the files that a pattern selects.
-/

namespace Ratchet.AllowList

open Json (Value Members)
open Outcome (Brings)

variable {fs fs' : FileSystem} {a : AllowList} {m : Members} {k : Key}
  {v : Value} {vs : List Value} {f : String} {files checked : List String}

/-! ## The checked files -/

/-- The files that an item of a list stands for. -/
def filesFor (a : AllowList) (fs : FileSystem) : Key → Value → Except Failure (List String)
  | .included | .excluded => a.filesOf fs
  | .files => a.fileOf fs

/-- An item of a list stands for a file. -/
def StandsFor (a : AllowList) (fs : FileSystem) (k : Key) (v : Value) (f : String) : Prop :=
  ∃ files, a.filesFor fs k v = .ok files ∧ f ∈ files

/-- A list of the document has an item that stands for a file. -/
def Holds (a : AllowList) (fs : FileSystem) (m : Members) (k : Key) (f : String) : Prop :=
  ∃ vs, listed m k = .ok vs ∧ ∃ v ∈ vs, a.StandsFor fs k v f

/-- Every list is there, and every item of it can be read. -/
def Accepts (a : AllowList) (fs : FileSystem) (m : Members) : Prop :=
  ∀ k, ∃ vs, listed m k = .ok vs ∧ ∀ v ∈ vs, ∃ files, a.filesFor fs k v = .ok files

/-- Every entry of an accepted document stands for some files. -/
theorem Accepts.ok (h : a.Accepts fs m) (hvs : listed m k = .ok vs) (hv : v ∈ vs) :
    ∃ files, a.filesFor fs k v = .ok files := by
  obtain ⟨vs', hvs', hok⟩ := h k
  cases hvs.symm.trans hvs'
  exact hok v hv

theorem isString_of_filesFor (h : a.filesFor fs k v = .ok files) : IsString v := by
  cases v with
  | string t => exact ⟨t, rfl⟩
  | null | boolean | number | array | object => cases k <;> cases h

/-- The items of an accepted document are texts. -/
theorem Accepts.isString (h : a.Accepts fs m) (hvs : listed m k = .ok vs) : ∀ v ∈ vs, IsString v :=
  fun _ hv => (h.ok hvs hv).elim fun _ => isString_of_filesFor

/-- The files that the items of a list stand for. -/
theorem mem_flatten_mapM {found : List (List String)} (hlisted : listed m k = .ok vs)
    (h : vs.mapM (a.filesFor fs k) = .ok found) : f ∈ found.flatten ↔ a.Holds fs m k f := by
  simp only [List.mem_flatten, Outcome.mem_mapM h]
  constructor
  · rintro ⟨files, ⟨v, hv, hfiles⟩, hf⟩
    exact ⟨vs, hlisted, v, hv, files, hfiles, hf⟩
  · rintro ⟨vs', hlisted', v, hv, files, hfiles, hf⟩
    cases hlisted.symm.trans hlisted'
    exact ⟨files, ⟨v, hv, hfiles⟩, hf⟩

theorem mem_filesOfAll (hk : k ≠ .files) (hlisted : listed m k = .ok vs)
    (h : a.filesOfAll fs vs = .ok files) : f ∈ files ↔ a.Holds fs m k f := by
  obtain ⟨found, hfound, h⟩ := Outcome.bind_eq_ok.mp h
  cases h
  cases k with
  | included => exact mem_flatten_mapM hlisted hfound
  | excluded => exact mem_flatten_mapM hlisted hfound
  | files => exact absurd rfl hk

/-- Loading reads the three lists, and then what their items stand for. -/
theorem load_eq_ok (hread : a.read fs = .ok m) :
    a.load fs = .ok checked ↔ ∃ vs us ws included excluded single,
      (listed m .included = .ok vs ∧ a.filesOfAll fs vs = .ok included) ∧
      (listed m .excluded = .ok us ∧ a.filesOfAll fs us = .ok excluded) ∧
      (listed m .files = .ok ws ∧ ws.mapM (a.fileOf fs) = .ok single) ∧
      ascending (included.filter (!excluded.contains ·) ++ single.flatten) = checked := by
  simp only [load, hread, Outcome.bind_eq_ok, pure, Except.pure, Except.ok.injEq, exists_eq_left']
  constructor
  · rintro ⟨vs, hvs, included, hincluded, us, hus, excluded, hexcluded, ws, hws, single, hsingle, h⟩
    exact ⟨vs, us, ws, included, excluded, single, ⟨hvs, hincluded⟩, ⟨hus, hexcluded⟩,
      ⟨hws, hsingle⟩, h⟩
  · rintro ⟨vs, us, ws, included, excluded, single, ⟨hvs, hincluded⟩, ⟨hus, hexcluded⟩,
      ⟨hws, hsingle⟩, h⟩
    exact ⟨vs, hvs, included, hincluded, us, hus, excluded, hexcluded, ws, hws, single, hsingle, h⟩

/-- **The checked files**: the included ones that are not excluded, and the
single ones. -/
theorem mem_load (hread : a.read fs = .ok m) (h : a.load fs = .ok checked) :
    f ∈ checked ↔
      a.Holds fs m .included f ∧ ¬ a.Holds fs m .excluded f ∨ a.Holds fs m .files f := by
  obtain ⟨vs, us, ws, included, excluded, single, ⟨hvs, hincluded⟩, ⟨hus, hexcluded⟩,
    ⟨hws, hsingle⟩, rfl⟩ := (load_eq_ok hread).mp h
  rw [mem_ascending, List.mem_append, List.mem_filter, ← mem_filesOfAll (by decide) hvs hincluded,
    ← mem_filesOfAll (by decide) hus hexcluded, ← mem_flatten_mapM (k := .files) hws hsingle]
  simp

/-- A list can be loaded when each of its entries can. -/
theorem filesOfAll_eq_ok :
    (∃ files, a.filesOfAll fs vs = .ok files) ↔ ∀ v ∈ vs, ∃ files, a.filesOf fs v = .ok files := by
  rw [← Outcome.exists_mapM]
  constructor
  · rintro ⟨files, h⟩
    obtain ⟨found, hfound, -⟩ := Outcome.bind_eq_ok.mp h
    exact ⟨found, hfound⟩
  · rintro ⟨found, hfound⟩
    exact ⟨found.flatten, Outcome.bind_eq_ok.mpr ⟨found, hfound, rfl⟩⟩

/-- An allow-list can be loaded when it accepts its document. -/
theorem exists_load (hread : a.read fs = .ok m) :
    (∃ checked, a.load fs = .ok checked) ↔ a.Accepts fs m := by
  constructor
  · rintro ⟨checked, h⟩ k
    obtain ⟨vs, us, ws, included, excluded, single, ⟨hvs, hincluded⟩, ⟨hus, hexcluded⟩,
      ⟨hws, hsingle⟩, -⟩ := (load_eq_ok hread).mp h
    cases k with
    | included => exact ⟨vs, hvs, filesOfAll_eq_ok.mp ⟨included, hincluded⟩⟩
    | excluded => exact ⟨us, hus, filesOfAll_eq_ok.mp ⟨excluded, hexcluded⟩⟩
    | files => exact ⟨ws, hws, Outcome.exists_mapM.mp ⟨single, hsingle⟩⟩
  · intro h
    obtain ⟨vs, hvs, hincluded⟩ := h .included
    obtain ⟨us, hus, hexcluded⟩ := h .excluded
    obtain ⟨ws, hws, hsingle⟩ := h .files
    obtain ⟨included, hincluded⟩ := filesOfAll_eq_ok.mpr hincluded
    obtain ⟨excluded, hexcluded⟩ := filesOfAll_eq_ok.mpr hexcluded
    obtain ⟨single, hsingle⟩ := Outcome.exists_mapM.mpr hsingle
    exact ⟨_, (load_eq_ok hread).mpr ⟨vs, us, ws, included, excluded, single, ⟨hvs, hincluded⟩,
      ⟨hus, hexcluded⟩, ⟨hws, hsingle⟩, rfl⟩⟩

/-! ## Trees of one shape -/

/-- The file of an entry depends on the working directory alone. -/
theorem fileOf_congr (hcwd : fs.cwd = fs'.cwd) (v : Value) : a.fileOf fs v = a.fileOf fs' v := by
  cases v with
  | string t =>
    unfold fileOf
    simp only [FileSystem.resolve_congr hcwd]
  | null | boolean | number | array | object => rfl

/-- In file systems that give the same answers about every path, a pattern
selects the same files. -/
theorem filesOf_alike (h : fs.Alike fs') (hfs : fs.Proper) (hfs' : fs'.Proper) (v : Value) :
    Brings (a.filesOf fs v) (a.filesOf fs' v) := by
  cases v with
  | string t =>
    unfold filesOf
    dsimp only
    generalize (if isHere t then t.drop 2 else t) = t
    split
    · exact .refl _
    split
    · exact .refl _
    · rename_i p _
      refine Brings.bind (Glob.select_alike h hfs hfs' a.root p) fun ps qs hmem => ?_
      have hresolve : (fun q => Path.toString <$> fs.resolve q) =
          fun q => Path.toString <$> fs'.resolve q :=
        funext fun q => by rw [FileSystem.resolve_congr h.cwd]
      simp only [h.isFile, hresolve]
      exact Brings.bind (.filterM hmem _) fun ps qs hmem => .mapM hmem _
  | null | boolean | number | array | object => exact .refl _

section

variable (h : a.Accepts fs m) (hbrings : ∀ {k vs v}, listed m k = .ok vs → v ∈ vs →
  Brings (a.filesFor fs k v) (a.filesFor fs' k v))

include h hbrings

/-- A document is accepted among the files that the same patterns bring. -/
theorem Accepts.of_brings : a.Accepts fs' m := by
  intro k
  obtain ⟨vs, hvs, hok⟩ := h k
  refine ⟨vs, hvs, fun v hv => ?_⟩
  obtain ⟨files, hfiles⟩ := hok v hv
  obtain ⟨files', hfiles', -⟩ := hbrings hvs hv files hfiles
  exact ⟨files', hfiles'⟩

theorem Accepts.standsFor_iff (hlisted : listed m k = .ok vs) (hv : v ∈ vs) (f : String) :
    a.StandsFor fs' k v f ↔ a.StandsFor fs k v f := by
  obtain ⟨files, hfiles⟩ := h.ok hlisted hv
  obtain ⟨files', hfiles', hmem⟩ := hbrings hlisted hv files hfiles
  simp [StandsFor, hfiles, hfiles', hmem]

end

end Ratchet.AllowList
