import Ratchet.Proofs.AllowList.Durability

/-!
# The checked files only grow

Recording files never makes a checked file unchecked, whatever the files are
and whatever the document says: the included patterns and the single files
stay, and of the excluded patterns none is added. The allow-list can be loaded
after every set of files that could be recorded.

* `addEach`: recording one set of files after the other.
* `subset_load_add`: what one set brings about.
* `checked_files_grow`: what holds all the time.
-/

namespace Ratchet.AllowList

open Json (Members)

variable {fs fs' : FileSystem} {a : AllowList} {before after : Members}
  {files checked written parts : List String}

/-- **Record one set of files after the other.** A set that cannot be recorded
changes nothing. -/
def addEach (a : AllowList) (fs : FileSystem) (calls : List (List String)) : FileSystem :=
  calls.foldl (fun fs files => ((a.add fs files).toOption.map (·.2)).getD fs) fs

/-- Where the items that stay stand for the same files, what was checked stays
checked. -/
theorem Grown.subset (h : Grown a fs before after files) {checked' : List String}
    (hstands : ∀ {k vs v}, listed before k = .ok vs → v ∈ vs →
      ∀ f, a.StandsFor fs' k v f ↔ a.StandsFor fs k v f)
    (hread : a.read fs = .ok before) (hload : a.load fs = .ok checked)
    (hread' : a.read fs' = .ok after) (hload' : a.load fs' = .ok checked') :
    checked ⊆ checked' := by
  intro f hf
  rw [mem_load hread hload] at hf
  rw [mem_load hread' hload']
  obtain ⟨hincluded, hnot⟩ | hsingle := hf
  · refine .inl ⟨(h.holds_included hstands).mpr hincluded, fun hexcluded => hnot ?_⟩
    exact h.of_holds_excluded ((h.holds_excluded hstands).mp hexcluded)
  · exact .inr (h.holds_files hstands hsingle)

section

variable (hpath : a.path = .ofParts parts) (hup : ".." ∉ parts)

include hpath hup

/-- **Recording one set of files**: the allow-list can be loaded again, and what
was checked still is. -/
theorem subset_load_add (hfs : fs.Proper) (hcwd : ∀ part ∈ fs.cwd, '\x00' ∉ part.toList)
    (hload : a.load fs = .ok checked) (hadd : a.add fs files = .ok (written, fs')) :
    ∃ checked', a.load fs' = .ok checked' ∧ checked ⊆ checked' := by
  by_cases hne : files = []
  · subst hne
    cases hadd
    exact ⟨checked, hload, fun _ => id⟩
  obtain ⟨before, hread, -⟩ := Outcome.bind_eq_ok.mp hload
  have haccepts := (exists_load hread).mp ⟨checked, hload⟩
  have hroot : a.root.hasNull = false := Path.hasNull_parent (hasNull_of_add hpath hup hadd hne)
  obtain ⟨after, hread', hgrown, haccepts', hstands⟩ :=
    accepts_add hpath hup hfs hread haccepts hadd hne fun _ he => exists_fileOf hcwd hroot he
  obtain ⟨checked', hload'⟩ := (exists_load hread').mpr haccepts'
  exact ⟨checked', hload', hgrown.subset hstands hread hload hread' hload'⟩

/-- What one set of files keeps, a sequence of them keeps. -/
theorem subset_load_addEach (hfs : fs.Proper) (hcwd : ∀ part ∈ fs.cwd, '\x00' ∉ part.toList)
    (hload : a.load fs = .ok checked) (calls : List (List String)) :
    (a.addEach fs calls).Proper ∧ (a.addEach fs calls).cwd = fs.cwd ∧
      ∃ checked', a.load (a.addEach fs calls) = .ok checked' ∧ checked ⊆ checked' := by
  induction calls generalizing fs checked with
  | nil => exact ⟨hfs, rfl, checked, hload, fun _ => id⟩
  | cons files calls ih =>
    cases hadd : a.add fs files with
    | error cause =>
      have hsame : a.addEach fs (files :: calls) = a.addEach fs calls := by
        rw [addEach, List.foldl_cons, hadd]
        rfl
      rw [hsame]
      exact ih hfs hcwd hload
    | ok result =>
      obtain ⟨written, fs'⟩ := result
      have hstep : a.addEach fs (files :: calls) = a.addEach fs' calls := by
        rw [addEach, List.foldl_cons, hadd]
        rfl
      obtain ⟨hfs', hcwd'⟩ := proper_add hpath hup hfs hadd
      obtain ⟨checked₁, hload₁, hsub₁⟩ := subset_load_add hpath hup hfs hcwd hload hadd
      obtain ⟨hproper, hsame, checked', hload', hsub⟩ := ih hfs' (hcwd'.symm ▸ hcwd) hload₁
      rw [hstep]
      exact ⟨hproper, hsame.trans hcwd', checked', hload', List.Subset.trans hsub₁ hsub⟩

end

/-- **The checked files only grow.** When an allow-list can be loaded, it can be
loaded after every sequence of sets of files to be recorded, whatever these are,
and all that was checked still is. Each further set that can be recorded leaves
it so, and everything that was checked before that set. -/
theorem checked_files_grow {path : Path} {languages : List Language}
    {arrangement : Json.Arrangement}
    (hpath : atPath fs path languages arrangement = .ok a) (hfs : fs.Proper)
    (hcwd : ∀ part ∈ fs.cwd, '\x00' ∉ part.toList) (hload : a.load fs = .ok checked)
    (calls : List (List String)) :
    ∃ current, a.load (a.addEach fs calls) = .ok current ∧ checked ⊆ current ∧
      ∀ files written fs', a.add (a.addEach fs calls) files = .ok (written, fs') →
        ∃ next, a.load fs' = .ok next ∧ current ⊆ next := by
  obtain ⟨parts, hparts, hup⟩ := atPath_eq_ok hpath hfs.cwd
  obtain ⟨hproper, hsame, current, hcurrent, hsub⟩ :=
    subset_load_addEach hparts hup hfs hcwd hload calls
  exact ⟨current, hcurrent, hsub, fun files written fs' hadd =>
    subset_load_add hparts hup hproper (hsame.symm ▸ hcwd) hcurrent hadd⟩

/-- A directory in which the file is included twice and excluded by name. -/
def twiceIncluded : FileSystem :=
  shelf "\x7b\"include\": [\"*.py\", \"a*\"], \"exclude\": [\"./a.py\", \"b*\"]\x7d"

/-- First a file is recorded that is not there, under a path that is not
absolute, and then the one that is. -/
theorem twiceIncluded_grows :
    shelfList.load twiceIncluded = .ok [] ∧
    ∃ current, shelfList.load (shelfList.addEach twiceIncluded [["w/b.py"]]) = .ok current ∧
      current = ["/w/b.py"] ∧
      ∃ written fs' next,
        shelfList.add (shelfList.addEach twiceIncluded [["w/b.py"]]) ["/w/a.py"] =
          .ok (written, fs') ∧
        shelfList.load fs' = .ok next ∧ current ⊆ next ∧ "/w/a.py" ∈ next := by
  have hpath : atPath twiceIncluded (.ofParts ["w", "strict-files.json"]) [] (.ofMark 1) =
      .ok shelfList := rfl
  have hload : shelfList.load twiceIncluded = .ok [] :=
    Outcome.toOption_eq_some.mp (by decide +kernel)
  have hcurrent : shelfList.load (shelfList.addEach twiceIncluded [["w/b.py"]]) =
      .ok ["/w/b.py"] := Outcome.toOption_eq_some.mp (by decide +kernel)
  obtain ⟨⟨written, fs'⟩, hadd, hafter⟩ := Outcome.map_eq_ok.mp <| Outcome.toOption_eq_some.mp <|
    show ((fun r => (shelfList.load r.2).toOption) <$>
      shelfList.add (shelfList.addEach twiceIncluded [["w/b.py"]]) ["/w/a.py"]).toOption =
        some (some ["/w/a.py", "/w/b.py"]) by decide +kernel
  obtain ⟨current, hloaded, -, hgrows⟩ :=
    checked_files_grow hpath (proper_shelf _) (by decide) hload [["w/b.py"]]
  obtain ⟨next, hnext, hsub⟩ := hgrows _ _ _ hadd
  cases hloaded.symm.trans hcurrent
  cases hnext.symm.trans (Outcome.toOption_eq_some.mp hafter)
  exact ⟨hload, _, hcurrent, rfl, written, fs', _, hadd, hnext, hsub, .head _⟩

end Ratchet.AllowList
