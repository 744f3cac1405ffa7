import Ratchet.Json.Slots
import Ratchet.Proofs.AllowList.Revision

/-!
# What is recorded stays recorded

After files have been recorded, the allow-list can be loaded again, and each of
them is checked, but for one case: a file that was excluded by name, and that
what is left of the excluded patterns goes on to select.

* `Revised`: what recording makes of the document.
* `StaysExcluded`: the files that recording loses.
* `mem_load_add`: what recording brings about.
-/

namespace Ratchet.AllowList

open Json (Value Members)
open Outcome (Brings)

variable {fs fs' : FileSystem} {a : AllowList} {m before after : Members} {k : Key}
  {v : Value} {vs : List Value} {f : String} {files checked written : List String}

/-! ## Recording files -/

/-- A file that a pattern includes, and of which a name is excluded. -/
def IsExcludedByName (a : AllowList) (fs : FileSystem) (m : Members) (f : String) : Prop :=
  a.Holds fs m .included f ∧ ∃ entry, a.entryFor fs f = .ok entry ∧
    ∃ vs, listed m .excluded = .ok vs ∧ ∃ t ∈ aliases entry, .string t ∈ vs

/-- The draft knows the included files, the document the patterns that include them. -/
theorem isNamed_iff {us single : List Value} {included names : List String}
    (hstart : a.StartsFrom fs m us single included) (hf : fs.IsPlace f) :
    IsNamed a fs included ⟨us, single, names⟩ f ↔ a.IsExcludedByName fs m f := by
  obtain ⟨hus, -, patterns, hpatterns, hincluded⟩ := hstart
  obtain ⟨p, hp, hplace⟩ := hf
  have hplaces : IsIncluded fs included f ↔ a.Holds fs m .included f := by
    rw [IsIncluded, hp, ← mem_filesOfAll (by decide) hpatterns hincluded]
    simp [hplace]
  rw [IsNamed, IsExcludedByName, hplaces]
  simp [hus]

/-- What recording some tracked files makes of the document. -/
structure Revised (a : AllowList) (fs : FileSystem) (before after : Members)
    (files : List String) : Prop extends Grown a fs before after files where
  /-- Only entries of recorded files that were not excluded by name join the
  single files. -/
  fresh : ∃ vs ws, listed before .files = .ok vs ∧ listed after .files = .ok ws ∧
    ∀ v ∈ ws, v ∈ vs ∨ ∃ f ∈ files, ¬ a.IsExcludedByName fs before f ∧
      ∃ entry, a.entryFor fs f = .ok entry ∧ v = .ofString entry
  /-- All of these are there. -/
  entry : ∀ f ∈ files, ¬ a.IsExcludedByName fs before f → ∃ entry, a.entryFor fs f = .ok entry ∧
    ∃ ws, listed after .files = .ok ws ∧ .ofString entry ∈ ws

/-- What a revision of the document has done. -/
theorem revised (hread : a.read fs = .ok before) (haccepts : a.Accepts fs before)
    (hfiles : ∀ f ∈ files, a.IsCanonical fs f) (hnodup : files.Nodup)
    (h : a.revise fs files = .ok (after, written)) : Revised a fs before after files := by
  have hgrown := grown hread haccepts h
  obtain ⟨us, single, included, d, ws, hstart, hd, hws, rfl, -⟩ := (revise_eq_ok hread).mp h
  obtain ⟨vs, hvs, hsingle⟩ := hstart.files
  have hrecords := records_all (fun f hf => (hfiles f hf).isPlace) hnodup hd
  have hlisted := listed_update before d.excluded ws .files
  have hnamed : ∀ f ∈ files,
      IsNamed a fs included ⟨us, single, []⟩ f ↔ a.IsExcludedByName fs before f :=
    fun f hf => isNamed_iff hstart (hfiles f hf).isPlace
  refine ⟨hgrown, ⟨vs, ws, hvs, hlisted, fun v hv => ?_⟩, fun f hf hnot => ?_⟩
  · obtain hv | ⟨f, hf, hnot, hentry⟩ := hrecords.fresh v ((mem_sorted hws v).mp hv)
    · exact .inl ((mem_distinct hsingle (haccepts.isString hvs) v).mp hv)
    · exact .inr ⟨f, hf, mt (hnamed f hf).mpr hnot, hentry⟩
  · obtain ⟨entry, hentry, hdone⟩ := hrecords.entry f hf
    have hmem := hdone.resolve_right (mt (hnamed f hf).mp hnot)
    exact ⟨entry, hentry, ws, hlisted, (mem_sorted hws _).mpr hmem⟩

section

variable (h : Revised a fs before after files) (haccepts : a.Accepts fs' before)
  (hstands : ∀ {k vs v}, listed before k = .ok vs → v ∈ vs →
    ∀ f, a.StandsFor fs' k v f ↔ a.StandsFor fs k v f)
  (hentry : ∀ {f entry}, f ∈ files → a.entryFor fs f = .ok entry →
    a.fileOf fs' (.ofString entry) = .ok [f])

include h

include haccepts hentry in
/-- The new document can be loaded. -/
theorem Revised.accepts : a.Accepts fs' after :=
  h.toGrown.accepts haccepts fun hf he => ⟨_, hentry hf he⟩

include hstands hentry in
/-- The single files are those that were, and the recorded ones that were not
excluded by name. -/
theorem Revised.holds_files :
    a.Holds fs' after .files f ↔
      a.Holds fs before .files f ∨ f ∈ files ∧ ¬ a.IsExcludedByName fs before f := by
  constructor
  · obtain ⟨vs, ws, hvs, hws, hnew⟩ := h.fresh
    rintro ⟨ws', hws', v, hv, hf⟩
    cases hws.symm.trans hws'
    obtain hv | ⟨g, hg, hnot, entry, he, rfl⟩ := hnew v hv
    · exact .inl ⟨vs, hvs, v, hv, (hstands hvs hv f).mp hf⟩
    · obtain ⟨found, hfound, hf⟩ := hf
      cases hfound.symm.trans (hentry hg he)
      cases List.mem_singleton.mp hf
      exact .inr ⟨hg, hnot⟩
  · rintro (hf | ⟨hf, hnot⟩)
    · exact h.toGrown.holds_files hstands hf
    · obtain ⟨entry, he, ws', hws', hmem⟩ := h.entry f hf hnot
      exact ⟨ws', hws', .ofString entry, hmem, [f], hentry hf he, .head _⟩

end

/-- A file that recording loses: a pattern includes it and a name of it was
excluded, so that this name is taken off and no entry is written, but what is
left of the excluded patterns still selects it; and no single file was it. -/
structure StaysExcluded (a : AllowList) (fs : FileSystem) (before after : Members) (f : String) :
    Prop where
  byName : a.IsExcludedByName fs before f
  excluded : a.Holds fs after .excluded f
  unnamed : ¬ a.Holds fs before .files f

/-- **What recording files brings about.** The allow-list can be loaded again,
and of the recorded files all are checked but those that stay excluded. -/
theorem mem_load_add {path : Path} {languages : List Language}
    {arrangement : Json.Arrangement}
    (hpath : atPath fs path languages arrangement = .ok a) (hfs : fs.Proper)
    (hload : a.load fs = .ok checked) (hfiles : ∀ f ∈ files, a.IsCanonical fs f)
    (hadd : a.add fs files = .ok (written, fs')) :
    ∃ before after checked', a.read fs = .ok before ∧ a.read fs' = .ok after ∧
      a.load fs' = .ok checked' ∧
      ∀ f ∈ files, f ∈ checked' ↔ ¬ a.StaysExcluded fs before after f := by
  obtain ⟨parts, hparts, hup⟩ := atPath_eq_ok hpath hfs.cwd
  obtain ⟨before, hread, -⟩ := Outcome.bind_eq_ok.mp hload
  have haccepts := (exists_load hread).mp ⟨checked, hload⟩
  by_cases hne : files = []
  · subst hne
    cases hadd
    exact ⟨before, before, checked, hread, hread, hload, by simp⟩
  -- the new document, and what is read of it
  obtain ⟨after, fs₁, hm, -, hwrite⟩ := add_eq_ok hadd hne
  have hrevised := revised hread haccepts (fun f hf => hfiles f (mem_ascending.mp hf))
    (nodup_ascending files) hm
  have hread' := read_writeText (sound_revise hread hm) hparts hup hwrite
  -- what its items stand for
  have hbrings : ∀ {k vs v}, listed before k = .ok vs → v ∈ vs →
      Brings (a.filesFor fs k v) (a.filesFor fs' k v) :=
    filesFor_add hparts hup hfs hread hadd hne
  have haccepts' : a.Accepts fs' before := haccepts.of_brings hbrings
  have hstands : ∀ {k vs v}, listed before k = .ok vs → v ∈ vs →
      ∀ f, a.StandsFor fs' k v f ↔ a.StandsFor fs k v f := haccepts.standsFor_iff hbrings
  have hnull : a.path.hasNull = false := by
    rw [hparts] at hwrite ⊢
    exact (FileSystem.write_ok hup hwrite).1
  have hentry : ∀ {f entry}, f ∈ ascending files → a.entryFor fs f = .ok entry →
      a.fileOf fs' (.ofString entry) = .ok [f] := fun hf he =>
    fileOf_entryFor hparts hup hnull (hfiles _ (mem_ascending.mp hf)) he
  obtain ⟨checked', hload'⟩ := (exists_load hread').mpr (hrevised.accepts haccepts' hentry)
  refine ⟨before, after, checked', hread, hread', hload', fun f hf => ?_⟩
  rw [mem_load hread' hload', hrevised.holds_included hstands, hrevised.holds_excluded hstands,
    hrevised.holds_files hstands hentry, mem_ascending]
  constructor
  · rintro (⟨-, hnot⟩ | hsingle | ⟨-, hnot⟩) hstays
    · exact hnot hstays.excluded
    · exact hstays.unnamed hsingle
    · exact hnot hstays.byName
  · intro hnot
    by_cases hname : a.IsExcludedByName fs before f
    · by_cases hsingle : a.Holds fs before .files f
      · exact .inr (.inl hsingle)
      · exact .inl ⟨hname.1, fun hexcluded => hnot ⟨hname, hexcluded, hsingle⟩⟩
    · exact .inr (.inr ⟨hf, hname⟩)

/-! ### A file with two names -/

/-- A directory with a file and an allow-list. -/
def shelf (document : String) : FileSystem where
  root := .directory [("w", .directory
    [("a.py", .file .empty false), ("strict-files.json", .file document.toUTF8 false)])]

/-- Its allow-list. -/
def shelfList : AllowList where
  path := .ofParts ["w", "strict-files.json"]
  languages := [.python]
  arrangement := .ofMark 1

theorem proper_shelf (document : String) : (shelf document).Proper where
  root := by
    refine Node.proper_directory (by simp) ?_
    simp only [List.mem_singleton, forall_eq]
    refine Node.proper_directory (by simp) ?_
    simp [Node.proper_file]
  cwd := by simp [shelf]

/-- The path of the file on the shelf is canonical. -/
theorem isCanonical_shelf (document : String) : shelfList.IsCanonical (shelf document) "/w/a.py" :=
  ⟨.ofParts ["w", "a.py"], FileSystem.resolve_eq_ok.mpr
    ⟨by decide +kernel, show (Path.ofString "/w/a.py").resolve [] = _ by decide +kernel⟩,
    by decide +kernel, by decide +kernel⟩

/-- A directory in which one name of the file is excluded. -/
def oneName : FileSystem :=
  shelf "\x7b\"include\": [\"*.py\"], \"exclude\": [\"./a.py\"]\x7d"

/-- A file that is excluded by one name is checked when it has been recorded. -/
theorem one_name_is_taken_off :
    ∃ written fs' before after checked', shelfList.load oneName = .ok [] ∧
      shelfList.add oneName ["/w/a.py"] = .ok (written, fs') ∧
      shelfList.read oneName = .ok before ∧ shelfList.read fs' = .ok after ∧
      shelfList.load fs' = .ok checked' ∧
      ¬ shelfList.StaysExcluded oneName before after "/w/a.py" ∧ "/w/a.py" ∈ checked' := by
  obtain ⟨⟨written, fs'⟩, hadd, h⟩ := Outcome.map_eq_ok.mp <| Outcome.toOption_eq_some.mp <|
    show ((fun r => (shelfList.load r.2).toOption) <$> shelfList.add oneName
      ["/w/a.py"]).toOption = some (some ["/w/a.py"]) by decide +kernel
  have hload : shelfList.load oneName = .ok [] := Outcome.toOption_eq_some.mp (by decide +kernel)
  have hpath : atPath oneName (.ofParts ["w", "strict-files.json"]) [] (.ofMark 1) =
      .ok shelfList := rfl
  obtain ⟨before, after, checked', hread, hread', hload', hmem⟩ := mem_load_add hpath
    (proper_shelf _) hload (List.forall_mem_singleton.mpr (isCanonical_shelf _)) hadd
  have hchecked : "/w/a.py" ∈ checked' := by
    cases hload'.symm.trans (Outcome.toOption_eq_some.mp h)
    exact .head _
  exact ⟨written, fs', before, after, checked', hload, hadd, hread, hread', hload',
    (hmem _ (.head _)).mp hchecked, hchecked⟩

/-- A directory in which two names of the file are excluded. -/
def twoNames : FileSystem :=
  shelf "\x7b\"include\": [\"*.py\"], \"exclude\": [\"./a.py\", \"a.py\"]\x7d"

/-- A file that is excluded by two names stays excluded by the second when it
has been recorded. -/
theorem second_name_stays :
    ∃ written fs', shelfList.load twoNames = .ok [] ∧ shelfList.IsCanonical twoNames "/w/a.py" ∧
      twoNames.isFile (.ofParts ["w", "a.py"]) = .ok true ∧
      shelfList.add twoNames ["/w/a.py"] = .ok (written, fs') ∧ shelfList.load fs' = .ok [] := by
  obtain ⟨⟨written, fs'⟩, hadd, h⟩ := Outcome.map_eq_ok.mp <| Outcome.toOption_eq_some.mp <|
    show ((fun r => (shelfList.load r.2).toOption) <$> shelfList.add twoNames
      ["/w/a.py"]).toOption = some (some []) by decide +kernel
  exact ⟨written, fs', Outcome.toOption_eq_some.mp (by decide +kernel), isCanonical_shelf _,
    Outcome.toOption_eq_some.mp (by decide +kernel), hadd, Outcome.toOption_eq_some.mp h⟩

end Ratchet.AllowList
