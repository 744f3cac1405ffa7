import Ratchet.Proofs.AllowList.Durability

/-!
# What recording releases

A file that is excluded by name is recorded by taking the name off the excluded
patterns. The name was a pattern as well. As long as it holds no wildcard it
stood for its own file only, and nothing else comes to be checked; a name with a
wildcard may have kept other files out, which are checked from then on without
having been recorded.

* `eq_of_standsFor_name`: a name without wildcards stands for its own file.
* `Released`: the files that recording releases.
* `newly_checked_iff_released`: what recording checks besides the recorded files.
-/

namespace Ratchet.AllowList

open Glob (IsLiteral)
open Json (Value Members)

variable {fs fs' : FileSystem} {a : AllowList} {before after : Members} {f g entry : String}
  {files checked written parts : List String}

/-! ## Names as patterns -/

/-- The pattern of a string is the string. -/
theorem patternString_textOf (s : String) : patternString (Json.textOf s) = s := by
  have hchars : ∀ ch : Char, (Json.charOf? (Json.codeOf ch)).getD '\x00' = ch := fun ch => by
    rw [Json.charOf?_codeOf, Option.getD_some]
  rw [patternString, Json.textOf, List.map_map]
  exact (congrArg String.ofList (List.map_id'' hchars s.toList)).trans String.ofList_toList

/-- The pattern that a name is read as. -/
theorem exists_pattern_of_mem_aliases {t : Json.Text} (ht : t ∈ aliases entry) :
    ∃ s, (if isHere t then t.drop 2 else t) = Json.textOf s ∧ s.toList ⊆ entry.toList ∧
      (Path.ofString s).parts = (Path.ofString entry).parts := by
  have hsub : ∀ s : String, s.toList ⊆ ("./" ++ s).toList := fun s => by
    rw [String.toList_append]
    exact List.subset_append_right _ _
  obtain ⟨s, rfl, hs⟩ := eq_or_of_mem_aliases ht
  have hentry : s.toList ⊆ entry.toList ∧
      (Path.ofString s).parts = (Path.ofString entry).parts := by
    obtain rfl | rfl := hs
    · exact ⟨fun _ => id, rfl⟩
    · exact ⟨hsub s, by rw [Path.ofString_here]⟩
  split
  · obtain ⟨rest, rfl, hrest⟩ := exists_drop_here ‹_›
    refine ⟨rest, hrest, List.Subset.trans (hsub rest) hentry.1, ?_⟩
    rw [← hentry.2, Path.ofString_here]
  · exact ⟨s, rfl, hentry⟩

/-- **A name without wildcards stands for its own file only**, when it is read as
a pattern. -/
theorem eq_of_standsFor_name (hpath : a.path = .ofParts parts) (hup : ".." ∉ parts)
    (hnull : a.path.hasNull = false) (hg : a.IsCanonical fs g) (he : a.entryFor fs g = .ok entry)
    (hliteral : IsLiteral entry) {t : Json.Text} (ht : t ∈ aliases entry)
    (h : a.StandsFor fs .excluded (.string t) f) : f = g := by
  obtain ⟨p, hp, hplace, -⟩ := hg
  obtain ⟨found, hfound, hf⟩ := h
  obtain ⟨s, hs, hchars, hparts⟩ := exists_pattern_of_mem_aliases ht
  have hsliteral : IsLiteral s := fun c hc hmem => hliteral c hc (hchars hmem)
  rw [filesFor, filesOf] at hfound
  simp only [hs, patternString_textOf] at hfound
  split at hfound
  · cases hfound
    cases hf
  split at hfound
  · cases hfound
  rename_i pattern hpattern
  obtain ⟨selected, hselected, hfound⟩ := Outcome.bind_eq_ok.mp hfound
  obtain ⟨kept, hkept, hfound⟩ := Outcome.bind_eq_ok.mp hfound
  obtain ⟨q, hq, hresolve⟩ := (Outcome.mem_mapM hfound).mp hf
  obtain ⟨place, hqplace, rfl⟩ := Outcome.map_eq_ok.mp hresolve
  -- the one path that may be selected is the way to the recorded file
  have hmem : q ∈ selected := by
    rw [← (Outcome.filterM_eq_ok.mp hkept).2] at hq
    exact List.mem_of_mem_filter hq
  have hway : Path.ofString s = Path.ofString entry := by
    have hrelative := (Glob.selectors_of_literal hsliteral hpattern).1
    have hanchor : (Path.ofString s).anchor = "" := by simpa [Path.isAbsolute] using hrelative
    have hroute := ofString_entryFor hp hplace he
    rw [hroute] at hparts ⊢
    exact Path.mk.injEq .. ▸ ⟨hanchor, hparts⟩
  rw [Glob.eq_of_mem_select hsliteral hpattern hselected hmem, hway,
    resolve_entryFor hpath hup hnull hp hplace he] at hqplace
  rw [← Except.ok.inj hqplace, hplace]

/-! ## What recording releases -/

/-- **A file that recording releases.** It is included, it was excluded, and it no
longer is. What excluded it was a name with a wildcard of a recorded file. -/
structure Released (a : AllowList) (fs : FileSystem) (before after : Members)
    (files : List String) (f : String) : Prop where
  included : a.Holds fs before .included f
  excluded : a.Holds fs before .excluded f
  free : ¬ a.Holds fs after .excluded f
  byName : ∃ g ∈ files, a.Holds fs before .included g ∧ ∃ entry, a.entryFor fs g = .ok entry ∧
    ¬ IsLiteral entry ∧ ∃ us, listed before .excluded = .ok us ∧
      ∃ t ∈ aliases entry, .string t ∈ us ∧ a.StandsFor fs .excluded (.string t) f

/-- Of a file that is excluded no longer, and was not recorded, a name of a
recorded file is to blame. -/
theorem Grown.exists_name (h : Grown a fs before after files)
    (hpath : a.path = .ofParts parts) (hup : ".." ∉ parts) (hnull : a.path.hasNull = false)
    (hfiles : ∀ f ∈ files, a.IsCanonical fs f) (hexcluded : a.Holds fs before .excluded f)
    (hfree : ¬ a.Holds fs after .excluded f) (hnew : f ∉ files) :
    ∃ g ∈ files, a.Holds fs before .included g ∧ ∃ entry, a.entryFor fs g = .ok entry ∧
      ¬ IsLiteral entry ∧ ∃ us, listed before .excluded = .ok us ∧
        ∃ t ∈ aliases entry, .string t ∈ us ∧ a.StandsFor fs .excluded (.string t) f := by
  obtain ⟨vs, us, hvs, hus, -, hreleased⟩ := h.excluded
  obtain ⟨vs', hvs', v, hv, hf⟩ := hexcluded
  cases hvs.symm.trans hvs'
  obtain hv' | ⟨g, hg, ⟨p, hp, hincluded⟩, entry, he, t, ht, rfl⟩ := hreleased v hv
  · exact absurd ⟨us, hus, v, hv', hf⟩ hfree
  · have hplace : p.toString = g := by
      obtain ⟨q, hq, hplace, -⟩ := hfiles g hg
      cases hp.symm.trans hq
      exact hplace
    refine ⟨g, hg, hplace ▸ hincluded, entry, he, fun hliteral => hnew ?_, vs, hvs, t, ht, hv, hf⟩
    -- without a wildcard the name would have excluded the recorded file only
    rwa [eq_of_standsFor_name hpath hup hnull (hfiles g hg) he hliteral ht hf]

/-- **Recording checks nothing but what it records and what it releases.** The
allow-list can be loaded again. A file that was not checked, and is none of the
recorded ones, is checked exactly when it is included and was excluded only by
names of recorded files that hold a wildcard. -/
theorem newly_checked_iff_released {path : Path} {languages : List Language}
    {arrangement : Json.Arrangement}
    (hpath : atPath fs path languages arrangement = .ok a) (hfs : fs.Proper)
    (hload : a.load fs = .ok checked) (hfiles : ∀ f ∈ files, a.IsCanonical fs f)
    (hadd : a.add fs files = .ok (written, fs')) :
    ∃ before after checked', a.read fs = .ok before ∧ a.read fs' = .ok after ∧
      a.load fs' = .ok checked' ∧ ∀ f, f ∉ checked → f ∉ files →
        (f ∈ checked' ↔ a.Released fs before after files f) := by
  obtain ⟨parts, hparts, hup⟩ := atPath_eq_ok hpath hfs.cwd
  obtain ⟨before, hread, -⟩ := Outcome.bind_eq_ok.mp hload
  have haccepts := (exists_load hread).mp ⟨checked, hload⟩
  by_cases hne : files = []
  · subst hne
    cases hadd
    refine ⟨before, before, checked, hread, hread, hload, fun f hold _ => iff_of_false hold ?_⟩
    rintro ⟨-, hexcluded, hfree, -⟩
    exact hfree hexcluded
  have hnull := hasNull_of_add hparts hup hadd hne
  have hentry : ∀ {f entry}, f ∈ files → a.entryFor fs f = .ok entry →
      a.fileOf fs' (.ofString entry) = .ok [f] := fun hf he =>
    fileOf_entryFor hparts hup hnull (hfiles _ hf) he
  obtain ⟨after, hread', hgrown, haccepts', hstands⟩ := accepts_add hparts hup hfs hread haccepts
    hadd hne fun hf he => ⟨_, hentry hf he⟩
  obtain ⟨checked', hload'⟩ := (exists_load hread').mpr haccepts'
  refine ⟨before, after, checked', hread, hread', hload', fun f hold hnew => ?_⟩
  rw [mem_load hread hload] at hold
  rw [mem_load hread' hload', hgrown.holds_included hstands, hgrown.holds_excluded hstands]
  constructor
  · rintro (⟨hincluded, hfree⟩ | hsingle)
    · have hexcluded : a.Holds fs before .excluded f :=
        by_contra fun hnot => hold (.inl ⟨hincluded, hnot⟩)
      obtain ⟨g, hg, hname⟩ := hgrown.exists_name hparts hup hnull
        (fun f hf => hfiles f (mem_ascending.mp hf)) hexcluded hfree
        (fun hf => hnew (mem_ascending.mp hf))
      exact ⟨hincluded, hexcluded, hfree, g, mem_ascending.mp hg, hname⟩
    · -- a single file was one before, or was recorded
      obtain hsingle | hrecorded := hgrown.of_holds_files hstands
        (fun hf he => hentry (mem_ascending.mp hf) he) hsingle
      · exact absurd (.inr hsingle) hold
      · exact absurd (mem_ascending.mp hrecorded) hnew
  · exact fun hreleased => .inl ⟨hreleased.included, hreleased.free⟩

/-! ### A file whose name is a pattern -/

/-- A directory with a file that is named like a pattern, one that the pattern
stands for, and an allow-list that excludes the first by name. -/
def starredShelf : FileSystem where
  root := .directory [("w", .directory
    [("*.py", .file .empty false), ("a.py", .file .empty false),
     ("strict-files.json", .file
       "\x7b\"include\": [\"**/*.py\"], \"exclude\": [\"./*.py\"]\x7d".toUTF8 false)])]

theorem proper_starredShelf : starredShelf.Proper where
  root := by
    refine Node.proper_directory (by simp) ?_
    simp only [List.mem_singleton, forall_eq]
    refine Node.proper_directory (by simp) ?_
    simp [Node.proper_file]
  cwd := by simp [starredShelf]

theorem isCanonical_starred : shelfList.IsCanonical starredShelf "/w/*.py" :=
  ⟨.ofParts ["w", "*.py"], FileSystem.resolve_eq_ok.mpr
    ⟨by decide +kernel, show (Path.ofString "/w/*.py").resolve [] = _ by decide +kernel⟩,
    by decide +kernel, by decide +kernel⟩

/-- What the pattern stands for is released by recording the file of that name. -/
theorem starredShelf_releases :
    ∃ written fs' before after checked', shelfList.load starredShelf = .ok [] ∧
      (∀ f ∈ ["/w/*.py"], shelfList.IsCanonical starredShelf f) ∧
      shelfList.add starredShelf ["/w/*.py"] = .ok (written, fs') ∧
      shelfList.read starredShelf = .ok before ∧ shelfList.read fs' = .ok after ∧
      shelfList.load fs' = .ok checked' ∧
      shelfList.Released starredShelf before after ["/w/*.py"] "/w/a.py" ∧
      ¬ shelfList.Released starredShelf before after ["/w/*.py"] "/w/b.py" := by
  obtain ⟨⟨written, fs'⟩, hadd, h⟩ := Outcome.map_eq_ok.mp <| Outcome.toOption_eq_some.mp <|
    show ((fun r => (shelfList.load r.2).toOption) <$> shelfList.add starredShelf
      ["/w/*.py"]).toOption = some (some ["/w/*.py", "/w/a.py"]) by decide +kernel
  have hload : shelfList.load starredShelf = .ok [] :=
    Outcome.toOption_eq_some.mp (by decide +kernel)
  have hpath : atPath starredShelf (.ofParts ["w", "strict-files.json"]) [] (.ofMark 1) =
      .ok shelfList := rfl
  have hfiles : ∀ f ∈ ["/w/*.py"], shelfList.IsCanonical starredShelf f :=
    List.forall_mem_singleton.mpr isCanonical_starred
  obtain ⟨before, after, checked', hread, hread', hload', hiff⟩ :=
    newly_checked_iff_released hpath proper_starredShelf hload hfiles hadd
  cases hload'.symm.trans (Outcome.toOption_eq_some.mp h)
  exact ⟨written, fs', before, after, _, hload, hfiles, hadd, hread, hread', hload',
    (hiff "/w/a.py" (by simp) (by decide)).mp (by decide),
    mt (hiff "/w/b.py" (by simp) (by decide)).mpr (by decide)⟩

/-- Recording the file that is named like a pattern checks the other one too. -/
theorem starred_name_releases :
    ∃ written fs', shelfList.load starredShelf = .ok [] ∧
      shelfList.IsCanonical starredShelf "/w/*.py" ∧
      starredShelf.isFile (.ofParts ["w", "*.py"]) = .ok true ∧
      shelfList.add starredShelf ["/w/*.py"] = .ok (written, fs') ∧
      shelfList.load fs' = .ok ["/w/*.py", "/w/a.py"] := by
  obtain ⟨⟨written, fs'⟩, hadd, h⟩ := Outcome.map_eq_ok.mp <| Outcome.toOption_eq_some.mp <|
    show ((fun r => (shelfList.load r.2).toOption) <$> shelfList.add starredShelf
      ["/w/*.py"]).toOption = some (some ["/w/*.py", "/w/a.py"]) by decide +kernel
  exact ⟨written, fs', Outcome.toOption_eq_some.mp (by decide +kernel), isCanonical_starred,
    Outcome.toOption_eq_some.mp (by decide +kernel), hadd, Outcome.toOption_eq_some.mp h⟩

end Ratchet.AllowList
