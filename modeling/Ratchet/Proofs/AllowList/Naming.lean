import Ratchet.Json.Slots
import Ratchet.Proofs.AllowList.Drafts
import Ratchet.Proofs.AllowList.Revision

/-!
# One name for every file

A file is written in the document as the way that leads to it from the
directory of the document, and a way that does not go up has a dot and a slash
in front. Wherever the document and the file are, this way leads back to the
file. So what is written for one file is not written for another one, with the
dot and the slash or without them.

* `leads_entryFor`: how an entry starts.
* `entryFor_decodes`: an entry leads to its file, and to no other.
-/

namespace Ratchet.AllowList

variable {fs : FileSystem} {a : AllowList} {file entry : String} {path : Path}
  {languages : List Language} {arrangement : Json.Arrangement}

/-- The start of an entry: a dot and a slash, or two dots and a slash. -/
def Leads (entry : String) : Prop :=
  "./".toList <+: entry.toList ∨ "../".toList <+: entry.toList

instance (entry : String) : Decidable (Leads entry) :=
  inferInstanceAs (Decidable (_ ∨ _))

/-- An entry leads from the directory of the allow-list to the file. -/
theorem leads_entryFor (h : a.entryFor fs file = .ok entry) : Leads entry := by
  obtain ⟨place, -, h⟩ := Outcome.bind_eq_ok.mp h
  cases h
  split
  · rename_i hup
    exact .inr (List.isPrefixOf_iff_prefix.mp hup)
  · rw [Leads, String.toList_append]
    exact .inl (List.prefix_append _ _)

/-- An allow-list lies at a path that a file can have. -/
theorem hasNull_atPath (hcwd : ∀ part ∈ fs.cwd, '\x00' ∉ part.toList)
    (h : atPath fs path languages arrangement = .ok a) : a.path.hasNull = false := by
  obtain ⟨p, hp, h⟩ := Outcome.bind_eq_ok.mp h
  cases h
  obtain ⟨hnull, rfl⟩ := FileSystem.resolve_eq_ok.mp hp
  exact Path.hasNull_eq_false.mpr (Path.notMem_null_resolve hnull hcwd)

/-- **An entry leads to its file, and to no other.** Wherever an allow-list is, every
place has an entry there. It starts with one dot or two dots and a slash, and seen from
the directory of the document it leads to the place, from whatever directory one works.
No other place has the same entry, and none can be written like it. -/
theorem entryFor_decodes (hpath : atPath fs path languages arrangement = .ok a)
    (hup : ".." ∉ fs.cwd)
    (hcwd : ∀ part ∈ fs.cwd, '\x00' ∉ part.toList) (hfile : fs.IsPlace file) :
    ∃ entry, a.entryFor fs file = .ok entry ∧ Leads entry ∧
      (∀ fs' : FileSystem,
        Path.toString <$> fs'.resolve (a.root ++ Path.ofString entry) = .ok file) ∧
      ∀ other, fs.IsPlace other → other ≠ file → ∃ entry', a.entryFor fs other = .ok entry' ∧
        entry' ≠ entry ∧ ∀ t ∈ aliases entry, t ∉ aliases entry' := by
  obtain ⟨parts, hparts, hback⟩ := atPath_eq_ok hpath hup
  have hentry : a.entryFor fs file = .ok (a.entryOf fs file) := entryFor_eq hfile
  refine ⟨a.entryOf fs file, hentry, leads_entryFor hentry, fun fs' => ?_,
    fun other hother hne => ?_⟩
  · obtain ⟨p, hp, htext⟩ := hfile
    rw [resolve_entryFor hparts hback (hasNull_atPath hcwd hpath) hp htext hentry, ← htext]
    rfl
  · have hapart := aliases_apart (a := a) hfile hother (Ne.symm hne)
    refine ⟨a.entryOf fs other, entryFor_eq hother, fun heq => ?_, hapart⟩
    exact Draft.textOf_ne_of_apart hapart (congrArg Json.textOf heq.symm)

/-! ### Above the document -/

/-- A working directory, below which an allow-list is kept. -/
def workshop : FileSystem where
  cwd := ["w"]

/-- An allow-list that is kept in a directory of its own. -/
def workshopList : AllowList where
  path := .ofParts ["w", "conf", "strict.json"]
  languages := [.python]
  arrangement := .ofMark 1

/-- The directory above the document is written with a dot and a slash, since the way
to it ends with two dots. A file whose name begins with two dots is written so too. -/
theorem workshop_decodes :
    atPath workshop (Path.ofString "conf/strict.json") [] (.ofMark 1) = .ok workshopList ∧
    workshop.IsPlace "/w" ∧ workshop.IsPlace "/w/conf/..a" ∧
    workshopList.entryFor workshop "/w" = .ok "./.." ∧
    workshopList.entryFor workshop "/w/conf/..a" = .ok "./..a" ∧
    Path.toString <$> workshop.resolve (workshopList.root ++ Path.ofString "./..") = .ok "/w" ∧
    ∀ t ∈ aliases "./..", t ∉ aliases "./..a" := by
  have hresolve : ∀ file, (Path.ofString file).hasNull = false →
      ((Path.ofString file).resolve workshop.cwd).toString = file → workshop.IsPlace file :=
    fun _ hnull htext => ⟨_, FileSystem.resolve_eq_ok.mpr ⟨hnull, rfl⟩, htext⟩
  have hfile : workshop.IsPlace "/w" := hresolve _ (by decide +kernel) (by decide +kernel)
  have hother : workshop.IsPlace "/w/conf/..a" := hresolve _ (by decide +kernel) (by decide +kernel)
  have hpath : atPath workshop (Path.ofString "conf/strict.json") [] (.ofMark 1) =
      .ok workshopList := by
    rw [atPath, FileSystem.resolve_eq_ok.mpr ⟨by decide +kernel, rfl⟩]
    exact congrArg (fun p => Except.ok (AllowList.mk p [.python] (.ofMark 1))) (by decide +kernel)
  have hentry : workshopList.entryFor workshop "/w" = .ok "./.." :=
    Outcome.toOption_eq_some.mp (by decide +kernel)
  have hentry' : workshopList.entryFor workshop "/w/conf/..a" = .ok "./..a" :=
    Outcome.toOption_eq_some.mp (by decide +kernel)
  obtain ⟨entry, he, -, hback, hapart⟩ := entryFor_decodes hpath (by decide) (by decide) hfile
  obtain ⟨entry', he', -, hapart⟩ := hapart _ hother (by decide)
  cases hentry.symm.trans he
  cases hentry'.symm.trans he'
  exact ⟨hpath, hfile, hother, hentry, hentry', hback workshop, hapart⟩

end Ratchet.AllowList
