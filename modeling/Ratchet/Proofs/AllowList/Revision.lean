import Ratchet.Proofs.AllowList.Entries
import Ratchet.Proofs.AllowList.Load
import Ratchet.Proofs.FileSystem.Extension
import Ratchet.Proofs.FileSystem.Length

/-!
# The revised document

What recording files makes of the document, whatever files these are. No
included pattern changes, no pattern joins the excluded ones, and no entry
leaves the single files. The new document is written, read again and accepted,
and the items that it keeps stand for the same files as before.

* `Grown`: what recording makes of the document.
* `sound_revise`: a revision gives a document that reads back.
* `grown`: a revision grows the document.
* `filesFor_add`: the items stand for the same files.
* `accepts_add`: the new document is read and accepted.
* `load_add_of_unexcluded`: what is checked afterwards, if nothing is excluded.
-/

namespace Ratchet.AllowList

open Json (Value Members)
open Outcome (Brings)

variable {fs fs' : FileSystem} {a : AllowList} {m before after : Members} {k : Key}
  {v : Value} {vs : List Value} {f : String} {files written parts : List String}

/-! ## Revising the document -/

/-- A text of the document is a name of a file, whose place a pattern includes. -/
def IsNameOf (a : AllowList) (fs : FileSystem) (m : Members) (v : Value) (f : String) : Prop :=
  (∃ p, fs.resolve (Path.ofString f) = .ok p ∧ a.Holds fs m .included p.toString) ∧
    ∃ entry, a.entryFor fs f = .ok entry ∧ ∃ t ∈ aliases entry, v = .string t

/-- **What recording some files makes of the document**, whatever the files are. -/
structure Grown (a : AllowList) (fs : FileSystem) (before after : Members)
    (files : List String) : Prop where
  /-- The included patterns stay. -/
  included : listed after .included = listed before .included
  /-- No pattern joins the excluded ones, and only names of the files leave them. -/
  excluded : ∃ vs us, listed before .excluded = .ok vs ∧ listed after .excluded = .ok us ∧
    us.Sublist vs ∧ ∀ v ∈ vs, v ∈ us ∨ ∃ f ∈ files, a.IsNameOf fs before v f
  /-- No entry leaves the single files, and only entries of the files join them. -/
  single : ∃ vs ws, listed before .files = .ok vs ∧ listed after .files = .ok ws ∧
    (∀ v ∈ vs, v ∈ ws) ∧ ∀ v ∈ ws, v ∈ vs ∨
      ∃ f ∈ files, ∃ entry, a.entryFor fs f = .ok entry ∧ v = .ofString entry
  /-- All of these are there, but for files of which a name was excluded. -/
  recorded : ∀ f ∈ files, ∃ entry, a.entryFor fs f = .ok entry ∧
    ((∃ ws, listed after .files = .ok ws ∧ .ofString entry ∈ ws) ∨
      ∃ us, listed before .excluded = .ok us ∧ ∃ t ∈ aliases entry, .string t ∈ us)

/-- The lists with which recording starts: the excluded patterns, the distinct
single files, and the included files. -/
structure StartsFrom (a : AllowList) (fs : FileSystem) (m : Members) (us single : List Value)
    (included : List String) : Prop where
  excluded : listed m .excluded = .ok us
  files : ∃ vs, listed m .files = .ok vs ∧ distinct vs = .ok single
  included : ∃ patterns, listed m .included = .ok patterns ∧
    a.filesOfAll fs patterns = .ok included

/-- A document with other excluded patterns and single files. -/
def update (m : Members) (us ws : List Value) : Members :=
  Members.set Key.files.text (.array ws) (Members.set Key.excluded.text (.array us) m)

/-- A revision records the files in a draft and puts its lists into the document. -/
theorem revise_eq_ok (hread : a.read fs = .ok before) :
    a.revise fs files = .ok (after, written) ↔ ∃ us single included d ws,
      a.StartsFrom fs before us single included ∧
      files.foldlM (a.addOne fs included) ⟨us, single, []⟩ = .ok d ∧ a.sorted d.files = .ok ws ∧
      after = update before d.excluded ws ∧ written = d.written.reverse := by
  rw [revise, hread]
  simp only [Outcome.bind_eq_ok, Except.ok.injEq, exists_eq_left', pure, Except.pure,
    Prod.mk.injEq]
  constructor
  · rintro ⟨us, hus, vs, hvs, single, hsingle, patterns, hpatterns, included, hincluded, d, hd, ws,
      hws, rfl, rfl⟩
    exact ⟨us, single, included, d, ws,
      ⟨hus, ⟨vs, hvs, hsingle⟩, patterns, hpatterns, hincluded⟩, hd, hws, rfl, rfl⟩
  · rintro ⟨us, single, included, d, ws, ⟨hus, ⟨vs, hvs, hsingle⟩, patterns, hpatterns, hincluded⟩,
      hd, hws, rfl, rfl⟩
    exact ⟨us, hus, vs, hvs, single, hsingle, patterns, hpatterns, included, hincluded, d, hd, ws,
      hws, rfl, rfl⟩

/-- The lists of a document into which others are put. -/
theorem listed_update (m : Members) (us ws : List Value) (k : Key) :
    listed (update m us ws) k = match k with
      | .included => listed m .included
      | .excluded => .ok us
      | .files => .ok ws := by
  cases k <;> simp [update, listed_set]

/-- Of two updates the later one counts. -/
theorem update_update (hm : Sound m) (us ws us' ws' : List Value) :
    update (update m us ws) us' ws' = update m us' ws' := by
  have hkeys : ∀ (k : Key) (items : List Value) (k' : Key),
      k'.text ∈ (Members.set k.text (.array items) m).map Prod.fst := by
    intro k items k'
    rw [Json.keys_set, if_pos (hm.keys k)]
    exact hm.keys k'
  have hne : Key.excluded.text ≠ Key.files.text := fun h => by cases Key.text_injective h
  rw [update, update, update, Members.set_comm hne (hkeys _ _ _) (hkeys _ _ _),
    Members.set_set (hm.keys _), Members.set_set (hkeys _ _ _)]

/-- **A revision gives a document that reads back.** -/
theorem sound_revise (hread : a.read fs = .ok before)
    (h : a.revise fs files = .ok (after, written)) : Sound after := by
  obtain ⟨us, single, included, d, ws, ⟨hus, ⟨vs, hvs, hsingle⟩, -⟩, hd, hws, rfl, -⟩ :=
    (revise_eq_ok hread).mp h
  have hgrows := grows_all hd
  have hsound := sound_of_read hread
  have hmem := (Json.distinct_spec (distinct_eq_ok.mp hsingle)).2.2.1
  refine sound_set (sound_set hsound fun v hv => ?_) fun v hv => ?_
  · exact legible_of_listed hsound.legible hus v (hgrows.excluded.subset hv)
  · obtain hv | ⟨f, -, entry, -, rfl⟩ := hgrows.new v ((mem_sorted hws v).mp hv)
    · exact legible_of_listed hsound.legible hvs v (hmem v hv)
    · exact Json.legible_textOf entry

/-- **A revision grows the document.** -/
theorem grown (hread : a.read fs = .ok before) (haccepts : a.Accepts fs before)
    (h : a.revise fs files = .ok (after, written)) : Grown a fs before after files := by
  obtain ⟨us, single, included, d, ws, ⟨hus, ⟨vs, hvs, hsingle⟩, patterns, hpatterns, hincluded⟩,
    hd, hws, rfl, -⟩ := (revise_eq_ok hread).mp h
  have hgrows := grows_all hd
  -- of texts, the list of distinct ones and the sorted list hold the same
  have hmem : ∀ v, v ∈ single ↔ v ∈ vs := mem_distinct hsingle (haccepts.isString hvs)
  have hplaces : ∀ f, IsIncluded fs included f ↔
      ∃ p, fs.resolve (Path.ofString f) = .ok p ∧ a.Holds fs before .included p.toString := by
    simp only [IsIncluded, mem_filesOfAll (k := .included) (by decide) hpatterns hincluded,
      implies_true]
  have hlisted := listed_update before d.excluded ws
  refine ⟨hlisted .included, ⟨us, d.excluded, hus, hlisted .excluded, hgrows.excluded,
    fun v hv => ?_⟩, ⟨vs, ws, hvs, hlisted .files, fun v hv => ?_, fun v hv => ?_⟩, fun f hf => ?_⟩
  · refine (hgrows.released v hv).imp_right ?_
    rintro ⟨f, hf, hincluded, hname⟩
    exact ⟨f, hf, (hplaces f).mp hincluded, hname⟩
  · exact (mem_sorted hws v).mpr (hgrows.kept v ((hmem v).mpr hv))
  · exact (hgrows.new v ((mem_sorted hws v).mp hv)).imp_left (hmem v).mp
  · obtain ⟨entry, he, hdone⟩ := hgrows.entry f hf
    refine ⟨entry, he, hdone.imp (fun hin => ?_) fun hnamed => ?_⟩
    · exact ⟨ws, hlisted .files, (mem_sorted hws _).mpr hin⟩
    · obtain ⟨-, entry', he', t, ht, hmem⟩ := hnamed
      cases he.symm.trans he'
      exact ⟨us, hus, t, ht, hmem⟩

namespace Grown

variable (h : Grown a fs before after files)

include h

/-- The new document can be loaded, if the new entries can. -/
theorem accepts (haccepts : a.Accepts fs' before)
    (hentry : ∀ {f entry}, f ∈ files → a.entryFor fs f = .ok entry →
      ∃ found, a.fileOf fs' (.ofString entry) = .ok found) : a.Accepts fs' after := by
  intro k
  cases k with
  | included =>
    obtain ⟨vs, hvs, hok⟩ := haccepts .included
    exact ⟨vs, h.included.trans hvs, hok⟩
  | excluded =>
    obtain ⟨vs, us, hvs, hus, hsub, -⟩ := h.excluded
    exact ⟨us, hus, fun v hv => haccepts.ok hvs (hsub.subset hv)⟩
  | files =>
    obtain ⟨vs, ws, hvs, hws, -, hnew⟩ := h.single
    refine ⟨ws, hws, fun v hv => ?_⟩
    obtain hv | ⟨f, hf, entry, he, rfl⟩ := hnew v hv
    · exact haccepts.ok hvs hv
    · exact hentry hf he

section

variable (hstands : ∀ {k vs v}, listed before k = .ok vs → v ∈ vs →
  ∀ f, a.StandsFor fs' k v f ↔ a.StandsFor fs k v f)

include hstands

/-- The same files are included as before. -/
theorem holds_included : a.Holds fs' after .included f ↔ a.Holds fs before .included f := by
  rw [Holds, Holds, h.included]
  exact exists_congr fun vs => and_congr_right fun hvs =>
    exists_congr fun v => and_congr_right fun hv => hstands hvs hv f

/-- What is excluded is told from what is left of the excluded patterns. -/
theorem holds_excluded : a.Holds fs' after .excluded f ↔ a.Holds fs after .excluded f := by
  obtain ⟨vs, us, hvs, hus, hsub, -⟩ := h.excluded
  rw [Holds, Holds, hus]
  refine exists_congr fun us' => and_congr_right fun hus' => exists_congr fun v =>
    and_congr_right fun hv => ?_
  cases hus'
  exact hstands hvs (hsub.subset hv) f

/-- A file that was among the single ones still is. -/
theorem holds_files (hf : a.Holds fs before .files f) : a.Holds fs' after .files f := by
  obtain ⟨vs, ws, hvs, hws, hkept, -⟩ := h.single
  obtain ⟨vs', hvs', v, hv, hf⟩ := hf
  cases hvs.symm.trans hvs'
  exact ⟨ws, hws, v, hkept v hv, (hstands hvs hv f).mpr hf⟩

/-- The single files are those that were, and recorded ones. -/
theorem of_holds_files (hentry : ∀ {f entry}, f ∈ files → a.entryFor fs f = .ok entry →
      a.fileOf fs' (.ofString entry) = .ok [f]) (hf : a.Holds fs' after .files f) :
    a.Holds fs before .files f ∨ f ∈ files := by
  obtain ⟨vs, ws, hvs, hws, -, hnew⟩ := h.single
  obtain ⟨ws', hws', v, hv, hf⟩ := hf
  cases hws.symm.trans hws'
  obtain hv | ⟨g, hg, entry, he, rfl⟩ := hnew v hv
  · exact .inl ⟨vs, hvs, v, hv, (hstands hvs hv f).mp hf⟩
  · obtain ⟨found, hfound, hf⟩ := hf
    cases hfound.symm.trans (hentry hg he)
    exact .inr (List.mem_singleton.mp hf ▸ hg)

end

/-- What is left of the excluded patterns was there before. -/
theorem of_holds_excluded (hf : a.Holds fs after .excluded f) : a.Holds fs before .excluded f := by
  obtain ⟨vs, us, hvs, hus, hsub, -⟩ := h.excluded
  obtain ⟨us', hus', v, hv, hf⟩ := hf
  cases hus.symm.trans hus'
  exact ⟨vs, hvs, v, hsub.subset hv, hf⟩

end Grown

/-- The document excludes nothing. -/
def Unexcluded (a : AllowList) (fs : FileSystem) : Prop :=
  ∃ document, a.read fs = .ok document ∧ listed document .excluded = .ok []

/-! ## Writing it -/

/-- Recording files writes the new document, and nothing else. -/
theorem add_eq_ok (h : a.add fs files = .ok (written, fs')) (hne : files ≠ []) :
    ∃ m fs₁, a.revise fs (ascending files) = .ok (m, written) ∧
      fs.makeDirectory a.root = .ok fs₁ ∧ fs₁.writeText a.path (textOf m) = .ok fs' := by
  have hne' : ascending files ≠ [] := by
    obtain ⟨f, hf⟩ := List.exists_mem_of_ne_nil files hne
    exact List.ne_nil_of_mem (mem_ascending.mpr hf)
  rw [add] at h
  dsimp only at h
  rw [if_neg hne'] at h
  obtain ⟨⟨m, written'⟩, hm, h⟩ := Outcome.bind_eq_ok.mp h
  obtain ⟨fs₁, hfs₁, h⟩ := Outcome.bind_eq_ok.mp h
  obtain ⟨fs₂, hfs₂, h⟩ := Outcome.bind_eq_ok.mp h
  cases h
  exact ⟨m, fs₁, hm, hfs₁, hfs₂⟩

/-- A call succeeds when the document can be revised and written. -/
theorem add_of_revise {fs₁ : FileSystem} (hne : files ≠ [])
    (hm : a.revise fs (ascending files) = .ok (m, written))
    (hfs₁ : fs.makeDirectory a.root = .ok fs₁)
    (hfs' : fs₁.writeText a.path (textOf m) = .ok fs') : a.add fs files = .ok (written, fs') := by
  have hne' : ascending files ≠ [] := by
    obtain ⟨f, hf⟩ := List.exists_mem_of_ne_nil files hne
    exact List.ne_nil_of_mem (mem_ascending.mpr hf)
  rw [add]
  dsimp only
  rw [if_neg hne']
  exact Outcome.bind_eq_ok.mpr ⟨_, hm, Outcome.bind_eq_ok.mpr ⟨fs₁, hfs₁,
    Outcome.bind_eq_ok.mpr ⟨fs', hfs', rfl⟩⟩⟩

/-- What an allow-list at a path is. -/
theorem atPath_eq_ok {path : Path} {languages : List Language}
    {arrangement : Json.Arrangement}
    (h : atPath fs path languages arrangement = .ok a) (hcwd : ".." ∉ fs.cwd) :
    ∃ parts, a.path = .ofParts parts ∧ ".." ∉ parts := by
  obtain ⟨p, hp, h⟩ := Outcome.bind_eq_ok.mp h
  cases h
  exact FileSystem.exists_of_resolve hcwd hp

section

variable (hpath : a.path = .ofParts parts) (hup : ".." ∉ parts)

include hpath hup

/-- Recording files keeps the working directory, and no name stands twice. -/
theorem proper_add (hfs : fs.Proper) (h : a.add fs files = .ok (written, fs')) :
    fs'.Proper ∧ fs'.cwd = fs.cwd := by
  by_cases hne : files = []
  · subst hne
    cases h
    exact ⟨hfs, rfl⟩
  · obtain ⟨m, fs₁, -, hfs₁, hfs'⟩ := add_eq_ok h hne
    rw [hpath] at hfs'
    have hproper := FileSystem.proper_write hup (FileSystem.proper_makeDirectory hfs hfs₁) hfs'
    have hcwd := FileSystem.cwd_makeDirectory hfs₁
    obtain ⟨-, executable, rfl, -⟩ := FileSystem.write_ok hup hfs'
    exact ⟨hproper, hcwd⟩

/-- Where files have been recorded, the document lies in a directory. -/
theorem isDirectory_root_add (h : a.add fs files = .ok (written, fs')) (hne : files ≠ []) :
    fs'.isDirectory a.root = .ok true := by
  obtain ⟨m, fs₁, -, hfs₁, hfs'⟩ := add_eq_ok h hne
  rw [hpath] at hfs'
  obtain ⟨hnull, executable, -, hfind⟩ := FileSystem.write_ok hup hfs'
  have hroot : a.root = (Path.ofParts parts).parent := by rw [root, hpath]
  by_cases hparts : parts = []
  · -- no file can be written where the root directory stands
    subst hparts
    have hfs : fs.find a.root = .ok fs.root := FileSystem.find_eq_ok.mpr
      ⟨by rw [hroot]; decide, by rw [hroot]; rfl⟩
    obtain ⟨rfl, hdirectory⟩ := (FileSystem.makeDirectory_of_find hfs).mp hfs₁
    obtain ⟨-, es, hes⟩ := FileSystem.isDirectory_eq_true.mp hdirectory
    have hsame : a.root = Path.ofParts [] := hroot
    rw [hsame] at hes
    obtain ⟨place, -, hwrite⟩ := Outcome.bind_eq_ok.mp hfs'
    rw [hes] at hwrite
    cases hwrite
  · obtain ⟨es, hes⟩ := FileSystem.find_parent hfind hparts
    rw [hroot]
    exact FileSystem.isDirectory_eq_true.mpr ⟨Path.hasNull_parent hnull, es, hes⟩

/-- Where files have been recorded, the path of the document is not too long. -/
theorem not_isTooLong_add (h : a.add fs files = .ok (written, fs')) (hne : files ≠ []) :
    ¬ fs'.IsTooLong (.ofParts parts) := by
  obtain ⟨m, fs₁, -, -, hfs'⟩ := add_eq_ok h hne
  rw [hpath] at hfs'
  obtain ⟨-, executable, -, hfind⟩ := FileSystem.write_ok hup hfs'
  exact FileSystem.not_isTooLong_of_find hup hfind

/-- Recording files in a document that is there changes no answer about a path. -/
theorem alike_add_of_find {content : ByteArray} {executable : Bool}
    (hfind : fs.find a.path = .ok (.file content executable))
    (h : a.add fs files = .ok (written, fs')) (hne : files ≠ []) : fs.Alike fs' := by
  obtain ⟨m, fs₁, -, hfs₁, hfs'⟩ := add_eq_ok h hne
  -- the document lies in a directory, so none is made
  obtain ⟨n, hn⟩ : ∃ n, fs.find a.root = .ok n := by
    by_cases hparts : a.path.parts = []
    · have hroot : a.root = a.path := by
        rw [hpath] at hparts
        rw [root, hpath, show parts = [] from hparts]
        rfl
      exact ⟨_, hroot ▸ hfind⟩
    · obtain ⟨es, hes⟩ := FileSystem.find_parent hfind hparts
      exact ⟨_, hes⟩
  obtain ⟨rfl, -⟩ := (FileSystem.makeDirectory_of_find hn).mp hfs₁
  rw [hpath] at hfind hfs'
  exact FileSystem.alike_write hup hfind hfs'

/-- Recording files where there is a document changes no answer about a path;
where there is none, there was no pattern. -/
theorem alike_add (hread : a.read fs = .ok before) (h : a.add fs files = .ok (written, fs'))
    (hne : files ≠ []) : before = complete [] ∨ fs.Alike fs' :=
  (read_cases hread).imp_right fun ⟨_, _, hfind⟩ => alike_add_of_find hpath hup hfind h hne

/-- Recording files changes no file but the document. -/
theorem extendsAt_add (h : a.add fs files = .ok (written, fs')) : fs.ExtendsAt parts fs' := by
  by_cases hne : files = []
  · subst hne
    cases h
    exact .refl parts fs
  · obtain ⟨m, fs₁, -, hfs₁, hfs'⟩ := add_eq_ok h hne
    have hroot : a.root = .ofParts parts.dropLast := by
      rw [root, hpath]
      rfl
    rw [hroot] at hfs₁
    rw [hpath] at hfs'
    have hmade := FileSystem.extendsAt_makeDirectory
      (fun hmem => hup (List.dropLast_subset _ hmem)) hfs₁ (List.dropLast_prefix parts)
    exact hmade.trans (FileSystem.extendsAt_write hup hfs')

/-- The items of the lists stand for the same files when files have been
recorded. -/
theorem filesFor_add (hfs : fs.Proper) (hread : a.read fs = .ok before)
    (h : a.add fs files = .ok (written, fs')) (hne : files ≠ [])
    (hlisted : listed before k = .ok vs) (hv : v ∈ vs) :
    Brings (a.filesFor fs k v) (a.filesFor fs' k v) := by
  obtain ⟨hfs', hcwd⟩ := proper_add hpath hup hfs h
  obtain rfl | halike := alike_add hpath hup hread h hne
  · -- there was no document, so its lists had no items
    have hnil : listed (complete []) k = .ok [] := by cases k <;> rfl
    cases hnil.symm.trans hlisted
    cases hv
  · cases k with
    | included => exact filesOf_alike halike hfs hfs' v
    | excluded => exact filesOf_alike halike hfs hfs' v
    | files =>
      rw [filesFor, filesFor, fileOf_congr hcwd.symm]
      exact .refl _

/-- What can be recorded in, has a path that a file can have. -/
theorem hasNull_of_add (h : a.add fs files = .ok (written, fs')) (hne : files ≠ []) :
    a.path.hasNull = false := by
  obtain ⟨m, fs₁, -, -, hwrite⟩ := add_eq_ok h hne
  rw [hpath] at hwrite ⊢
  exact (FileSystem.write_ok hup hwrite).1

/-- **The new document is read and accepted**, if the new entries can be read,
and the items that were there stand for the same files. -/
theorem accepts_add (hfs : fs.Proper) (hread : a.read fs = .ok before)
    (haccepts : a.Accepts fs before) (h : a.add fs files = .ok (written, fs')) (hne : files ≠ [])
    (hentry : ∀ {f entry}, f ∈ files → a.entryFor fs f = .ok entry →
      ∃ found, a.fileOf fs' (.ofString entry) = .ok found) :
    ∃ after, a.read fs' = .ok after ∧ Grown a fs before after (ascending files) ∧
      a.Accepts fs' after ∧ ∀ {k vs v}, listed before k = .ok vs → v ∈ vs →
        ∀ f, a.StandsFor fs' k v f ↔ a.StandsFor fs k v f := by
  obtain ⟨m, fs₁, hm, -, hwrite⟩ := add_eq_ok h hne
  have hgrown := grown hread haccepts hm
  -- what is read of the new document
  have hread' := read_writeText (sound_revise hread hm) hpath hup hwrite
  -- what its items stand for
  have hbrings : ∀ {k vs v}, listed before k = .ok vs → v ∈ vs →
      Brings (a.filesFor fs k v) (a.filesFor fs' k v) :=
    filesFor_add hpath hup hfs hread h hne
  exact ⟨m, hread', hgrown, hgrown.accepts (haccepts.of_brings hbrings)
    fun hf he => hentry (mem_ascending.mp hf) he, haccepts.standsFor_iff hbrings⟩

/-- **What is checked is what was and what has been recorded**, if nothing is
excluded. -/
theorem load_add_of_unexcluded {checked : List String} (hfs : fs.Proper)
    (hunexcluded : a.Unexcluded fs) (hload : a.load fs = .ok checked)
    (hfiles : ∀ f ∈ files, a.IsCanonical fs f) (h : a.add fs files = .ok (written, fs')) :
    a.Unexcluded fs' ∧ ∃ checked', a.load fs' = .ok checked' ∧
      ∀ f, f ∈ checked' ↔ f ∈ checked ∨ f ∈ files := by
  by_cases hne : files = []
  · subst hne
    cases h
    exact ⟨hunexcluded, checked, hload, by simp⟩
  obtain ⟨before, hread, hnone⟩ := hunexcluded
  have haccepts := (exists_load hread).mp ⟨checked, hload⟩
  have hnull := hasNull_of_add hpath hup h hne
  have hentry : ∀ {f entry}, f ∈ files → a.entryFor fs f = .ok entry →
      a.fileOf fs' (.ofString entry) = .ok [f] := fun hf he =>
    fileOf_entryFor hpath hup hnull (hfiles _ hf) he
  obtain ⟨after, hread', hgrown, haccepts', hstands⟩ := accepts_add hpath hup hfs hread haccepts
    h hne fun hf he => ⟨_, hentry hf he⟩
  obtain ⟨checked', hload'⟩ := (exists_load hread').mpr haccepts'
  have hnone' : listed after .excluded = .ok [] := by
    obtain ⟨vs, us, hvs, hus, hsub, -⟩ := hgrown.excluded
    cases hvs.symm.trans hnone
    rw [hus, List.sublist_nil.mp hsub]
  have hfree : ∀ {fs m f}, listed m .excluded = .ok [] → ¬ a.Holds fs m .excluded f := by
    rintro fs m f hm ⟨vs, hvs, v, hv, -⟩
    cases hvs.symm.trans hm
    cases hv
  have hsingle : ∀ f, a.Holds fs' after .files f ↔ a.Holds fs before .files f ∨ f ∈ files := by
    intro f
    constructor
    · intro hf
      refine (hgrown.of_holds_files hstands ?_ hf).imp_right mem_ascending.mp
      exact fun hf he => hentry (mem_ascending.mp hf) he
    · rintro (hf | hf)
      · exact hgrown.holds_files hstands hf
      · -- nothing is excluded, so the entry of the file is among the single ones
        obtain ⟨entry, he, ⟨ws, hws, hin⟩ | ⟨us, hus, t, -, ht⟩⟩ :=
          hgrown.recorded f (mem_ascending.mpr hf)
        · exact ⟨ws, hws, _, hin, [f], hentry hf he, .head _⟩
        · cases hus.symm.trans hnone
          cases ht
  refine ⟨⟨after, hread', hnone'⟩, checked', hload', fun f => ?_⟩
  rw [mem_load hread hload, mem_load hread' hload', hgrown.holds_included hstands, hsingle,
    and_iff_left (hfree hnone), and_iff_left (hfree hnone'), or_assoc]

end

end Ratchet.AllowList
