import Ratchet.Proofs.AllowList.Document
import Ratchet.Proofs.FileSystem.Place
import Ratchet.Proofs.Json.Order

/-!
# Entries

An entry that adding writes names the file it was written for, wherever the
allow-list is. Recording files takes no entry off the single files and puts no
pattern on the excluded ones. It leaves the entry of a file among the single
files, unless the file is included and a name of it is excluded; then it takes
one name off the excluded ones instead.

* `IsCanonical`: tracked files under the text of their place.
* `fileOf_entryFor`: an entry names its file.
* `eq_of_mem_aliases`: no two files can be written alike.
* `Records`: what recording some files does to the lists.
-/

namespace Ratchet

namespace AllowList

open Json (Value Members)

variable {fs fs' : FileSystem} {a : AllowList} {file entry : String} {p : Path}
  {parts : List String}

/-! ## Entries and files -/

/-- A tracked file under the text of its place, the one name that the
allow-list has for it. -/
def IsCanonical (a : AllowList) (fs : FileSystem) (file : String) : Prop :=
  ∃ p, fs.resolve (Path.ofString file) = .ok p ∧ p.toString = file ∧
    isTracked a.languages p = true

theorem IsCanonical.isPlace (h : a.IsCanonical fs file) : fs.IsPlace file := by
  obtain ⟨p, hp, hfile, -⟩ := h
  exact ⟨p, hp, hfile⟩

theorem IsCanonical.congr (h : a.IsCanonical fs file) (hcwd : fs'.cwd = fs.cwd) :
    a.IsCanonical fs' file := by
  obtain ⟨p, hp, hplace⟩ := h
  exact ⟨p, (FileSystem.resolve_congr hcwd _).trans hp, hplace⟩

/-- An entry is read as the way from the directory of the document. -/
theorem ofString_entryFor (hp : fs.resolve (Path.ofString file) = .ok p) (hfile : p.toString = file)
    (h : a.entryFor fs file = .ok entry) :
    Path.ofString entry = { parts := Path.route a.root.parts p.parts } := by
  obtain ⟨place, hplace, h⟩ := Outcome.bind_eq_ok.mp h
  rw [hp] at hplace
  cases hplace
  obtain ⟨-, hnames, -, -⟩ := FileSystem.place_of_resolve hp hfile
  have hroute : ∀ part ∈ Path.route a.root.parts p.parts, Path.IsName part := by
    intro part hpart
    obtain rfl | hpart := Path.mem_of_mem_route hpart
    · exact ⟨by decide, by decide, by decide⟩
    · exact hnames part hpart
  generalize Path.route a.root.parts p.parts = route at h hroute
  by_cases hempty : route = []
  · subst hempty
    cases h
    decide
  · have htext : Path.toString { parts := route } = Path.slashed route := by
      rw [Path.toString, if_neg fun h => hempty h.2]
      exact String.empty_append
    simp only [htext, pure, Except.pure, Except.ok.injEq] at h
    split at h
    · rw [← h, Path.ofString_slashed hroute hempty]
    · rw [← h, Path.ofString_here_slashed hroute]

/-- The way that an entry stands for leads to the place of its file. -/
theorem resolve_entryFor (hpath : a.path = .ofParts parts) (hup : ".." ∉ parts)
    (hnull : a.path.hasNull = false) (hp : fs.resolve (Path.ofString file) = .ok p)
    (hfile : p.toString = file) (h : a.entryFor fs file = .ok entry) :
    fs'.resolve (a.root ++ Path.ofString entry) = .ok p := by
  obtain ⟨hplace, -, hgoal, hnull'⟩ := FileSystem.place_of_resolve hp hfile
  have hroot : a.root = .ofParts parts.dropLast := by rw [root, hpath]; rfl
  have hrootnull : a.root.hasNull = false := Path.hasNull_parent hnull
  have happend : a.root ++ Path.ofString entry =
      .ofParts (parts.dropLast ++ Path.route parts.dropLast p.parts) := by
    rw [ofString_entryFor hp hfile h, hroot]
    rfl
  rw [happend]
  refine FileSystem.resolve_eq_ok.mpr ⟨Path.hasNull_eq_false.mpr fun part hpart => ?_, ?_⟩
  · rw [hroot] at hrootnull
    rw [hplace] at hnull'
    obtain hpart | hpart := List.mem_append.mp hpart
    · exact Path.hasNull_eq_false.mp hrootnull part hpart
    · obtain rfl | hpart := Path.mem_of_mem_route hpart
      · decide
      · exact Path.hasNull_eq_false.mp hnull' part hpart
  · have hstart : Path.followAll [] parts.dropLast = parts.dropLast :=
      Path.followAll_eq_append [] fun hmem => hup (List.dropLast_subset _ hmem)
    have hgo : Path.followAll [] (parts.dropLast ++ Path.route parts.dropLast p.parts) =
        p.parts := by
      rw [Path.followAll_append, hstart, Path.followAll_route _ hgoal]
    exact (congrArg Path.ofParts hgo).trans hplace.symm

/-- **An entry names the file it was written for.** -/
theorem fileOf_entryFor (hpath : a.path = .ofParts parts) (hup : ".." ∉ parts)
    (hnull : a.path.hasNull = false) (hfile : a.IsCanonical fs file)
    (h : a.entryFor fs file = .ok entry) : a.fileOf fs' (.ofString entry) = .ok [file] := by
  obtain ⟨p, hp, hp', htracked⟩ := hfile
  have hresolve : fs'.resolve (a.root ++ Path.ofString entry) = .ok p :=
    resolve_entryFor hpath hup hnull hp hp' h
  rw [Value.ofString, fileOf, Json.stringOf?_textOf]
  simp only [hresolve, bind, Except.bind, htracked, if_true, hp']
  rfl

/-- **An entry can be read**, whatever it was written for. -/
theorem exists_fileOf (hcwd : ∀ part ∈ fs.cwd, '\x00' ∉ part.toList)
    (hroot : a.root.hasNull = false) (h : a.entryFor fs file = .ok entry) :
    ∃ found, a.fileOf fs' (.ofString entry) = .ok found := by
  obtain ⟨place, hplace, h⟩ := Outcome.bind_eq_ok.mp h
  obtain ⟨hfile, rfl⟩ := FileSystem.resolve_eq_ok.mp hplace
  have hroute : ∀ part ∈ Path.route a.root.parts ((Path.ofString file).resolve fs.cwd).parts,
      '\x00' ∉ part.toList := by
    intro part hpart
    obtain rfl | hpart := Path.mem_of_mem_route hpart
    · decide
    · exact Path.notMem_null_resolve hfile hcwd part hpart
  have hwritten : '\x00' ∉ (Path.toString
      { parts := Path.route a.root.parts ((Path.ofString file).resolve fs.cwd).parts }).toList := by
    rw [Path.toString]
    split
    · decide
    · rw [String.empty_append]
      intro hmem
      obtain hslash | ⟨part, hpart, hc⟩ := Path.eq_slash_or_exists_of_mem_slashed hmem
      · cases hslash
      · exact hroute part hpart hc
  have hentry : '\x00' ∉ entry.toList := by
    cases h
    split
    · exact hwritten
    · rw [String.toList_append, List.mem_append]
      exact fun hmem => hmem.elim (by decide) hwritten
  have hnull : (a.root ++ Path.ofString entry).hasNull = false := by
    have hparts : ∀ part ∈ (Path.ofString entry).parts, '\x00' ∉ part.toList :=
      fun part hpart hc => hentry (Path.mem_toList_of_mem_ofString hpart hc)
    refine Path.hasNull_eq_false.mpr fun part hpart => ?_
    change part ∈ (Path.append _ _).parts at hpart
    rw [Path.append] at hpart
    split at hpart
    · exact hparts part hpart
    · exact (List.mem_append.mp hpart).elim (Path.hasNull_eq_false.mp hroot part) (hparts part)
  have hresolve := (@FileSystem.resolve_eq_ok fs').mpr ⟨hnull, rfl⟩
  rw [Value.ofString, fileOf, Json.stringOf?_textOf]
  simp only [hresolve, bind, Except.bind]
  exact ⟨_, rfl⟩

/-! ## Names of a file -/

/-- A text that starts with a dot and a slash. -/
theorem exists_drop_here {s : String} (h : isHere (Json.textOf s) = true) :
    ∃ rest, s = "./" ++ rest ∧ (Json.textOf s).drop 2 = Json.textOf rest := by
  obtain ⟨rest, hrest⟩ := List.isPrefixOf_iff_prefix.mp h
  obtain ⟨here, behind, hsplit, hdot, -⟩ := List.map_eq_append_iff.mp hrest.symm
  have hhere : String.ofList here = "./" :=
    Json.textOf_injective (by rw [Json.textOf, String.toList_ofList, hdot])
  have hs : s = "./" ++ String.ofList behind := by
    rw [← hhere, ← String.ofList_append, ← hsplit, String.ofList_toList]
  refine ⟨String.ofList behind, hs, ?_⟩
  rw [hs, Json.textOf, String.toList_append]
  rfl

/-- An entry may be written without a dot and a slash at the start. -/
theorem eq_or_of_mem_aliases {t : Json.Text} (ht : t ∈ aliases entry) :
    ∃ s, t = Json.textOf s ∧ (s = entry ∨ entry = "./" ++ s) := by
  unfold aliases at ht
  dsimp only at ht
  split at ht
  · rename_i hhere
    obtain rfl | ht := List.mem_cons.mp ht
    · exact ⟨entry, rfl, .inl rfl⟩
    · obtain ⟨rest, hentry, hrest⟩ := exists_drop_here hhere
      exact ⟨rest, (List.mem_singleton.mp ht).trans hrest, .inr hentry⟩
  · exact ⟨entry, List.mem_singleton.mp ht, .inl rfl⟩

/-- However an entry may be written, it is read as the same names. -/
theorem parts_of_mem_aliases {t : Json.Text} (ht : t ∈ aliases entry) :
    ∃ s, t = Json.textOf s ∧ (Path.ofString s).parts = (Path.ofString entry).parts := by
  obtain ⟨s, rfl, rfl | rfl⟩ := eq_or_of_mem_aliases ht
  · exact ⟨s, rfl, rfl⟩
  · exact ⟨s, rfl, by rw [Path.ofString_here]⟩

/-- **No two files can be written alike.** -/
theorem eq_of_mem_aliases {g entry' : String} {t : Json.Text} (hfile : fs.IsPlace file)
    (hg : fs.IsPlace g) (h : a.entryFor fs file = .ok entry)
    (h' : a.entryFor fs g = .ok entry') (ht : t ∈ aliases entry) (ht' : t ∈ aliases entry') :
    file = g := by
  obtain ⟨p, hp, hfile⟩ := hfile
  obtain ⟨q, hq, hg⟩ := hg
  obtain ⟨s, rfl, hs⟩ := parts_of_mem_aliases ht
  obtain ⟨s', heq, hs'⟩ := parts_of_mem_aliases ht'
  rw [ofString_entryFor hp hfile h] at hs
  rw [← Json.textOf_injective heq, ofString_entryFor hq hg h', hs] at hs'
  obtain ⟨hplace, -, hup, -⟩ := FileSystem.place_of_resolve hp hfile
  obtain ⟨hplace', -, hup', -⟩ := FileSystem.place_of_resolve hq hg
  -- the same way leads to both of them
  have hparts : p.parts = q.parts := by
    rw [← Path.followAll_route a.root.parts hup, ← Path.followAll_route a.root.parts hup']
    exact congrArg (Path.followAll a.root.parts) hs'
  rw [← hfile, ← hg, hplace, hplace', hparts]

/-! ## Recording -/

theorem isText_iff {t : Json.Text} {v : Value} : isText t v = true ↔ v = .string t := by
  cases v <;> simp [isText, eq_comm]

/-- Taking a text off adds nothing. -/
theorem takeOff_sublist (t : Json.Text) (vs : List Value) : (takeOff t vs).Sublist vs := by
  induction vs with
  | nil => exact .slnil
  | cons v vs ih =>
    rw [takeOff]
    split
    · exact List.sublist_cons_self v vs
    · exact ih.cons_cons v

/-- Taking a text off leaves all other values. -/
theorem mem_takeOff {t : Json.Text} {v : Value} {vs : List Value} (h : v ∈ vs)
    (hne : v ≠ .string t) : v ∈ takeOff t vs := by
  induction vs with
  | nil => cases h
  | cons w vs ih =>
    rw [takeOff]
    obtain rfl | h := List.mem_cons.mp h
    · rw [if_neg fun htext => hne (isText_iff.mp htext)]
      exact .head _
    · split
      · exact h
      · exact .tail _ (ih h)

variable {included files : List String} {d d' d'' : Draft}

/-- A file whose place is included. -/
def IsIncluded (fs : FileSystem) (included : List String) (f : String) : Prop :=
  ∃ p, fs.resolve (Path.ofString f) = .ok p ∧ p.toString ∈ included

/-- A file that is included, and of which a name is excluded. -/
def IsNamed (a : AllowList) (fs : FileSystem) (included : List String) (d : Draft) (f : String) :
    Prop :=
  IsIncluded fs included f ∧
    ∃ entry, a.entryFor fs f = .ok entry ∧ ∃ t ∈ aliases entry, .string t ∈ d.excluded

/-- **What recording some files does to the lists**, whatever the files are. -/
structure Grows (a : AllowList) (fs : FileSystem) (included files : List String)
    (d d' : Draft) : Prop where
  /-- No pattern joins the excluded ones. -/
  excluded : d'.excluded.Sublist d.excluded
  /-- Only names of included files are taken off. -/
  released : ∀ v ∈ d.excluded, v ∈ d'.excluded ∨ ∃ f ∈ files, IsIncluded fs included f ∧
    ∃ entry, a.entryFor fs f = .ok entry ∧ ∃ t ∈ aliases entry, v = .string t
  /-- No entry leaves the single files. -/
  kept : ∀ v ∈ d.files, v ∈ d'.files
  /-- Only entries of the files join them. -/
  new : ∀ v ∈ d'.files, v ∈ d.files ∨
    ∃ f ∈ files, ∃ entry, a.entryFor fs f = .ok entry ∧ v = .ofString entry
  /-- All of these are there, but for files that were excluded by name. -/
  entry : ∀ f ∈ files, ∃ entry, a.entryFor fs f = .ok entry ∧
    (.ofString entry ∈ d'.files ∨ IsNamed a fs included d f)

namespace Grows

theorem refl (a : AllowList) (fs : FileSystem) (included : List String) (d : Draft) :
    Grows a fs included [] d d :=
  ⟨.refl _, fun _ => .inl, fun _ => id, fun _ => .inl, by simp⟩

/-- Recording one file after the other. -/
theorem append {more : List String} (h : Grows a fs included files d d')
    (h' : Grows a fs included more d' d'') : Grows a fs included (files ++ more) d d'' where
  excluded := h'.excluded.trans h.excluded
  released := by
    intro v hv
    obtain hv | ⟨f, hf, hname⟩ := h.released v hv
    · exact (h'.released v hv).imp_right fun ⟨f, hf, hname⟩ =>
        ⟨f, List.mem_append_right _ hf, hname⟩
    · exact .inr ⟨f, List.mem_append_left _ hf, hname⟩
  kept := fun v hv => h'.kept v (h.kept v hv)
  new := by
    intro v hv
    obtain hv | ⟨f, hf, hnew⟩ := h'.new v hv
    · exact (h.new v hv).imp_right fun ⟨f, hf, hnew⟩ => ⟨f, List.mem_append_left _ hf, hnew⟩
    · exact .inr ⟨f, List.mem_append_right _ hf, hnew⟩
  entry := by
    intro f hf
    obtain hf | hf := List.mem_append.mp hf
    · obtain ⟨entry, he, hdone⟩ := h.entry f hf
      exact ⟨entry, he, hdone.imp_left (h'.kept _)⟩
    · obtain ⟨entry, he, hdone⟩ := h'.entry f hf
      exact ⟨entry, he, hdone.imp_right fun ⟨hincluded, entry, he, t, ht, hlisted⟩ =>
        ⟨hincluded, entry, he, t, ht, h.excluded.subset hlisted⟩⟩

/-- A name of another file is not taken off. -/
theorem spared (h : Grows a fs included files d d') {t : Json.Text} (ht : .string t ∈ d.excluded)
    (hother : ∀ f ∈ files, ∀ entry, a.entryFor fs f = .ok entry → t ∉ aliases entry) :
    .string t ∈ d'.excluded := by
  refine (h.released _ ht).resolve_right ?_
  rintro ⟨f, hf, -, entry, he, u, hu, heq⟩
  cases heq
  exact hother f hf entry he hu

end Grows

/-- What recording does to the lists when no two of the files are written alike. -/
structure Records (a : AllowList) (fs : FileSystem) (included files : List String)
    (d d' : Draft) : Prop extends Grows a fs included files d d' where
  /-- Only entries of files that were not excluded by name join the single files. -/
  fresh : ∀ v ∈ d'.files, v ∈ d.files ∨ ∃ f ∈ files, ¬ IsNamed a fs included d f ∧
    ∃ entry, a.entryFor fs f = .ok entry ∧ v = .ofString entry

theorem Records.refl (a : AllowList) (fs : FileSystem) (included : List String) (d : Draft) :
    Records a fs included [] d d :=
  ⟨.refl a fs included d, fun _ => .inl⟩

/-- Recording one file after the other, if no name of the one is a name of the
other. -/
theorem Records.append {more : List String} (h : Records a fs included files d d')
    (h' : Records a fs included more d' d'')
    (hapart : ∀ f ∈ files, ∀ g ∈ more, ∀ entry entry', a.entryFor fs f = .ok entry →
      a.entryFor fs g = .ok entry' → ∀ t ∈ aliases entry, t ∉ aliases entry') :
    Records a fs included (files ++ more) d d'' where
  toGrows := h.toGrows.append h'.toGrows
  fresh := by
    intro v hv
    obtain hv | ⟨g, hg, hnamed, hnew⟩ := h'.fresh v hv
    · exact (h.fresh v hv).imp_right fun ⟨f, hf, hnew⟩ => ⟨f, List.mem_append_left _ hf, hnew⟩
    · refine .inr ⟨g, List.mem_append_right _ hg, fun hnamed' => ?_, hnew⟩
      obtain ⟨hincluded, entry, he, t, ht, hlisted⟩ := hnamed'
      -- its name was not taken off with those of the files before it
      exact hnamed ⟨hincluded, entry, he, t, ht, h.spared hlisted fun f hf entry' he' ht' =>
        hapart f hf g hg entry' entry he' he t ht' ht⟩

/-- Joining an entry adds it to the single files, and nothing else. -/
theorem Draft.mem_join {v : Value} :
    v ∈ (d.join entry).files ↔ v ∈ d.files ∨ v = .ofString entry := by
  unfold Draft.join
  split
  · rename_i hany
    obtain ⟨w, hw, htext⟩ := List.any_eq_true.mp hany
    rw [isText_iff.mp htext] at hw
    exact ⟨.inl, fun h => h.elim id fun h => h ▸ hw⟩
  · simp

theorem Draft.excluded_join (d : Draft) (entry : String) :
    (d.join entry).excluded = d.excluded := by
  unfold Draft.join
  split <;> rfl

/-- **What recording one file can come to**: a name of it is taken off, or its
entry joins the single files. -/
theorem addOne_cases (h : a.addOne fs included d file = .ok d') :
    ∃ entry, a.entryFor fs file = .ok entry ∧
      ((∃ t ∈ aliases entry, .string t ∈ d.excluded ∧ IsIncluded fs included file ∧
          d' = { d with excluded := takeOff t d.excluded, written := entry :: d.written }) ∨
        ¬ IsNamed a fs included d file ∧ d' = d.join entry) := by
  obtain ⟨entry, hentry, h⟩ := Outcome.bind_eq_ok.mp h
  obtain ⟨p, hp, h⟩ := Outcome.bind_eq_ok.mp h
  cases h
  refine ⟨entry, hentry, ?_⟩
  have hlisted : ∀ t, d.excluded.any (isText t) = true ↔ .string t ∈ d.excluded := by
    simp [isText_iff]
  have hplace : IsIncluded fs included file ↔ included.contains p.toString = true := by
    rw [IsIncluded, hp, List.contains_iff_mem]
    simp
  unfold Draft.record
  split
  · rename_i t ht
    have hmem := List.mem_of_find?_eq_some ht
    have hexcluded := List.find?_some (p := fun t => d.excluded.any (isText t)) ht
    split
    · rename_i hincluded
      exact .inl ⟨t, hmem, (hlisted t).mp hexcluded, hplace.mpr hincluded, rfl⟩
    · rename_i hincluded
      exact .inr ⟨fun hnamed => hincluded (hplace.mp hnamed.1), rfl⟩
  · rename_i hnone
    refine .inr ⟨fun ⟨_, entry', he', t, ht, hmem⟩ => ?_, rfl⟩
    cases hentry.symm.trans he'
    exact List.find?_eq_none.mp hnone t ht ((hlisted t).mpr hmem)

/-- Recording one file. -/
theorem records_addOne (h : a.addOne fs included d file = .ok d') :
    Records a fs included [file] d d' := by
  obtain ⟨entry, he, ⟨t, ht, hlisted, hincluded, rfl⟩ | ⟨hnot, rfl⟩⟩ := addOne_cases h
  · refine ⟨⟨takeOff_sublist t d.excluded, fun v hv => ?_, fun _ => id, fun _ => .inl, ?_⟩,
      fun _ => .inl⟩
    · by_cases hname : v = .string t
      · exact .inr ⟨file, .head _, hincluded, entry, he, t, ht, hname⟩
      · exact .inl (mem_takeOff hv hname)
    · exact List.forall_mem_singleton.mpr
        ⟨entry, he, .inr ⟨hincluded, entry, he, t, ht, hlisted⟩⟩
  · refine ⟨⟨?_, fun v hv => .inl ?_, fun v hv => Draft.mem_join.mpr (.inl hv), fun v hv => ?_, ?_⟩,
      fun v hv => ?_⟩
    · rw [Draft.excluded_join]
    · rwa [Draft.excluded_join]
    · exact (Draft.mem_join.mp hv).imp_right fun hv => ⟨file, .head _, entry, he, hv⟩
    · exact List.forall_mem_singleton.mpr ⟨entry, he, .inl (Draft.mem_join.mpr (.inr rfl))⟩
    · exact (Draft.mem_join.mp hv).imp_right fun hv => ⟨file, .head _, hnot, entry, he, hv⟩

/-- **Recording some files**, one after another. -/
theorem grows_all (h : files.foldlM (a.addOne fs included) d = .ok d') :
    Grows a fs included files d d' := by
  induction files generalizing d with
  | nil =>
    cases h
    exact .refl a fs included _
  | cons f files ih =>
    rw [List.foldlM_cons] at h
    obtain ⟨d₁, hd₁, h⟩ := Outcome.bind_eq_ok.mp h
    exact (records_addOne hd₁).toGrows.append (ih h)

/-- Recording some files by their places, each once. -/
theorem records_all (hfiles : ∀ f ∈ files, fs.IsPlace f) (hnodup : files.Nodup)
    (h : files.foldlM (a.addOne fs included) d = .ok d') : Records a fs included files d d' := by
  induction files generalizing d with
  | nil =>
    cases h
    exact .refl a fs included _
  | cons f files ih =>
    rw [List.foldlM_cons] at h
    obtain ⟨d₁, hd₁, h⟩ := Outcome.bind_eq_ok.mp h
    obtain ⟨hf, hnodup⟩ := List.nodup_cons.mp hnodup
    have hrest := ih (fun g hg => hfiles g (.tail _ hg)) hnodup h
    refine (records_addOne hd₁).append hrest fun f' hf' g hg entry entry' he he' t ht ht' => hf ?_
    cases List.mem_singleton.mp hf'
    rwa [eq_of_mem_aliases (hfiles f (.head _)) (hfiles g (.tail _ hg)) he he' ht ht']

/-! ## Distinct and sorted lists -/

theorem distinct_eq_ok {vs ws : List Value} :
    distinct vs = .ok ws ↔ Json.distinct vs = some ws := by
  cases h : Json.distinct vs <;> simp [distinct, h]

theorem sorted_eq_ok {vs ws : List Value} :
    a.sorted vs = .ok ws ↔ Json.sorted? a.arrangement vs = some ws := by
  cases h : Json.sorted? a.arrangement vs <;> simp [sorted, h]

/-- Of texts, each stands in the list of distinct ones. -/
theorem mem_distinct {vs ws : List Value} (h : distinct vs = .ok ws) (hvs : ∀ v ∈ vs, IsString v)
    (v : Value) : v ∈ ws ↔ v ∈ vs := by
  obtain ⟨-, -, hmem, hsame⟩ := Json.distinct_spec (distinct_eq_ok.mp h)
  refine ⟨hmem v, fun hv => (hsame v hv).elim id ?_⟩
  rintro ⟨w, hw, hvw⟩
  obtain ⟨t, rfl⟩ := hvs v hv
  exact Json.same_string.mp hvw ▸ hw

theorem mem_sorted {vs ws : List Value} (h : a.sorted vs = .ok ws) (v : Value) : v ∈ ws ↔ v ∈ vs :=
  (Json.perm_of_sorted? (sorted_eq_ok.mp h)).mem_iff

end AllowList

end Ratchet
