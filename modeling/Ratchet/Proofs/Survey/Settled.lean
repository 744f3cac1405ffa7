import Ratchet.Proofs.Survey.Rescan
import Ratchet.Proofs.Survey.Tracked

/-!
# Settled surveyors

A surveyor that knows all tracked files finds the same imports in every tree in
which these files are tracked, and its surveys leave it as it is. A survey
settles a new surveyor on the imports of the tree. In a tree that differs only in
what some other file holds, a new surveyor finds the same imports again.

* `Project.imports`: what a new surveyor finds.
* `Settled`: surveyors that find the same imports from now on.
* `imports_alike`: trees in which a new surveyor finds the same imports.
-/

namespace Ratchet

open Ratchet.Graph (ImportMap)

variable {fs fs' : FileSystem} {p : Project} {s s' : Surveyor} {v : Survey}
  {m : ImportMap} {files place : List String} {f : String}

/-- **The imports between the tracked files** of a project, as a new surveyor
finds them. -/
def Project.imports (p : Project) (fs : FileSystem) : Except Failure ImportMap := do
  let surveyor ← Surveyor.new fs p
  let (survey, _) ← surveyor.survey fs
  return survey.graph.imports

/-- What a new surveyor finds in its first survey. -/
theorem Project.imports_eq_ok : p.imports fs = .ok m ↔
    ∃ s v s', Surveyor.new fs p = .ok s ∧ s.survey fs = .ok (v, s') ∧ v.graph.imports = m := by
  simp only [Project.imports, Outcome.bind_eq_ok, pure, Except.pure, Except.ok.injEq]
  constructor
  · rintro ⟨s, hs, ⟨v, s'⟩, hv, himports⟩
    exact ⟨s, v, s', hs, hv, himports⟩
  · rintro ⟨s, v, s', hs, hv, himports⟩
    exact ⟨s, hs, (v, s'), hv, himports⟩

/-- A new surveyor finds the imports wherever the tracked files can be listed. -/
theorem Project.imports_of_tracked (hnew : Surveyor.new fs p = .ok s)
    (htracked : p.tracked fs = .ok files) :
    p.imports fs = .ok ((s.builder.build (s.importsOf fs) files).2.graph files).imports := by
  obtain ⟨v, hv, -, hgraph, -⟩ :=
    Surveyor.survey_eq ((Surveyor.project_of_new hnew).symm ▸ htracked : s.project.tracked fs = _)
  exact imports_eq_ok.mpr ⟨s, v, _, hnew, hv, by rw [hgraph]⟩

/-- The files of the imports are those surveyed. -/
theorem Graph.Builder.mem_files_graph {b : Graph.Builder} :
    f ∈ (b.graph files).imports.files ↔ f ∈ files := by
  rw [ImportMap.files, mem_ascending, graph, ImportMap.ofFunction, List.map_map, List.mem_map]
  simp

/-- The files of the imports are the tracked ones. -/
theorem Project.mem_files_of_imports (himports : p.imports fs = .ok m)
    (htracked : p.tracked fs = .ok files) : f ∈ m.files ↔ f ∈ files := by
  obtain ⟨s, v, s', hnew, hv, rfl⟩ := imports_eq_ok.mp himports
  have hfiles : p.tracked fs = .ok v.files :=
    Surveyor.project_of_new hnew ▸ Surveyor.tracked_of_survey hv
  cases htracked.symm.trans hfiles
  rw [(Surveyor.graph_of_survey hv).1, Graph.Builder.mem_files_graph]

namespace Surveyor

/-! ## Surveying the same files again -/

/-- **A surveyor that has settled** on the imports between some files: it knows
all of them. -/
structure Settled (s : Surveyor) (files : List String) (m : ImportMap) : Prop where
  knows : ∀ f ∈ files, s.builder.knows f = true
  imports : (s.builder.graph files).imports = m

/-- A survey settles the surveyor on what it has found. -/
theorem settled_of_survey (h : s.survey fs = .ok (v, s')) :
    s'.Settled v.files v.graph.imports := by
  obtain ⟨-, -, hlookup⟩ := survey_ok h
  refine ⟨fun f hf => ?_, by rw [(graph_of_survey h).1]⟩
  have hlists : s.project.lists f fs = true :=
    Project.lists_iff.mpr ⟨v.files, tracked_of_survey h, hf⟩
  rw [Graph.Builder.knows_iff, hlookup f, hlists, if_pos rfl]
  cases s.builder.known.lookup f <;> rfl

/-- **A settled surveyor finds the same imports** where the same files are
tracked, and stays as it is. -/
theorem Settled.survey (h : s.Settled files m) (htracked : s.project.tracked fs = .ok files) :
    ∃ v, s.survey fs = .ok (v, s) ∧ v.components = m.condense := by
  have hpending : s.builder.pending files = [] := by
    rw [Graph.Builder.pending, List.filter_eq_nil_iff]
    intro f hf
    rw [h.knows f (mem_ascending.mp hf)]
    simp
  have hbuild : (s.builder.build (s.importsOf fs) files).2 = s.builder := by
    rw [Graph.Builder.build, hpending]
    rfl
  obtain ⟨v, hv, -, hgraph, hcomponents⟩ := survey_eq htracked
  rw [hbuild] at hv hgraph
  exact ⟨v, hv, by rw [hcomponents, hgraph, h.imports]⟩

end Surveyor

/-! ## Trees of one shape -/

/-- Where the tracked files are the same, and what they hold, and every question
about a path has the same answer, a tree is not disturbed. -/
theorem Extractor.undisturbed_of_alike (es : List Extractor) (h : fs.Alike fs')
    (hcontent : ∀ f, p.lists f fs = true →
      fs.read (Path.ofString f) = fs'.read (Path.ofString f)) :
    Extractor.Undisturbed es p fs [fs] fs' where
  cwd g hg := by
    obtain rfl : g = fs := by simpa using hg
    exact h.cwd
  content f g _ hg := by
    obtain rfl : g = fs := List.mem_singleton.mp (List.mem_of_find?_eq_some hg)
    exact hcontent f (List.find?_some hg)
  src root _ := h.isDirectory _
  lookups f g _ hg path _ := by
    obtain rfl : g = fs := List.mem_singleton.mp (List.mem_of_find?_eq_some hg)
    exact ⟨h.isFile path, h.isDirectory path⟩

/-- Directories of one shape hold the same names. -/
theorem Node.Alike.exists_mem_entries {n n' c' : Node} {name : String} (h : n.Alike n')
    (hmem : (name, c') ∈ n'.entries) : ∃ c, (name, c) ∈ n.entries := by
  have hsome : (n'.entries.lookup name).isSome = true :=
    List.lookup_isSome_iff.mpr ⟨_, hmem, by simp⟩
  have hlookup := h.lookup name
  generalize hc : n.entries.lookup name = found at hlookup
  generalize n'.entries.lookup name = found' at hlookup hsome
  cases hlookup with
  | none => cases hsome
  | some =>
    obtain ⟨⟨name', c⟩, hmem, hname⟩ :=
      List.lookup_isSome_iff.mp (Option.isSome_of_eq_some hc)
    obtain rfl : name = name' := by simpa using hname
    exact ⟨c, hmem⟩

/-- The names of a project can be listed in trees of one shape, or in none. -/
theorem Python.exists_firstPartyNames (h : fs.Alike fs') {roots : List Path} {names : List String}
    (hnames : firstPartyNames fs roots = .ok names) :
    ∃ names', firstPartyNames fs' roots = .ok names' := by
  have hname : firstPartyName? fs = firstPartyName? fs' := by
    funext root name
    rw [firstPartyName?, firstPartyName?, h.isDirectory, h.isFile]
  obtain ⟨found, hfound, -⟩ := Outcome.bind_eq_ok.mp hnames
  have hall : ∀ root ∈ roots, ∃ found, (do
      if ← fs'.isDirectory root then
        let found ← (← fs'.entriesAt root).mapM fun entry => firstPartyName? fs' root entry.1
        return found.filterMap id
      else return [] : Except Failure (List String)) = .ok found := by
    intro root hroot
    obtain ⟨old, hold⟩ := Outcome.exists_mapM.mp ⟨found, hfound⟩ root hroot
    obtain ⟨b, hb, hold⟩ := Outcome.bind_eq_ok.mp hold
    rw [h.isDirectory] at hb
    rw [hb]
    cases b with
    | false => exact ⟨_, rfl⟩
    | true =>
      obtain ⟨es, hes, hold⟩ := Outcome.bind_eq_ok.mp hold
      obtain ⟨given, hgiven, -⟩ := Outcome.bind_eq_ok.mp hold
      -- the entries have the same names, and a name is asked about in the same way
      obtain ⟨es', hes', hmem⟩ : ∃ es', fs'.entriesAt root = .ok es' ∧
          ∀ name c', (name, c') ∈ es' → ∃ c, (name, c) ∈ es := by
        have hfind := h.find root
        unfold FileSystem.entriesAt at hes ⊢
        generalize fs.find root = result at hes hfind
        generalize fs'.find root = result' at hfind ⊢
        cases hfind with
        | ok halike =>
          cases hes
          exact ⟨_, rfl, fun _ _ hmem => halike.exists_mem_entries hmem⟩
        | error fault =>
          refine ⟨es, hes, fun name c' hmem => ⟨c', hmem⟩⟩
      have heach : ∀ entry ∈ es', ∃ name?, firstPartyName? fs' root entry.1 = .ok name? := by
        rintro ⟨name, c'⟩ hentry
        obtain ⟨c, hc⟩ := hmem name c' hentry
        exact hname ▸ Outcome.exists_mapM.mp ⟨given, hgiven⟩ (name, c) hc
      obtain ⟨given', hgiven'⟩ := Outcome.exists_mapM.mpr heach
      exact ⟨_, Outcome.bind_eq_ok.mpr ⟨true, rfl, Outcome.bind_eq_ok.mpr ⟨es', hes',
        Outcome.bind_eq_ok.mpr ⟨given', hgiven', rfl⟩⟩⟩⟩
  obtain ⟨found', hfound'⟩ := Outcome.exists_mapM.mpr hall
  exact ⟨_, Outcome.bind_eq_ok.mpr ⟨found', hfound', rfl⟩⟩

/-- A project that can be loaded can be loaded among files that are alike. -/
theorem Python.Project.exists_load_alike (h : fs.Alike fs') {sourceDir : Path}
    {project : Python.Project} (hload : load fs sourceDir none = .ok project) :
    ∃ project', load fs' sourceDir none = .ok project' := by
  obtain ⟨root, hroot, hload⟩ := Outcome.bind_eq_ok.mp hload
  obtain ⟨src, hsrc, hload⟩ := Outcome.bind_eq_ok.mp hload
  have hresolve : fs.resolve = fs'.resolve := funext (FileSystem.resolve_congr h.cwd)
  rw [hresolve] at hroot
  rw [h.isDirectory] at hsrc
  -- only the names of the project are read off the tree
  have hrest : ∀ roots : List Path, (do
      let roots ← roots.mapM fs.resolve
      let names ← firstPartyNames fs roots
      return ⟨root, roots, names⟩ : Except Failure Python.Project) = .ok project →
      ∃ project', (do
        let roots ← roots.mapM fs'.resolve
        let names ← firstPartyNames fs' roots
        return ⟨root, roots, names⟩ : Except Failure Python.Project) = .ok project' := by
    intro roots hload
    obtain ⟨places, hplaces, hload⟩ := Outcome.bind_eq_ok.mp hload
    obtain ⟨names, hnames, -⟩ := Outcome.bind_eq_ok.mp hload
    obtain ⟨names', hnames'⟩ := exists_firstPartyNames h hnames
    rw [hresolve] at hplaces
    exact ⟨_, Outcome.bind_eq_ok.mpr ⟨places, hplaces,
      Outcome.bind_eq_ok.mpr ⟨names', hnames', rfl⟩⟩⟩
  cases src with
  | true =>
    obtain ⟨project', hload'⟩ := hrest _ hload
    exact ⟨project', Outcome.bind_eq_ok.mpr ⟨root, hroot,
      Outcome.bind_eq_ok.mpr ⟨true, hsrc, hload'⟩⟩⟩
  | false =>
    obtain ⟨project', hload'⟩ := hrest _ hload
    exact ⟨project', Outcome.bind_eq_ok.mpr ⟨root, hroot,
      Outcome.bind_eq_ok.mpr ⟨false, hsrc, hload'⟩⟩⟩

/-- A project can be surveyed in trees of one shape, or in none. -/
theorem Surveyor.exists_new_alike (h : fs.Alike fs') (hnew : Surveyor.new fs p = .ok s) :
    ∃ s', Surveyor.new fs' p = .ok s' := by
  have hload : ∀ l e, Extractor.load fs p.sourceDir l = .ok e →
      ∃ e', Extractor.load fs' p.sourceDir l = .ok e' := by
    intro l e he
    cases l with
    | python =>
      obtain ⟨project, hproject, -⟩ := Outcome.map_eq_ok.mp he
      obtain ⟨project', hproject'⟩ := Python.Project.exists_load_alike h hproject
      exact ⟨_, Outcome.map_eq_ok.mpr ⟨project', hproject', rfl⟩⟩
    | typescript =>
      obtain ⟨root, hroot, -⟩ := Outcome.map_eq_ok.mp he
      rw [FileSystem.resolve_congr h.cwd] at hroot
      exact ⟨_, Outcome.map_eq_ok.mpr ⟨root, hroot, rfl⟩⟩
  have hes := Surveyor.extractors_of_new hnew
  obtain ⟨es', hes'⟩ := Outcome.exists_mapM.mpr fun l hl =>
    (Outcome.exists_mapM.mp ⟨_, hes⟩ l hl).elim (hload l)
  exact ⟨_, Outcome.bind_eq_ok.mpr ⟨es', hes', rfl⟩⟩

/-- **A new surveyor finds the same imports** in a tree of the same shape, in which
the same files are tracked and hold the same. -/
theorem Project.imports_alike (h : fs.Alike fs') (htracked : p.tracked fs' = p.tracked fs)
    (hcontent : ∀ f, p.lists f fs = true →
      fs.read (Path.ofString f) = fs'.read (Path.ofString f))
    (himports : p.imports fs = .ok m) : p.imports fs' = .ok m := by
  obtain ⟨s₀, v, s, hnew, hv, rfl⟩ := imports_eq_ok.mp himports
  obtain ⟨fresh, hfresh⟩ := Surveyor.exists_new_alike h hnew
  have hfiles : p.tracked fs = .ok v.files :=
    Surveyor.project_of_new hnew ▸ Surveyor.tracked_of_survey hv
  obtain ⟨v', hv', hfiles', -⟩ := Surveyor.survey_eq
    ((Surveyor.project_of_new hfresh).symm ▸ htracked.trans hfiles : fresh.project.tracked fs' = _)
  refine imports_eq_ok.mpr ⟨fresh, v', _, hfresh, hv', ?_⟩
  have hall : s₀.surveyAll ([] ++ [fs]) = .ok s := Surveyor.surveyAll_concat rfl hv
  have hall' : fresh.surveyAll ([] ++ [fs']) = .ok _ := Surveyor.surveyAll_concat rfl hv'
  have hlists : ∀ f ∈ v.files, p.lists f fs = true ∧ p.lists f fs' = true := by
    intro f hf
    have hlists : p.lists f fs = true := lists_iff.mpr ⟨v.files, hfiles, hf⟩
    refine ⟨hlists, ?_⟩
    rwa [lists, htracked, ← lists]
  have hgraph : v'.graph = v.graph := by
    rw [(Surveyor.graph_of_survey hv).1, (Surveyor.graph_of_survey hv').1, hfiles',
      Graph.Builder.graph_eq_iff (Surveyor.sorted_of_new hfresh hall')
        (Surveyor.sorted_of_new hnew hall)]
    intro f hf t _
    obtain ⟨hlists, hlists'⟩ := hlists f hf
    have hfirst : p.firstListing [fs] f = some fs := by simp [firstListing, hlists]
    have hsame : s₀.importsOf fs f = fresh.importsOf fs' f := by
      have hundisturbed := Extractor.undisturbed_of_alike s₀.extractors h hcontent
      simpa [hfirst] using
        Surveyor.importsOf_eq_of_undisturbed hnew hfresh hundisturbed hlists'
    rw [Surveyor.mem_importsOf_of_new hfresh hall' (firstListing_now hlists'),
      Surveyor.mem_importsOf_of_new hnew hall (firstListing_now hlists)]
    exact (iff_of_eq (congrArg (t ∈ ·) hsame)).symm
  rw [hgraph]

/-! ## The added file -/

/-- A tracked file is read as before when another one is added. -/
theorem read_extends (hfs : fs.Proper) (hfs' : fs'.Proper) (hnamed : fs.Named)
    (halike : fs.Alike fs') (hextends : fs.ExtendsAt place fs')
    (huntracked : isTracked p.languages (.ofParts place) = false)
    (htracked : p.tracked fs = .ok files) (hf : f ∈ files) :
    fs.read (Path.ofString f) = fs'.read (Path.ofString f) := by
  obtain ⟨start, names, -, ⟨⟨content, executable, hc⟩, -, hlooks⟩, rfl⟩ :=
    exists_tracks hfs htracked hf
  have hlegal : ∀ part ∈ start ++ names, Path.IsLegal part := hnamed _ _ hc
  have hup : ".." ∉ start ++ names := fun hmem => (hlegal ".." hmem).ne_up rfl
  have hne : start ++ names ≠ place := by
    rintro rfl
    exact nomatch hlooks.symm.trans huntracked
  have hc' := (hextends.files hne content executable).mpr hc
  rw [Path.ofString_ofParts fun part hpart => (hlegal part hpart).toIsName]
  unfold FileSystem.read
  split
  · rfl
  · obtain ⟨fault, hfind, hfind'⟩ | ⟨n, n', hfind, hfind', -⟩ :=
      halike.find_cases hfs hfs' (.ofParts (start ++ names))
    · rw [hfind, hfind']
    · -- what is found is the file that the names lead to
      have hn := (Node.get?_of_follow hup (FileSystem.find_eq_ok.mp hfind).2).1
      have hn' := (Node.get?_of_follow hup (FileSystem.find_eq_ok.mp hfind').2).1
      cases hn.symm.trans hc
      cases hn'.symm.trans hc'
      rw [hfind, hfind']

end Ratchet
