import Ratchet.Proofs.Survey.Lookups
import Ratchet.Proofs.Survey.Memory

/-!
# Surveying again

A surveyor that has made surveys before lists the same files as a new one, but
of each it remembers the imports of the first tree that listed it. Its graph
is that of a new surveyor exactly when these are the imports of today. They
are while no file or directory appears or goes at a lookup of a listed file;
a module that appears later at one is missed.
-/

namespace Ratchet

variable {project : Project} {first now fs : FileSystem} {earlier trees : List FileSystem}
  {s₀ s s' fresh fresh' : Surveyor} {seen v : Survey} {f t : String}

/-! ## What a surveyor has seen of a file -/

namespace Surveyor

theorem project_of_new (h : Surveyor.new first project = .ok s₀) : s₀.project = project := by
  obtain ⟨es, -, h⟩ := Outcome.bind_eq_ok.mp h
  cases h
  rfl

theorem known_of_new (h : Surveyor.new first project = .ok s₀) : s₀.builder.known = [] := by
  obtain ⟨es, -, h⟩ := Outcome.bind_eq_ok.mp h
  cases h
  rfl

theorem extractors_of_new (h : Surveyor.new first project = .ok s₀) :
    Extractor.loadAll first project.sourceDir project.languages = .ok s₀.extractors := by
  obtain ⟨es, hes, h⟩ := Outcome.bind_eq_ok.mp h
  cases h
  exact hes

/-- A survey after others is one more of them. -/
theorem surveyAll_concat (h : s₀.surveyAll trees = .ok s) (hv : s.survey fs = .ok (v, s')) :
    s₀.surveyAll (trees ++ [fs]) = .ok s' := by
  induction trees generalizing s₀ with
  | nil =>
    cases h
    simp [surveyAll, hv]
  | cons tree trees ih =>
    rw [List.cons_append, surveyAll]
    rw [surveyAll] at h
    split
    · rename_i hs
      rw [hs] at h
      cases h
    · rename_i hs
      rw [hs] at h
      exact ih h

/-- Some trees can be surveyed in turn whenever their tracked files can be
listed. -/
theorem surveyAll_eq (h : ∀ fs ∈ trees, ∃ files, s.project.tracked fs = .ok files) :
    ∃ s', s.surveyAll trees = .ok s' := by
  induction trees generalizing s with
  | nil => exact ⟨s, rfl⟩
  | cons fs trees ih =>
    obtain ⟨files, hfiles⟩ := h fs (.head _)
    obtain ⟨v, hv, -⟩ := survey_eq hfiles
    rw [surveyAll, hv]
    exact ih fun fs hfs => h fs (.tail _ hfs)

/-- The imports that a new surveyor remembers after some surveys. -/
theorem mem_importsOf_of_new (hnew : Surveyor.new first project = .ok s₀)
    (h : s₀.surveyAll trees = .ok s) (hf : project.firstListing trees f = some fs) :
    t ∈ s.builder.importsOf f ↔ t ∈ s₀.importsOf fs f := by
  obtain ⟨-, -, hlookup⟩ := surveyAll_ok h
  rw [Graph.Builder.importsOf, hlookup, known_of_new hnew, project_of_new hnew, hf]
  simp

/-- What a surveyor knows is sorted. -/
theorem sorted_of_new (hnew : Surveyor.new first project = .ok s₀)
    (h : s₀.surveyAll trees = .ok s) : s.builder.Sorted := by
  obtain ⟨-, -, hlookup⟩ := surveyAll_ok h
  intro f
  rw [Graph.Builder.importsOf, hlookup, known_of_new hnew]
  cases s₀.project.firstListing trees f with
  | none => simp
  | some fs => simpa using pairwise_ascending (s₀.importsOf fs f)

/-- The graph and the components of a survey are those of what is remembered. -/
theorem graph_of_survey (h : s.survey fs = .ok (v, s')) :
    v.graph = s'.builder.graph v.files ∧ v.components = v.graph.imports.condense := by
  obtain ⟨v', hv, hfiles, hgraph, hcomponents⟩ := survey_eq (tracked_of_survey h)
  rw [h] at hv
  cases hv
  exact ⟨hgraph, hcomponents⟩

end Surveyor

/-! ## Again and anew -/

/-- A file that is listed now was first listed now or earlier. -/
theorem Project.firstListing_now (h : project.lists f now = true) :
    project.firstListing (earlier ++ [now]) f =
      some ((project.firstListing earlier f).getD now) := by
  rw [firstListing, firstListing, List.find?_append]
  cases earlier.find? (project.lists f) <;> simp [h]

/-- A tree in which a file is tracked has a place for the project's directory. -/
theorem Project.resolve_of_lists (h : project.lists f fs = true) :
    ∃ root, fs.resolve project.sourceDir = .ok root := by
  cases hroot : fs.resolve project.sourceDir with
  | ok root => exact ⟨root, rfl⟩
  | error cause =>
    by_cases hlanguages : project.languages = []
    · simp [lists, tracked, discover, hlanguages, pure, Except.pure] at h
    · simp [lists, tracked, discover, hlanguages, hroot, bind, Except.bind] at h

/-- What the edits from some trees to the tree of now leave alone: the content
of every file tracked before and now, and whether there is a file or a
directory where its imports were looked up. `first` is the tree in which the
extractors were loaded. -/
structure Extractor.Undisturbed (es : List Extractor) (project : Project) (first : FileSystem)
    (earlier : List FileSystem) (now : FileSystem) : Prop where
  /-- The working directory is the same. -/
  cwd : ∀ fs ∈ first :: earlier, fs.cwd = now.cwd
  /-- No tracked file changes. -/
  content : ∀ f fs, project.lists f now = true → project.firstListing earlier f = some fs →
    fs.read (Path.ofString f) = now.read (Path.ofString f)
  /-- The directory `src` of the project neither appears nor goes. -/
  src : ∀ root, now.resolve project.sourceDir = .ok root →
    first.isDirectory (root.child "src") = now.isDirectory (root.child "src")
  /-- Nothing appears or goes at a lookup. -/
  lookups : ∀ f fs, project.lists f now = true → project.firstListing earlier f = some fs →
    ∀ path ∈ Extractor.lookups es fs f, fs.AgreeAt now path

namespace Surveyor

/-- Of an undisturbed file, what was imported first is what is imported now. -/
theorem importsOf_eq_of_undisturbed (hnew : Surveyor.new first project = .ok s₀)
    (hfresh : Surveyor.new now project = .ok fresh)
    (h : Extractor.Undisturbed s₀.extractors project first earlier now)
    (hf : project.lists f now = true) :
    s₀.importsOf ((project.firstListing earlier f).getD now) f = fresh.importsOf now f := by
  have halike : List.Forall₂ Extractor.Alike s₀.extractors fresh.extractors := by
    obtain ⟨root, hroot⟩ := Project.resolve_of_lists hf
    have hcwd := h.cwd first (.head _)
    exact Extractor.loadAll_alike hcwd ((FileSystem.resolve_congr hcwd _).trans hroot)
      (h.src root hroot) (extractors_of_new hnew) (extractors_of_new hfresh)
  have hagree : (Extractor.extract s₀.extractors
      ((project.firstListing earlier f).getD now) f).Agrees
        (Extractor.extract fresh.extractors now f) := by
    cases hlisting : project.firstListing earlier f with
    | none =>
      exact Extractor.extract_agrees rfl halike rfl fun path _ => ⟨rfl, rfl⟩
    | some fs =>
      have hfs : fs ∈ earlier := List.mem_of_find?_eq_some hlisting
      have htext : fs.readTextLossy (Path.ofString f) = now.readTextLossy (Path.ofString f) := by
        rw [FileSystem.readTextLossy, FileSystem.readTextLossy, h.content f fs hf hlisting]
      exact Extractor.extract_agrees (h.cwd fs (.tail _ hfs)) halike htext
        (h.lookups f fs hf hlisting)
  rw [importsOf, importsOf, hagree.result]

end Surveyor

/-- **When a survey made again is a survey made anew.** A surveyor that has
surveyed earlier trees succeeds wherever a new one does and lists the same
files. Its graph is that of the new one exactly when of every listed file the
imports of other files first found are those found now; then its components
are, too. Undisturbed files are such. -/
theorem resurvey_eq_new_iff (hnew : Surveyor.new first project = .ok s₀)
    (hsurveys : s₀.surveyAll earlier = .ok s) (hfresh : Surveyor.new now project = .ok fresh)
    (hseen : fresh.survey now = .ok (seen, fresh')) :
    ∃ again s', s.survey now = .ok (again, s') ∧ again.files = seen.files ∧
      (again.graph = seen.graph ↔
        ∀ f ∈ seen.files, ∀ t, t ≠ f →
          (t ∈ s₀.importsOf ((project.firstListing earlier f).getD now) f ↔
            t ∈ fresh.importsOf now f)) ∧
      (again.graph = seen.graph → again.components = seen.components) ∧
      (Extractor.Undisturbed s₀.extractors project first earlier now →
        again.graph = seen.graph) := by
  have htracked : project.tracked now = .ok seen.files :=
    Surveyor.project_of_new hfresh ▸ Surveyor.tracked_of_survey hseen
  have hlists : ∀ f ∈ seen.files, project.lists f now = true := fun f hf => by
    simpa [Project.lists, htracked] using hf
  have hproject : s.project = project :=
    (Surveyor.surveyAll_ok hsurveys).1.trans (Surveyor.project_of_new hnew)
  obtain ⟨again, hagain, hfiles, -⟩ := Surveyor.survey_eq (hproject ▸ htracked)
  obtain ⟨hgraph, hcomponents⟩ := Surveyor.graph_of_survey hagain
  obtain ⟨hgraph', hcomponents'⟩ := Surveyor.graph_of_survey hseen
  -- for either surveyor the tree of now is the last of those surveyed
  have hall := Surveyor.surveyAll_concat hsurveys hagain
  have hall' : fresh.surveyAll ([] ++ [now]) = .ok fresh' := Surveyor.surveyAll_concat rfl hseen
  have hiff : again.graph = seen.graph ↔
      ∀ f ∈ seen.files, ∀ t, t ≠ f →
        (t ∈ s₀.importsOf ((project.firstListing earlier f).getD now) f ↔
          t ∈ fresh.importsOf now f) := by
    rw [hgraph, hgraph', hfiles, Graph.Builder.graph_eq_iff (Surveyor.sorted_of_new hnew hall)
      (Surveyor.sorted_of_new hfresh hall')]
    refine forall₂_congr fun f hf => forall₂_congr fun t _ => ?_
    rw [Surveyor.mem_importsOf_of_new hnew hall (Project.firstListing_now (hlists f hf)),
      Surveyor.mem_importsOf_of_new hfresh hall' (Project.firstListing_now (hlists f hf))]
    rfl
  refine ⟨again, _, hagain, hfiles, hiff, fun h => by rw [hcomponents, hcomponents', h],
    fun h => hiff.mpr fun f hf t _ => ?_⟩
  rw [Surveyor.importsOf_eq_of_undisturbed hnew hfresh h (hlists f hf)]

/-! ### A module that appears -/

/-- A file that imports a module which is not there. -/
def alone : FileSystem where
  root := .directory [("w", .directory [("a.py", .file "import b".toUTF8 false)])]
  cwd := ["w"]

/-- The same file, and the module. -/
def joined : FileSystem :=
  alone.put ["w", "b.py"] (.file .empty false)

/-- The same file, and one that imports it. -/
def visited : FileSystem :=
  alone.put ["w", "c.py"] (.file "import a".toUTF8 false)

/-- The project of these trees. -/
def pair : Project where
  sourceDir := Path.ofString "/w"

theorem tracked_alone : pair.tracked alone = .ok ["/w/a.py"] :=
  Outcome.toOption_eq_some.mp (by decide +kernel)

theorem eq_of_lists_alone (h : pair.lists f alone = true) : f = "/w/a.py" := by
  simpa [Project.lists, tracked_alone] using h

/-- A tree keeps the tracked file if it has the same text there. -/
theorem read_eq_of_lists_alone
    (hread : (fs.read (Path.ofString "/w/a.py")).toOption = some "import b".toUTF8.toList)
    (h : pair.lists f alone = true) :
    alone.read (Path.ofString f) = fs.read (Path.ofString f) := by
  rw [eq_of_lists_alone h]
  exact Outcome.eq_of_toOption (by decide +kernel) hread

/-- A module that appears where an import of a file was looked up is missed by
a surveyor that has read the file, though the edit changes no file. -/
theorem resurvey_misses_module :
    ∃ s₀ s fresh again s' seen fresh',
      Surveyor.new alone pair = .ok s₀ ∧ s₀.surveyAll [alone] = .ok s ∧
      (∀ f, pair.lists f alone = true →
        alone.read (Path.ofString f) = joined.read (Path.ofString f)) ∧
      Surveyor.new joined pair = .ok fresh ∧ s.survey joined = .ok (again, s') ∧
      fresh.survey joined = .ok (seen, fresh') ∧ again.graph ≠ seen.graph := by
  obtain ⟨s₀, hnew, hmissed⟩ := Outcome.map_eq_ok.mp <| Outcome.toOption_eq_some.mp <|
    show ((·.importsOf alone "/w/a.py") <$> Surveyor.new alone pair).toOption = some [] by
      decide +kernel
  obtain ⟨fresh, hfresh, hfound⟩ := Outcome.map_eq_ok.mp <| Outcome.toOption_eq_some.mp <|
    show ((·.importsOf joined "/w/a.py") <$> Surveyor.new joined pair).toOption =
      some ["/w/b.py"] by decide +kernel
  have htracked : pair.tracked joined = .ok ["/w/a.py", "/w/b.py"] :=
    Outcome.toOption_eq_some.mp (by decide +kernel)
  obtain ⟨s, hs⟩ : ∃ s, s₀.surveyAll [alone] = .ok s := Surveyor.surveyAll_eq <| by
    rw [Surveyor.project_of_new hnew]
    exact List.forall_mem_singleton.mpr ⟨_, tracked_alone⟩
  have hproject : s.project = pair :=
    (Surveyor.surveyAll_ok hs).1.trans (Surveyor.project_of_new hnew)
  obtain ⟨again, hagain, hfiles, -⟩ := Surveyor.survey_eq (hproject ▸ htracked)
  obtain ⟨seen, hseen, hfiles', -⟩ :=
    Surveyor.survey_eq ((Surveyor.project_of_new hfresh).symm ▸ htracked)
  refine ⟨s₀, s, fresh, again, _, seen, _, hnew, hs,
    fun f => read_eq_of_lists_alone (by decide +kernel), hfresh, hagain, hseen, fun hgraph => ?_⟩
  rw [(Surveyor.graph_of_survey hagain).1, (Surveyor.graph_of_survey hseen).1, hfiles,
    hfiles'] at hgraph
  have hiff := Graph.Builder.mem_importsOf_iff_of_graph_eq hgraph (f := "/w/a.py") (t := "/w/b.py")
    (by decide) (by decide)
  have hall : fresh.surveyAll ([] ++ [joined]) = .ok _ := Surveyor.surveyAll_concat rfl hseen
  have hlisting : pair.firstListing ([alone] ++ [joined]) "/w/a.py" = some alone := by
    simp [Project.firstListing, Project.lists, tracked_alone]
  have hlisting' : pair.firstListing ([] ++ [joined]) "/w/a.py" = some joined := by
    simp [Project.firstListing, Project.lists, htracked]
  rw [Surveyor.mem_importsOf_of_new hnew (Surveyor.surveyAll_concat hs hagain) hlisting,
    Surveyor.mem_importsOf_of_new hfresh hall hlisting', hmissed, hfound] at hiff
  simp at hiff

/-- An importer that appears is found by a surveyor that has read the file it
imports. -/
theorem resurvey_finds_importer :
    ∃ s₀ s fresh again s' seen fresh',
      Surveyor.new alone pair = .ok s₀ ∧ s₀.surveyAll [alone] = .ok s ∧
      Surveyor.new visited pair = .ok fresh ∧ s.survey visited = .ok (again, s') ∧
      fresh.survey visited = .ok (seen, fresh') ∧ again.files = seen.files ∧
      again.graph = seen.graph ∧ again.components = seen.components ∧
      "/w/a.py" ∈ s₀.importsOf visited "/w/c.py" := by
  obtain ⟨s₀, hnew, hfound⟩ := Outcome.map_eq_ok.mp <| Outcome.toOption_eq_some.mp <|
    show ((fun s => (Extractor.lookups s.extractors alone "/w/a.py",
        s.importsOf visited "/w/c.py")) <$> Surveyor.new alone pair).toOption =
      some ([.ofParts ["w", "b.py"], .ofParts ["w", "b", "__init__.py"]], ["/w/a.py"]) by
      decide +kernel
  obtain ⟨hlookups, hfound⟩ := Prod.mk.inj hfound
  obtain ⟨fresh, hfresh, -⟩ := Outcome.map_eq_ok.mp <| Outcome.toOption_eq_some.mp <|
    show ((·.importsOf visited "/w/a.py") <$> Surveyor.new visited pair).toOption = some [] by
      decide +kernel
  have htracked : pair.tracked visited = .ok ["/w/a.py", "/w/c.py"] :=
    Outcome.toOption_eq_some.mp (by decide +kernel)
  obtain ⟨s, hs⟩ : ∃ s, s₀.surveyAll [alone] = .ok s := Surveyor.surveyAll_eq <| by
    rw [Surveyor.project_of_new hnew]
    exact List.forall_mem_singleton.mpr ⟨_, tracked_alone⟩
  obtain ⟨seen, hseen, -⟩ := Surveyor.survey_eq ((Surveyor.project_of_new hfresh).symm ▸ htracked)
  obtain ⟨again, s', hagain, hfiles, -, hcomponents, hgraph⟩ :=
    resurvey_eq_new_iff hnew hs hfresh hseen
  have hundisturbed : Extractor.Undisturbed s₀.extractors pair alone [alone] visited := by
    have hfirst : ∀ {f fs}, pair.firstListing [alone] f = some fs →
        fs = alone ∧ pair.lists f alone = true := by
      intro f fs h
      obtain ⟨hlists, hmem⟩ := And.intro (List.find?_some h) (List.mem_of_find?_eq_some h)
      cases List.mem_singleton.mp hmem
      exact ⟨rfl, hlists⟩
    refine ⟨by simp [visited, FileSystem.put], fun f fs _ h => ?_, fun root hroot => ?_,
      fun f fs _ h => ?_⟩
    · obtain ⟨rfl, hlists⟩ := hfirst h
      exact read_eq_of_lists_alone (by decide +kernel) hlists
    · have hdir : visited.resolve pair.sourceDir = .ok (.ofParts ["w"]) :=
        Outcome.toOption_eq_some.mp (by decide +kernel)
      rw [hdir] at hroot
      cases hroot
      exact Outcome.eq_of_toOption (a := false) (by decide +kernel) (by decide +kernel)
    · obtain ⟨rfl, hlists⟩ := hfirst h
      rw [eq_of_lists_alone hlists, hlookups]
      simp only [List.forall_mem_cons, List.not_mem_nil, false_imp_iff, implies_true, and_true]
      constructor <;> constructor <;>
        exact Outcome.eq_of_toOption (a := false) (by decide +kernel) (by decide +kernel)
  exact ⟨s₀, s, fresh, again, s', seen, _, hnew, hs, hfresh, hagain, hseen, hfiles,
    hgraph hundisturbed, hcomponents (hgraph hundisturbed), by rw [hfound]; exact .head _⟩

end Ratchet
