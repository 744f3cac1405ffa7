import Mathlib.Data.List.Sort
import Ratchet.Project.Survey
import Ratchet.Proofs.Graph.Layers

/-!
# What a surveyor remembers

A builder remembers of each file what it imported when it was first asked for,
and a graph is made from what is remembered. So after any surveys a surveyor
knows exactly the files that one of them has listed, each with the imports it
had in the first tree that listed it.

* `lookup_build`: what a builder remembers after a build.
* `graph_eq_iff`: when two builders make the same graph.
* `survey_eq`: a survey succeeds whenever the tracked files can be listed.
* `surveyAll_ok`: what a surveyor remembers after some surveys.
-/

namespace Ratchet

/-! ## Builders -/

namespace Graph

namespace Builder

variable {b b' : Builder} {files : List String} {f t : String}

/-- A builder knows the files that it remembers. -/
theorem knows_iff : b.knows f = true ↔ (b.known.lookup f).isSome := by
  rw [knows, ← not_iff_not, Bool.not_eq_true, List.any_eq_false, Option.not_isSome_iff_eq_none,
    List.lookup_eq_none_iff]
  refine forall₂_congr fun e _ => ?_
  rw [beq_iff_eq, bne_iff_ne, ne_comm, Ne]

/-- Remembering a file leaves what is remembered. -/
theorem lookup_remember (b : Builder) (g f : String) (imports : List String) :
    (b.remember g imports).known.lookup f =
      (b.known.lookup f).or (if f = g then some (ascending imports) else none) := by
  rw [remember, List.lookup_append, lookup_cons_eq, List.lookup_nil]

/-- Filling remembers the files that were not known. -/
theorem lookup_fill (extract : String → List String) (files : List String) (b : Builder)
    (f : String) :
    (b.fill extract files).known.lookup f =
      (b.known.lookup f).or (if f ∈ files then some (ascending (extract f)) else none) := by
  induction files generalizing b with
  | nil => simp [fill]
  | cons g files ih =>
    have hcons : b.fill extract (g :: files) = (b.remember g (extract g)).fill extract files := rfl
    rw [hcons, ih, lookup_remember, Option.or_assoc]
    by_cases hf : f = g
    · subst hf
      simp
    · simp [hf]

/-- **What a builder remembers after a build**: what it did before, and of each
other listed file what it imports now. -/
theorem lookup_build (extract : String → List String) (files : List String) (b : Builder)
    (f : String) :
    (b.build extract files).2.known.lookup f =
      (b.known.lookup f).or (if f ∈ files then some (ascending (extract f)) else none) := by
  rw [build, lookup_fill]
  cases hf : b.known.lookup f with
  | some targets => rfl
  | none =>
    have hnew : f ∈ b.pending files ↔ f ∈ files := by
      have hknows : ¬ b.knows f = true := by simp [knows_iff, hf]
      simp [pending, hknows]
    simp only [hnew]

/-- The imports remembered are strictly ascending. -/
def Sorted (b : Builder) : Prop :=
  ∀ f, (b.importsOf f).Pairwise (· < ·)

/-- What is dropped are the imports of files that are not among them. -/
theorem mem_dropped {l : List String} :
    (f, l) ∈ (b.graph files).dropped ↔
      f ∈ files ∧ l = (b.importsOf f).filter (fun t => t ≠ f ∧ t ∉ ascending files) ∧ l ≠ [] := by
  simp only [graph, List.mem_filter, List.mem_map, mem_ascending, Prod.mk.injEq]
  constructor
  · rintro ⟨⟨g, hg, rfl, rfl⟩, hne⟩
    exact ⟨hg, rfl, by simpa using hne⟩
  · rintro ⟨hf, rfl, hne⟩
    exact ⟨⟨f, hf, rfl, rfl⟩, by simpa using hne⟩

/-- Two builders that make the same graph remember of each listed file the same
imports of other files. -/
theorem mem_importsOf_iff_of_graph_eq (h : b.graph files = b'.graph files) (hf : f ∈ files)
    (hne : t ≠ f) : t ∈ b.importsOf f ↔ t ∈ b'.importsOf f := by
  have hlisted : f ∈ ascending files := mem_ascending.mpr hf
  by_cases ht : t ∈ files
  · have hrows : (b.graph files).imports.rows = (b'.graph files).imports.rows := by rw [h]
    have hfilter := List.map_inj_left.mp hrows f hlisted
    have hmem := congrArg (t ∈ ·) (Prod.mk.inj hfilter).2
    simpa [hne, ht] using hmem
  · -- the imports dropped for `f` are listed in both graphs, or in neither
    have hdropped : ∀ l, (f, l) ∈ (b.graph files).dropped ↔ (f, l) ∈ (b'.graph files).dropped := by
      rw [h]
      exact fun _ => Iff.rfl
    have key : ∀ {c c' : Builder}, (∀ l, (f, l) ∈ (c.graph files).dropped →
        (f, l) ∈ (c'.graph files).dropped) → t ∈ c.importsOf f → t ∈ c'.importsOf f := by
      intro c c' himp hmem
      have hin : t ∈ (c.importsOf f).filter (fun t => t ≠ f ∧ t ∉ ascending files) := by
        simp [hmem, hne, ht]
      obtain ⟨-, heq, -⟩ := mem_dropped.mp
        (himp _ (mem_dropped.mpr ⟨hf, rfl, List.ne_nil_of_mem hin⟩))
      rw [heq] at hin
      exact List.mem_of_mem_filter hin
    exact ⟨key fun l => (hdropped l).mp, key fun l => (hdropped l).mpr⟩

/-- **When two builders make the same graph**: when they remember of each
listed file the same imports of other files. -/
theorem graph_eq_iff (hb : b.Sorted) (hb' : b'.Sorted) :
    b.graph files = b'.graph files ↔
      ∀ f ∈ files, ∀ t, t ≠ f → (t ∈ b.importsOf f ↔ t ∈ b'.importsOf f) := by
  refine ⟨fun h f hf t hne => mem_importsOf_iff_of_graph_eq h hf hne, fun h => ?_⟩
  have hfilter : ∀ f ∈ ascending files, ∀ p : String → Prop, [DecidablePred p] →
      (b.importsOf f).filter (fun t => t ≠ f ∧ p t) =
        (b'.importsOf f).filter (fun t => t ≠ f ∧ p t) := by
    intro f hf p _
    refine ((hb f).filter _).eq_of_mem_iff ((hb' f).filter _) fun t => ?_
    simp only [List.mem_filter, decide_eq_true_eq]
    constructor
    · rintro ⟨hmem, hne, hp⟩
      exact ⟨(h f (mem_ascending.mp hf) t hne).mp hmem, hne, hp⟩
    · rintro ⟨hmem, hne, hp⟩
      exact ⟨(h f (mem_ascending.mp hf) t hne).mpr hmem, hne, hp⟩
  unfold graph ImportMap.ofFunction
  simp only
  congr 2
  · exact List.map_congr_left fun f hf => by rw [hfilter f hf]
  · exact List.map_congr_left fun f hf => by rw [hfilter f hf]

end Builder

end Graph

/-! ## Surveyors -/

/-- The tracked files of a project as it stands. -/
def Project.tracked (p : Project) (fs : FileSystem) : Except Failure (List String) :=
  discover fs p.sourceDir p.languages p.skips

/-- Whether a file is tracked in a tree. -/
def Project.lists (p : Project) (file : String) (fs : FileSystem) : Bool :=
  match p.tracked fs with
  | .ok files => files.contains file
  | .error _ => false

/-- A project lists its tracked files. -/
theorem Project.lists_iff {p : Project} {file : String} {fs : FileSystem} :
    p.lists file fs = true ↔ ∃ files, p.tracked fs = .ok files ∧ file ∈ files := by
  unfold lists
  cases p.tracked fs with
  | error cause => simp
  | ok files => simp

/-- The first of some trees in which a file is tracked. -/
def Project.firstListing (p : Project) (trees : List FileSystem) (file : String) :
    Option FileSystem :=
  trees.find? (p.lists file)

namespace Surveyor

variable {s s' : Surveyor} {fs : FileSystem} {trees : List FileSystem} {v : Survey}
  {files : List String} {f : String}

/-- The surveyor after surveys of some trees, one after the other. -/
def surveyAll (s : Surveyor) : List FileSystem → Except Failure Surveyor
  | [] => .ok s
  | fs :: trees =>
    match s.survey fs with
    | .error cause => .error cause
    | .ok (_, s) => s.surveyAll trees

/-- **A survey succeeds** whenever the tracked files can be listed: the
components of a graph are always found acyclic. -/
theorem survey_eq (h : s.project.tracked fs = .ok files) :
    ∃ v, s.survey fs = .ok (v, { s with builder := (s.builder.build (s.importsOf fs) files).2 }) ∧
      v.files = files ∧
      v.graph = (s.builder.build (s.importsOf fs) files).2.graph files ∧
      v.components = v.graph.imports.condense := by
  let built := s.builder.build (s.importsOf fs) files
  have hacyclic := built.1.imports.isQuotientOf_condense.verifyAcyclic_eq
  rw [Project.tracked] at h
  refine ⟨{ files, graph := built.1, components := built.1.imports.condense
            warnings := (s.builder.pending files).flatMap (s.warningsFor fs) ++ built.1.warnings },
    ?_, rfl, rfl, rfl⟩
  simp only [survey, h, bind, Except.bind]
  rw [hacyclic]
  rfl

/-- A survey is about the tracked files. -/
theorem tracked_of_survey (h : s.survey fs = .ok (v, s')) : s.project.tracked fs = .ok v.files := by
  cases hf : s.project.tracked fs with
  | error cause =>
    rw [Project.tracked] at hf
    rw [survey, hf] at h
    cases h
  | ok files =>
    obtain ⟨v', hv, hfiles, -⟩ := survey_eq hf
    rw [h] at hv
    cases hv
    rw [hfiles]

/-- What a survey leaves: the same surveyor, with a larger memory. -/
theorem survey_ok (h : s.survey fs = .ok (v, s')) :
    s'.project = s.project ∧ s'.extractors = s.extractors ∧
      ∀ f, s'.builder.known.lookup f = (s.builder.known.lookup f).or
        (if s.project.lists f fs then some (ascending (s.importsOf fs f)) else none) := by
  have htracked := tracked_of_survey h
  obtain ⟨v', hv, hfiles, -⟩ := survey_eq htracked
  rw [h] at hv
  cases hv
  refine ⟨rfl, rfl, fun f => ?_⟩
  rw [Graph.Builder.lookup_build, Project.lists, htracked]
  simp

/-- **What a surveyor remembers after some surveys**: of each file that one of
the trees listed, what it imported in the first of these. -/
theorem surveyAll_ok (h : s.surveyAll trees = .ok s') :
    s'.project = s.project ∧ s'.extractors = s.extractors ∧
      ∀ f, s'.builder.known.lookup f = (s.builder.known.lookup f).or
        ((s.project.firstListing trees f).map fun fs => ascending (s.importsOf fs f)) := by
  induction trees generalizing s with
  | nil =>
    cases h
    exact ⟨rfl, rfl, fun f => by simp [Project.firstListing]⟩
  | cons fs trees ih =>
    unfold surveyAll at h
    split at h
    · cases h
    · rename_i v s₁ hs
      obtain ⟨hproject, hextractors, hlookup⟩ := survey_ok hs
      obtain ⟨hproject', hextractors', hlookup'⟩ := ih h
      refine ⟨hproject'.trans hproject, hextractors'.trans hextractors, fun f => ?_⟩
      have himports : ∀ fs, s₁.importsOf fs f = s.importsOf fs f := fun fs => by
        rw [importsOf, hextractors, importsOf]
      rw [hlookup' f, hlookup f, Option.or_assoc, hproject, Project.firstListing,
        Project.firstListing, List.find?_cons]
      cases hlists : s.project.lists f fs with
      | true => simp
      | false => simp [himports]

end Surveyor

end Ratchet
