import Ratchet.Graph.Frontier
import Ratchet.Proofs.Graph.Pool
import Ratchet.Proofs.Survey.Memory

/-!
# The builds of a builder

In its life a builder makes graphs of one list of files after another, with
several files asked for at once, and replies that come and are noted in any
order. It asks for each file once, in the first build that lists it, and every
graph is the one that the replies determine.

* `buildAlong_eq_some`: what a build asks for and what is remembered then.
* `Life`, `life_of_buildEach`: what happens in the life of a builder.
* `Alike`, `alike_of_buildEach`: two lives in which the same is replied.
* `builds_follow_replies`: all of it, for every life.
-/

namespace Ratchet.Graph

variable {ε : Type} {b b' : Builder} {c : Build ε} {cs cs' : List (Build ε)} {g g' : ImportGraph}
  {gs gs' : List ImportGraph} {files files' : List String} {workers workers' : Int} {f : String}

/-- **A graph of the listed files that follows what is found**: its files are the
listed ones, each imports what is found of it that is listed, and what is found
otherwise is dropped. No file imports itself. -/
structure ImportGraph.Follows (g : ImportGraph) (found : String → List String)
    (files : List String) : Prop where
  keys : g.imports.files = ascending files
  targets : ∀ f ∈ files,
    g.imports.targets f = (ascending (found f)).filter fun t => t ≠ f ∧ t ∈ files
  dropped : g.dropped = ((ascending files).map fun f =>
    (f, (ascending (found f)).filter fun t => t ≠ f ∧ t ∉ files)).filter fun row => !row.2.isEmpty

namespace Builder

theorem mem_pending : f ∈ b.pending files ↔ f ∈ files ∧ ¬ b.knows f = true := by
  simp [pending]

/-! ## Graphs of what is remembered -/

theorem importsOf_of_lookup (h : b.known.lookup f = b'.known.lookup f) :
    b.importsOf f = b'.importsOf f := by
  rw [importsOf, importsOf, h]

/-- A graph depends on what is remembered of the listed files. -/
theorem graph_congr (h : ∀ f ∈ files, b.importsOf f = b'.importsOf f) :
    b.graph files = b'.graph files := by
  unfold graph ImportMap.ofFunction
  simp only
  congr 2
  · exact List.map_congr_left fun f hf => by rw [h f (mem_ascending.mp hf)]
  · exact List.map_congr_left fun f hf => by rw [h f (mem_ascending.mp hf)]

/-- The order in which files are listed, and how often, does not matter. -/
theorem graph_eq_of_mem_iff (h : ∀ f, f ∈ files ↔ f ∈ files') : b.graph files = b.graph files' := by
  rw [graph, graph, ascending_congr h]

theorem files_graph (b : Builder) (files : List String) :
    (b.graph files).imports.files = ascending files :=
  (pairwise_ascending _).eq_of_mem_iff (pairwise_ascending _) fun f => by
    simp [graph, ImportMap.ofFunction]

/-- The targets of a file are its imports among the files, but itself. -/
theorem targets_graph (hb : b.Sorted) (hf : f ∈ files) :
    (b.graph files).imports.targets f = (b.importsOf f).filter fun t => t ≠ f ∧ t ∈ files := by
  have hrow := lookup_map_self
    (fun f => (b.importsOf f).filter fun t => t ≠ f ∧ t ∈ ascending files)
    (mem_ascending.mpr hf)
  refine (pairwise_ascending _).eq_of_mem_iff ((hb f).filter _) fun t => ?_
  rw [mem_ascending, graph, ImportMap.ofFunction, hrow, Option.getD_some]
  simp

/-- Builders that remember the same imports between the listed files make graphs
with the same edges. -/
theorem imports_graph_eq (hb : b.Sorted) (hb' : b'.Sorted) (h : ∀ f ∈ files, ∀ t ∈ files, t ≠ f →
    (t ∈ b.importsOf f ↔ t ∈ b'.importsOf f)) :
    (b.graph files).imports = (b'.graph files).imports := by
  unfold graph ImportMap.ofFunction
  simp only
  congr 1
  refine List.map_congr_left fun f hf => ?_
  congr 1
  refine ((hb f).filter _).eq_of_mem_iff ((hb' f).filter _) fun t => ?_
  simp only [List.mem_filter, decide_eq_true_eq, mem_ascending]
  constructor
  · rintro ⟨hmem, hne, ht⟩
    exact ⟨(h f (mem_ascending.mp hf) t ht hne).mp hmem, hne, ht⟩
  · rintro ⟨hmem, hne, ht⟩
    exact ⟨(h f (mem_ascending.mp hf) t ht hne).mpr hmem, hne, ht⟩

/-! ## One build -/

/-- **What a build does**: it asks for the files not known yet, gets a reply for
each, remembers the replies, and makes the graph of what it remembers. -/
theorem buildAlong_eq_some (h : b.buildAlong workers c = some (g, b')) :
    Pool.asked c.events = b.pending c.files ∧
      ((Pool.replies c.events).map (·.1)).Perm (b.pending c.files) ∧
      g = b'.graph c.files ∧
      ∀ f, b'.known.lookup f = (b.known.lookup f).or
        (((Pool.replies c.events).lookup f).map fun answer => ascending answer.imports) := by
  unfold buildAlong at h
  simp only at h
  split at h
  · cases h
  · split at h
    · cases h
    · rename_i p hrun
      split at h
      · rename_i hfinished
        cases h
        have hpending : (b.pending c.files).Nodup := (nodup_ascending _).filter _
        obtain ⟨hasked, hreplies, hlookup⟩ :=
          (Pool.reached_start.run hpending hrun).finished hpending hfinished
        exact ⟨hasked, hreplies, rfl, hlookup⟩
      · cases h

/-- A build can always be made, whatever is replied: the files are gone through
one by one. -/
theorem exists_buildAlong (workers : Int) (b : Builder) (extract : String → Reply ε)
    (files : List String) : ∃ c : Build ε, c.files = files ∧
      (∀ entry ∈ Pool.replies c.events, entry.2 = extract entry.1) ∧
      b.buildAlong workers c = some (b.build (fun f => (extract f).imports) files) := by
  refine ⟨⟨files, Pool.oneByOne extract (b.pending files)⟩, rfl, ?_, ?_⟩
  · rw [Pool.replies_oneByOne]
    intro entry hentry
    obtain ⟨f, -, rfl⟩ := List.mem_map.mp hentry
    rfl
  · simp only [buildAlong]
    rw [if_neg (by simp [Pool.isOneByOne_oneByOne]), Pool.run_oneByOne (by omega)]
    rfl

/-- A build makes its files known. -/
theorem knows_of_buildAlong (h : b.buildAlong workers c = some (g, b')) :
    b'.knows f = true ↔ b.knows f = true ∨ f ∈ c.files := by
  obtain ⟨-, hreplies, -, hlookup⟩ := buildAlong_eq_some h
  have hreplied : ((Pool.replies c.events).lookup f).isSome ↔ f ∈ c.files ∧ ¬ b.knows f = true := by
    rw [← mem_pending, ← hreplies.mem_iff, List.lookup_isSome_iff, List.mem_map]
    exact exists_congr fun entry => and_congr_right fun _ => by rw [beq_iff_eq, eq_comm]
  rw [knows_iff, hlookup f, Option.isSome_or, Bool.or_eq_true, Option.isSome_map, hreplied,
    ← knows_iff]
  tauto

/-! ## One build after another -/

/-- The builds after the first start from what it knows. -/
theorem buildEach_cons : b.buildEach workers (c :: cs) = some (gs, b') ↔
    ∃ g b₁ gs₁, b.buildAlong workers c = some (g, b₁) ∧
      b₁.buildEach workers cs = some (gs₁, b') ∧ gs = g :: gs₁ := by
  rw [buildEach]
  cases b.buildAlong workers c with
  | none => simp
  | some built =>
    obtain ⟨g, b₁⟩ := built
    simp only [Option.map_eq_some_iff, Prod.exists, Prod.mk.injEq, Option.some.injEq]
    constructor
    · rintro ⟨gs₁, b₂, hrest, rfl, rfl⟩
      exact ⟨g, b₁, gs₁, ⟨rfl, rfl⟩, hrest, rfl⟩
    · rintro ⟨_, _, gs₁, ⟨rfl, rfl⟩, hrest, rfl⟩
      exact ⟨gs₁, b', hrest, rfl, rfl⟩

/-- Builds are made one after another. -/
theorem buildEach_append (h : b.buildEach workers (cs ++ cs') = some (gs, b')) :
    ∃ gs₁ b₁ gs₂, b.buildEach workers cs = some (gs₁, b₁) ∧
      b₁.buildEach workers cs' = some (gs₂, b') := by
  induction cs generalizing b gs with
  | nil => exact ⟨[], b, gs, rfl, h⟩
  | cons c cs ih =>
    obtain ⟨g, b₁, gs₁, hbuild, hrest, -⟩ := buildEach_cons.mp h
    obtain ⟨gs₂, b₂, gs₃, hfirst, hlast⟩ := ih hrest
    exact ⟨g :: gs₂, b₂, gs₃, buildEach_cons.mpr ⟨g, b₁, gs₂, hbuild, hfirst, rfl⟩, hlast⟩

/-- Builds make their files known. -/
theorem knows_of_buildEach (h : b.buildEach workers cs = some (gs, b')) :
    b'.knows f = true ↔ b.knows f = true ∨ ∃ c ∈ cs, f ∈ c.files := by
  induction cs generalizing b gs with
  | nil =>
    cases h
    simp
  | cons c cs ih =>
    obtain ⟨g, b₁, gs₁, hbuild, hrest, -⟩ := buildEach_cons.mp h
    rw [ih hrest, knows_of_buildAlong hbuild, List.exists_mem_cons_iff, or_assoc]

end Builder

/-- The files asked for in some builds. -/
def Build.allAsked (cs : List (Build ε)) : List String :=
  cs.flatMap fun c => Pool.asked c.events

/-- The replies of some builds. -/
def Build.allReplies (cs : List (Build ε)) : List (String × Reply ε) :=
  cs.flatMap fun c => Pool.replies c.events

/-- What is found of a file in some builds: what the reply brings that came for it. -/
def Build.found (cs : List (Build ε)) (file : String) : List String :=
  (((allReplies cs).lookup file).map Reply.imports).getD []

namespace Builder

theorem allAsked_cons : Build.allAsked (c :: cs) = Pool.asked c.events ++ Build.allAsked cs := rfl

theorem allReplies_cons :
    Build.allReplies (c :: cs) = Pool.replies c.events ++ Build.allReplies cs := rfl

/-- What builds ask for is what was not known. -/
theorem mem_allAsked (h : b.buildEach workers cs = some (gs, b')) :
    f ∈ Build.allAsked cs ↔ ¬ b.knows f = true ∧ ∃ c ∈ cs, f ∈ c.files := by
  induction cs generalizing b gs with
  | nil => simp [Build.allAsked]
  | cons c cs ih =>
    obtain ⟨g, b₁, gs₁, hbuild, hrest, -⟩ := buildEach_cons.mp h
    rw [allAsked_cons, List.mem_append, ih hrest, (buildAlong_eq_some hbuild).1, mem_pending,
      knows_of_buildAlong hbuild, List.exists_mem_cons_iff]
    tauto

/-- No file is asked for twice. -/
theorem nodup_allAsked (h : b.buildEach workers cs = some (gs, b')) :
    (Build.allAsked cs).Nodup := by
  induction cs generalizing b gs with
  | nil => exact List.nodup_nil
  | cons c cs ih =>
    obtain ⟨g, b₁, gs₁, hbuild, hrest, -⟩ := buildEach_cons.mp h
    rw [allAsked_cons, (buildAlong_eq_some hbuild).1]
    -- later builds ask for no file that is known, and the first one makes its files known
    refine List.Nodup.append ((nodup_ascending _).filter _) (ih hrest) fun f hf hlater => ?_
    rw [mem_pending] at hf
    exact ((mem_allAsked hrest).mp hlater).1 ((knows_of_buildAlong hbuild).mpr (.inr hf.1))

/-- Each build has one reply for each question. -/
theorem replies_perm_asked (h : b.buildEach workers cs = some (gs, b')) :
    ∀ c ∈ cs, ((Pool.replies c.events).map (·.1)).Perm (Pool.asked c.events) := by
  induction cs generalizing b gs with
  | nil => simp
  | cons c cs ih =>
    obtain ⟨g, b₁, gs₁, hbuild, hrest, -⟩ := buildEach_cons.mp h
    obtain ⟨hasked, hreplies, -⟩ := buildAlong_eq_some hbuild
    exact List.forall_mem_cons.mpr ⟨hasked ▸ hreplies, ih hrest⟩

theorem allReplies_perm (h : b.buildEach workers cs = some (gs, b')) :
    ((Build.allReplies cs).map (·.1)).Perm (Build.allAsked cs) := by
  rw [Build.allReplies, List.map_flatMap]
  exact List.Perm.flatMap_left _ (replies_perm_asked h)

/-- **What a builder remembers after some builds**: what it did before, and of
each file asked for what the reply brought. -/
theorem lookup_buildEach (h : b.buildEach workers cs = some (gs, b')) (f : String) :
    b'.known.lookup f = (b.known.lookup f).or
      (((Build.allReplies cs).lookup f).map fun answer => ascending answer.imports) := by
  induction cs generalizing b gs with
  | nil =>
    cases h
    simp [Build.allReplies]
  | cons c cs ih =>
    obtain ⟨g, b₁, gs₁, hbuild, hrest, -⟩ := buildEach_cons.mp h
    obtain ⟨-, -, -, hlookup⟩ := buildAlong_eq_some hbuild
    rw [ih hrest, hlookup, allReplies_cons, List.lookup_append, Option.or_assoc]
    cases (Pool.replies c.events).lookup f <;> rfl

/-- **Every graph is the one that the builder would make in the end**: what is
remembered of the listed files does not change any more. -/
theorem graphs_of_buildEach (h : b.buildEach workers cs = some (gs, b')) :
    gs = cs.map fun c => b'.graph c.files := by
  induction cs generalizing b gs with
  | nil =>
    cases h
    rfl
  | cons c cs ih =>
    obtain ⟨g, b₁, gs₁, hbuild, hrest, rfl⟩ := buildEach_cons.mp h
    rw [ih hrest, List.map_cons, (buildAlong_eq_some hbuild).2.2.1]
    congr 1
    -- the first build knows its files, so no later reply is about one of them
    refine graph_congr fun f hf => importsOf_of_lookup ?_
    have hknows : (b₁.known.lookup f).isSome :=
      knows_iff.mp ((knows_of_buildAlong hbuild).mpr (.inr hf))
    rw [lookup_buildEach hrest f]
    cases hlookup : b₁.known.lookup f with
    | none => simp [hlookup] at hknows
    | some targets => rfl

/-- A builder remembers what has been found, ascending. -/
theorem importsOf_eq_found (h : buildEach workers {} cs = some (gs, b)) (f : String) :
    b.importsOf f = ascending (Build.found cs f) := by
  rw [importsOf, lookup_buildEach h f, Build.found]
  cases (Build.allReplies cs).lookup f <;> rfl

theorem sorted_of_buildEach (h : buildEach workers {} cs = some (gs, b)) : b.Sorted := fun f => by
  rw [importsOf_eq_found h]
  exact pairwise_ascending _

end Builder

/-! ## The life of a builder -/

/-- **What happens in the life of a builder**: every listed file is asked for once,
in the first build that lists it, and gets one reply; a failure finds nothing, and
every graph follows what the replies bring. -/
structure Life (cs : List (Build ε)) (gs : List ImportGraph) : Prop where
  once : (Build.allAsked cs).Nodup
  every : ∀ f, f ∈ Build.allAsked cs ↔ ∃ c ∈ cs, f ∈ c.files
  first : ∀ before c after, cs = before ++ c :: after →
    ∀ f, f ∈ Pool.asked c.events ↔ f ∈ c.files ∧ ∀ d ∈ before, f ∉ d.files
  replied : ∀ c ∈ cs, ((Pool.replies c.events).map (·.1)).Perm (Pool.asked c.events)
  found : ∀ f answer, (f, answer) ∈ Build.allReplies cs → Build.found cs f =
    match answer with
    | .ok targets => targets
    | .error _ => []
  graphs : List.Forall₂ (fun c g => g.Follows (Build.found cs) c.files) cs gs

/-- **Two lives that are alike.** Builds that list the same files bring the same
edges, components and frontier where the same listed files are found, and the
same graph where all that is found is the same; so lives with the same lists and
findings bring the same graphs. -/
structure Alike (cs : List (Build ε)) (gs : List ImportGraph) (cs' : List (Build ε))
    (gs' : List ImportGraph) : Prop where
  edges : ∀ c g c' g', (c, g) ∈ cs.zip gs → (c', g') ∈ cs'.zip gs' →
    (∀ f, f ∈ c.files ↔ f ∈ c'.files) →
    (∀ f ∈ c.files, ∀ t ∈ c.files, t ≠ f → (t ∈ Build.found cs f ↔ t ∈ Build.found cs' f)) →
    g.imports = g'.imports ∧ g.imports.condense = g'.imports.condense ∧
      ∀ checked, g.imports.condense.eligible checked = g'.imports.condense.eligible checked ∧
        g.imports.condense.eligibleFiles checked = g'.imports.condense.eligibleFiles checked
  whole : ∀ c g c' g', (c, g) ∈ cs.zip gs → (c', g') ∈ cs'.zip gs' →
    (∀ f, f ∈ c.files ↔ f ∈ c'.files) →
    (∀ f ∈ c.files, ∀ t, t ≠ f → (t ∈ Build.found cs f ↔ t ∈ Build.found cs' f)) → g = g'
  same : cs.map (·.files) = cs'.map (·.files) →
    (∀ c ∈ cs, ∀ f ∈ c.files, Build.found cs f = Build.found cs' f) → gs = gs'

namespace Builder

/-- A graph follows what has been found. -/
theorem follows_graph (hb : b.Sorted) {found : String → List String}
    (hfound : ∀ f, b.importsOf f = ascending (found f)) (files : List String) :
    (b.graph files).Follows found files where
  keys := b.files_graph files
  targets f hf := by rw [targets_graph hb hf, hfound]
  dropped := by simp only [graph, hfound, mem_ascending]

/-- Builds that are made one after another live by their replies. -/
theorem life_of_buildEach (h : buildEach workers {} cs = some (gs, b)) : Life cs gs where
  once := nodup_allAsked h
  every f := by
    rw [mem_allAsked h]
    simp [knows]
  first before c after heq f := by
    subst heq
    obtain ⟨_, b₁, _, hbefore, hrest⟩ := buildEach_append h
    obtain ⟨g, b₂, _, hbuild, -⟩ := buildEach_cons.mp hrest
    rw [(buildAlong_eq_some hbuild).1, mem_pending, knows_of_buildEach hbefore]
    simp [knows]
  replied := replies_perm_asked h
  found f answer hanswer := by
    have hnodup := (allReplies_perm h).nodup_iff.mpr (nodup_allAsked h)
    rw [Build.found, (lookup_eq_some_iff_mem hnodup).mpr hanswer]
    cases answer <;> rfl
  graphs := by
    rw [graphs_of_buildEach h, List.forall₂_map_right_iff]
    exact List.forall₂_same.mpr fun c _ =>
      follows_graph (sorted_of_buildEach h) (importsOf_eq_found h) c.files

/-- The graph of each build is what the last builder has for its files. -/
theorem graph_of_mem_zip (h : b.buildEach workers cs = some (gs, b')) (hmem : (c, g) ∈ cs.zip gs) :
    c ∈ cs ∧ g = b'.graph c.files := by
  have hall : List.Forall₂ (fun c g => g = b'.graph c.files) cs gs := by
    rw [graphs_of_buildEach h, List.forall₂_map_right_iff]
    exact List.forall₂_same.mpr fun _ _ => rfl
  exact ⟨(List.of_mem_zip hmem).1, List.forall₂_zip hall hmem⟩

/-- Whatever the numbers of workers and the order of things, what is found decides. -/
theorem alike_of_buildEach (h : buildEach workers {} cs = some (gs, b))
    (h' : buildEach workers' {} cs' = some (gs', b')) : Alike cs gs cs' gs' where
  edges c g c' g' hmem hmem' hfiles hfound := by
    obtain ⟨-, rfl⟩ := graph_of_mem_zip h hmem
    obtain ⟨-, rfl⟩ := graph_of_mem_zip h' hmem'
    have himports : (b.graph c.files).imports = (b'.graph c'.files).imports := by
      rw [← graph_eq_of_mem_iff hfiles]
      refine imports_graph_eq (sorted_of_buildEach h) (sorted_of_buildEach h')
        fun f hf t ht hne => ?_
      rw [importsOf_eq_found h, importsOf_eq_found h', mem_ascending, mem_ascending]
      exact hfound f hf t ht hne
    rw [himports]
    exact ⟨rfl, rfl, fun _ => ⟨rfl, rfl⟩⟩
  whole c g c' g' hmem hmem' hfiles hfound := by
    obtain ⟨-, rfl⟩ := graph_of_mem_zip h hmem
    obtain ⟨-, rfl⟩ := graph_of_mem_zip h' hmem'
    rw [← graph_eq_of_mem_iff hfiles]
    refine (graph_eq_iff (sorted_of_buildEach h) (sorted_of_buildEach h')).mpr
      fun f hf t hne => ?_
    rw [importsOf_eq_found h, importsOf_eq_found h', mem_ascending, mem_ascending]
    exact hfound f hf t hne
  same hlists hfound := by
    have hgraphs : gs' = (cs'.map (·.files)).map b'.graph := by
      rw [graphs_of_buildEach h', List.map_map]
      rfl
    rw [hgraphs, ← hlists, List.map_map, graphs_of_buildEach h]
    refine List.map_congr_left fun c hc => graph_congr fun f hf => ?_
    rw [importsOf_eq_found h, importsOf_eq_found h', hfound c hc f hf]

end Builder

/-- **The builds of a builder follow the replies**, with any number of workers and
whatever the order in which replies come and are noted. In its life every listed
file is asked for once and every graph follows what the replies bring; any other
life in which the same is found brings the same; and the life can always go on
with a build of any files, whatever is replied. -/
theorem builds_follow_replies (h : Builder.buildEach workers {} cs = some (gs, b)) :
    Life cs gs ∧
    (∀ workers' (cs' : List (Build ε)) gs' b',
      Builder.buildEach workers' {} cs' = some (gs', b') → Alike cs gs cs' gs') ∧
    ∀ (extract : String → Reply ε) files, ∃ c : Build ε, c.files = files ∧
      (∀ entry ∈ Pool.replies c.events, entry.2 = extract entry.1) ∧
      b.buildAlong workers c = some (b.build (fun f => (extract f).imports) files) :=
  ⟨Builder.life_of_buildEach h, fun _ _ _ _ h' => Builder.alike_of_buildEach h h',
    b.exists_buildAlong workers⟩

/-- Three files, two of them at once, whose replies come in another order; one
cannot be read. Then another list, with a file that an earlier import led to. -/
def atOnce : List (Build String) :=
  [{ files := ["b", "c", "a"]
     events := [.ask "a", .ask "b", .reply "b" (.ok ["x", "a", "b"]), .note "b", .ask "c",
       .reply "c" (.error "unreadable"), .note "c", .reply "a" (.ok ["b"]), .note "a"] },
   { files := ["x", "b"]
     events := [.ask "x", .reply "x" (.ok ["b"]), .note "x"] }]

/-- The first graph drops the import of a file that the second one lists. -/
theorem atOnce_follows_replies : ∃ g₁ g₂ b, Builder.buildEach 2 {} atOnce = some ([g₁, g₂], b) ∧
    g₁.imports.targets "b" = ["a"] ∧ g₁.dropped = [("b", ["x"])] ∧
    g₂.imports.targets "b" = ["x"] ∧ g₂.dropped = [("b", ["a"])] ∧
    Life atOnce [g₁, g₂] ∧
    (∀ workers' (cs' : List (Build String)) gs' b',
      Builder.buildEach workers' {} cs' = some (gs', b') → Alike atOnce [g₁, g₂] cs' gs') ∧
    ∀ (extract : String → Reply String) files, ∃ c : Build String, c.files = files ∧
      (∀ entry ∈ Pool.replies c.events, entry.2 = extract entry.1) ∧
      b.buildAlong 2 c = some (b.build (fun f => (extract f).imports) files) := by
  have hrun : Builder.buildEach 2 {} atOnce =
      some ([⟨⟨[("a", ["b"]), ("b", ["a"]), ("c", [])]⟩, [("b", ["x"])]⟩,
        ⟨⟨[("b", ["x"]), ("x", ["b"])]⟩, [("b", ["a"])]⟩],
        ⟨[("b", ["a", "b", "x"]), ("c", []), ("a", ["b"]), ("x", ["b"])]⟩) := by
    decide +kernel
  exact ⟨_, _, _, hrun, by decide +kernel, rfl, by decide +kernel, rfl, builds_follow_replies hrun⟩

end Ratchet.Graph
