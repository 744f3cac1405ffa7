import Mathlib.Tactic.Tauto
import Ratchet.Proofs.Graph.Depth
import Ratchet.Proofs.Graph.Quotient

/-!
# Layering a condensation

A condensation whose components stand at the positions of their numbers is
checked for cycles and layered by its two tables of edges. An import map
condenses to one, and as its edges lead to lower numbers it can be layered.

* `IsNumbered`: components at the positions of their numbers.
* `IsNumbered.verifyAcyclic_eq`: what a check for cycles gives.
* `IsNumbered.assignDepths_eq`: what layering writes.
* `condense_quotient_acyclic`: the condensation is the quotient of its import
  map, numbered so that it can be layered.
-/

namespace Ratchet.Graph

namespace Condensation

variable {g : Condensation} {m : ImportMap} {c : Component} {f t : String} {d i : Nat}
  {row : List Nat}

/-- **Components at the positions of their numbers**, with edges that lead to
components. Nothing is said of how dependencies and dependents agree. -/
structure IsNumbered (g : Condensation) : Prop where
  /-- A component's number is its position. -/
  id_eq {i : Nat} {c : Component} : g.components[i]? = some c → c.id = i
  /-- Dependencies are components. -/
  dependency_lt {c : Component} {d : Nat} :
    c ∈ g.components → d ∈ c.dependencies → d < g.components.length
  /-- Dependents are components. -/
  dependent_lt {c : Component} {d : Nat} :
    c ∈ g.components → d ∈ c.dependents → d < g.components.length

/-- Whether components are numbered can be tested. -/
instance (g : Condensation) : Decidable g.IsNumbered :=
  decidable_of_iff
    ((∀ i : Fin g.components.length, g.components[i].id = i) ∧
      ∀ c ∈ g.components, ∀ d ∈ c.dependencies ++ c.dependents, d < g.components.length)
    ⟨fun h =>
      { id_eq := fun {i c} hc => by
          obtain ⟨hi, rfl⟩ := List.getElem?_eq_some_iff.mp hc
          exact h.1 ⟨i, hi⟩
        dependency_lt := fun hc hd => h.2 _ hc _ (List.mem_append_left _ hd)
        dependent_lt := fun hc hd => h.2 _ hc _ (List.mem_append_right _ hd) },
     fun h => ⟨fun i => h.id_eq (List.getElem?_eq_getElem i.2), fun c hc d hd =>
      (List.mem_append.mp hd).elim (h.dependency_lt hc) (h.dependent_lt hc)⟩⟩

/-- One component has another one among its dependencies. -/
def DependsOn (g : Condensation) (i d : Nat) : Prop :=
  ∃ c, g.components[i]? = some c ∧ d ∈ c.dependencies

/-- One component has another one among its dependents. -/
def IsNeededBy (g : Condensation) (i d : Nat) : Prop :=
  ∃ c, g.components[i]? = some c ∧ d ∈ c.dependents

theorem liesBelow_dependencyTable : LiesBelow g.dependencyTable d i ↔ g.DependsOn i d := by
  rw [LiesBelow, mem_getD_iff, dependencyTable, List.getElem?_map]
  simp [DependsOn]

theorem liesBelow_dependentTable : LiesBelow g.dependentTable d i ↔ g.IsNeededBy i d := by
  rw [LiesBelow, mem_getD_iff, dependentTable, List.getElem?_map]
  simp [IsNeededBy]

theorem length_dependencyTable (g : Condensation) :
    g.dependencyTable.length = g.components.length :=
  List.length_map ..

theorem length_dependentTable (g : Condensation) :
    g.dependentTable.length = g.components.length :=
  List.length_map ..

/-- Depths that are there for every component are written onto it. -/
theorem writeDepths_eq {down up : List Nat} {components : List Component}
    (hdown : ∀ c ∈ components, c.id < down.length) (hup : ∀ c ∈ components, c.id < up.length) :
    writeDepths down up components =
      (.ok (components.map fun c => (c.id, ⟨down.getD c.id 0, up.getD c.id 0⟩)),
        components.map fun c => { c with depth := some ⟨down.getD c.id 0, up.getD c.id 0⟩ }) := by
  induction components with
  | nil => rfl
  | cons c components ih =>
    have hd := hdown c (.head _)
    have hu := hup c (.head _)
    rw [writeDepths, ih (fun c hc => hdown c (.tail _ hc)) fun c hc => hup c (.tail _ hc)]
    simp [List.getD_eq_getElem?_getD, hd, hu, Except.map]

namespace IsNumbered

variable (h : g.IsNumbered)

include h

/-- The components are numbered in their order. -/
theorem map_id : g.components.map (·.id) = List.range g.components.length := by
  refine List.ext_getElem? fun i => ?_
  rw [List.getElem?_map]
  by_cases hi : i < g.components.length
  · rw [List.getElem?_eq_getElem hi, Option.map_some, h.id_eq (List.getElem?_eq_getElem hi),
      List.getElem?_range hi]
  · rw [List.getElem?_eq_none (by omega), List.getElem?_eq_none (by simpa using hi)]
    rfl

theorem getElem?_of_mem (hc : c ∈ g.components) : g.components[c.id]? = some c := by
  obtain ⟨i, hi⟩ := List.getElem?_of_mem hc
  rwa [h.id_eq hi]

theorem lt_of_mem (hc : c ∈ g.components) : c.id < g.components.length :=
  (List.getElem?_eq_some_iff.mp (h.getElem?_of_mem hc)).1

/-- **What a check for cycles gives**: the queue counts every component, or it
fails with those that are stuck, of which there is one. -/
theorem verifyAcyclic_eq :
    ∃ s left, settle g.dependencyTable g.dependentTable = .ok s ∧
      Progress g.dependencyTable g.dependentTable left [] s.pending ∧
      g.verifyAcyclic = if s.stuck = [] then .ok () else .error (.cycleThrough s.stuck) := by
  have hsources : (g.components.filter (·.dependencies.isEmpty)).map (·.id) =
      (List.range g.dependencyTable.length).filter fun i =>
        (g.dependencyTable.getD i []).isEmpty := by
    rw [length_dependencyTable, ← h.map_id, List.filter_map]
    refine congrArg _ (List.filter_congr fun c hc => ?_)
    rw [Function.comp_apply, List.getD_eq_getElem?_getD, dependencyTable, List.getElem?_map,
      h.getElem?_of_mem hc, Option.map_some, Option.getD_some]
  have hrange : ∀ row ∈ g.dependentTable, ∀ i ∈ row, i < g.dependencyTable.length := by
    intro row hrow i hi
    obtain ⟨c, hc, rfl⟩ := List.mem_map.mp hrow
    rw [length_dependencyTable]
    exact h.dependent_lt hc hi
  have hlen : g.dependentTable.length = g.dependencyTable.length := by
    rw [length_dependentTable, length_dependencyTable]
  obtain ⟨s, left, hs, hcount, hp, -⟩ :=
    (progress_start g.dependencyTable g.dependentTable).run (P := fun _ _ => True)
      (s := .start g.dependencyTable) (fun _ _ _ => trivial) hrange hlen trivial
  refine ⟨s, left, hs, hp, ?_⟩
  have hseen : left.length = g.components.length ↔ s.stuck = [] := by
    have hall := hp.length_stuck
    rw [length_dependencyTable] at hall
    rw [← List.length_eq_zero_iff]
    omega
  have hstuck : ((g.components.map (·.id)).filter fun id => 0 < s.pending.getD id 0) = s.stuck := by
    rw [Layering.stuck, hp.length_pending, length_dependencyTable, h.map_id]
  replace hcount : countDown g.dependentTable
      ((g.components.filter (·.dependencies.isEmpty)).map (·.id))
      (openEntries g.dependencyTable) 0 = .ok (s.pending, left.length) := hsources ▸ hcount
  simp only [verifyAcyclic, hcount, bind, Except.bind, hseen, hstuck]
  rfl

/-- **What layering writes**: both depths onto every component. -/
theorem assignDepths_eq {down up : List Nat}
    (hdown : layerDepths g.dependencyTable g.dependentTable = .ok down)
    (hup : layerDepths g.dependentTable g.dependencyTable = .ok up)
    (hdownlen : down.length = g.components.length) (huplen : up.length = g.components.length) :
    g.assignDepths =
      (.ok (g.components.map fun c => (c.id, ⟨down.getD c.id 0, up.getD c.id 0⟩)),
        { g with components := g.components.map fun c =>
            { c with depth := some ⟨down.getD c.id 0, up.getD c.id 0⟩ } }) := by
  have hdownlt : ∀ c ∈ g.components, c.id < down.length := fun c hc => hdownlen ▸ h.lt_of_mem hc
  have huplt : ∀ c ∈ g.components, c.id < up.length := fun c hc => huplen ▸ h.lt_of_mem hc
  simp only [assignDepths, hdown, hup, writeDepths_eq hdownlt huplt]

end IsNumbered

/-- **The depth of components**: one lies deeper than `k` exactly when one of
its dependencies lies at `k` or deeper. -/
def IsDepth (g : Condensation) (depth : Nat → Nat) : Prop :=
  ∀ c ∈ g.components, ∀ k,
    k < depth c.id ↔ ∃ e ∈ g.components, e.id ∈ c.dependencies ∧ k ≤ depth e.id

/-! ## The quotient of an import map -/

namespace IsQuotientOf

/-- A quotient is numbered. -/
theorem isNumbered (h : g.IsQuotientOf m) : g.IsNumbered where
  id_eq := h.id_eq
  dependency_lt {c d} hc hd := by
    obtain ⟨i, hi⟩ := List.getElem?_of_mem hc
    have hlt := h.dependency_lt hc hd
    rw [h.id_eq hi] at hlt
    exact Nat.lt_trans hlt (List.getElem?_eq_some_iff.mp hi).1
  dependent_lt hc hd := by
    obtain ⟨e, he, -⟩ := (h.mem_dependents hc).mp hd
    exact (List.getElem?_eq_some_iff.mp he).1

/-- In a quotient, to be needed is to be depended on. -/
theorem isNeededBy_iff (h : g.IsQuotientOf m) : g.IsNeededBy d i ↔ g.DependsOn i d := by
  constructor
  · rintro ⟨c, hc, hi⟩
    obtain ⟨e, he, hd⟩ := (h.mem_dependents (List.mem_of_getElem? hc)).mp hi
    exact ⟨e, he, by rwa [h.id_eq hc] at hd⟩
  · rintro ⟨e, he, hd⟩
    obtain ⟨f, -, t, -, ht⟩ := ((h.mem_dependencies (List.mem_of_getElem? he)).mp hd).2
    obtain ⟨c, hc, -⟩ := h.componentOf?_iff.mp ht
    refine ⟨c, hc, (h.mem_dependents (List.mem_of_getElem? hc)).mpr ⟨e, he, ?_⟩⟩
    rwa [h.id_eq hc]

/-- The two tables of a quotient hold the same edges. -/
theorem mirrored (h : g.IsQuotientOf m) : Mirrored g.dependencyTable g.dependentTable := by
  refine .of_nodup (by rw [length_dependencyTable, length_dependentTable]) (fun row hrow => ?_)
    (fun row hrow => ?_) fun {i j} => ?_
  · obtain ⟨c, hc, rfl⟩ := List.mem_map.mp hrow
    exact (h.pairwise_dependencies hc).imp Nat.ne_of_lt
  · obtain ⟨c, hc, rfl⟩ := List.mem_map.mp hrow
    exact (h.pairwise_dependents hc).imp Nat.ne_of_lt
  · exact liesBelow_dependentTable.trans (h.isNeededBy_iff.trans liesBelow_dependencyTable.symm)

/-- The edges of a quotient lead to lower numbers. -/
theorem lt_of_dependsOn (h : g.IsQuotientOf m) (hd : g.DependsOn i d) : d < i := by
  obtain ⟨c, hc, hd⟩ := hd
  exact h.id_eq hc ▸ h.dependency_lt (List.mem_of_getElem? hc) hd

/-- Every way down a quotient ends, since it leads to lower numbers. -/
theorem acc_dependencyTable (h : g.IsQuotientOf m) (i : Nat) :
    Acc (LiesBelow g.dependencyTable) i :=
  Subrelation.accessible
    (fun {_ _} hd => h.lt_of_dependsOn (liesBelow_dependencyTable.mp hd)) (Nat.lt_wfRel.wf.apply i)

/-- Every way up a quotient ends, since there are no more numbers. -/
theorem acc_dependentTable (h : g.IsQuotientOf m) (i : Nat) :
    Acc (LiesBelow g.dependentTable) i := by
  refine Subrelation.accessible (fun {d i} hd => ?_)
    (InvImage.accessible (g.components.length - ·) (Nat.lt_wfRel.wf.apply _))
  have hneeded := liesBelow_dependentTable.mp hd
  have hlt : i < d := h.lt_of_dependsOn (h.isNeededBy_iff.mp hneeded)
  obtain ⟨c, hc, hdc⟩ := hneeded
  have hbound : d < g.components.length := h.isNumbered.dependent_lt (List.mem_of_getElem? hc) hdc
  change g.components.length - d < g.components.length - i
  omega

/-- A quotient is found to be acyclic. -/
theorem verifyAcyclic_eq (h : g.IsQuotientOf m) : g.verifyAcyclic = .ok () := by
  obtain ⟨s, left, hs, hp, hverify⟩ := h.isNumbered.verifyAcyclic_eq
  obtain ⟨s', left', hs', -, -, hstuck⟩ := h.mirrored.settle_depths
  cases hs.symm.trans hs'
  rw [hverify, if_pos]
  exact List.eq_nil_iff_forall_not_mem.mpr fun i hi =>
    ((hstuck i).mp hi).2 (h.acc_dependencyTable i)

/-- **Layering a quotient** writes onto each component its depth. -/
theorem layer_ok (h : g.IsQuotientOf m) :
    ∃ (layered : Condensation) (depth height : Nat → Nat),
      g.layer = .ok layered ∧ g.IsDepth depth ∧
        layered.components =
          g.components.map fun c => { c with depth := some ⟨depth c.id, height c.id⟩ } := by
  obtain ⟨down, hdown, hlen, hdepth⟩ :=
    layerDepths_ok h.mirrored fun i _ => h.acc_dependencyTable i
  obtain ⟨up, hup, huplen, -⟩ := layerDepths_ok h.mirrored.symm fun i _ => h.acc_dependentTable i
  have hassigned := h.isNumbered.assignDepths_eq hdown hup
    (hlen.trans g.length_dependencyTable) (huplen.trans g.length_dependentTable)
  refine ⟨_, (down.getD · 0), (up.getD · 0), by rw [layer, hassigned], fun c hc k => ?_, rfl⟩
  obtain ⟨i, hi⟩ := List.getElem?_of_mem hc
  have hrow : g.dependencyTable[i]? = some c.dependencies := by
    rw [dependencyTable, List.getElem?_map, hi, Option.map_some]
  rw [h.id_eq hi, hdepth hrow]
  constructor
  · rintro ⟨d, hd, hk⟩
    obtain ⟨-, e, he, -⟩ := (h.mem_dependencies_iff hc).mp hd
    refine ⟨e, List.mem_of_getElem? he, ?_, ?_⟩
    · rwa [h.id_eq he]
    · rwa [h.id_eq he]
  · rintro ⟨e, -, hid, hk⟩
    exact ⟨e.id, hid, hk⟩

/-- A quotient can be layered. -/
theorem exists_layer (h : g.IsQuotientOf m) : ∃ l, g.layer = .ok l :=
  h.layer_ok.elim fun l hl => ⟨l, hl.elim fun _ hl => hl.elim fun _ hl => hl.1⟩

end IsQuotientOf

end Condensation

/-- **The condensation is the quotient, in topological order.** Its components
are the classes of files that import each other, each at the position of its
number; the edges between them are the imports that leave a class, recorded
both ways and strictly ascending, and lead to lower numbers. So it is found
acyclic, and it can be layered. -/
theorem condense_quotient_acyclic (m : ImportMap) :
    m.condense.components.map (·.files) = m.classes ∧
    (∀ f, (m.condense.componentOf? f).isSome ↔ f ∈ m.rows.map (·.1)) ∧
    (∀ f i, m.condense.componentOf? f = some i ↔
      ∃ c, m.condense.components[i]? = some c ∧ f ∈ c.files) ∧
    (∀ f ∈ m.rows.map (·.1), ∀ t,
      m.condense.componentOf? f = m.condense.componentOf? t ↔ m.digraph.Mutual f t) ∧
    (∀ (i : Nat) (c : Component), m.condense.components[i]? = some c →
      c.id = i ∧
      c.dependencies.Pairwise (· < ·) ∧
      (∀ d, d ∈ c.dependencies ↔ d ≠ i ∧
        ∃ e, m.condense.components[d]? = some e ∧
          ∃ f ∈ c.files, ∃ t ∈ m.targets f, t ∈ e.files) ∧
      (∀ d ∈ c.dependencies, d < i) ∧
      c.dependents.Pairwise (· < ·) ∧
      ∀ d, d ∈ c.dependents ↔ ∃ e, m.condense.components[d]? = some e ∧ i ∈ e.dependencies) ∧
    m.condense.verifyAcyclic = .ok () ∧
    ∃ l, m.condense.layer = .ok l := by
  have h := m.isQuotientOf_condense
  refine ⟨m.map_files_components, fun f => ?_, fun f i => h.componentOf?_iff,
    fun f hf t => h.componentOf?_eq_iff (ImportMap.mem_files.mpr hf), fun i c hi => ?_,
    h.verifyAcyclic_eq, h.exists_layer⟩
  · rw [h.isSome_componentOf?, ImportMap.mem_files]
  · have hc := List.mem_of_getElem? hi
    obtain rfl := h.id_eq hi
    exact ⟨rfl, h.pairwise_dependencies hc, fun d => h.mem_dependencies_iff hc,
      fun d => h.dependency_lt hc, h.pairwise_dependents hc, fun d => h.mem_dependents hc⟩

end Ratchet.Graph
