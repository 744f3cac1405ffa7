import Mathlib.Data.List.Chain
import Mathlib.Data.List.MinMax
import Ratchet.Proofs.Graph.Cycles

/-!
# Longest chains

The depth of a node is the length of the longest chain that leads down from it.
That a node lies deeper than `k` exactly when something below it lies at `k` or
deeper says both that there is a chain of this length and that there is no longer
one. So layering a condensation without a cycle writes the longest chains of
dependencies and of dependents onto its components, and where there is a cycle it
leaves them as they were.

* `IsDepth.isLongestChain`: depths are the lengths of longest chains.
* `IsDepth.eq_max`: the depth of a node by those of the nodes below it.
* `assignDepths_longest_chains`: what layering returns and writes.
-/

namespace Ratchet.Graph

/-- **A longest chain**: `n` steps can be made from a node, and no more. -/
structure IsLongestChain (r : Nat → Nat → Prop) (i n : Nat) : Prop where
  /-- There is a chain of so many steps. -/
  exists_chain : ∃ nodes, (i :: nodes).IsChain r ∧ nodes.length = n
  /-- No chain makes more steps. -/
  length_le {nodes : List Nat} : (i :: nodes).IsChain r → nodes.length ≤ n

namespace IsDepth

variable {below : List (List Nat)} {depth : Nat → Nat} {i : Nat} {row nodes : List Nat}

/-- **No chain is longer** than the depth of the node it starts at. -/
theorem length_le (h : IsDepth below depth)
    (hchain : (i :: nodes).IsChain fun i d => LiesBelow below d i) : nodes.length ≤ depth i := by
  induction nodes generalizing i with
  | nil => exact Nat.zero_le _
  | cons d nodes ih =>
    obtain ⟨hd, hrest⟩ := List.isChain_cons_cons.mp hchain
    obtain ⟨row, hrow, hd⟩ := mem_getD_iff.mp hd
    exact (h hrow nodes.length).mpr ⟨d, hd, ih hrest⟩

/-- **A chain as long as the depth** leads on through a node that is one less deep. -/
theorem exists_chain (h : IsDepth below depth)
    (hrange : ∀ {d i}, LiesBelow below d i → d < below.length) {n : Nat} (hi : i < below.length)
    (hn : depth i = n) :
    ∃ nodes, (i :: nodes).IsChain (fun i d => LiesBelow below d i) ∧ nodes.length = n := by
  induction n generalizing i with
  | zero => exact ⟨[], .singleton i, rfl⟩
  | succ k ih =>
    have hrow : below[i]? = some below[i] := List.getElem?_eq_getElem hi
    obtain ⟨d, hd, hk⟩ := (h hrow k).mp (by omega)
    have hlt : depth d < depth i := (h hrow (depth d)).mpr ⟨d, hd, Nat.le_refl _⟩
    have hbelow : LiesBelow below d i := (liesBelow_iff hrow).mpr hd
    obtain ⟨nodes, hchain, hlen⟩ := ih (hrange hbelow) (by omega)
    exact ⟨d :: nodes, .cons_cons hbelow hchain, by rw [List.length_cons, hlen]⟩

/-- **Depths are the lengths of longest chains.** -/
theorem isLongestChain (h : IsDepth below depth)
    (hrange : ∀ {d i}, LiesBelow below d i → d < below.length) (hi : i < below.length) :
    IsLongestChain (fun i d => LiesBelow below d i) i (depth i) :=
  ⟨h.exists_chain hrange hi rfl, h.length_le⟩

/-- **A depth by the depths below**: nought where nothing lies below, elsewhere one
more than the greatest of them. -/
theorem eq_max (h : IsDepth below depth) (hrow : below[i]? = some row) :
    depth i = (row.map depth).max?.elim 0 (· + 1) := by
  have hlt := h hrow
  cases hmax : (row.map depth).max? with
  | none =>
    obtain rfl : row = [] := by simpa [List.max?_eq_none_iff] using hmax
    have hzero : ¬ 0 < depth i := by simp [hlt]
    simpa using hzero
  | some m =>
    obtain ⟨hmem, hle⟩ := List.max?_eq_some_iff.mp hmax
    obtain ⟨d, hd, rfl⟩ := List.mem_map.mp hmem
    have hdeep : depth d < depth i := (hlt _).mpr ⟨d, hd, Nat.le_refl _⟩
    have hnot : ¬ depth d + 1 < depth i := fun hmore => by
      obtain ⟨e, he, hk⟩ := (hlt _).mp hmore
      have := hle _ (List.mem_map_of_mem he)
      omega
    change depth i = depth d + 1
    omega

end IsDepth

namespace Condensation

variable {g : Condensation} {depth : Nat → Nat} {c : Component} {d i : Nat}

theorem isNeededBy_iff_of_mirrored (hm : Mirrored g.dependencyTable g.dependentTable) :
    g.IsNeededBy d i ↔ g.DependsOn i d := by
  rw [← liesBelow_dependentTable, ← liesBelow_dependencyTable]
  exact hm.mem_iff

/-- Where dependencies and dependents agree, to be needed is to depend, read backwards. -/
theorem isNeededBy_eq_of_mirrored (hm : Mirrored g.dependencyTable g.dependentTable) :
    g.IsNeededBy = flip g.DependsOn := by
  funext d i
  exact propext (isNeededBy_iff_of_mirrored hm)

theorem liesBelow_dependentTable_eq (g : Condensation) :
    LiesBelow g.dependentTable = flip g.IsNeededBy := by
  funext d i
  exact propext liesBelow_dependentTable

variable (h : g.IsNumbered)

include h

/-- Without a cycle every way down ends. -/
theorem IsNumbered.acc_dependencyTable (hnone : ¬ g.HasCycle) (i : Nat) :
    Acc (LiesBelow g.dependencyTable) i :=
  h.acc_iff_not_reachesCycle.mpr fun ⟨c, _, hcycle⟩ => hnone ⟨c, hcycle⟩

/-- Without a cycle every way up ends, since a cycle read backwards is one. -/
theorem IsNumbered.acc_dependentTable (hm : Mirrored g.dependencyTable g.dependentTable)
    (hnone : ¬ g.HasCycle) (i : Nat) : Acc (LiesBelow g.dependentTable) i := by
  rw [g.liesBelow_dependentTable_eq]
  refine (Graph.acc_iff_not_reachesCycle (n := g.components.length) fun {i d} hd => ?_).mpr ?_
  · obtain ⟨c, hc, hd⟩ := hd
    exact h.dependent_lt (List.mem_of_getElem? hc) hd
  · rintro ⟨c, -, hcycle⟩
    rw [isNeededBy_eq_of_mirrored hm] at hcycle
    exact hnone ⟨c, Relation.transGen_swap.mp hcycle⟩

/-- **Layering writes longest chains, or nothing.** Take components that stand at
the positions of their numbers and that list the edges between them both ways, each
as often. If no component depends on itself, then layering returns for every number,
and writes onto every component, how long the longest chain of dependencies is that
starts there, and the longest chain of dependents; each is nought where there is no
such neighbour, and elsewhere one more than the greatest among the neighbours. If
there is a cycle, layering fails, and the components are as they were. -/
theorem assignDepths_longest_chains (hm : Mirrored g.dependencyTable g.dependentTable) :
    (¬ g.HasCycle → ∃ depth height : Nat → Nat,
      g.assignDepths =
        (.ok (g.components.map fun c => (c.id, ⟨depth c.id, height c.id⟩)),
          { g with components := g.components.map fun c =>
              { c with depth := some ⟨depth c.id, height c.id⟩ } }) ∧
      ∀ c ∈ g.components,
        IsLongestChain g.DependsOn c.id (depth c.id) ∧
        IsLongestChain g.IsNeededBy c.id (height c.id) ∧
        depth c.id = (c.dependencies.map depth).max?.elim 0 (· + 1) ∧
        height c.id = (c.dependents.map height).max?.elim 0 (· + 1)) ∧
    (g.HasCycle → ∃ count, g.assignDepths = (.error (.notLayered count), g)) := by
  constructor
  · intro hnone
    obtain ⟨down, hdown, hdownlen, hdepth⟩ :=
      layerDepths_ok hm fun i _ => h.acc_dependencyTable hnone i
    obtain ⟨up, hup, huplen, hheight⟩ :=
      layerDepths_ok hm.symm fun i _ => h.acc_dependentTable hm hnone i
    refine ⟨(down.getD · 0), (up.getD · 0), h.assignDepths_eq hdown hup
      (hdownlen.trans g.length_dependencyTable) (huplen.trans g.length_dependentTable),
      fun c hc => ?_⟩
    have hget := h.getElem?_of_mem hc
    have hrow : g.dependencyTable[c.id]? = some c.dependencies := by
      rw [dependencyTable, List.getElem?_map, hget, Option.map_some]
    have hcol : g.dependentTable[c.id]? = some c.dependents := by
      rw [dependentTable, List.getElem?_map, hget, Option.map_some]
    have hchain := hdepth.isLongestChain hm.lt_of_liesBelow (List.getElem?_eq_some_iff.mp hrow).1
    have hchain' :=
      hheight.isLongestChain hm.symm.lt_of_liesBelow (List.getElem?_eq_some_iff.mp hcol).1
    rw [g.liesBelow_dependencyTable_eq] at hchain
    rw [g.liesBelow_dependentTable_eq] at hchain'
    exact ⟨hchain, hchain', hdepth.eq_max hrow, hheight.eq_max hcol⟩
  · rintro ⟨i, hi⟩
    have hreaches : ReachesCycle g.DependsOn i := ⟨i, .refl, hi⟩
    have hlt : i < g.dependencyTable.length := by
      rw [length_dependencyTable]
      exact lt_length_of_reachesCycle hreaches
    obtain ⟨count, hfail⟩ := layerDepths_eq_error hm hlt fun hacc =>
      h.acc_iff_not_reachesCycle.mp hacc hreaches
    exact ⟨count, by simp only [assignDepths, hfail]⟩

omit h

/-- Three components in a chain, of which the second lists the first twice. -/
def doubled : Condensation where
  components := [
    { id := 0, files := ["a"], dependencies := [], dependents := [1, 2, 1] },
    { id := 1, files := ["b"], dependencies := [0, 0], dependents := [2] },
    { id := 2, files := ["c"], dependencies := [1, 0], dependents := [] }]

/-- A dependency that is listed twice makes no cycle. -/
theorem not_hasCycle_doubled : ¬ doubled.HasCycle := by
  have hlower : ∀ c ∈ doubled.components, ∀ d ∈ c.dependencies, d < c.id := by decide
  have hnumbered : doubled.IsNumbered := by decide
  have hlt : ∀ {i d}, doubled.DependsOn i d → d < i := by
    rintro i d ⟨c, hc, hd⟩
    exact hnumbered.id_eq hc ▸ hlower c (List.mem_of_getElem? hc) d hd
  rintro ⟨i, hi⟩
  have hdown : ∀ {d}, Relation.TransGen doubled.DependsOn i d → d < i := by
    intro d hd
    induction hd with
    | single hd => exact hlt hd
    | tail _ hd ih => exact (hlt hd).trans ih
  exact (hdown hi).false

/-- The chain is layered, and components that need each other stay as they are. -/
theorem doubled_is_layered :
    (∃ layered, doubled.assignDepths =
        (.ok [(0, ⟨0, 2⟩), (1, ⟨1, 1⟩), (2, ⟨2, 0⟩)], layered) ∧
      IsLongestChain doubled.DependsOn 2 2 ∧ IsLongestChain doubled.IsNeededBy 0 2) ∧
    ∃ count, tangled.assignDepths = (.error (.notLayered count), tangled) := by
  constructor
  · obtain ⟨depth, height, hassigned, hchains⟩ :=
      (assignDepths_longest_chains (g := doubled) (by decide) (by decide)).1 not_hasCycle_doubled
    have hfirst : doubled.assignDepths.1 = .ok [(0, ⟨0, 2⟩), (1, ⟨1, 1⟩), (2, ⟨2, 0⟩)] := by
      decide +kernel
    have hwritten := hfirst
    rw [hassigned] at hwritten
    simp only [doubled, List.map_cons, List.map_nil, Except.ok.injEq, List.cons.injEq,
      Prod.mk.injEq, true_and, Depth.mk.injEq, and_true] at hwritten
    obtain ⟨⟨-, hup⟩, -, hdown, -⟩ := hwritten
    refine ⟨doubled.assignDepths.2, Prod.ext hfirst rfl, ?_, ?_⟩
    · have htop : IsLongestChain doubled.DependsOn 2 (depth 2) :=
        (hchains doubled.components[2] (List.getElem_mem _)).1
      rwa [hdown] at htop
    · have hbottom : IsLongestChain doubled.IsNeededBy 0 (height 0) :=
        (hchains doubled.components[0] (List.getElem_mem _)).2.1
      rwa [hup] at hbottom
  · exact (assignDepths_longest_chains (g := tangled) (by decide) (by decide)).2
      hasCycle_tangled

end Condensation

end Ratchet.Graph
