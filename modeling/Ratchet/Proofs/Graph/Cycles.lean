import Mathlib.Data.Fintype.EquivFin
import Mathlib.Logic.Relation
import Ratchet.Proofs.Graph.Layers

/-!
# Cycles

A way down that does not end runs into a cycle, since there are finitely many
nodes. So the components that are stuck when the queue runs empty are, where
dependencies and dependents agree, those from which a cycle can be reached, and
whatever the two say, the check for cycles finds the same components stuck as
layering does.

* `acc_iff_not_reachesCycle`: every way ends where no cycle can be reached.
* `verifyAcyclic_exact`: when the check for cycles fails, and what it names.
-/

namespace Ratchet.Graph

/-- A cycle can be reached by the steps of a relation. -/
def ReachesCycle (r : Nat → Nat → Prop) (i : Nat) : Prop :=
  ∃ c, Relation.ReflTransGen r i c ∧ Relation.TransGen r c c

variable {r : Nat → Nat → Prop} {n i : Nat}

/-- No way that ends comes back to where it was. -/
theorem not_transGen_self_of_acc (h : Acc (flip r) i) : ¬ Relation.TransGen r i i := by
  intro hcycle
  have hacc : Acc (Relation.TransGen (flip r)) i := h.transGen
  induction hacc with
  | intro i _ ih => exact ih i (Relation.transGen_swap.mpr hcycle) h hcycle

/-- **Every way ends where no cycle can be reached**, in a relation that leads to
finitely many nodes. -/
theorem acc_iff_not_reachesCycle (hr : ∀ {i d}, r i d → d < n) :
    Acc (flip r) i ↔ ¬ ReachesCycle r i := by
  constructor
  · rintro hacc ⟨c, hreach, hcycle⟩
    have hc : Acc (flip r) c := by
      clear hcycle
      induction hreach with
      | refl => exact hacc
      | tail _ hstep ih => exact ih.inv hstep
    exact not_transGen_self_of_acc hc hcycle
  · intro hnone
    -- among the nodes that can be reached, to lie below is a strict order
    let below : Fin n → Fin n → Prop := fun d c =>
      Relation.ReflTransGen r i c ∧ Relation.TransGen r c d
    have : IsTrans (Fin n) below := ⟨fun _ _ _ h h' => ⟨h'.1, h'.2.trans h.2⟩⟩
    have : Std.Irrefl below := ⟨fun c h => hnone ⟨c, h⟩⟩
    have hwf : WellFounded below := Finite.wellFounded_of_trans_of_irrefl below
    have hacc : ∀ c : Fin n, Relation.ReflTransGen r i c → Acc (flip r) c := fun c =>
      hwf.induction (C := fun c => Relation.ReflTransGen r i c → Acc (flip r) c) c
        fun c ih hreach => ⟨_, fun d hd => ih ⟨d, hr hd⟩ ⟨hreach, .single hd⟩ (hreach.tail hd)⟩
    exact ⟨_, fun d hd => hacc ⟨d, hr hd⟩ (.single hd)⟩

namespace Condensation

variable {g : Condensation} {d : Nat}

/-- A component depends on itself, along one dependency or several. -/
def HasCycle (g : Condensation) : Prop :=
  ∃ i, Relation.TransGen g.DependsOn i i

theorem liesBelow_dependencyTable_eq (g : Condensation) :
    LiesBelow g.dependencyTable = flip g.DependsOn := by
  funext d i
  exact propext liesBelow_dependencyTable

theorem DependsOn.lt_length (h : g.DependsOn i d) : i < g.components.length := by
  obtain ⟨c, hc, -⟩ := h
  exact (List.getElem?_eq_some_iff.mp hc).1

theorem lt_length_of_reachesCycle (h : ReachesCycle g.DependsOn i) : i < g.components.length := by
  obtain ⟨c, hreach, hcycle⟩ := h
  obtain ⟨d, hd, -⟩ := Relation.TransGen.head'_iff.mp (hcycle.trans_right hreach)
  exact hd.lt_length

namespace IsNumbered

variable (h : g.IsNumbered)

include h

/-- Every way down a condensation ends where no cycle can be reached. -/
theorem acc_iff_not_reachesCycle :
    Acc (LiesBelow g.dependencyTable) i ↔ ¬ ReachesCycle g.DependsOn i := by
  rw [g.liesBelow_dependencyTable_eq]
  refine Graph.acc_iff_not_reachesCycle (n := g.components.length) fun {i d} hd => ?_
  obtain ⟨c, hc, hd⟩ := hd
  exact h.dependency_lt (List.mem_of_getElem? hc) hd

/-- **The check for cycles and layering agree**, whatever tables they are given:
both succeed, or the one names components and the other says how many. -/
theorem verifyAcyclic_cases :
    ∃ s, settle g.dependencyTable g.dependentTable = .ok s ∧
      (s.stuck = [] ∧ g.verifyAcyclic = .ok () ∧
          layerDepths g.dependencyTable g.dependentTable = .ok s.depth ∨
        s.stuck ≠ [] ∧ g.verifyAcyclic = .error (.cycleThrough s.stuck) ∧
          layerDepths g.dependencyTable g.dependentTable =
            .error (.notLayered s.stuck.length)) := by
  obtain ⟨s, left, hs, -, hverify⟩ := h.verifyAcyclic_eq
  refine ⟨s, hs, ?_⟩
  by_cases hstuck : s.stuck = []
  · rw [if_pos hstuck] at hverify
    refine .inl ⟨hstuck, hverify, ?_⟩
    simp [layerDepths, hs, hstuck, bind, Except.bind, pure, Except.pure]
  · rw [if_neg hstuck] at hverify
    refine .inr ⟨hstuck, hverify, ?_⟩
    simp [layerDepths, hs, hstuck, bind, Except.bind]

end IsNumbered

/-- **The check for cycles is exact.** Components that stand at the positions of
their numbers are checked for cycles to the end, and the check fails exactly when
layering by dependencies does, which counts the components that the check found
stuck. Where dependencies and dependents list the same edges, each as often, it
fails exactly when there is a cycle; then the components found are those from
which a cycle can be reached, in ascending order, and the first ten are named. -/
theorem verifyAcyclic_exact (g : Condensation) (h : g.IsNumbered) :
    (g.verifyAcyclic = .ok () ∧
        (∃ depths, layerDepths g.dependencyTable g.dependentTable = .ok depths) ∨
      ∃ ids, ids ≠ [] ∧ g.verifyAcyclic = .error (.cycleThrough ids) ∧
        layerDepths g.dependencyTable g.dependentTable = .error (.notLayered ids.length)) ∧
    (Mirrored g.dependencyTable g.dependentTable →
      (g.verifyAcyclic = .ok () ∧ ¬ g.HasCycle) ∨
      ∃ ids, g.verifyAcyclic = .error (.cycleThrough ids) ∧ g.HasCycle ∧
        ids.Pairwise (· < ·) ∧ (∀ i, i ∈ ids ↔ ReachesCycle g.DependsOn i) ∧
        (LayerFault.cycleThrough ids).message =
          "Condensed graph contains a cycle through components " ++ bracketed (ids.take 10)) := by
  obtain ⟨s, hs, hcases⟩ := h.verifyAcyclic_cases
  refine ⟨?_, fun hm => ?_⟩
  · rcases hcases with ⟨-, hverify, hlayer⟩ | ⟨hstuck, hverify, hlayer⟩
    · exact .inl ⟨hverify, s.depth, hlayer⟩
    · exact .inr ⟨s.stuck, hstuck, hverify, hlayer⟩
  · obtain ⟨s', left, hs', -, -, hmem⟩ := hm.settle_depths
    cases hs.symm.trans hs'
    have hreaches : ∀ i, i ∈ s.stuck ↔ ReachesCycle g.DependsOn i := fun i => by
      rw [hmem, length_dependencyTable, h.acc_iff_not_reachesCycle, not_not]
      exact and_iff_right_of_imp lt_length_of_reachesCycle
    rcases hcases with ⟨hstuck, hverify, -⟩ | ⟨hstuck, hverify, -⟩
    · refine .inl ⟨hverify, fun ⟨i, hi⟩ => ?_⟩
      have hin : i ∈ s.stuck := (hreaches i).mpr ⟨i, .refl, hi⟩
      simp [hstuck] at hin
    · obtain ⟨i, hi⟩ := List.exists_mem_of_ne_nil _ hstuck
      obtain ⟨c, -, hcycle⟩ := (hreaches i).mp hi
      exact .inr ⟨s.stuck, hverify, ⟨c, hcycle⟩, s.pairwise_stuck, hreaches, rfl⟩

/-- Two components that need each other, one that needs one of these, and one
that needs nothing. -/
def tangled : Condensation where
  components := [
    { id := 0, files := ["a"], dependencies := [1], dependents := [1, 2] },
    { id := 1, files := ["b"], dependencies := [0, 3], dependents := [0] },
    { id := 2, files := ["c"], dependencies := [0], dependents := [] },
    { id := 3, files := ["d"], dependencies := [], dependents := [1] }]

theorem hasCycle_tangled : tangled.HasCycle := by
  have hforth : tangled.DependsOn 0 1 := ⟨_, rfl, .head _⟩
  have hback : tangled.DependsOn 1 0 := ⟨_, rfl, .head _⟩
  exact ⟨0, .tail (.single hforth) hback⟩

/-- The component above the cycle is found with it, the one below is not. -/
theorem tangled_is_found :
    tangled.IsNumbered ∧ Mirrored tangled.dependencyTable tangled.dependentTable ∧
      tangled.verifyAcyclic = .error (.cycleThrough [0, 1, 2]) ∧ tangled.HasCycle ∧
      ∀ i, i ∈ [0, 1, 2] ↔ ReachesCycle tangled.DependsOn i := by
  have hnumbered : tangled.IsNumbered := by decide
  have hmirrored : Mirrored tangled.dependencyTable tangled.dependentTable := by decide
  have hfound : tangled.verifyAcyclic = .error (.cycleThrough [0, 1, 2]) := by decide +kernel
  rcases (verifyAcyclic_exact tangled hnumbered).2 hmirrored with
    ⟨hverify, -⟩ | ⟨ids, hverify, hcycle, -, hmem, -⟩
  · cases hfound.symm.trans hverify
  · cases hfound.symm.trans hverify
    exact ⟨hnumbered, hmirrored, hfound, hcycle, hmem⟩

end Condensation

end Ratchet.Graph
