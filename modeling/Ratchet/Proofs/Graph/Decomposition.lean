import Ratchet.Graph.Digraph

/-!
# Decompositions of a graph

A list of classes decomposes a graph when each class is mutually reachable and
every edge out of a class leads to a class before it. Then the classes are
those of mutual reachability, each of them whole, and edges never lead to a
later one.
-/

namespace Ratchet.Graph

variable {α : Type}

/-- Classes, the latest first: each of mutually reachable vertices, and no
edge leads out of one but to an earlier one. -/
inductive Digraph.Decomposes (g : Digraph α) : List (List α) → Prop
  | nil : Decomposes g []
  | cons {c : List α} {cs : List (List α)} :
      c ≠ [] → (∀ x ∈ c, ∀ y ∈ c, g.Mutual x y) →
      (∀ x ∈ c, ∀ t, g.Edge x t → t ∈ c ∨ t ∈ cs.flatten) →
      Decomposes g cs → Decomposes g (c :: cs)

namespace Digraph

variable {g : Digraph α} {c : List α} {cs : List (List α)} {u v : α}

/-- An edge leads out of some classes but to themselves. -/
theorem Decomposes.mem_of_edge (h : g.Decomposes cs) (he : g.Edge u v)
    (hu : u ∈ cs.flatten) : v ∈ cs.flatten := by
  induction h with
  | nil => cases hu
  | cons _ _ hedge _ ih =>
    rw [List.flatten_cons, List.mem_append] at hu ⊢
    rcases hu with hu | hu
    · exact hedge u hu v he
    · exact .inr (ih hu)

/-- What is reached from a decomposed part is in it. -/
theorem Decomposes.mem_of_reaches (h : g.Decomposes cs) (hr : g.Reaches u v)
    (hu : u ∈ cs.flatten) : v ∈ cs.flatten := by
  induction hr with
  | refl _ => exact hu
  | step he _ ih => exact ih (h.mem_of_edge he hu)

/-- A class of a decomposition is not empty. -/
theorem Decomposes.ne_nil (h : g.Decomposes cs) : ∀ c ∈ cs, c ≠ [] := by
  induction h with
  | nil => simp
  | cons hne _ _ _ ih =>
    intro d hd
    rcases List.mem_cons.mp hd with rfl | hd
    · exact hne
    · exact ih d hd

/-- **The classes are those of mutual reachability.** -/
theorem Decomposes.mutual_iff (h : g.Decomposes cs) (hnd : cs.flatten.Nodup)
    (hu : u ∈ cs.flatten) : (∃ c ∈ cs, u ∈ c ∧ v ∈ c) ↔ g.Mutual u v := by
  induction h with
  | nil => cases hu
  | @cons c cs _ hjoined hedge hcs ih =>
    rw [List.flatten_cons, List.nodup_append] at hnd
    obtain ⟨-, hndcs, hdisj⟩ := hnd
    constructor
    · rintro ⟨d, hd, hud, hvd⟩
      rcases List.mem_cons.mp hd with rfl | hd
      · exact hjoined u hud v hvd
      · exact (ih hndcs (List.mem_flatten_of_mem hd hud)).mp ⟨d, hd, hud, hvd⟩
    · intro hm
      have hv := (Decomposes.cons ‹_› hjoined hedge hcs).mem_of_reaches hm.1 hu
      rw [List.flatten_cons, List.mem_append] at hu hv
      -- what reaches an earlier class from both sides would lie in it
      have hboth : u ∈ c ↔ v ∈ c := by
        constructor
        · intro huc
          refine hv.resolve_right fun hvcs => ?_
          exact hdisj u huc u (hcs.mem_of_reaches hm.2 hvcs) rfl
        · intro hvc
          refine hu.resolve_right fun hucs => ?_
          exact hdisj v hvc v (hcs.mem_of_reaches hm.1 hucs) rfl
      rcases hu with hu | hu
      · exact ⟨c, .head _, hu, hboth.mp hu⟩
      · obtain ⟨d, hd, hud, hvd⟩ := (ih hndcs hu).mpr hm
        exact ⟨d, .tail _ hd, hud, hvd⟩

/-- **An edge leads to no later class**, in the order in which they are closed. -/
theorem Decomposes.edge_le (h : g.Decomposes cs) {i : Nat} (hi : cs.reverse[i]? = some c)
    (hu : u ∈ c) (he : g.Edge u v) : ∃ j ≤ i, ∃ d, cs.reverse[j]? = some d ∧ v ∈ d := by
  induction h generalizing i with
  | nil => cases hi
  | @cons c' cs _ _ hedge hcs ih =>
    rw [List.reverse_cons, List.getElem?_append] at hi
    split at hi
    · rename_i hlt
      obtain ⟨j, hj, d, hd, hvd⟩ := ih hi
      refine ⟨j, hj, d, ?_, hvd⟩
      rw [List.reverse_cons, List.getElem?_append_left (by omega)]
      exact hd
    · rename_i hge
      rw [List.getElem?_singleton] at hi
      split at hi
      · cases hi
        obtain rfl : i = cs.reverse.length := by omega
        rcases hedge u hu v he with hvc | hvcs
        · exact ⟨cs.reverse.length, Nat.le_refl _, c, by simp, hvc⟩
        · obtain ⟨d, hd, hvd⟩ := List.mem_flatten.mp hvcs
          obtain ⟨j, hj, hjd⟩ := List.getElem_of_mem (List.mem_reverse.mpr hd)
          refine ⟨j, by omega, d, ?_, hvd⟩
          rw [List.reverse_cons, List.getElem?_append_left hj, List.getElem?_eq_getElem hj, hjd]
      · cases hi

end Digraph

end Ratchet.Graph
