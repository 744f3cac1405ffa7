import Mathlib.Data.List.Nodup
import Mathlib.Data.List.Perm.Basic
import Ratchet.Graph.Condensation
import Ratchet.Proofs.Graph.Walk

/-!
# The classes of an import map

The classes of an import map are those that the walk through its files
closes, each sorted. They hold every file once, two files share a class when
each imports the other by some chain, and an import leads to no later class.
-/

namespace Ratchet.Graph

namespace ImportMap

variable {m : ImportMap} {c : List String} {f t : String} {i j : Nat}

theorem mem_files : f ∈ m.files ↔ f ∈ m.rows.map (·.1) :=
  mem_ascending

/-! ## Sorting -/

/-- Sorting different strings makes them strictly ascending. -/
theorem pairwise_sort {l : List String} (h : l.Nodup) :
    (l.mergeSort (· ≤ ·)).Pairwise (· < ·) := by
  have hle : (l.mergeSort (· ≤ ·)).Pairwise fun a b => decide (a ≤ b) = true :=
    List.pairwise_mergeSort (fun a b c hab hbc => by
        simp only [decide_eq_true_eq] at hab hbc ⊢
        exact String.le_trans hab hbc)
      (fun a b => by simpa using String.le_total a b) l
  have hnd : (l.mergeSort (· ≤ ·)).Nodup := (List.mergeSort_perm l _).nodup_iff.mpr h
  refine (hle.and hnd).imp fun {a b} hab => ?_
  have hle : a ≤ b := by simpa using hab.1
  exact Std.lt_of_le_of_ne hle hab.2

/-! ## The classes -/

theorem classes_eq (m : ImportMap) :
    m.classes = m.digraph.classes.map fun c => c.mergeSort (· ≤ ·) :=
  rfl

theorem flatten_classes_perm (m : ImportMap) :
    m.classes.flatten.Perm m.digraph.classes.reverse.flatten := by
  rw [classes_eq]
  refine (List.Perm.flatten_congr ?_).trans (List.reverse_perm _).symm.flatten
  rw [List.forall₂_map_left_iff]
  exact List.forall₂_same.mpr fun c _ => List.mergeSort_perm c _

theorem nodup_classes (m : ImportMap) : m.classes.flatten.Nodup :=
  m.flatten_classes_perm.nodup_iff.mpr m.digraph.nodup_flatten_classes

theorem mem_classes : f ∈ m.classes.flatten ↔ f ∈ m.files :=
  m.flatten_classes_perm.mem_iff.trans Digraph.mem_flatten_classes

theorem nodup_of_mem_classes (hc : c ∈ m.digraph.classes) : c.Nodup :=
  (List.nodup_flatten.mp m.digraph.nodup_flatten_classes).1 c (List.mem_reverse.mpr hc)

/-- A class has a file. -/
theorem ne_nil_of_mem_classes (hc : c ∈ m.classes) : c ≠ [] := by
  obtain ⟨d, hd, rfl⟩ := List.mem_map.mp hc
  have hne := m.digraph.decomposes_classes.ne_nil d (List.mem_reverse.mpr hd)
  rw [← List.length_pos_iff, List.length_mergeSort]
  exact List.length_pos_iff.mpr hne

theorem pairwise_of_mem_classes (hc : c ∈ m.classes) : c.Pairwise (· < ·) := by
  obtain ⟨d, hd, rfl⟩ := List.mem_map.mp hc
  exact pairwise_sort (nodup_of_mem_classes hd)

/-- **Two files share a class when each reaches the other.** -/
theorem mutual_iff (hf : f ∈ m.files) :
    (∃ c ∈ m.classes, f ∈ c ∧ t ∈ c) ↔ m.digraph.Mutual f t := by
  rw [← m.digraph.decomposes_classes.mutual_iff m.digraph.nodup_flatten_classes
    (Digraph.mem_flatten_classes.mpr hf)]
  simp [classes_eq]

/-- **An import leads to no later class.** -/
theorem edge_le (hi : m.classes[i]? = some c) (hf : f ∈ c) (he : m.digraph.Edge f t) :
    ∃ j ≤ i, ∃ d, m.classes[j]? = some d ∧ t ∈ d := by
  rw [classes_eq, List.getElem?_map, Option.map_eq_some_iff] at hi
  obtain ⟨c, hc, rfl⟩ := hi
  rw [← List.reverse_reverse m.digraph.classes] at hc
  obtain ⟨j, hj, d, hd, ht⟩ :=
    m.digraph.decomposes_classes.edge_le hc (List.mem_mergeSort.mp hf) he
  rw [List.reverse_reverse] at hd
  exact ⟨j, hj, d.mergeSort (· ≤ ·), by simp [classes_eq, hd], by simpa using ht⟩

/-- **The walk finds the classes.** It ends, never popping from an empty stack;
the classes are strictly ascending and not empty, hold every file once and
nothing else, and are those of mutual reachability along imports. -/
theorem walk_finds_classes (m : ImportMap) :
    (∃ w closed, Walk.Steps m.digraph (Walk.start m.digraph) w ∧
      w.step m.digraph = .done closed ∧ m.classes = closed.map (·.mergeSort (· ≤ ·))) ∧
    (∀ c ∈ m.classes, c ≠ [] ∧ c.Pairwise (· < ·)) ∧
    (∀ f, m.classes.flatten.count f = if f ∈ m.rows.map (·.1) then 1 else 0) ∧
    ∀ f ∈ m.rows.map (·.1), ∀ t ∈ m.rows.map (·.1),
      (∃ c ∈ m.classes, f ∈ c ∧ t ∈ c) ↔ m.digraph.Mutual f t := by
  refine ⟨?_, fun c hc => ⟨ne_nil_of_mem_classes hc, pairwise_of_mem_classes hc⟩, fun f => ?_,
    fun f hf t _ => mutual_iff (mem_files.mpr hf)⟩
  · obtain ⟨w, hsteps, hdone⟩ := m.digraph.exists_steps_classes
    exact ⟨w, _, hsteps, hdone, m.classes_eq⟩
  · rw [List.Nodup.count m.nodup_classes]
    simp only [mem_classes, mem_files]

end ImportMap

end Ratchet.Graph
