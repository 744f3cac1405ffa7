import Mathlib
import Ratchet.Project.Report
import Ratchet.Proofs.Graph.Frontier

/-!
# The frontier in numbers

A report sums up the frontier by all files of its components, while the files
that are listed as candidates are the unchecked ones. The two numbers differ by
the checked files on the frontier, all of which lie in import cycles that are
checked in part.

* `length_files_eligible`: the files of the frontier, unchecked and checked.
* `eligibleFiles_report`: what a report says, what is listed, and when the two
  are the same.
-/

namespace Ratchet

namespace Graph

variable {g : Condensation} {c : Component} {checked : List String} {f : String}

/-- The files of a component that are checked. -/
def Component.checkedFiles (c : Component) (checked : List String) : List String :=
  c.files.filter checked.contains

theorem Component.mem_checkedFiles : f ∈ c.checkedFiles checked ↔ f ∈ c.files ∧ f ∈ checked := by
  simp [checkedFiles]

/-- The files of a component are the unchecked and the checked ones. -/
theorem Component.length_files (c : Component) (checked : List String) :
    c.files.length = (c.uncheckedFiles checked).length + (c.checkedFiles checked).length := by
  rw [Nat.add_comm, uncheckedFiles, checkedFiles, List.length_eq_length_filter_add checked.contains]

/-- **A component on the frontier with a checked file is an import cycle**: it has
an unchecked file as well. -/
theorem Condensation.isCycle_of_mem_checkedFiles (hc : c ∈ g.eligible checked)
    (hf : f ∈ c.checkedFiles checked) : c.isCycle = true := by
  obtain ⟨hfiles, hchecked⟩ := Component.mem_checkedFiles.mp hf
  have hopen := (List.mem_filter.mp hc).2
  rw [Bool.and_eq_true, Bool.not_eq_true', Component.isChecked_eq_false_iff] at hopen
  obtain ⟨⟨t, ht, hnot⟩, -⟩ := hopen
  have hne : f ≠ t := by
    rintro rfl
    exact hnot hchecked
  have hsub : [f, t].Subperm c.files :=
    List.subperm_of_subset (by simpa using hne) (by simp [hfiles, ht])
  exact decide_eq_true hsub.length_le

/-- What lies in no import cycle on the frontier is not checked. -/
theorem Condensation.checkedFiles_eq_nil (hc : c ∈ g.eligible checked) (hcycle : ¬ c.isCycle) :
    c.checkedFiles checked = [] :=
  List.eq_nil_iff_forall_not_mem.mpr fun _ hf => hcycle (isCycle_of_mem_checkedFiles hc hf)

/-- **The files of the frontier**: the unchecked ones, which are listed, and the
checked ones, which lie in its import cycles. -/
theorem Condensation.length_files_eligible (g : Condensation) (checked : List String) :
    ((g.eligible checked).flatMap (·.files)).length =
      (g.eligibleFiles checked).length +
        ((g.eligibleCycles checked).flatMap (·.checkedFiles checked)).length := by
  have hcount : ∀ cs : List Component,
      (∀ c ∈ cs, ¬ c.isCycle → c.checkedFiles checked = []) →
      (cs.flatMap (·.files)).length = (cs.flatMap (·.uncheckedFiles checked)).length +
        ((cs.filter (·.isCycle)).flatMap (·.checkedFiles checked)).length := by
    intro cs hnil
    induction cs with
    | nil => rfl
    | cons c cs ih =>
      have hrest := ih fun d hd => hnil d (.tail _ hd)
      have hfiles := c.length_files checked
      simp only [List.flatMap_cons, List.length_append, List.filter_cons]
      split
      · simp only [List.flatMap_cons, List.length_append]
        omega
      · rename_i hcycle
        rw [hnil c (.head _) hcycle, List.length_nil] at hfiles
        omega
  rw [eligibleFiles, List.length_mergeSort]
  exact hcount _ fun c hc => checkedFiles_eq_nil hc

end Graph

namespace Standing

open Json (Value)

/-- The candidates are the files that are eligible, in another order. -/
theorem length_candidates (s : Standing) : s.candidates.length = s.eligibleFiles.length := by
  rw [candidates, Graph.rankCandidates, List.length_mergeSort, List.length_map]

/-- **Two counts of the frontier.** The number of eligible files that a report sums
up is the number of files that are eligible, which are those that the candidates
list, and the number of checked files in import cycles on the frontier. So the two
agree exactly when no such cycle is checked in part. -/
theorem eligibleFiles_report (s : Standing) (root : Path) (counts : List (Nat × Int))
    (generated : String) :
    (s.report root counts generated).summary.lookup "eligible_files" =
      some (Value.ofInt (s.eligibleFiles.length +
        (s.eligibleCycles.flatMap (·.checkedFiles s.checked)).length : Nat)) ∧
    s.candidates.length = s.eligibleFiles.length ∧
    ((s.report root counts generated).eligibleFiles = s.eligibleFiles.length ↔
      ∀ c ∈ s.eligibleCycles, ∀ f ∈ c.files, f ∉ s.checked) := by
  have hsum : (s.report root counts generated).eligibleFiles = s.eligibleFiles.length +
      (s.eligibleCycles.flatMap (·.checkedFiles s.checked)).length :=
    Graph.Condensation.length_files_eligible _ _
  refine ⟨?_, s.length_candidates, ?_⟩
  · rw [← hsum]
    rfl
  · rw [hsum, Nat.add_eq_left, List.length_eq_zero_iff, List.flatMap_eq_nil_iff]
    refine forall₂_congr fun c _ => ?_
    rw [List.eq_nil_iff_forall_not_mem]
    simp only [Graph.Component.mem_checkedFiles, not_and]

/-- Two files that import each other, one of them checked. -/
def halfway : Standing where
  survey :=
    { files := ["a", "b"]
      graph := { imports := ⟨[("a", ["b"]), ("b", ["a"])]⟩ }
      components := Graph.ImportMap.condense ⟨[("a", ["b"]), ("b", ["a"])]⟩ }
  checked := ["a"]

theorem components_halfway : halfway.survey.components =
    ⟨[⟨0, ["a", "b"], [], [], none⟩], [("a", 0), ("b", 0)]⟩ := by
  have hsearch : (Graph.ImportMap.digraph ⟨[("a", ["b"]), ("b", ["a"])]⟩).classes =
      [["b", "a"]] := by cbv
  have hclasses : Graph.ImportMap.classes ⟨[("a", ["b"]), ("b", ["a"])]⟩ = [["a", "b"]] := by
    rw [Graph.ImportMap.classes, hsearch]
    simp [List.mergeSort, List.MergeSort.Internal.splitInTwo, List.splitAt, List.splitAt.go]
  unfold halfway Graph.ImportMap.condense
  rw [hclasses]
  cbv

/-- **A cycle that is checked in part** counts with all its files in the report,
and with one of them among the candidates. -/
theorem halfway_counts_differ :
    (halfway.report (.ofParts []) [] "").eligibleFiles = 2 ∧ halfway.eligibleFiles = ["b"] ∧
      halfway.candidates.length = 1 := by
  have heligible : halfway.eligible = [⟨0, ["a", "b"], [], [], none⟩] := by
    rw [eligible, components_halfway]
    rfl
  have hfiles : halfway.eligibleFiles = ["b"] := by
    have hopen : (Graph.Component.uncheckedFiles ⟨0, ["a", "b"], [], [], none⟩ halfway.checked) =
        ["b"] := rfl
    rw [eligibleFiles, Graph.Condensation.eligibleFiles, ← eligible, heligible,
      List.flatMap_singleton, hopen, List.mergeSort_singleton]
  refine ⟨?_, hfiles, ?_⟩
  · rw [report, heligible]
    rfl
  · rw [length_candidates, hfiles]
    rfl

end Standing

end Ratchet
