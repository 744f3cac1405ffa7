import Mathlib.Data.List.Nodup
import Ratchet.Graph.Condensation
import Ratchet.Proofs.Basic

/-!
# Tables

The tables that a condensation is built from: the number of the component of
each file, and rows of numbers for the edges between components.

* `lookup_filesByClass`: the file table finds the one class that holds a file.
* `reversedTable_spec`: reversing a table of edges gives the inverse relation.
-/

namespace Ratchet.Graph

/-! ## The table of files -/

section

variable {classes : List (List String)} {c d : List String} {f : String} {i j : Nat}

/-- The file table has each file with the position of its class. -/
theorem mem_filesByClass :
    (f, i) ∈ filesByClass classes ↔ ∃ c, classes[i]? = some c ∧ f ∈ c := by
  simp only [filesByClass, List.mem_flatten, List.mem_mapIdx]
  constructor
  · rintro ⟨_, ⟨k, hk, rfl⟩, hmem⟩
    obtain ⟨f', hf', he⟩ := List.mem_map.mp hmem
    cases he
    exact ⟨_, List.getElem?_eq_getElem hk, hf'⟩
  · rintro ⟨c, hc, hf⟩
    obtain ⟨hi, rfl⟩ := List.getElem?_eq_some_iff.mp hc
    exact ⟨_, ⟨i, hi, rfl⟩, List.mem_map_of_mem hf⟩

theorem map_fst_filesByClass : (filesByClass classes).map (·.1) = classes.flatten := by
  rw [filesByClass, List.map_flatten]
  congr 1
  refine List.ext_getElem? fun i => ?_
  rw [List.getElem?_map, List.getElem?_mapIdx]
  cases classes[i]? with
  | none => rfl
  | some c => simp [Function.comp_def]

/-- The file table finds the one class that holds a file. -/
theorem lookup_filesByClass (h : classes.flatten.Nodup) :
    (filesByClass classes).lookup f = some i ↔ ∃ c, classes[i]? = some c ∧ f ∈ c := by
  rw [lookup_eq_some_iff_mem (by rwa [map_fst_filesByClass]), mem_filesByClass]

/-- A file is in one class only. -/
theorem position_unique (h : classes.flatten.Nodup) (hi : classes[i]? = some c) (hc : f ∈ c)
    (hj : classes[j]? = some d) (hd : f ∈ d) : i = j := by
  have h₁ := (lookup_filesByClass h).mpr ⟨c, hi, hc⟩
  have h₂ := (lookup_filesByClass h).mpr ⟨d, hj, hd⟩
  exact Option.some.inj (h₁.symm.trans h₂)

end

/-! ## Tables of edges -/

section

variable {table : List (List Nat)} {i j : Nat}

theorem mem_getD_iff : j ∈ table.getD i [] ↔ ∃ row, table[i]? = some row ∧ j ∈ row := by
  rw [List.getD_eq_getElem?_getD]
  cases table[i]? <;> simp

theorem nodup_getD (h : ∀ row ∈ table, row.Nodup) (i : Nat) : (table.getD i []).Nodup := by
  rw [List.getD_eq_getElem?_getD]
  cases hi : table[i]? with
  | none => exact List.nodup_nil
  | some row => exact h row (List.mem_of_getElem? hi)

end

/-! ## Reversing a table of edges -/

section

variable {table reversed : List (List Nat)} {row : List Nat} {d i : Nat}

/-- Entering a node for a row of others appends it to theirs. -/
theorem getElem?_enterRow (h : row.Nodup) :
    (row.foldl (fun reversed d => reversed.modify d (· ++ [i])) reversed)[d]? =
      reversed[d]?.map fun ids => if d ∈ row then ids ++ [i] else ids := by
  induction row generalizing reversed with
  | nil => simp
  | cons e row ih =>
    obtain ⟨he, hrow⟩ := List.nodup_cons.mp h
    rw [List.foldl_cons, ih hrow, List.getElem?_modify]
    cases reversed[d]? with
    | none => rfl
    | some ids =>
      by_cases hed : e = d
      · subst hed
        simp [he]
      · simp [hed, Ne.symm hed]

/-- Entering the nodes of a table, numbered from `k`, appends to each entry
the numbers of the rows that hold it. -/
theorem getElem?_enterTable (h : ∀ row ∈ table, row.Nodup) (k : Nat) :
    ((table.zipIdx k).foldl (fun reversed entry =>
      entry.1.foldl (fun reversed d => reversed.modify d (· ++ [entry.2])) reversed)
        reversed)[d]? =
      reversed[d]?.map fun ids =>
        ids ++ ((table.zipIdx k).filter fun entry => entry.1.contains d).map (·.2) := by
  induction table generalizing reversed k with
  | nil => simp
  | cons row table ih =>
    rw [List.zipIdx_cons, List.foldl_cons, ih fun r hr => h r (.tail _ hr),
      getElem?_enterRow (h row (.head _)), Option.map_map]
    cases reversed[d]? with
    | none => rfl
    | some ids =>
      by_cases hd : d ∈ row <;> simp [hd]

theorem pairwise_filter_zipIdx (table : List (List Nat)) (p : List Nat × Nat → Bool) :
    ((table.zipIdx.filter p).map (·.2)).Pairwise (· < ·) := by
  have hall : (table.zipIdx.map (·.2)).Pairwise (· < ·) := by
    rw [List.zipIdx_map_snd]
    exact List.pairwise_lt_range'
  exact hall.sublist (List.filter_sublist.map _)

/-- The reversed row of a number has the rows that hold it. -/
theorem getElem?_reversedTable (h : ∀ row ∈ table, row.Nodup) (hd : d < table.length) :
    (reversedTable table)[d]? =
      some ((table.zipIdx.filter fun entry => entry.1.contains d).map (·.2)) := by
  have hsorted := pairwise_filter_zipIdx table fun entry => entry.1.contains d
  rw [reversedTable, List.getElem?_map, getElem?_enterTable h, List.getElem?_map,
    List.getElem?_eq_getElem hd]
  simp only [Option.map_some, List.nil_append]
  rw [List.mergeSort_of_pairwise (hsorted.imp fun hab => by simpa using Nat.le_of_lt hab)]

/-- **Reversing a table of edges gives the inverse relation**, each row
strictly ascending. -/
theorem reversedTable_spec (h : ∀ row ∈ table, row.Nodup) (hd : d < table.length) :
    ∃ ids, (reversedTable table)[d]? = some ids ∧ ids.Pairwise (· < ·) ∧
      ∀ i, i ∈ ids ↔ ∃ row, table[i]? = some row ∧ d ∈ row := by
  refine ⟨_, getElem?_reversedTable h hd, pairwise_filter_zipIdx _ _, fun i => ?_⟩
  simp only [List.mem_map, List.mem_filter, List.contains_iff_mem, Prod.exists,
    List.mem_zipIdx_iff_getElem?]
  constructor
  · rintro ⟨row, k, ⟨hrow, hmem⟩, rfl⟩
    exact ⟨row, hrow, hmem⟩
  · rintro ⟨row, hrow, hmem⟩
    exact ⟨row, i, ⟨hrow, hmem⟩, rfl⟩

end

end Ratchet.Graph
