import Mathlib.Tactic.Tauto
import Ratchet.Proofs.Graph.Queue

/-!
# Depth

The depth that layering gives a node is one more than that of the deepest node
below it. `IsDepth` says so one step at a time: a node lies deeper than `k`
exactly when something below it lies at depth `k` or more. While the queue runs
this holds with "below" cut down to the nodes that have left it
(`Layering.DepthSoFar`), and where every way down ends all of them have left.

* `layerDepths_ok`: where every way down ends, every node gets its depth.
* `layerDepths_eq_error`: elsewhere layering fails, with the number of the other
  nodes.
-/

namespace Ratchet.Graph

/-- **Depths**, given what lies below each node: a node lies deeper than `k`
exactly when something below it lies at `k` or deeper. -/
def IsDepth (below : List (List Nat)) (depth : Nat → Nat) : Prop :=
  ∀ {i : Nat} {row : List Nat}, below[i]? = some row → ∀ k, k < depth i ↔ ∃ d ∈ row, k ≤ depth d

namespace Layering

variable {below above : List (List Nat)} {left queue ready nodes : List Nat}
  {s s' : Layering} {i node : Nat}

/-! ## Closing entries -/

/-- Changing one depth leaves the others. -/
theorem getD_modify_of_lt {depths : List Nat} (h : node < depths.length) (f : Nat → Nat)
    (i : Nat) :
    (depths.modify node f).getD i 0 =
      if i = node then f (depths.getD i 0) else depths.getD i 0 := by
  rw [List.getD_eq_getElem?_getD, List.getD_eq_getElem?_getD, List.getElem?_modify]
  by_cases hi : i = node
  · subst hi
    simp [h]
  · simp [hi, Ne.symm hi]

/-- Closing an entry below each of some nodes makes each at least one deeper
than what was closed, which is not among them. -/
theorem depth_closeAll {low : Nat} (h : closeAll low nodes s = .ok (s', ready))
    (hlow : low ∉ nodes) (hlt : ∀ n ∈ nodes, n < s.depth.length) :
    s'.depth.length = s.depth.length ∧
      ∀ i, s'.depth.getD i 0 =
        if i ∈ nodes then max (s.depth.getD i 0) (s.depth.getD low 0 + 1)
        else s.depth.getD i 0 := by
  induction nodes generalizing s s' ready with
  | nil =>
    cases h
    simp
  | cons node nodes ih =>
    unfold closeAll at h
    split at h
    · cases h
    · rename_i s₁ done hclose
      split at h
      · cases h
      · rename_i s₂ ready₂ hall
        cases h
        obtain ⟨-, -, hdepth, -⟩ := close_eq_ok hclose
        have hlen : s₁.depth.length = s.depth.length := by rw [hdepth, List.length_modify]
        obtain ⟨hne, hlow⟩ : low ≠ node ∧ low ∉ nodes := by simpa using hlow
        obtain ⟨hlen', hget⟩ := ih hall hlow fun n hn => hlen ▸ hlt n (.tail _ hn)
        refine ⟨hlen'.trans hlen, fun i => ?_⟩
        -- the depth of what is closed is the same at every node
        rw [hget, hdepth, getD_modify_of_lt (hlt node (.head _)),
          getD_modify_of_lt (hlt node (.head _)), if_neg hne]
        by_cases hi : i = node
        · by_cases hin : i ∈ nodes
          · simp [hi, hi ▸ hin]
          · simp [hi, hi ▸ hin]
        · simp [hi]

/-! ## The queue -/

/-- **The depths so far**: each node is as deep as the nodes below it that have
left the queue make it. -/
structure DepthSoFar (below : List (List Nat)) (left : List Nat) (s : Layering) : Prop where
  /-- Every node has a depth. -/
  length_depth : s.depth.length = below.length
  /-- It is told by the nodes below that have left. -/
  lt_depth_iff {i : Nat} {row : List Nat} : below[i]? = some row →
    ∀ k, k < s.depth.getD i 0 ↔ ∃ d ∈ row, d ∈ left ∧ k ≤ s.depth.getD d 0

/-- At the start no depth is known. -/
theorem depthSoFar_start (below : List (List Nat)) : DepthSoFar below [] (start below) := by
  refine ⟨by simp [start], fun {i row} hrow k => ?_⟩
  have hi : i < below.length := (List.getElem?_eq_some_iff.mp hrow).1
  simp [start, List.getD_eq_getElem?_getD, hi]

/-- **A node leaves the queue** with its depth, which from then on stays: the
nodes it makes deeper have not joined the queue yet. -/
theorem DepthSoFar.closeAll (hd : DepthSoFar below left s)
    (hp : Progress below above left (node :: queue) s.pending) (hm : Mirrored below above)
    (h : Layering.closeAll node (above.getD node []) s = .ok (s', ready)) :
    DepthSoFar below (left ++ [node]) s' := by
  have hnode : node ∉ left := fun hmem =>
    List.disjoint_of_nodup_append hp.nodup hmem (.head _)
  have hlt : ∀ i ∈ above.getD node [], i < s.depth.length := fun i hi => by
    rw [hd.length_depth]
    obtain ⟨row, hrow, hi⟩ := mem_getD_iff.mp hi
    exact hm.lt_of_mem (List.mem_of_getElem? hrow) hi
  have hjoined : ∀ i ∈ left ++ [node], i ∉ above.getD node [] := by
    intro i hi hmem
    have hmem' : i ∈ left ++ node :: queue := by
      simp only [List.mem_append, List.mem_cons] at hi ⊢
      tauto
    exact hnode (((hp.joined_iff hm).mp hmem').2 node (hm.mem_iff.mp hmem))
  obtain ⟨hlen, hdepth⟩ := depth_closeAll h (hjoined node (by simp)) hlt
  have hkeep : ∀ i ∈ left ++ [node], s'.depth.getD i 0 = s.depth.getD i 0 := by
    intro i hi
    rw [hdepth i, if_neg (hjoined i hi)]
  refine ⟨hlen.trans hd.length_depth, fun {i row} hrow k => ?_⟩
  have hin : i ∈ above.getD node [] ↔ node ∈ row := hm.mem_iff.trans (liesBelow_iff hrow)
  -- what left before counts as it did, and `node` counts with its own depth
  have hsplit : (∃ d ∈ row, d ∈ left ++ [node] ∧ k ≤ s'.depth.getD d 0) ↔
      (∃ d ∈ row, d ∈ left ∧ k ≤ s.depth.getD d 0) ∨
        node ∈ row ∧ k ≤ s.depth.getD node 0 := by
    constructor
    · rintro ⟨d, hdr, hdl, hk⟩
      rw [hkeep d hdl] at hk
      rcases List.mem_append.mp hdl with hdl | hdl
      · exact Or.inl ⟨d, hdr, hdl, hk⟩
      · obtain rfl := List.mem_singleton.mp hdl
        exact Or.inr ⟨hdr, hk⟩
    · rintro (⟨d, hdr, hdl, hk⟩ | ⟨hdr, hk⟩)
      · have hdl' : d ∈ left ++ [node] := List.mem_append_left _ hdl
        exact ⟨d, hdr, hdl', by rwa [hkeep d hdl']⟩
      · have hdl' : node ∈ left ++ [node] := by simp
        exact ⟨node, hdr, hdl', by rwa [hkeep node hdl']⟩
  rw [hsplit, ← hd.lt_depth_iff hrow k, hdepth i]
  by_cases hmem : node ∈ row
  · rw [if_pos (hin.mpr hmem)]
    simp only [hmem, true_and]
    omega
  · rw [if_neg fun hi => hmem (hin.mp hi)]
    simp only [hmem, false_and, or_false]

end Layering

/-! ## Layering -/

section

variable {below above : List (List Nat)}

/-- **What layering gives** for tables that agree: it settles the nodes from which
every way down ends, and no others, with depths that these nodes account for. -/
theorem Mirrored.settle_depths (hm : Mirrored below above) :
    ∃ s left, Graph.settle below above = .ok s ∧ Layering.DepthSoFar below left s ∧
      (∀ i, i ∈ left ↔ i < below.length ∧ Acc (LiesBelow below) i) ∧
      ∀ i, i ∈ s.stuck ↔ i < below.length ∧ ¬ Acc (LiesBelow below) i := by
  obtain ⟨s, left, hs, hp, hleft, hd⟩ := hm.settle (P := Layering.DepthSoFar below)
    (fun hp h hd => hd.closeAll hp hm h) (Layering.depthSoFar_start below)
  refine ⟨s, left, hs, hd, hleft, fun i => ?_⟩
  rw [hp.mem_stuck, hleft]
  refine and_congr_right fun hi => ?_
  simp [hi]

/-- **Layering gives every node its depth**, where every way down ends. -/
theorem layerDepths_ok (hm : Mirrored below above)
    (hacc : ∀ i < below.length, Acc (LiesBelow below) i) :
    ∃ depths, layerDepths below above = .ok depths ∧ depths.length = below.length ∧
      IsDepth below (depths.getD · 0) := by
  obtain ⟨s, left, hs, hd, hleft, hstuck⟩ := hm.settle_depths
  have hnone : s.stuck = [] := List.eq_nil_iff_forall_not_mem.mpr fun i hi =>
    ((hstuck i).mp hi).2 (hacc i ((hstuck i).mp hi).1)
  refine ⟨s.depth, ?_, hd.length_depth, fun {i row} hrow k => (hd.lt_depth_iff hrow k).trans ?_⟩
  · simp [layerDepths, hs, hnone, bind, Except.bind, pure, Except.pure]
  · refine exists_congr fun d => and_congr_right fun hdr => and_iff_right ?_
    have hlt : d < below.length := hm.lt_of_liesBelow ((liesBelow_iff hrow).mpr hdr)
    exact (hleft d).mpr ⟨hlt, hacc d hlt⟩

/-- **Layering fails** where some way down does not end. -/
theorem layerDepths_eq_error (hm : Mirrored below above) {i : Nat} (hi : i < below.length)
    (hacc : ¬ Acc (LiesBelow below) i) :
    ∃ count, layerDepths below above = .error (.notLayered count) := by
  obtain ⟨s, left, hs, -, -, hstuck⟩ := hm.settle_depths
  have hsome : s.stuck ≠ [] := List.ne_nil_of_mem ((hstuck i).mpr ⟨hi, hacc⟩)
  exact ⟨s.stuck.length, by simp [layerDepths, hs, hsome, bind, Except.bind]⟩

end

end Ratchet.Graph
