import Mathlib.Algebra.GroupWithZero.Nat
import Mathlib.Data.List.Nodup
import Mathlib.Data.List.Range
import Ratchet.Graph.Layers
import Ratchet.Proofs.Graph.Tables

/-!
# The queue

What the queue of a layering does with any two tables, also with tables that do
not agree and that list a node several times. An entry below a node is closed
each time the node stands above one that leaves the queue, so the number of open
entries falls by one at a time: it passes nought at most once, and that is when
the node joins. A node whose number of open entries is above nought in the end
has never joined, and every other node has left the queue once.

Where the tables hold the same edges, each as often, an entry is open for each
node below that has not left. Then the nodes that leave are those from which
every way down ends.

* `EntriesClosed`: what closing entries leaves.
* `Progress`: how far the queue has come.
* `Progress.run`: it runs empty, with depths or without.
* `Progress.length_stuck`: the nodes that are stuck are those that were not counted.
* `Mirrored`: two tables hold the same edges, read both ways.
* `Mirrored.settle`: which nodes leave the queue.
-/

namespace Ratchet.Graph

variable {below above : List (List Nat)} {left queue nodes ready : List Nat}
  {pending pending' : List Int} {s s' : Layering} {d i node seen : Nat}

/-! ## Closing entries -/

/-- **An entry is closed below each of some nodes**: each has so many less open as it
is listed, and those are ready that have come down to nought. -/
structure EntriesClosed (nodes : List Nat) (pending pending' : List Int)
    (ready : List Nat) : Prop where
  /-- What is open is what was open, less what is closed. -/
  entries (i : Nat) : pending'[i]? = pending[i]?.map fun p => p - (nodes.count i : Int)
  /-- No node is ready twice. -/
  nodup : ready.Nodup
  /-- The nodes that are ready had entries open, and have none any more. -/
  mem_ready (i : Nat) :
    i ∈ ready ↔ ∃ p, pending[i]? = some p ∧ 0 < p ∧ p - nodes.count i ≤ 0

namespace EntriesClosed

theorem nil (pending : List Int) : EntriesClosed [] pending pending [] where
  entries i := by simp
  nodup := .nil
  mem_ready i := by
    simp only [List.not_mem_nil, List.count_nil, false_iff]
    rintro ⟨p, -, hpos, hle⟩
    omega

/-- One entry below a node is closed first: the node is ready now, or with a later one. -/
theorem cons {p : Int} (hp : pending[node]? = some p)
    (h : EntriesClosed nodes (pending.set node (p - 1)) pending' ready) :
    EntriesClosed (node :: nodes) pending pending'
      (if p - 1 == 0 then node :: ready else ready) := by
  have hself : (pending.set node (p - 1))[node]? = some (p - 1) := by
    simp [(List.getElem?_eq_some_iff.mp hp).1]
  have hother : ∀ i, i ≠ node → (pending.set node (p - 1))[i]? = pending[i]? ∧
      (node :: nodes).count i = nodes.count i := fun i hi =>
    ⟨List.getElem?_set_ne (Ne.symm hi), List.count_cons_of_ne (Ne.symm hi)⟩
  have hmem : node ∈ ready ↔ 0 < p - 1 ∧ p - 1 - nodes.count node ≤ 0 := by
    rw [h.mem_ready, hself]
    simp
  constructor
  case entries =>
    intro i
    rw [h.entries i]
    by_cases hi : i = node
    · subst hi
      rw [hself, hp, Option.map_some, Option.map_some, List.count_cons_self]
      congr 1
      omega
    · rw [(hother i hi).1, (hother i hi).2]
  case nodup =>
    split
    next hdone =>
      refine List.nodup_cons.mpr ⟨fun hnode => ?_, h.nodup⟩
      have hpos := (hmem.mp hnode).1
      rw [beq_iff_eq] at hdone
      omega
    next => exact h.nodup
  case mem_ready =>
    intro i
    by_cases hi : i = node
    · subst hi
      have hiff : i ∈ (if p - 1 == 0 then i :: ready else ready) ↔ p - 1 = 0 ∨ i ∈ ready := by
        split <;> simp_all
      rw [hiff, hmem, hp, List.count_cons_self]
      simp only [Option.some.injEq, exists_eq_left']
      omega
    · have hiff : i ∈ (if p - 1 == 0 then node :: ready else ready) ↔ i ∈ ready := by
        split
        · simp [hi]
        · rfl
      rw [hiff, h.mem_ready, (hother i hi).1, (hother i hi).2]

end EntriesClosed

/-- Entries below nodes of the table can be closed. -/
theorem closeEntries_spec (hlt : ∀ i ∈ nodes, i < pending.length) :
    ∃ pending' ready, closeEntries nodes pending = .ok (pending', ready) ∧
      EntriesClosed nodes pending pending' ready := by
  induction nodes generalizing pending with
  | nil => exact ⟨pending, [], rfl, .nil pending⟩
  | cons node nodes ih =>
    have hn : node < pending.length := hlt node (.head _)
    have hget : pending[node]? = some pending[node] := List.getElem?_eq_getElem hn
    have hrest : ∀ i ∈ nodes, i < (pending.set node (pending[node] - 1)).length := fun i hi => by
      simpa using hlt i (.tail _ hi)
    obtain ⟨pending', ready, hclose, hclosed⟩ := ih hrest
    refine ⟨pending', _, ?_, .cons hget hclosed⟩
    rw [closeEntries, hget]
    simp only [hclose]

/-! ## How far the queue has come -/

/-- How many entries below a node have been closed when some nodes have left. -/
def closed (above : List (List Nat)) (left : List Nat) (i : Nat) : Nat :=
  (left.flatMap fun node => above.getD node []).count i

/-- Another node that is left closes its entries. -/
theorem closed_concat (above : List (List Nat)) (left : List Nat) (node i : Nat) :
    closed above (left ++ [node]) i = closed above left i + (above.getD node []).count i := by
  rw [closed, List.flatMap_append, List.count_append, List.flatMap_singleton]
  rfl

/-- **How far the queue has come**: `left` are the nodes that have left it. What
is open below a node is what was open at first, less what they have closed, and
the nodes that have joined the queue are those with nothing open. -/
structure Progress (below above : List (List Nat)) (left queue : List Nat)
    (pending : List Int) : Prop where
  /-- No node joins the queue twice. -/
  nodup : (left ++ queue).Nodup
  /-- What is open is what has not been closed. -/
  entries (i : Nat) :
    pending[i]? = below[i]?.map fun row => (row.length : Int) - closed above left i
  /-- A node joins the queue when nothing is open any more. -/
  joined (i : Nat) : i ∈ left ++ queue ↔ ∃ p, pending[i]? = some p ∧ p ≤ 0

/-- At first the nodes with nothing below them are queued. -/
theorem progress_start (below above : List (List Nat)) :
    Progress below above [] ((List.range below.length).filter fun i => (below.getD i []).isEmpty)
      (openEntries below) where
  nodup := by
    rw [List.nil_append]
    exact List.nodup_range.filter _
  entries i := by simp [openEntries, closed]
  joined i := by
    rw [List.nil_append, List.mem_filter, List.mem_range, List.getD_eq_getElem?_getD, openEntries,
      List.getElem?_map]
    by_cases hi : i < below.length
    · simp [hi]
    · simp [hi]

namespace Progress

/-- As many numbers are pending as there are nodes. -/
theorem length_pending (h : Progress below above left queue pending) :
    pending.length = below.length := by
  have hiff : ∀ i, pending.length ≤ i ↔ below.length ≤ i := fun i => by
    rw [← List.getElem?_eq_none_iff, h.entries i, Option.map_eq_none_iff,
      List.getElem?_eq_none_iff]
  exact Nat.le_antisymm ((hiff _).mpr (Nat.le_refl _)) ((hiff _).mp (Nat.le_refl _))

/-- What has been left or is queued is a node. -/
theorem lt_of_mem (h : Progress below above left queue pending) (hi : i ∈ left ++ queue) :
    i < below.length := by
  obtain ⟨p, hp, -⟩ := (h.joined i).mp hi
  rw [← h.length_pending]
  exact (List.getElem?_eq_some_iff.mp hp).1

/-- **A node leaves the queue**, and those that come down to nought join. -/
theorem closeEntries (h : Progress below above left (node :: queue) pending)
    (hrange : ∀ row ∈ above, ∀ i ∈ row, i < below.length) :
    ∃ pending' ready,
      Graph.closeEntries (above.getD node []) pending = .ok (pending', ready) ∧
        Progress below above (left ++ [node]) (queue ++ ready) pending' := by
  have hlt : ∀ i ∈ above.getD node [], i < pending.length := fun i hi => by
    obtain ⟨row, hrow, hi⟩ := mem_getD_iff.mp hi
    rw [h.length_pending]
    exact hrange row (List.mem_of_getElem? hrow) i hi
  obtain ⟨pending', ready, hclose, hclosed⟩ := closeEntries_spec hlt
  refine ⟨pending', ready, hclose, ?_, fun i => ?_, fun i => ?_⟩
  · have hnew : List.Disjoint (left ++ node :: queue) ready := by
      intro i hi hr
      obtain ⟨p, hp, hle⟩ := (h.joined i).mp hi
      obtain ⟨p', hp', hpos, -⟩ := (hclosed.mem_ready i).mp hr
      cases hp.symm.trans hp'
      omega
    simpa using h.nodup.append hclosed.nodup hnew
  · rw [hclosed.entries i, h.entries i, Option.map_map, closed_concat]
    refine congrArg (fun f => below[i]?.map f) (funext fun row => ?_)
    simp only [Function.comp_apply]
    omega
  · -- whoever joined before stays at nought or below it
    have hsplit : i ∈ left ++ [node] ++ (queue ++ ready) ↔
        i ∈ left ++ node :: queue ∨ i ∈ ready := by
      simp only [List.append_assoc, List.cons_append, List.nil_append, List.mem_append,
        List.mem_cons, or_assoc]
    rw [hsplit, h.joined i, hclosed.mem_ready i, hclosed.entries i]
    cases pending[i]? with
    | none => simp
    | some p =>
      simp only [Option.some.injEq, exists_eq_left', Option.map_some]
      omega

/-- Where a layering closes entries, the queue goes on as without depths. -/
theorem closeAll (h : Progress below above left (node :: queue) s.pending)
    (hrange : ∀ row ∈ above, ∀ i ∈ row, i < below.length) :
    ∃ s' ready, s.closeAll node (above.getD node []) = .ok (s', ready) ∧
      Graph.closeEntries (above.getD node []) s.pending = .ok (s'.pending, ready) ∧
      Progress below above (left ++ [node]) (queue ++ ready) s'.pending := by
  obtain ⟨pending', ready, hclose, hprogress⟩ := h.closeEntries hrange
  rw [closeEntries_eq_map node] at hclose ⊢
  cases hall : s.closeAll node (above.getD node []) with
  | error fault =>
    rw [hall] at hclose
    cases hclose
  | ok r =>
    rw [hall] at hclose
    cases hclose
    exact ⟨r.1, r.2, rfl, rfl, hprogress⟩

/-- **The queue runs empty**, with depths or without, and has counted the nodes
that have left. What every node keeps as it leaves holds in the end. -/
theorem run {P : List Nat → Layering → Prop}
    (hstep : ∀ {left queue ready : List Nat} {node : Nat} {s s' : Layering},
      Progress below above left (node :: queue) s.pending →
      s.closeAll node (above.getD node []) = .ok (s', ready) →
      P left s → P (left ++ [node]) s')
    (h : Progress below above left queue s.pending)
    (hrange : ∀ row ∈ above, ∀ i ∈ row, i < below.length) (hlen : above.length = below.length)
    (hP : P left s) :
    ∃ s' left', Layering.run above queue s = .ok s' ∧
      countDown above queue s.pending left.length = .ok (s'.pending, left'.length) ∧
      Progress below above left' [] s'.pending ∧ P left' s' := by
  induction queue, s using Layering.run.induct above generalizing left with
  | case1 s =>
    exact ⟨s, left, by rw [Layering.run], by rw [countDown], h, hP⟩
  | case2 s node queue fault hclose =>
    obtain ⟨s', ready, hok, -⟩ := h.closeAll hrange
    rw [hok] at hclose
    cases hclose
  | case3 s node queue s₁ ready₁ hclose ih =>
    obtain ⟨s', ready, hok, hentries, hp⟩ := h.closeAll hrange
    have hP' := hstep h hok hP
    rw [hok] at hclose
    cases hclose
    obtain ⟨s'', left', hrun, hcount, hp', hP''⟩ := ih hp hP'
    have hnode : node < above.length := hlen ▸ h.lt_of_mem (by simp)
    have hrow : above[node]? = some (above.getD node []) := by
      rw [List.getD_eq_getElem?_getD, List.getElem?_eq_getElem hnode, Option.getD_some]
    refine ⟨s'', left', ?_, ?_, hp', hP''⟩
    · rw [Layering.run, hok]
      exact hrun
    · rw [countDown, hrow]
      simp only
      rw [hentries]
      simpa using hcount

end Progress

/-! ## Stuck nodes -/

/-- Stuck nodes are listed in ascending order. -/
theorem Layering.pairwise_stuck (s : Layering) : s.stuck.Pairwise (· < ·) :=
  List.pairwise_lt_range.filter _

namespace Progress

/-- The nodes that are stuck in the end have never joined the queue. -/
theorem mem_stuck (h : Progress below above left [] s.pending) :
    i ∈ s.stuck ↔ i < below.length ∧ i ∉ left := by
  have hjoined := h.joined i
  rw [List.append_nil] at hjoined
  rw [Layering.stuck, List.mem_filter, List.mem_range, h.length_pending, hjoined]
  refine and_congr_right fun hi => ?_
  have hget : s.pending[i]? = some (s.pending.getD i 0) := by
    rw [List.getD_eq_getElem?_getD, List.getElem?_eq_getElem (h.length_pending ▸ hi),
      Option.getD_some]
  rw [hget]
  simp

/-- They are all those that the queue has not counted. -/
theorem length_stuck (h : Progress below above left [] s.pending) :
    left.length + s.stuck.length = below.length := by
  have hnodup : left.Nodup := by simpa using h.nodup
  have hstuck : s.stuck.Nodup := List.nodup_range.filter _
  have hperm : (left ++ s.stuck).Perm (List.range below.length) := by
    refine (List.perm_ext_iff_of_nodup ?_ List.nodup_range).mpr fun i => ?_
    · exact hnodup.append hstuck fun i hi hs => (h.mem_stuck.mp hs).2 hi
    · rw [List.mem_append, h.mem_stuck, List.mem_range]
      refine ⟨fun hi => hi.elim (fun hi => h.lt_of_mem (by simpa using hi)) (·.1), fun hi => ?_⟩
      by_cases hmem : i ∈ left
      · exact .inl hmem
      · exact .inr ⟨hi, hmem⟩
  simpa using hperm.length_eq

end Progress

/-! ## Tables that agree -/

/-- **Two tables hold the same edges**, one read down and the other up: as often
as one node lies below another, that one lies above it. -/
structure Mirrored (below above : List (List Nat)) : Prop where
  /-- There are as many nodes in both. -/
  length_eq : above.length = below.length
  /-- Each edge stands in both as often. -/
  count_eq (i j : Nat) : (above.getD j []).count i = (below.getD i []).count j

/-- One node lies below another. -/
def LiesBelow (below : List (List Nat)) (d i : Nat) : Prop :=
  d ∈ below.getD i []

theorem liesBelow_iff {row : List Nat} (h : below[i]? = some row) :
    LiesBelow below d i ↔ d ∈ row := by
  rw [LiesBelow, mem_getD_iff, h]
  simp

namespace Mirrored

theorem symm (h : Mirrored below above) : Mirrored above below :=
  ⟨h.length_eq.symm, fun i j => (h.count_eq j i).symm⟩

theorem mem_iff (h : Mirrored below above) {j : Nat} :
    i ∈ above.getD j [] ↔ LiesBelow below j i := by
  rw [LiesBelow, ← List.count_pos_iff, h.count_eq, List.count_pos_iff]

/-- No edge leads out of the tables. -/
theorem lt_of_mem (h : Mirrored below above) {row : List Nat} (hrow : row ∈ above)
    (hi : i ∈ row) : i < below.length := by
  obtain ⟨j, hj⟩ := List.getElem?_of_mem hrow
  obtain ⟨row', hrow', -⟩ := mem_getD_iff.mp (h.mem_iff.mp (mem_getD_iff.mpr ⟨row, hj, hi⟩))
  exact (List.getElem?_eq_some_iff.mp hrow').1

theorem lt_of_liesBelow (h : Mirrored below above) (hd : LiesBelow below d i) :
    d < below.length := by
  obtain ⟨row, hrow, hd⟩ := mem_getD_iff.mp hd
  exact h.length_eq ▸ h.symm.lt_of_mem (List.mem_of_getElem? hrow) hd

/-- Tables of which no row lists a node twice need only hold the same edges. -/
theorem of_nodup (hlen : above.length = below.length) (hbelow : ∀ row ∈ below, row.Nodup)
    (habove : ∀ row ∈ above, row.Nodup)
    (hmem : ∀ {i j}, i ∈ above.getD j [] ↔ j ∈ below.getD i []) : Mirrored below above := by
  refine ⟨hlen, fun i j => ?_⟩
  rw [(nodup_getD habove j).count, (nodup_getD hbelow i).count]
  simp only [hmem]

/-- Tables agree when they do on their own nodes, and no edge leads out of them. -/
theorem of_forall_lt (hlen : above.length = below.length)
    (hrange : ∀ row ∈ below ++ above, ∀ d ∈ row, d < below.length)
    (hcount : ∀ i < below.length, ∀ j < below.length,
      (above.getD j []).count i = (below.getD i []).count j) : Mirrored below above := by
  refine ⟨hlen, fun i j => ?_⟩
  -- a row counts nothing that is not a node, and what is no node has no row
  have hcount_zero : ∀ {t : List (List Nat)} {k l : Nat}, t ⊆ below ++ above →
      t.length = below.length → ¬ (k < below.length ∧ l < below.length) →
      (t.getD k []).count l = 0 := fun {t k l} ht htlen hkl => by
    refine List.count_eq_zero.mpr fun hmem => hkl ?_
    obtain ⟨row, hrow, hl⟩ := mem_getD_iff.mp hmem
    exact ⟨htlen ▸ (List.getElem?_eq_some_iff.mp hrow).1,
      hrange row (ht (List.mem_of_getElem? hrow)) l hl⟩
  by_cases hij : i < below.length ∧ j < below.length
  · exact hcount i hij.1 j hij.2
  · rw [hcount_zero (List.subset_append_right _ _) hlen fun h => hij h.symm,
      hcount_zero (List.subset_append_left _ _) rfl hij]

/-- Whether two tables agree can be tested on their own nodes. -/
instance (below above : List (List Nat)) : Decidable (Mirrored below above) :=
  decidable_of_iff
    (above.length = below.length ∧ (∀ row ∈ below ++ above, ∀ d ∈ row, d < below.length) ∧
      ∀ i < below.length, ∀ j < below.length,
        (above.getD j []).count i = (below.getD i []).count j)
    ⟨fun h => .of_forall_lt h.1 h.2.1 h.2.2, fun h => by
      refine ⟨h.length_eq, fun row hrow d hd => ?_, fun i _ j _ => h.count_eq i j⟩
      rcases List.mem_append.mp hrow with hrow | hrow
      · exact h.length_eq ▸ h.symm.lt_of_mem hrow hd
      · exact h.lt_of_mem hrow hd⟩

end Mirrored

/-- Each entry of a row that has left has closed an entry. -/
theorem sum_count_eq_countP {row : List Nat} (h : left.Nodup) :
    (left.map fun node => row.count node).sum = row.countP (· ∈ left) := by
  induction left with
  | nil => simp
  | cons node left ih =>
    obtain ⟨hnode, hleft⟩ := List.nodup_cons.mp h
    rw [List.map_cons, List.sum_cons, ih hleft]
    clear ih
    induction row with
    | nil => rfl
    | cons x row ihr =>
      rw [List.count_cons, List.countP_cons, List.countP_cons, ← ihr]
      by_cases hx : x = node
      · subst hx
        simp [hnode]
        omega
      · simp [hx]
        omega

namespace Progress

/-- **What is open below a node** is what lies below it and has not left. -/
theorem entries_eq (h : Progress below above left queue pending) (hm : Mirrored below above)
    {row : List Nat} (hrow : below[i]? = some row) :
    pending[i]? = some ((row.countP (· ∉ left) : Nat) : Int) := by
  have hclosed : closed above left i = row.countP (· ∈ left) := by
    rw [← sum_count_eq_countP (List.nodup_append.mp h.nodup).1, closed, List.count_flatMap]
    refine congrArg List.sum (List.map_congr_left fun node _ => ?_)
    rw [Function.comp_apply, hm.count_eq, List.getD_eq_getElem?_getD, hrow, Option.getD_some]
  have hsplit : row.length = row.countP (· ∈ left) + row.countP (· ∉ left) := by
    simpa using List.length_eq_countP_add_countP (· ∈ left) (l := row)
  rw [h.entries i, hrow, Option.map_some, hclosed]
  congr 1
  omega

/-- **A node joins the queue** when everything below it has left. -/
theorem joined_iff (h : Progress below above left queue pending) (hm : Mirrored below above) :
    i ∈ left ++ queue ↔ i < below.length ∧ ∀ d, LiesBelow below d i → d ∈ left := by
  by_cases hi : i < below.length
  · have hrow : below[i]? = some below[i] := List.getElem?_eq_getElem hi
    rw [h.joined i, h.entries_eq hm hrow]
    simp only [liesBelow_iff hrow, hi, true_and, Option.some.injEq, exists_eq_left']
    rw [← Int.natCast_zero, Int.ofNat_le, Nat.le_zero, List.countP_eq_zero]
    simp
  · exact iff_of_false (fun hmem => hi (h.lt_of_mem hmem)) fun hmem => hi hmem.1

end Progress

/-- **Which nodes leave the queue** when the tables agree: those from which every
way down ends. What every node keeps as it leaves holds in the end. -/
theorem Mirrored.settle {P : List Nat → Layering → Prop} (hm : Mirrored below above)
    (hstep : ∀ {left queue ready : List Nat} {node : Nat} {s s' : Layering},
      Progress below above left (node :: queue) s.pending →
      s.closeAll node (above.getD node []) = .ok (s', ready) →
      P left s → P (left ++ [node]) s')
    (hstart : P [] (Layering.start below)) :
    ∃ s left, Graph.settle below above = .ok s ∧ Progress below above left [] s.pending ∧
      (∀ i, i ∈ left ↔ i < below.length ∧ Acc (LiesBelow below) i) ∧ P left s := by
  obtain ⟨s, left, hrun, -, hp, hacc, hP⟩ :=
    (progress_start below above).run
      (P := fun left s => (∀ i ∈ left, Acc (LiesBelow below) i) ∧ P left s)
      (s := Layering.start below) (fun {left queue ready node s s'} hp hclose hP => by
        refine ⟨fun i hi => ?_, hstep hp hclose hP.2⟩
        rcases List.mem_append.mp hi with hi | hi
        · exact hP.1 i hi
        · -- everything below the node has left before it
          obtain rfl := List.mem_singleton.mp hi
          exact ⟨i, fun d hd => hP.1 d (((hp.joined_iff hm).mp (by simp)).2 d hd)⟩)
      (fun row hrow i hi => hm.lt_of_mem hrow hi) hm.length_eq ⟨by simp, hstart⟩
  have hjoined : ∀ {i}, i ∈ left ↔ i < below.length ∧ ∀ d, LiesBelow below d i → d ∈ left := by
    intro i
    simpa using hp.joined_iff hm (i := i)
  refine ⟨s, left, hrun, hp, fun i => ⟨fun hi => ⟨(hjoined.mp hi).1, hacc i hi⟩, ?_⟩, hP⟩
  rintro ⟨hi, hacc⟩
  induction hacc with
  | intro i _ ih => exact hjoined.mpr ⟨hi, fun d hd => ih d hd (hm.lt_of_liesBelow hd)⟩

end Ratchet.Graph
