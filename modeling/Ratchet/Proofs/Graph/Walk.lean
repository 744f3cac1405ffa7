import Mathlib.Logic.Relation
import Ratchet.Proofs.Graph.Decomposition
import Ratchet.Proofs.Graph.Stack

/-!
# The walk finds the classes

What holds of a walk at every moment, and what it comes to at the end. The
stack is layered under the path; when a vertex is left with its own number as
low mark, no edge leads from its layer further down the stack, so the layer is
a whole class; otherwise the layer joins the one below.

* `Valid`: the invariant. `Valid.step`: every step keeps it.
* `Digraph.exists_steps_classes`: the run, step by step, to its end.
* `Digraph.decomposes_classes`: the classes decompose the graph.
-/

namespace Ratchet.Graph

variable {α : Type}

namespace Walk

variable [DecidableEq α] {g : Digraph α} {w w' : Walk α}

/-! ## The invariant -/

/-- **What holds of a walk at every moment.** -/
structure Valid (g : Digraph α) (w : Walk α) : Prop where
  /-- The stack falls into layers under the path. -/
  layered : Layered g w w.path w.stack
  /-- The stack has its latest vertex on top. -/
  descending : w.stack.Pairwise fun x y => w.number y < w.number x
  /-- Numbers count the vertices met. -/
  number_lt : ∀ v, w.isMet v → w.number v < w.index.length
  /-- Only vertices are met. -/
  vertex : ∀ v, w.isMet v → v ∈ g.vertices
  /-- A vertex met is on the stack or in a class. -/
  met_iff : ∀ v, w.isMet v ↔ v ∈ w.stack ++ w.closed.flatten
  /-- And only once. -/
  nodup : (w.stack ++ w.closed.flatten).Nodup
  /-- The classes closed are classes, and closed in order. -/
  classes : g.Decomposes w.closed
  /-- The vertices not met are among the roots. -/
  pending : ∀ v ∈ g.vertices, w.isMet v ∨ v ∈ w.roots
  /-- The roots are vertices. -/
  roots : ∀ v ∈ w.roots, v ∈ g.vertices

/-- The start of a walk is valid. -/
theorem valid_start (g : Digraph α) : Valid g (start g) where
  layered := .nil
  descending := .nil
  number_lt v hv := by simp [isMet, start] at hv
  vertex v hv := by simp [isMet, start] at hv
  met_iff v := by simp [isMet, start]
  nodup := by simp [start]
  classes := .nil
  pending v hv := .inr hv
  roots v hv := hv

namespace Valid

variable {v t : α} {ts : List α} {path : List (α × List α)}

theorem met_of_mem_stack (h : Valid g w) {x : α} (hx : x ∈ w.stack) : w.isMet x :=
  (h.met_iff x).mpr (List.mem_append_left _ hx)

/-- Taking a root that is met off the list changes nothing else. -/
theorem skipRoot (h : Valid g w) {root : α} {roots : List α} (hr : w.roots = root :: roots)
    (hm : w.isMet root) : Valid g { w with roots } where
  layered := h.layered.keep (fun t ht => ⟨ht, rfl, id⟩) (fun _ => h.met_of_mem_stack) fun _ _ => rfl
  descending := h.descending
  number_lt := h.number_lt
  vertex := h.vertex
  met_iff := h.met_iff
  nodup := h.nodup
  classes := h.classes
  pending v hv := by
    have := h.pending v hv
    rw [hr, List.mem_cons] at this
    rcases this with hm' | rfl | hmem
    · exact .inl hm'
    · exact .inl hm
    · exact .inr hmem
  roots v hv := h.roots v (by rw [hr]; exact .tail _ hv)

/-- While no vertex is met, the layers and the classes are needed anew, and
nothing else: vertices only move from the stack to the classes. -/
theorem rearrange (h : Valid g w) (hindex : w'.index = w.index) (hroots : w'.roots = w.roots)
    (hsub : w'.stack.Sublist w.stack)
    (hperm : (w'.stack ++ w'.closed.flatten).Perm (w.stack ++ w.closed.flatten))
    (hl : Layered g w' w'.path w'.stack) (hclasses : g.Decomposes w'.closed) :
    Valid g w' where
  layered := hl
  descending := by
    simpa only [number, hindex] using h.descending.sublist hsub
  number_lt x hx := by
    simp only [isMet, number, hindex] at hx ⊢
    exact h.number_lt x hx
  vertex x hx := by
    simp only [isMet, hindex] at hx
    exact h.vertex x hx
  met_iff x := by
    rw [hperm.mem_iff, ← h.met_iff x]
    simp only [isMet, hindex]
  nodup := hperm.nodup_iff.mpr h.nodup
  classes := hclasses
  pending x hx := by
    rw [hroots]
    simp only [isMet, hindex]
    exact h.pending x hx
  roots x hx := h.roots x (by rwa [hroots] at hx)

/-- Changing the path and the marks needs the layers anew, and nothing else. -/
theorem relayer (h : Valid g w) (hstack : w'.stack = w.stack) (hindex : w'.index = w.index)
    (hclosed : w'.closed = w.closed) (hroots : w'.roots = w.roots)
    (hl : Layered g w' w'.path w'.stack) : Valid g w' := by
  refine h.rearrange hindex hroots (hstack ▸ List.Sublist.refl _) ?_ hl (hclosed ▸ h.classes)
  rw [hstack, hclosed]

/-! ### Meeting a vertex -/

/-- **Meeting a vertex keeps the invariant**, once the layers below it are
known to be layers still. -/
theorem enter (h : Valid g w) (ht : t ∈ g.vertices) (hm : w.isMet t = false)
    (hl : Layered g ({ w with path }.enter g t) path w.stack)
    (hedge : ∀ f ∈ path.head?, g.Edge f.1 t) : Valid g ({ w with path }.enter g t) where
  layered := by
    have htop : OnPath g ({ w with path }.enter g t) t (g.succ t) [] w.stack := {
      low_le := Nat.le_of_eq (by rw [lowMark_enter_self, number_enter_self])
      low_mem := ⟨t, by simp, by rw [lowMark_enter_self, number_enter_self], .refl ht⟩
      joined := by simp
      pending := fun x hx => hx
      followed := fun x hx => .inl hx.2.2
      left := by simp }
    exact .cons htop hedge hl
  descending := by
    have hnum : ∀ x ∈ w.stack, ({ w with path }.enter g t).number x = w.number x :=
      fun x hx => (keeps_enter hm x (h.met_of_mem_stack hx)).2.1
    refine List.pairwise_cons.mpr ⟨fun x hx => ?_, ?_⟩
    · rw [number_enter_self, hnum x hx]
      exact h.number_lt x (h.met_of_mem_stack hx)
    · refine h.descending.imp_of_mem fun {x y} hx hy hxy => ?_
      rw [hnum x hx, hnum y hy]
      exact hxy
  number_lt x hx := by
    by_cases hxt : x = t
    · rw [hxt, number_enter_self]
      simp [Walk.enter]
    · rw [isMet_enter, decide_eq_false hxt, Bool.false_or] at hx
      rw [number_enter_of_ne hxt]
      exact Nat.lt_succ_of_lt (h.number_lt x hx)
  vertex x hx := by
    by_cases hxt : x = t
    · exact hxt ▸ ht
    · rw [isMet_enter, decide_eq_false hxt, Bool.false_or] at hx
      exact h.vertex x hx
  met_iff x := by
    have hx : ({ w with path } : Walk α).isMet x ↔ x ∈ w.stack ++ w.closed.flatten := h.met_iff x
    rw [isMet_enter, Bool.or_eq_true, decide_eq_true_eq, hx]
    exact List.mem_cons.symm
  nodup := by
    refine List.nodup_cons.mpr ⟨fun hmem => ?_, h.nodup⟩
    rw [(h.met_iff t).mpr hmem] at hm
    cases hm
  classes := h.classes
  pending x hx := by
    rcases h.pending x hx with hmet | hroot
    · exact .inl (keeps_enter hm x hmet).1
    · exact .inr hroot
  roots := h.roots

/-- **Starting from a root keeps the invariant.** -/
theorem takeUp (h : Valid g w) {root : α} {roots : List α} (hp : w.path = [])
    (hr : w.roots = root :: roots) : Valid g ({ w with roots }.takeUp g root) := by
  by_cases hm : w.isMet root
  · have hskip : ({ w with roots } : Walk α).takeUp g root = { w with roots } := if_pos hm
    rw [hskip]
    exact h.skipRoot hr hm
  · have hskip : ({ w with roots } : Walk α).takeUp g root = { w with roots }.enter g root :=
      if_neg hm
    have hroot : root ∈ g.vertices := h.roots root (by rw [hr]; exact .head _)
    have hstack : w.stack = [] := by
      have hl := h.layered
      rw [hp] at hl
      cases hs : w.stack with
      | nil => rfl
      | cons x xs => rw [hs] at hl; cases hl
    have hentered : Valid g ({ w with path := w.path }.enter g root) := by
      refine h.enter hroot (by simpa using hm) ?_ (by simp [hp])
      rw [hp, hstack]
      exact .nil
    rw [hskip]
    have hmet : ({ w with path := w.path }.enter g root).isMet root := by simp
    exact hentered.skipRoot hr hmet

/-! ### Following an edge -/

/-- Numbers grow up the stack. -/
theorem number_lt_of_above (h : Valid g w) {above below : List α}
    (hs : w.stack = above ++ v :: below) {x : α} (hx : x ∈ above) : w.number v < w.number x := by
  have hd := h.descending
  rw [hs, List.pairwise_append] at hd
  exact hd.2.2 x hx v (.head _)

/-- Numbers shrink down the stack. -/
theorem number_lt_of_below (h : Valid g w) {above below : List α}
    (hs : w.stack = above ++ v :: below) {x : α} (hx : x ∈ below) : w.number x < w.number v := by
  have hd := h.descending
  rw [hs, List.pairwise_append, List.pairwise_cons] at hd
  exact hd.2.1.1 x hx

/-- The layers of a walk whose path is not empty. -/
theorem exists_layers (h : Valid g w) (hp : w.path = (v, ts) :: path) :
    ∃ above below, w.stack = above ++ v :: below ∧ OnPath g w v ts above below ∧
      (∀ f ∈ path.head?, g.Edge f.1 v) ∧ Layered g w path below ∧
      ∀ x ∈ v :: below, w.isMet x := by
  have hl := h.layered
  rw [hp] at hl
  obtain ⟨above, below, hs, hv, hedge, hbelow⟩ := hl.cons_inv
  refine ⟨above, below, hs, hv, hedge, hbelow, fun x hx => h.met_of_mem_stack ?_⟩
  rw [hs]
  exact List.mem_append_right _ hx

/-- Once an edge is noted under the marks as they are, the layers stand as
they were. -/
theorem follow_noted (h : Valid g w) (hp : w.path = (v, t :: ts) :: path)
    (hn : g.Edge v t → w.Noted v t) : Valid g { w with path := (v, ts) :: path } := by
  obtain ⟨above, below, hs, hv, hedge, hbelow, hmet⟩ := h.exists_layers hp
  refine h.relayer rfl rfl rfl rfl (.push hs ?_ hedge ?_)
  · exact (hv.drop hn).keep keeps_path hmet rfl
  · exact hbelow.keep keeps_path (fun x hx => hmet x (.tail _ hx)) fun _ _ => rfl

/-- A successor that is not met goes on top of the stack, as a layer of its
own. -/
theorem follow_enter (h : Valid g w) (hp : w.path = (v, t :: ts) :: path)
    (ht : t ∈ g.vertices) (hm : w.isMet t = false) :
    Valid g ({ w with path := (v, ts) :: path }.enter g t) := by
  obtain ⟨above, below, hs, hv, hedge, hbelow, hmet⟩ := h.exists_layers hp
  have hvm : w.isMet v := hmet v (.head _)
  have hlow : ∀ x, w.isMet x →
      ({ w with path := (v, ts) :: path }.enter g t).lowMark x = w.lowMark x := by
    refine fun x hx => lowMark_enter_of_ne ?_
    rintro rfl
    rw [hm] at hx
    cases hx
  refine h.enter ht hm (.push hs ?_ hedge ?_) ?_
  · -- the new vertex has the greatest number of all, so the edge to it is noted
    refine (hv.keep (keeps_enter hm) hmet (hlow v hvm)).drop fun _ => ⟨by simp, fun _ => ?_⟩
    rw [hlow v hvm, number_enter_self]
    exact Nat.le_of_lt (Nat.lt_of_le_of_lt hv.low_le (h.number_lt v hvm))
  · exact hbelow.keep (keeps_enter hm) (fun x hx => hmet x (.tail _ hx)) fun f hf =>
      hlow f.1 (hmet f.1 (.tail _ (hbelow.mem_stack f hf)))
  · intro f hf
    obtain rfl : (v, ts) = f := by simpa using hf
    exact ⟨h.vertex v hvm, ht, hv.pending t (.head _)⟩

/-- A successor on the stack lowers the mark to its number. -/
theorem follow_back (h : Valid g w) (hp : w.path = (v, t :: ts) :: path)
    (ht : t ∈ g.vertices) (hon : t ∈ w.stack) :
    Valid g ({ w with path := (v, ts) :: path }.lower v (w.number t)) := by
  obtain ⟨above, below, hs, hv, hedge, hbelow, hmet⟩ := h.exists_layers hp
  have hvt : g.Edge v t := ⟨h.vertex v (hmet v (.head _)), ht, hv.pending t (.head _)⟩
  have hv₀ : OnPath g { w with path := (v, ts) :: path } v (t :: ts) above below :=
    hv.keep keeps_path hmet rfl
  have hb₀ : Layered g { w with path := (v, ts) :: path } path below :=
    hbelow.keep keeps_path (fun x hx => hmet x (.tail _ hx)) fun _ _ => rfl
  -- a mark that falls leads down the stack: the layer above `v` has greater numbers
  have hback : w.number t < w.lowMark v → t ∈ v :: below := by
    intro hlt
    rw [hs] at hon
    rcases List.mem_append.mp hon with habove | hmem
    · have := h.number_lt_of_above hs habove
      have := hv.low_le
      omega
    · exact hmem
  have hvb : ∀ f ∈ path, f.1 ≠ v := by
    rintro f hf rfl
    have := h.number_lt_of_below hs (hbelow.mem_stack f hf)
    omega
  refine h.relayer rfl rfl rfl rfl (.push hs ((hv₀.lower fun hlt => ?_).drop fun he => ?_)
    hedge (hb₀.keep keeps_lower (fun x hx => hmet x (.tail _ hx)) fun f hf =>
      lowMark_lower_of_ne (hvb f hf)))
  · exact ⟨t, hback hlt, rfl, hvt.reaches⟩
  · refine ⟨h.met_of_mem_stack hon, fun _ => ?_⟩
    rw [lowMark_lower_self]
    exact Nat.min_le_right _ _

/-- **Following an edge keeps the invariant.** Whichever way the edge goes, it
is noted afterwards; only an edge back into the stack lowers a mark. -/
theorem follow (h : Valid g w) (hp : w.path = (v, t :: ts) :: path) :
    Valid g ({ w with path := (v, ts) :: path }.follow g v t) := by
  unfold Walk.follow
  split
  · rename_i ht
    exact h.follow_noted hp fun he => absurd he.2.1 ht
  · rename_i ht
    have ht : t ∈ g.vertices := by simpa using ht
    split
    · rename_i hm
      exact h.follow_enter hp ht (by simpa [isMet] using hm)
    · rename_i hm
      have hm : w.isMet t := by simpa [isMet] using hm
      split
      · rename_i hon
        exact h.follow_back hp ht hon
      · rename_i hon
        exact h.follow_noted hp fun _ => ⟨hm, fun hon' => absurd hon' hon⟩

/-! ### Leaving a vertex -/

/-- **A vertex left with a low mark below its number** joins the layer below:
its mark leads to a vertex further down the stack, from which the end of the
path can be reached. -/
theorem leave_join (h : Valid g w) (hp : w.path = (v, []) :: path)
    (hlow : ({ w with path }.handDown v).lowMark v ≠ w.number v) :
    Valid g ({ w with path }.handDown v) := by
  obtain ⟨above, below, hs, hv, hedge, hbelow, hmetv⟩ := h.exists_layers hp
  have hmetb : ∀ x ∈ below, w.isMet x := fun x hx => hmetv x (.tail _ hx)
  have hv₀ : OnPath g { w with path } v [] above below := hv.keep keeps_path hmetv rfl
  have hb₀ : Layered g { w with path } path below :=
    hbelow.keep keeps_path hmetb fun _ _ => rfl
  obtain ⟨u, hu, hnum, hvu⟩ := hv.low_mem
  cases path with
  | nil =>
    cases hbelow
    obtain rfl : u = v := by simpa using hu
    exact absurd hnum.symm hlow
  | cons f path =>
    obtain ⟨p, ps⟩ := f
    obtain ⟨above', below', rfl, hvp, hedge', hbelow'⟩ := hb₀.cons_inv
    have hpm : p ∈ above' ++ p :: below' := by simp
    have hpv : w.number p < w.number v := h.number_lt_of_below hs hpm
    have hlow₀ : w.lowMark v ≠ w.number v := fun heq =>
      hlow ((lowMark_handDown_self).trans heq)
    -- the mark leads to `u` below `v`, and from there the path leads up to the parent
    have hub : u ∈ above' ++ p :: below' := by
      rcases List.mem_cons.mp hu with rfl | hu
      · exact absurd hnum.symm hlow₀
      · exact hu
    have hpedge : g.Edge p v := hedge (p, ps) (by simp)
    have hback : g.Reaches v p := hvu.trans (hb₀.reaches_top (p, ps) (by simp) u hub)
    have hs' : w.stack = (above ++ v :: above') ++ p :: below' := by simp [hs]
    refine h.relayer rfl rfl rfl rfl (.push hs' (hv₀.join hvp hpedge hback fun hlt => ?_) hedge'
      (hbelow'.keep keeps_lower (fun x hx => hmetb x (by simp [hx])) fun f hf => ?_))
    · refine ⟨u, ?_, hnum, hpedge.reaches.trans hvu⟩
      rcases List.mem_append.mp hub with habove | hmem
      · have hup : w.number p < w.number u := h.number_lt_of_above hs' (by simp [habove])
        have hlt : w.lowMark v < w.lowMark p := hlt
        have hle : w.lowMark p ≤ w.number p := hvp.low_le
        omega
      · exact hmem
    · refine lowMark_lower_of_ne ?_
      rintro rfl
      have := h.number_lt_of_below hs' (hbelow'.mem_stack f hf)
      omega

/-- **The layer of a vertex whose low mark is its own number is a class**:
every edge from it stays in it or leads to an earlier class. -/
theorem decomposes_closeLayer (h : Valid g w) {above below : List α}
    (hs : w.stack = above ++ v :: below) (hv : OnPath g w v [] above below)
    (hfirst : w.lowMark v = w.number v) : g.Decomposes ((above ++ [v]) :: w.closed) := by
  have hvv : v ∈ g.vertices := h.vertex v (h.met_of_mem_stack (by simp [hs]))
  have hjoined : ∀ x ∈ above ++ [v], g.Mutual v x := by
    intro x hx
    rcases List.mem_append.mp hx with hx | hx
    · exact hv.joined x hx
    · rw [List.mem_singleton.mp hx]
      exact .refl hvv
  have hnoted : ∀ x ∈ above ++ [v], ∀ t, g.Edge x t → w.Noted v t := by
    intro x hx t ht
    rcases List.mem_append.mp hx with hx | hx
    · exact hv.left x hx t ht
    · rw [List.mem_singleton.mp hx] at ht
      exact (hv.followed t ht).resolve_left (List.not_mem_nil)
  refine .cons (by simp) (fun x hx y hy => (hjoined x hx).symm.trans (hjoined y hy)) ?_ h.classes
  intro x hx t ht
  obtain ⟨hmet, hle⟩ := hnoted x hx t ht
  -- what is met lies on the stack or in a class, and on the stack not below `v`
  rcases List.mem_append.mp ((h.met_iff t).mp hmet) with hon | hin
  · have hnum := hle hon
    rw [hs] at hon
    rcases List.mem_append.mp hon with habove | hmem
    · exact .inl (List.mem_append_left _ habove)
    · rcases List.mem_cons.mp hmem with rfl | hbelow
      · exact .inl (by simp)
      · have := h.number_lt_of_below hs hbelow
        omega
  · exact .inr hin

/-- **Closing a class keeps the invariant**: the layers below stay layers. -/
theorem closeLayer (h : Valid g w) {above below : List α} (hs : w.stack = above ++ v :: below)
    (hv : OnPath g w v [] above below) (hbelow : Layered g w path below)
    (hfirst : w.lowMark v = w.number v)
    (hpath : w'.path = path) (hstack : w'.stack = below) (hindex : w'.index = w.index)
    (hclosed : w'.closed = (above ++ [v]) :: w.closed) (hroots : w'.roots = w.roots)
    (hlow : ∀ f ∈ path, w'.lowMark f.1 = w.lowMark f.1) : Valid g w' := by
  refine h.rearrange hindex hroots ?_ ?_ ?_ ?_
  · rw [hs, hstack]
    exact (List.sublist_cons_self v below).trans (List.sublist_append_right above _)
  · rw [hs, hstack, hclosed, List.flatten_cons]
    have hsplit : above ++ v :: below = (above ++ [v]) ++ below := by simp
    rw [hsplit, ← List.append_assoc below]
    exact List.perm_append_comm.append_right _
  · rw [hpath, hstack]
    refine hbelow.keep (fun t ht => ⟨?_, ?_, fun hmem => ?_⟩) (fun x hx => ?_) hlow
    · simpa only [isMet, hindex] using ht
    · simp only [number, hindex]
    · rw [hstack] at hmem
      simp [hs, hmem]
    · exact h.met_of_mem_stack (by simp [hs, hx])
  · rw [hclosed]
    exact h.decomposes_closeLayer hs hv hfirst

/-- **A vertex left with its own number as low mark closes its class.** -/
theorem leave_close (h : Valid g w) (hp : w.path = (v, []) :: path)
    {members rest : List α} (hpop : popTo v w.stack = some (members, rest))
    (hlow : ({ w with path }.handDown v).lowMark v = w.number v) :
    Valid g { ({ w with path } : Walk α).handDown v with
      stack := rest, closed := members :: w.closed } := by
  obtain ⟨above, below, hs, hv, hedge, hbelow, -⟩ := h.exists_layers hp
  have hvabove : v ∉ above := fun hmem => Nat.lt_irrefl _ (h.number_lt_of_above hs hmem)
  have hpv : ∀ f ∈ path, w.number f.1 < w.number v := fun f hf =>
    h.number_lt_of_below hs (hbelow.mem_stack f hf)
  have hfirst : w.lowMark v = w.number v :=
    (lowMark_handDown_self (w := { w with path })).symm.trans hlow
  rw [hs, popTo_append hvabove] at hpop
  cases hpop
  refine h.closeLayer hs hv hbelow hfirst (path_handDown) rfl (index_handDown) rfl
    (roots_handDown) fun f hf => ?_
  refine lowMark_handDown fun _ _ _ => ?_
  have hle := hbelow.low_le f hf
  have hlt := hpv f hf
  show w.lowMark f.1 ≤ w.lowMark v
  omega

end Valid

/-- **Every step keeps the invariant.** -/
theorem Valid.step (h : Valid g w) (hs : w.step g = .next w') : Valid g w' := by
  obtain ⟨v, t, ts, path, hp, rfl⟩ | ⟨v, path, hp, hl⟩ | ⟨root, roots, hp, hr, rfl⟩ :=
    step_cases hs
  · exact h.follow hp
  · obtain ⟨hlow, rfl⟩ | ⟨hlow, members, rest, hpop, rfl⟩ := leave_cases hl
    · exact h.leave_join hp hlow
    · exact h.leave_close hp hpop hlow
  · exact h.takeUp hp hr

/-! ## The end of the walk -/

/-- Some steps lead from one walk to another. -/
def Steps (g : Digraph α) : Walk α → Walk α → Prop :=
  Relation.ReflTransGen fun w w' => w.step g = .next w'

theorem Valid.steps (h : Valid g w) (hs : Steps g w w') : Valid g w' := by
  induction hs with
  | refl => exact h
  | tail _ hstep ih => exact ih.step hstep

/-- A run that gives classes is a chain of steps to the end of the walk. -/
theorem exists_steps_of_run {classes : List (List α)} (h : w.run g = some classes) :
    ∃ w', Steps g w w' ∧ w'.step g = .done classes := by
  fun_induction run g w with
  | case1 w w₁ hstep ih =>
    obtain ⟨w', hsteps, hdone⟩ := ih h
    exact ⟨w', .head hstep hsteps, hdone⟩
  | case2 w classes' hdone =>
    cases h
    exact ⟨w, .refl, hdone⟩
  | case3 w hempty => cases h

/-- A walk that is done has nothing left to enter. -/
theorem done_cases {classes : List (List α)} (h : w.step g = .done classes) :
    w.path = [] ∧ w.roots = [] ∧ classes = w.closed.reverse := by
  unfold step at h
  split at h
  · cases h
  · unfold leave closeFrom close at h
    split at h
    · split at h <;> cases h
    · cases h
  · split at h
    · cases h
    · cases h
      exact ⟨‹_›, ‹_›, rfl⟩

end Walk

/-! ## The classes of a graph -/

namespace Digraph

variable [DecidableEq α] {g : Digraph α} {v : α}

/-- **The walk ends, step by step, with the classes**, and never pops from an
empty stack. -/
theorem exists_steps_classes (g : Digraph α) :
    ∃ w, Walk.Steps g (Walk.start g) w ∧ w.step g = .done g.classes :=
  Walk.exists_steps_of_run (Option.some_get g.isSome_classes?).symm

/-- At the end every vertex is met and the stack is empty. -/
theorem exists_valid_classes (g : Digraph α) :
    ∃ w, Walk.Valid g w ∧ w.stack = [] ∧ w.roots = [] ∧ g.classes = w.closed.reverse := by
  obtain ⟨w, hsteps, hdone⟩ := g.exists_steps_classes
  obtain ⟨hpath, hroots, hclasses⟩ := Walk.done_cases hdone
  have hvalid := (Walk.valid_start g).steps hsteps
  have hl := hvalid.layered
  rw [hpath] at hl
  refine ⟨w, hvalid, ?_, hroots, hclasses⟩
  cases hs : w.stack with
  | nil => rfl
  | cons x xs => rw [hs] at hl; cases hl

theorem decomposes_classes (g : Digraph α) : g.Decomposes g.classes.reverse := by
  obtain ⟨w, hvalid, -, -, hclasses⟩ := g.exists_valid_classes
  rw [hclasses, List.reverse_reverse]
  exact hvalid.classes

theorem nodup_flatten_classes (g : Digraph α) : g.classes.reverse.flatten.Nodup := by
  obtain ⟨w, hvalid, hstack, -, hclasses⟩ := g.exists_valid_classes
  have hnd := hvalid.nodup
  rw [hstack, List.nil_append] at hnd
  rwa [hclasses, List.reverse_reverse]

/-- The classes hold the vertices. -/
theorem mem_flatten_classes : v ∈ g.classes.reverse.flatten ↔ v ∈ g.vertices := by
  obtain ⟨w, hvalid, hstack, hroots, hclasses⟩ := g.exists_valid_classes
  have hmet := hvalid.met_iff v
  rw [hstack, List.nil_append] at hmet
  rw [hclasses, List.reverse_reverse, ← hmet]
  refine ⟨hvalid.vertex v, fun hv => (hvalid.pending v hv).resolve_right ?_⟩
  rw [hroots]
  exact List.not_mem_nil

end Digraph

end Ratchet.Graph
