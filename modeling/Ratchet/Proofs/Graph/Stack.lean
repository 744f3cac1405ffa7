import Ratchet.Graph.Search

/-!
# Layers of the stack

The stack of a walk falls into layers, one for each vertex of the path: the
vertex, and above it those that were met after it, have been left, and are in
no class yet. All of a layer is mutually reachable, each path vertex has an
edge to the next, and the low mark of a path vertex accounts for every edge
followed from its layer.

* `OnPath`: one layer. `Layered`: the stack under a path.
* `Layered.keep`: what may change without touching the layers.
* `OnPath.drop`, `OnPath.lower`, `OnPath.join`: what a step does to a layer.
-/

namespace Ratchet.Graph

variable {α : Type}

namespace Walk

variable [DecidableEq α] {g : Digraph α} {w w' : Walk α}

/-- The walk has met `t`, and as long as `t` is in no class the low mark of
`v` is no greater than its number. -/
def Noted (w : Walk α) (v t : α) : Prop :=
  w.isMet t ∧ (t ∈ w.stack → w.lowMark v ≤ w.number t)

/-- What holds of a vertex `v` of the path with the successors `ts` still to
follow, of the rest `above` of its layer, and of the stack `below`. -/
structure OnPath (g : Digraph α) (w : Walk α) (v : α) (ts above below : List α) : Prop where
  /-- The low mark has fallen from the vertex's own number. -/
  low_le : w.lowMark v ≤ w.number v
  /-- The low mark is the number of a vertex that can be reached. -/
  low_mem : ∃ u ∈ v :: below, w.number u = w.lowMark v ∧ g.Reaches v u
  /-- The layer is mutually reachable. -/
  joined : ∀ x ∈ above, g.Mutual v x
  /-- What is still to follow are successors. -/
  pending : ∀ t ∈ ts, t ∈ g.succ v
  /-- Each edge is noted or still to follow. -/
  followed : ∀ t, g.Edge v t → t ∈ ts ∨ w.Noted v t
  /-- The edges of the vertices left are all noted. -/
  left : ∀ x ∈ above, ∀ t, g.Edge x t → w.Noted v t

/-- The layers of a stack under a path. -/
inductive Layered (g : Digraph α) (w : Walk α) : List (α × List α) → List α → Prop
  | nil : Layered g w [] []
  | cons {v : α} {ts above below : List α} {path : List (α × List α)} :
      OnPath g w v ts above below → (∀ f ∈ path.head?, g.Edge f.1 v) →
      Layered g w path below → Layered g w ((v, ts) :: path) (above ++ v :: below)

/-- One walk has met what another has, under the same numbers, and has put
nothing of it back on the stack. -/
def Keeps (w w' : Walk α) : Prop :=
  ∀ t, w.isMet t → w'.isMet t ∧ w'.number t = w.number t ∧ (t ∈ w'.stack → t ∈ w.stack)

/-- What is noted stays noted when the walk keeps what it knows. -/
theorem Noted.keep {v t : α} (h : w.Noted v t) (hk : w.Keeps w')
    (hlow : w'.lowMark v ≤ w.lowMark v) : w'.Noted v t := by
  obtain ⟨hmet, hle⟩ := h
  obtain ⟨hmet', hnum, hstack⟩ := hk t hmet
  refine ⟨hmet', fun ht => ?_⟩
  rw [hnum]
  exact Nat.le_trans hlow (hle (hstack ht))

/-- A vertex on the path stays one when the walk keeps what it knows. -/
theorem OnPath.keep {v : α} {ts above below : List α} (h : OnPath g w v ts above below)
    (hk : w.Keeps w') (hmet : ∀ x ∈ v :: below, w.isMet x)
    (hlow : w'.lowMark v = w.lowMark v) : OnPath g w' v ts above below where
  low_le := by
    rw [hlow, (hk v (hmet v (by simp))).2.1]
    exact h.low_le
  low_mem := by
    obtain ⟨u, hu, hnum, hr⟩ := h.low_mem
    exact ⟨u, hu, by rw [hlow, (hk u (hmet u hu)).2.1, hnum], hr⟩
  joined := h.joined
  pending := h.pending
  followed t ht := (h.followed t ht).imp_right fun hn => hn.keep hk (Nat.le_of_eq hlow)
  left x hx t ht := (h.left x hx t ht).keep hk (Nat.le_of_eq hlow)

/-- **Layers stay layers** while the marks of the path stay. -/
theorem Layered.keep {path : List (α × List α)} {stack : List α}
    (h : Layered g w path stack) (hk : w.Keeps w') (hmet : ∀ x ∈ stack, w.isMet x)
    (hlow : ∀ f ∈ path, w'.lowMark f.1 = w.lowMark f.1) : Layered g w' path stack := by
  induction h with
  | nil => exact .nil
  | cons hv hedge _ ih =>
    refine .cons (hv.keep hk (fun x hx => hmet x ?_) (hlow _ (.head _))) hedge
      (ih (fun x hx => hmet x ?_) fun f hf => hlow f (.tail _ hf))
    · exact List.mem_append_right _ hx
    · exact List.mem_append_right _ (List.mem_cons_of_mem _ hx)

/-- No low mark on the path is above the number. -/
theorem Layered.low_le {path : List (α × List α)} {stack : List α}
    (h : Layered g w path stack) : ∀ f ∈ path, w.lowMark f.1 ≤ w.number f.1 := by
  induction h with
  | nil => simp
  | cons hv _ _ ih =>
    intro f hf
    rcases List.mem_cons.mp hf with rfl | hf
    · exact hv.low_le
    · exact ih f hf

/-- The path lies on the stack. -/
theorem Layered.mem_stack {path : List (α × List α)} {stack : List α}
    (h : Layered g w path stack) : ∀ f ∈ path, f.1 ∈ stack := by
  induction h with
  | nil => simp
  | cons _ _ _ ih =>
    intro f hf
    rcases List.mem_cons.mp hf with rfl | hf
    · simp
    · exact List.mem_append_right _ (List.mem_cons_of_mem _ (ih f hf))

/-- **The whole stack reaches the end of the path.** -/
theorem Layered.reaches_top {path : List (α × List α)} {stack : List α}
    (h : Layered g w path stack) : ∀ f ∈ path.head?, ∀ x ∈ stack, g.Reaches x f.1 := by
  induction h with
  | nil => simp
  | @cons v ts above below path hv hedge hbelow ih =>
    intro f hf x hx
    obtain rfl : (v, ts) = f := by simpa using hf
    have hself : v ∈ g.vertices := by
      obtain ⟨u, -, -, hr⟩ := hv.low_mem
      exact hr.mem_left
    -- what lies below reaches the path vertex before `v`, which has an edge to `v`
    rcases List.mem_append.mp hx with hx | hx
    · exact (hv.joined x hx).2
    · rcases List.mem_cons.mp hx with rfl | hx
      · exact .refl hself
      · cases hpath : path with
        | nil =>
          rw [hpath] at hbelow
          cases hbelow
          cases hx
        | cons p path' =>
          have hp : p ∈ path.head? := by simp [hpath]
          exact (ih p hp x hx).trans (hedge p hp).reaches

theorem Layered.cons_inv {v : α} {ts stack : List α} {path : List (α × List α)}
    (h : Layered g w ((v, ts) :: path) stack) :
    ∃ above below, stack = above ++ v :: below ∧ OnPath g w v ts above below ∧
      (∀ f ∈ path.head?, g.Edge f.1 v) ∧ Layered g w path below := by
  cases h with
  | cons hv hedge hbelow => exact ⟨_, _, rfl, hv, hedge, hbelow⟩

/-- A vertex is pushed on a layered path. -/
theorem Layered.push {v : α} {ts above below stack : List α} {path : List (α × List α)}
    (hs : stack = above ++ v :: below) (hv : OnPath g w v ts above below)
    (hedge : ∀ f ∈ path.head?, g.Edge f.1 v) (hbelow : Layered g w path below) :
    Layered g w ((v, ts) :: path) stack :=
  hs ▸ .cons hv hedge hbelow

theorem keeps_path {path : List (α × List α)} : w.Keeps { w with path } :=
  fun _ ht => ⟨ht, rfl, id⟩

theorem keeps_lower {v : α} {n : Nat} : w.Keeps (w.lower v n) :=
  fun _ ht => ⟨ht, rfl, id⟩

/-- Entering a vertex that is not met keeps what the walk knows. -/
theorem keeps_enter {t : α} {path : List (α × List α)} (hm : w.isMet t = false) :
    w.Keeps ({ w with path }.enter g t) := by
  intro x hx
  have hne : x ≠ t := by
    rintro rfl
    rw [hm] at hx
    cases hx
  refine ⟨?_, number_enter_of_ne hne, fun hx' => ?_⟩
  · have hx₀ : ({ w with path } : Walk α).isMet x := hx
    rw [isMet_enter, hx₀, Bool.or_true]
  · rcases List.mem_cons.mp hx' with heq | hx'
    · exact absurd heq hne
    · exact hx'

/-- An edge that is noted need not be followed any more. -/
theorem OnPath.drop {v t : α} {ts above below : List α} (h : OnPath g w v (t :: ts) above below)
    (hn : g.Edge v t → w.Noted v t) : OnPath g w v ts above below where
  low_le := h.low_le
  low_mem := h.low_mem
  joined := h.joined
  pending x hx := h.pending x (.tail _ hx)
  followed x hx := by
    rcases h.followed x hx with hmem | hnoted
    · rcases List.mem_cons.mp hmem with rfl | hmem
      · exact .inr (hn hx)
      · exact .inl hmem
    · exact .inr hnoted
  left := h.left

/-- The mark of a path vertex may fall to the number of a vertex that is on
the stack and can be reached. -/
theorem OnPath.lower {v : α} {ts above below : List α} {n : Nat}
    (h : OnPath g w v ts above below)
    (hn : n < w.lowMark v → ∃ u ∈ v :: below, w.number u = n ∧ g.Reaches v u) :
    OnPath g (w.lower v n) v ts above below := by
  have hle : (w.lower v n).lowMark v ≤ w.lowMark v := by
    rw [lowMark_lower_self]
    exact Nat.min_le_left _ _
  exact {
    low_le := Nat.le_trans hle h.low_le
    low_mem := by
      rw [lowMark_lower_self]
      by_cases hlt : n < w.lowMark v
      · rw [Nat.min_eq_right (Nat.le_of_lt hlt)]
        exact hn hlt
      · rw [Nat.min_eq_left (Nat.le_of_not_lt hlt)]
        exact h.low_mem
    joined := h.joined
    pending := h.pending
    followed := fun t ht => (h.followed t ht).imp_right fun hn => hn.keep keeps_lower hle
    left := fun x hx t ht => (h.left x hx t ht).keep keeps_lower hle }

/-- What a vertex has noted, its parent has once the mark is handed down. -/
theorem Noted.handDown {v p t : α} (h : w.Noted v t) : (w.lower p (w.lowMark v)).Noted p t := by
  refine ⟨h.1, fun ht => ?_⟩
  rw [lowMark_lower_self]
  exact Nat.le_trans (Nat.min_le_right _ _) (h.2 ht)

/-- **Two layers become one**: a vertex all of whose edges are noted, and that
reaches back to its parent, joins the parent's layer with its own. -/
theorem OnPath.join {v p : α} {ps above above' below below' : List α}
    (hv : OnPath g w v [] above below) (hp : OnPath g w p ps above' below')
    (hedge : g.Edge p v) (hback : g.Reaches v p)
    (hlow : w.lowMark v < w.lowMark p →
      ∃ u ∈ p :: below', w.number u = w.lowMark v ∧ g.Reaches p u) :
    OnPath g (w.lower p (w.lowMark v)) p ps (above ++ v :: above') below' := by
  have hjoined : g.Mutual p v := ⟨hedge.reaches, hback⟩
  have hp' := hp.lower hlow
  refine { hp' with joined := fun x hx => ?_, left := fun x hx t ht => ?_ }
  · rcases List.mem_append.mp hx with hx | hx
    · exact hjoined.trans (hv.joined x hx)
    · rcases List.mem_cons.mp hx with rfl | hx
      · exact hjoined
      · exact hp.joined x hx
  · rcases List.mem_append.mp hx with hx | hx
    · exact (hv.left x hx t ht).handDown
    · rcases List.mem_cons.mp hx with rfl | hx
      · rcases hv.followed t ht with hmem | hnoted
        · cases hmem
        · exact hnoted.handDown
      · exact hp'.left x hx t ht

end Walk

end Ratchet.Graph
