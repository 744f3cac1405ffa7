import Ratchet.Graph.Condensation

/-!
# Layers

`layerDepths` gives each node of a graph the length of the longest chain
below it, by a queue: a node joins the queue once everything below it has
left it. The graph comes as two tables, what lies below each node and what
waits on it; nothing is assumed of how the two agree.

* `countDown`: the same queue without the depths, which only counts the nodes.
* `Condensation.verifyAcyclic` fails when not every component has been counted.
* `Condensation.assignDepths` writes both depths onto every component, or fails
  and writes none; `Condensation.layer` is what comes of it.
-/

namespace Ratchet.Graph

/-- Why components cannot be layered. -/
inductive LayerFault where
  /-- These components wait for each other; the first ten are named. -/
  | cycleThrough (ids : List Nat)
  /-- So many components are never reached. -/
  | notLayered (count : Nat)
  /-- A table names a component that does not exist. -/
  | noSuchComponent
  deriving Repr, DecidableEq

/-- The text of a list of numbers. -/
def bracketed (ids : List Nat) : String :=
  "[" ++ ", ".intercalate (ids.map Nat.repr) ++ "]"

/-- The message of a fault. -/
def LayerFault.message : LayerFault → String
  | .cycleThrough ids =>
    "Condensed graph contains a cycle through components " ++ bracketed (ids.take 10)
  | .notLayered count =>
    "Could not layer " ++ count.repr ++ " component(s); condensed graph is not acyclic"
  | .noSuchComponent => "list index out of range"

/-- How many entries below each node are open before any has been closed. -/
def openEntries (below : List (List Nat)) : List Int :=
  below.map fun row => (row.length : Int)

/-- The state of a layering: what each node still waits for, and how deep it
is known to lie. -/
structure Layering where
  /-- How many entries below each node are still open. -/
  pending : List Int
  /-- The greatest depth found for each node so far. -/
  depth : List Nat
  deriving Repr

namespace Layering

/-- Nothing is settled yet. -/
def start (below : List (List Nat)) : Layering where
  pending := openEntries below
  depth := below.map fun _ => 0

/-- Close one entry below `node`, which lies above a node of depth `d`. The
flag tells whether this was the last one. -/
def close (s : Layering) (d : Nat) (node : Nat) : Except LayerFault (Layering × Bool) :=
  match s.pending[node]? with
  | none => .error .noSuchComponent
  | some open_ =>
    .ok ({ pending := s.pending.set node (open_ - 1),
           depth := s.depth.modify node fun old => max old (d + 1) },
         open_ - 1 == 0)

/-- Close one entry below each of the nodes, which lie above `low`, and list those
that are done. How deep `low` lies is looked up for each node. -/
def closeAll (low : Nat) : List Nat → Layering → Except LayerFault (Layering × List Nat)
  | [], s => .ok (s, [])
  | node :: nodes, s =>
    match s.close (s.depth.getD low 0) node with
    | .error fault => .error fault
    | .ok (s, done) =>
      match closeAll low nodes s with
      | .error fault => .error fault
      | .ok (s, ready) => .ok (s, if done then node :: ready else ready)

/-- How many nodes still wait for something. -/
def waiting (s : Layering) : Nat :=
  s.pending.countP (0 < ·)

/-- What closing an entry does to a node, which must exist. -/
theorem close_eq_ok {s s' : Layering} {d node : Nat} {done : Bool}
    (h : s.close d node = .ok (s', done)) :
    ∃ hn : node < s.pending.length,
      s'.pending = s.pending.set node (s.pending[node] - 1) ∧
      s'.depth = s.depth.modify node (fun old => max old (d + 1)) ∧
      done = (s.pending[node] - 1 == 0) := by
  unfold close at h
  split at h
  · cases h
  · rename_i n hs
    obtain ⟨hn, rfl⟩ := List.getElem?_eq_some_iff.mp hs
    cases h
    exact ⟨hn, rfl, rfl, rfl⟩

/-- A node is done exactly when it stops waiting. -/
theorem waiting_close {s s' : Layering} {d node : Nat} {done : Bool}
    (h : s.close d node = .ok (s', done)) :
    s'.waiting + (if done then 1 else 0) = s.waiting := by
  obtain ⟨hn, hp, -, rfl⟩ := close_eq_ok h
  have hpos : 0 < s.pending[node] → 0 < s.pending.countP (0 < ·) := fun h =>
    List.countP_pos_iff.mpr ⟨_, List.getElem_mem hn, by simpa using h⟩
  rw [waiting, hp, List.countP_set hn, waiting]
  simp only [decide_eq_true_eq, beq_iff_eq]
  generalize s.pending[node] = n at hpos ⊢
  rcases Int.lt_trichotomy n 1 with hn1 | rfl | hn1
  · rw [if_neg (by omega), if_neg (by omega), if_neg (by omega)]
    omega
  · have := hpos (by omega)
    simp
    omega
  · have := hpos (by omega)
    rw [if_pos (by omega), if_pos (by omega), if_neg (by omega)]
    omega

theorem waiting_closeAll {low : Nat} {nodes ready : List Nat} {s s' : Layering}
    (h : closeAll low nodes s = .ok (s', ready)) : s'.waiting + ready.length = s.waiting := by
  induction nodes generalizing s s' ready with
  | nil => cases h; rfl
  | cons node nodes ih =>
    unfold closeAll at h
    split at h
    · cases h
    · rename_i s₁ done hc
      split at h
      · cases h
      · rename_i s₂ ready₂ hr
        cases h
        have h₁ := waiting_close hc
        have h₂ := ih hr
        by_cases hdone : done = true
        · rw [if_pos hdone] at h₁
          rw [if_pos hdone, List.length_cons]
          omega
        · rw [if_neg hdone] at h₁
          rw [if_neg hdone]
          omega

/-- Take nodes off the queue until it is empty. A node that joins the queue
waits no longer, so the queue and the nodes that wait grow fewer together. -/
def run (above : List (List Nat)) (queue : List Nat) (s : Layering) :
    Except LayerFault Layering :=
  match queue with
  | [] => .ok s
  | node :: queue =>
    match _hs : closeAll node (above.getD node []) s with
    | .error fault => .error fault
    | .ok (s', ready) => run above (queue ++ ready) s'
termination_by s.waiting + queue.length
decreasing_by
  have := waiting_closeAll _hs
  simp only [List.length_append, List.length_cons]
  omega

/-- The nodes that still wait for something. -/
def stuck (s : Layering) : List Nat :=
  (List.range s.pending.length).filter fun i => 0 < s.pending.getD i 0

end Layering

/-- Run the queue from the nodes that have nothing below them. -/
def settle (below above : List (List Nat)) : Except LayerFault Layering :=
  let sources := (List.range below.length).filter fun i => (below.getD i []).isEmpty
  Layering.run above sources (Layering.start below)

/-- **The depth of every node**, or the number of nodes that have none. -/
def layerDepths (below above : List (List Nat)) : Except LayerFault (List Nat) := do
  let s ← settle below above
  if s.stuck.isEmpty then return s.depth
  else .error (.notLayered s.stuck.length)

/-! ## Counting without depths -/

/-- Close one entry below each of the nodes, and list those that are done. -/
def closeEntries : List Nat → List Int → Except LayerFault (List Int × List Nat)
  | [], pending => .ok (pending, [])
  | node :: nodes, pending =>
    match pending[node]? with
    | none => .error .noSuchComponent
    | some open_ =>
      match closeEntries nodes (pending.set node (open_ - 1)) with
      | .error fault => .error fault
      | .ok (pending, ready) => .ok (pending, if open_ - 1 == 0 then node :: ready else ready)

/-- Closing entries is what a layering does beside noting depths. -/
theorem closeEntries_eq_map (low : Nat) (nodes : List Nat) (s : Layering) :
    closeEntries nodes s.pending =
      (s.closeAll low nodes).map fun r => (r.1.pending, r.2) := by
  induction nodes generalizing s with
  | nil => rfl
  | cons node nodes ih =>
    unfold closeEntries Layering.closeAll Layering.close
    cases s.pending[node]? with
    | none => rfl
    | some open_ =>
      simp only
      rw [ih { pending := s.pending.set node (open_ - 1)
               depth := s.depth.modify node fun old => max old (s.depth.getD low 0 + 1) }]
      cases Layering.closeAll low nodes _ <;> rfl

theorem waiting_closeEntries {nodes ready : List Nat} {pending pending' : List Int}
    (h : closeEntries nodes pending = .ok (pending', ready)) :
    pending'.countP (0 < ·) + ready.length = pending.countP (0 < ·) := by
  rw [closeEntries_eq_map 0 nodes { pending, depth := [] }] at h
  cases hs : Layering.closeAll 0 nodes { pending, depth := [] } with
  | error fault =>
    rw [hs] at h
    cases h
  | ok r =>
    rw [hs] at h
    cases h
    exact Layering.waiting_closeAll hs

/-- Take nodes off the queue until it is empty, and count them: the entries
left open, and how many nodes have been taken off. -/
def countDown (above : List (List Nat)) (queue : List Nat) (pending : List Int) (seen : Nat) :
    Except LayerFault (List Int × Nat) :=
  match queue with
  | [] => .ok (pending, seen)
  | node :: queue =>
    match above[node]? with
    | none => .error .noSuchComponent
    | some nodes =>
      match _hp : closeEntries nodes pending with
      | .error fault => .error fault
      | .ok (pending', ready) => countDown above (queue ++ ready) pending' (seen + 1)
termination_by pending.countP (0 < ·) + queue.length
decreasing_by
  have := waiting_closeEntries _hp
  simp only [List.length_append, List.length_cons]
  omega

namespace Condensation

/-- What each component imports. -/
def dependencyTable (g : Condensation) : List (List Nat) :=
  g.components.map (·.dependencies)

/-- What imports each component. -/
def dependentTable (g : Condensation) : List (List Nat) :=
  g.components.map (·.dependents)

/-- **Acyclic or not**: fails when some component waits for itself. -/
def verifyAcyclic (g : Condensation) : Except LayerFault Unit := do
  let sources := (g.components.filter (·.dependencies.isEmpty)).map (·.id)
  let (pending, seen) ← countDown g.dependentTable sources (openEntries g.dependencyTable) 0
  if seen = g.components.length then return ()
  else .error (.cycleThrough ((g.components.map (·.id)).filter fun id => 0 < pending.getD id 0))

/-- Write depths onto components one after the other, each found under the
number of the component, and list them. A number that has no depth ends it, and
what was written before stays. -/
def writeDepths (down up : List Nat) :
    List Component → Except LayerFault (List (Nat × Depth)) × List Component
  | [] => (.ok [], [])
  | c :: components =>
    match down[c.id]?, up[c.id]? with
    | some dependency, some dependent =>
      let depth : Depth := { dependency, dependent }
      let (answer, written) := writeDepths down up components
      (answer.map ((c.id, depth) :: ·), { c with depth := some depth } :: written)
    | _, _ => (.error .noSuchComponent, c :: components)

/-- **Write both depths onto every component**: the depths by the numbers of the
components, and the components as they are left. -/
def assignDepths (g : Condensation) :
    Except LayerFault (List (Nat × Depth)) × Condensation :=
  match layerDepths g.dependencyTable g.dependentTable with
  | .error fault => (.error fault, g)
  | .ok down =>
    match layerDepths g.dependentTable g.dependencyTable with
    | .error fault => (.error fault, g)
    | .ok up =>
      let (answer, components) := writeDepths down up g.components
      (answer, { g with components })

/-- The components with their depths. -/
def layer (g : Condensation) : Except LayerFault Condensation :=
  match g.assignDepths with
  | (.error fault, _) => .error fault
  | (.ok _, layered) => .ok layered

end Condensation

end Ratchet.Graph
