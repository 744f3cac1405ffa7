/-!
# Directed graphs

A `Digraph` is a list of vertices and a successor function; an edge counts
only when both ends are vertices. `Reaches` is reachability along edges, and
`Mutual` the equivalence whose classes are the cycles of the graph, together
with the single vertices outside any cycle.
-/

namespace Ratchet.Graph

/-- A finite directed graph. Successors that are no vertices are ignored. -/
structure Digraph (α : Type) where
  /-- The vertices, in the order in which a search starts from them. -/
  vertices : List α
  /-- The successors of a vertex, in the order in which a search follows them. -/
  succ : α → List α

namespace Digraph

variable {α : Type} {g : Digraph α} {u v w : α}

/-- An edge between two vertices. -/
def Edge (g : Digraph α) (u v : α) : Prop :=
  u ∈ g.vertices ∧ v ∈ g.vertices ∧ v ∈ g.succ u

/-- Reachability along edges, in any number of steps. -/
inductive Reaches (g : Digraph α) : α → α → Prop
  | refl {u : α} : u ∈ g.vertices → Reaches g u u
  | step {u v w : α} : Edge g u v → Reaches g v w → Reaches g u w

/-- Each of two vertices reaches the other. -/
def Mutual (g : Digraph α) (u v : α) : Prop :=
  Reaches g u v ∧ Reaches g v u

theorem Edge.reaches (h : g.Edge u v) : g.Reaches u v :=
  .step h (.refl h.2.1)

theorem Reaches.trans (huv : g.Reaches u v) (hvw : g.Reaches v w) : g.Reaches u w := by
  induction huv with
  | refl _ => exact hvw
  | step he _ ih => exact .step he (ih hvw)

theorem Reaches.mem_left (h : g.Reaches u v) : u ∈ g.vertices := by
  cases h with
  | refl hu => exact hu
  | step he _ => exact he.1

theorem Mutual.refl (h : u ∈ g.vertices) : g.Mutual u u :=
  ⟨.refl h, .refl h⟩

theorem Mutual.symm (h : g.Mutual u v) : g.Mutual v u :=
  ⟨h.2, h.1⟩

theorem Mutual.trans (huv : g.Mutual u v) (hvw : g.Mutual v w) : g.Mutual u w :=
  ⟨huv.1.trans hvw.1, hvw.2.trans huv.2⟩

end Digraph

end Ratchet.Graph
