import Ratchet.Graph.Condensation

/-!
# The frontier

Given the files already checked, the frontier holds the components to check
next: those that are not checked yet and import checked components only. A
component is checked once all its files are, so a cycle that is checked in
part stays on the frontier.
-/

namespace Ratchet.Graph

/-- Whether every file of a component is checked. -/
def Component.isChecked (c : Component) (checked : List String) : Bool :=
  c.files.all checked.contains

/-- The files of a component that are not checked yet. -/
def Component.uncheckedFiles (c : Component) (checked : List String) : List String :=
  c.files.filter fun f => !checked.contains f

namespace Condensation

/-- Whether the component of a number is checked. -/
def isDone (g : Condensation) (checked : List String) (id : Nat) : Bool :=
  (g.components[id]?).any (·.isChecked checked)

/-- **The frontier**: the unchecked components whose dependencies are all checked. -/
def eligible (g : Condensation) (checked : List String) : List Component :=
  g.components.filter fun c =>
    !c.isChecked checked && c.dependencies.all (g.isDone checked)

/-- The unchecked files of the frontier, ascending. -/
def eligibleFiles (g : Condensation) (checked : List String) : List String :=
  ((g.eligible checked).flatMap (·.uncheckedFiles checked)).mergeSort (· ≤ ·)

/-- The import cycles of the frontier. -/
def eligibleCycles (g : Condensation) (checked : List String) : List Component :=
  (g.eligible checked).filter (·.isCycle)

end Condensation

end Ratchet.Graph
