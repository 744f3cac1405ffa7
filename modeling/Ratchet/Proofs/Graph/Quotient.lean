import Ratchet.Proofs.Graph.Classes
import Ratchet.Proofs.Graph.Tables

/-!
# The condensation is the quotient

The components of a condensation are the classes of its import map, and the
edges between them are the imports that leave a class.

* `IsQuotientOf`: what it is to be the quotient of an import map, field by
  field.
* `isQuotientOf_condense`: the condensation is the quotient.
-/

namespace Ratchet.Graph

/-! ## The quotient -/

/-- **The quotient of an import map**: its components are the classes of
mutual reachability, numbered so that imports lead to lower numbers, with the
imports between them recorded both ways. -/
structure Condensation.IsQuotientOf (g : Condensation) (m : ImportMap) : Prop where
  /-- A component's number is its position. -/
  id_eq {i : Nat} {c : Component} : g.components[i]? = some c → c.id = i
  /-- The file table finds the one component that holds a file. -/
  componentOf?_iff {f : String} {i : Nat} :
    g.componentOf? f = some i ↔ ∃ c, g.components[i]? = some c ∧ f ∈ c.files
  /-- The components hold the files of the map and no others. -/
  mem_files {f : String} : f ∈ m.files ↔ ∃ c ∈ g.components, f ∈ c.files
  /-- A component is a class. -/
  mutual_iff {c : Component} {f t : String} :
    c ∈ g.components → f ∈ c.files → (t ∈ c.files ↔ m.digraph.Mutual f t)
  /-- No file is listed twice, in one component or in two. -/
  nodup_files : (g.components.flatMap (·.files)).Nodup
  /-- A component has files, strictly ascending. -/
  files {c : Component} : c ∈ g.components → c.files ≠ [] ∧ c.files.Pairwise (· < ·)
  /-- Its dependencies are strictly ascending. -/
  pairwise_dependencies {c : Component} : c ∈ g.components → c.dependencies.Pairwise (· < ·)
  /-- They are the other components that its files import from. -/
  mem_dependencies {c : Component} {d : Nat} : c ∈ g.components →
    (d ∈ c.dependencies ↔
      d ≠ c.id ∧ ∃ f ∈ c.files, ∃ t ∈ m.targets f, g.componentOf? t = some d)
  /-- They have lower numbers. -/
  dependency_lt {c : Component} {d : Nat} : c ∈ g.components → d ∈ c.dependencies → d < c.id
  /-- Its dependents are strictly ascending. -/
  pairwise_dependents {c : Component} : c ∈ g.components → c.dependents.Pairwise (· < ·)
  /-- They are the components that depend on it. -/
  mem_dependents {c : Component} {d : Nat} : c ∈ g.components →
    (d ∈ c.dependents ↔ ∃ e, g.components[d]? = some e ∧ c.id ∈ e.dependencies)

namespace Condensation.IsQuotientOf

variable {g : Condensation} {m : ImportMap} {c e : Component} {f t : String} {d : Nat}

/-- A file lies in one component only. -/
theorem component_unique (h : g.IsQuotientOf m) (hc : c ∈ g.components) (he : e ∈ g.components)
    (hfc : f ∈ c.files) (hfe : f ∈ e.files) : c = e := by
  obtain ⟨i, hi⟩ := List.getElem?_of_mem hc
  obtain ⟨j, hj⟩ := List.getElem?_of_mem he
  have h₁ := h.componentOf?_iff.mpr ⟨c, hi, hfc⟩
  have h₂ := h.componentOf?_iff.mpr ⟨e, hj, hfe⟩
  obtain rfl : i = j := Option.some.inj (h₁.symm.trans h₂)
  exact Option.some.inj (hi.symm.trans hj)

/-- An import that leaves a component leads into one that it depends on. -/
theorem exists_dependency_of_edge (h : g.IsQuotientOf m) (hc : c ∈ g.components)
    (hf : f ∈ c.files) (hedge : m.digraph.Edge f t) (ht : t ∉ c.files) :
    ∃ e ∈ g.components, t ∈ e.files ∧ e.id ∈ c.dependencies := by
  obtain ⟨e, he, hte⟩ := h.mem_files.mp hedge.2.1
  obtain ⟨i, hi⟩ := List.getElem?_of_mem hc
  obtain ⟨j, hj⟩ := List.getElem?_of_mem he
  refine ⟨e, he, hte, ?_⟩
  rw [h.id_eq hj, h.mem_dependencies hc, h.id_eq hi]
  refine ⟨?_, f, hf, t, hedge.2.2, h.componentOf?_iff.mpr ⟨e, hj, hte⟩⟩
  rintro rfl
  obtain rfl : c = e := Option.some.inj (hi.symm.trans hj)
  exact ht hte

/-- Files share a component exactly when they import each other. -/
theorem componentOf?_eq_iff (h : g.IsQuotientOf m) (hf : f ∈ m.files) :
    g.componentOf? f = g.componentOf? t ↔ m.digraph.Mutual f t := by
  obtain ⟨c, hc, hfc⟩ := h.mem_files.mp hf
  obtain ⟨i, hi⟩ := List.getElem?_of_mem hc
  rw [← h.mutual_iff hc hfc, h.componentOf?_iff.mpr ⟨c, hi, hfc⟩, eq_comm, h.componentOf?_iff]
  constructor
  · rintro ⟨e, he, ht⟩
    obtain rfl : c = e := Option.some.inj (hi.symm.trans he)
    exact ht
  · exact fun ht => ⟨c, hi, ht⟩

/-- The file table has the files of the map. -/
theorem isSome_componentOf? (h : g.IsQuotientOf m) :
    (g.componentOf? f).isSome ↔ f ∈ m.files := by
  rw [h.mem_files, Option.isSome_iff_exists]
  constructor
  · rintro ⟨i, hi⟩
    obtain ⟨c, hc, hf⟩ := h.componentOf?_iff.mp hi
    exact ⟨c, List.mem_of_getElem? hc, hf⟩
  · rintro ⟨c, hc, hf⟩
    obtain ⟨i, hi⟩ := List.getElem?_of_mem hc
    exact ⟨i, h.componentOf?_iff.mpr ⟨c, hi, hf⟩⟩

/-- What a component depends on, told without the file table. -/
theorem mem_dependencies_iff (h : g.IsQuotientOf m) (hc : c ∈ g.components) :
    d ∈ c.dependencies ↔ d ≠ c.id ∧
      ∃ e, g.components[d]? = some e ∧ ∃ f ∈ c.files, ∃ t ∈ m.targets f, t ∈ e.files := by
  rw [h.mem_dependencies hc]
  simp only [h.componentOf?_iff]
  constructor
  · rintro ⟨hne, f, hf, t, ht, e, he, hte⟩
    exact ⟨hne, e, he, f, hf, t, ht, hte⟩
  · rintro ⟨hne, e, he, f, hf, t, ht, hte⟩
    exact ⟨hne, f, hf, t, ht, e, he, hte⟩

/-- A dependency is another component that the files of the component import
from. -/
theorem exists_edge_of_dependency (h : g.IsQuotientOf m) (hc : c ∈ g.components)
    (he : e ∈ g.components) (hid : e.id ∈ c.dependencies) :
    (∀ x ∈ c.files, x ∉ e.files) ∧ ∃ f ∈ c.files, ∃ t ∈ e.files, m.digraph.Edge f t := by
  obtain ⟨i, hi⟩ := List.getElem?_of_mem he
  obtain ⟨hne, e', he', f, hf, t, ht, hte⟩ := (h.mem_dependencies_iff hc).mp hid
  rw [h.id_eq hi] at he'
  obtain rfl : e = e' := Option.some.inj (hi.symm.trans he')
  refine ⟨fun x hxc hxe => hne ?_, f, hf, t, hte, ?_⟩
  · rw [h.component_unique hc he hxc hxe]
  · exact ⟨h.mem_files.mpr ⟨c, hc, hf⟩, h.mem_files.mpr ⟨e, he, hte⟩, ht⟩

end Condensation.IsQuotientOf

/-! ## The condensation -/

namespace ImportMap

variable {m : ImportMap} {c : Component} {f t : String} {d i : Nat}

theorem componentOf?_condense (m : ImportMap) (f : String) :
    m.condense.componentOf? f = (filesByClass m.classes).lookup f :=
  rfl

theorem getElem?_dependencyTable (m : ImportMap) (classes : List (List String)) (i : Nat) :
    (m.dependencyTable classes)[i]? =
      classes[i]?.map (m.classDependencies (filesByClass classes) i) := by
  rw [dependencyTable, List.getElem?_mapIdx]

theorem length_dependencyTable (m : ImportMap) (classes : List (List String)) :
    (m.dependencyTable classes).length = classes.length := by
  simp [dependencyTable]

theorem nodup_dependencyTable (m : ImportMap) (classes : List (List String)) :
    ∀ row ∈ m.dependencyTable classes, row.Nodup := by
  intro row hrow
  obtain ⟨i, hi⟩ := List.getElem?_of_mem hrow
  rw [getElem?_dependencyTable] at hi
  obtain ⟨files, -, rfl⟩ := Option.map_eq_some_iff.mp hi
  exact nodup_ascending _

/-- The component at a position, in terms of the class there. -/
theorem getElem?_components (m : ImportMap) (i : Nat) :
    m.condense.components[i]? = m.classes[i]?.map fun files =>
      { id := i, files,
        dependencies := m.classDependencies (filesByClass m.classes) i files,
        dependents := (reversedTable (m.dependencyTable m.classes)).getD i [] } := by
  rw [condense, List.getElem?_mapIdx]
  cases hi : m.classes[i]? with
  | none => rfl
  | some files =>
    simp [List.getD_eq_getElem?_getD, getElem?_dependencyTable, hi]

/-- A component of the condensation is made from the class at its position. -/
theorem exists_class (hc : m.condense.components[i]? = some c) :
    m.classes[i]? = some c.files ∧ c.id = i ∧
      c.dependencies = m.classDependencies (filesByClass m.classes) i c.files ∧
      c.dependents = (reversedTable (m.dependencyTable m.classes)).getD i [] := by
  rw [getElem?_components] at hc
  obtain ⟨files, hfiles, rfl⟩ := Option.map_eq_some_iff.mp hc
  exact ⟨hfiles, rfl, rfl, rfl⟩

theorem exists_component {members : List String} (hi : m.classes[i]? = some members) :
    ∃ c, m.condense.components[i]? = some c ∧ c.files = members := by
  rw [getElem?_components, hi]
  exact ⟨_, rfl, rfl⟩

/-- The components list the classes. -/
theorem map_files_components (m : ImportMap) :
    m.condense.components.map (·.files) = m.classes := by
  refine List.ext_getElem? fun i => ?_
  rw [List.getElem?_map, getElem?_components]
  cases m.classes[i]? <;> rfl

/-- The file table leads to the component that holds the file. -/
theorem componentOf?_iff :
    m.condense.componentOf? f = some i ↔
      ∃ c, m.condense.components[i]? = some c ∧ f ∈ c.files := by
  rw [componentOf?_condense, lookup_filesByClass m.nodup_classes]
  constructor
  · rintro ⟨members, hi, hf⟩
    obtain ⟨c, hc, rfl⟩ := exists_component hi
    exact ⟨c, hc, hf⟩
  · rintro ⟨c, hc, hf⟩
    exact ⟨c.files, (exists_class hc).1, hf⟩

/-- A class depends on the other classes that its files import. -/
theorem mem_classDependencies {members : List String} :
    d ∈ m.classDependencies (filesByClass m.classes) i members ↔
      d ≠ i ∧ ∃ f ∈ members, ∃ t ∈ m.targets f, m.condense.componentOf? t = some d := by
  simp only [classDependencies, mem_ascending, List.mem_filter, List.mem_filterMap,
    List.mem_flatMap, componentOf?_condense, decide_eq_true_eq]
  constructor
  · rintro ⟨⟨t, ⟨f, hf, ht⟩, hd⟩, hne⟩
    exact ⟨hne, f, hf, t, ht, hd⟩
  · rintro ⟨hne, f, hf, t, ht, hd⟩
    exact ⟨⟨t, ⟨f, hf, ht⟩, hd⟩, hne⟩

/-- An import that leaves a class leads to a lower number. -/
theorem componentOf?_lt (hc : m.condense.components[i]? = some c) (hf : f ∈ c.files)
    (ht : t ∈ m.targets f) (hd : m.condense.componentOf? t = some d) (hne : d ≠ i) : d < i := by
  have hi := (exists_class hc).1
  obtain ⟨e, he, hte⟩ := componentOf?_iff.mp hd
  have hd' := (exists_class he).1
  have hmem {k : Nat} {members : List String} {x : String} (hk : m.classes[k]? = some members)
      (hx : x ∈ members) : x ∈ m.files :=
    mem_classes.mp (List.mem_flatten_of_mem (List.mem_of_getElem? hk) hx)
  -- the walk closes the class of `t` no later, and it is another class
  obtain ⟨j, hj, members, hm, htm⟩ := edge_le hi hf ⟨hmem hi hf, hmem hd' hte, ht⟩
  have hjd : j = d := position_unique m.nodup_classes hm htm hd' hte
  omega

/-- The dependents are the components that list this one, ascending. -/
theorem dependents_spec (hc : m.condense.components[i]? = some c) :
    c.dependents.Pairwise (· < ·) ∧
      ∀ d, d ∈ c.dependents ↔
        ∃ e, m.condense.components[d]? = some e ∧ c.id ∈ e.dependencies := by
  obtain ⟨hi, hid, -, hdependents⟩ := exists_class hc
  have hlt : i < (m.dependencyTable m.classes).length := by
    rw [length_dependencyTable]
    exact (List.getElem?_eq_some_iff.mp hi).1
  obtain ⟨ids, hids, hsorted, hmem⟩ := reversedTable_spec (m.nodup_dependencyTable _) hlt
  rw [List.getD_eq_getElem?_getD, hids, Option.getD_some] at hdependents
  rw [hdependents]
  refine ⟨hsorted, fun d => (hmem d).trans ?_⟩
  rw [getElem?_dependencyTable, hid]
  constructor
  · rintro ⟨row, hrow, hin⟩
    obtain ⟨members, hd, rfl⟩ := Option.map_eq_some_iff.mp hrow
    obtain ⟨e, he, rfl⟩ := exists_component hd
    exact ⟨e, he, by rwa [(exists_class he).2.2.1]⟩
  · rintro ⟨e, he, hin⟩
    obtain ⟨hd, -, hdeps, -⟩ := exists_class he
    exact ⟨e.dependencies, by rw [hd, hdeps, Option.map_some], hin⟩

/-- **The condensation is the quotient of its import map.** -/
theorem isQuotientOf_condense (m : ImportMap) : m.condense.IsQuotientOf m where
  id_eq hc := (exists_class hc).2.1
  componentOf?_iff := componentOf?_iff
  mem_files := by
    intro f
    rw [← mem_classes, ← map_files_components]
    simp only [List.mem_flatten, List.mem_map]
    constructor
    · rintro ⟨_, ⟨c, hc, rfl⟩, hf⟩
      exact ⟨c, hc, hf⟩
    · rintro ⟨c, hc, hf⟩
      exact ⟨c.files, ⟨c, hc, rfl⟩, hf⟩
  mutual_iff := by
    intro c f t hc hf
    obtain ⟨i, hi⟩ := List.getElem?_of_mem hc
    have hclass := (exists_class hi).1
    have hff : f ∈ m.files :=
      mem_classes.mp (List.mem_flatten_of_mem (List.mem_of_getElem? hclass) hf)
    rw [← mutual_iff hff]
    constructor
    · exact fun ht => ⟨c.files, List.mem_of_getElem? hclass, hf, ht⟩
    · rintro ⟨members, hm, hfm, htm⟩
      obtain ⟨j, hj⟩ := List.getElem?_of_mem hm
      obtain rfl := position_unique m.nodup_classes hclass hf hj hfm
      obtain rfl : c.files = members := Option.some.inj (hclass.symm.trans hj)
      exact htm
  nodup_files := by
    rw [List.flatMap_def, map_files_components]
    exact m.nodup_classes
  files hc := by
    obtain ⟨i, hi⟩ := List.getElem?_of_mem hc
    have hclass := List.mem_of_getElem? (exists_class hi).1
    exact ⟨ne_nil_of_mem_classes hclass, pairwise_of_mem_classes hclass⟩
  pairwise_dependencies hc := by
    obtain ⟨i, hi⟩ := List.getElem?_of_mem hc
    rw [(exists_class hi).2.2.1]
    exact pairwise_ascending _
  mem_dependencies hc := by
    obtain ⟨i, hi⟩ := List.getElem?_of_mem hc
    obtain ⟨-, hid, hdeps, -⟩ := exists_class hi
    rw [hdeps, hid, mem_classDependencies]
  dependency_lt hc hd := by
    obtain ⟨i, hi⟩ := List.getElem?_of_mem hc
    obtain ⟨-, hid, hdeps, -⟩ := exists_class hi
    rw [hdeps, mem_classDependencies] at hd
    obtain ⟨hne, f, hf, t, ht, hd⟩ := hd
    rw [hid]
    exact componentOf?_lt hi hf ht hd hne
  pairwise_dependents hc := by
    obtain ⟨i, hi⟩ := List.getElem?_of_mem hc
    exact (dependents_spec hi).1
  mem_dependents hc := by
    obtain ⟨i, hi⟩ := List.getElem?_of_mem hc
    exact (dependents_spec hi).2 _

end ImportMap

end Ratchet.Graph
