import Mathlib.Data.List.Flatten
import Ratchet.Graph.Frontier
import Ratchet.Proofs.Graph.Quotient

/-!
# The frontier, component by component

A component stands on the frontier when it has an unchecked file and all its
dependencies are checked. The second condition is `DependenciesChecked`: it
only ever comes true as more files are checked. It says of the files
themselves that every import that leaves the component leads to a checked file
(`mem_of_edge`), and it can be told from the imports alone
(`dependenciesChecked_iff`).

* `frontier_by_imports`: which files are on the frontier, without components,
  and that there are some as long as a file is unchecked.
-/

namespace Ratchet.Graph

namespace Component

variable {c : Component} {checked : List String} {f : String}

theorem isChecked_iff : c.isChecked checked ↔ ∀ f ∈ c.files, f ∈ checked := by
  simp [isChecked]

theorem isChecked_eq_false_iff :
    c.isChecked checked = false ↔ ∃ f ∈ c.files, f ∉ checked := by
  simp [isChecked]

theorem mem_uncheckedFiles : f ∈ c.uncheckedFiles checked ↔ f ∈ c.files ∧ f ∉ checked := by
  simp [uncheckedFiles]

theorem uncheckedFiles_sublist : (c.uncheckedFiles checked).Sublist c.files :=
  List.filter_sublist

end Component

/-- Every tracked file that a checked file imports is checked. -/
def ImportMap.Closed (m : ImportMap) (checked : List String) : Prop :=
  ∀ f t, m.digraph.Edge f t → f ∈ checked → t ∈ checked

namespace Condensation

variable {g : Condensation} {m : ImportMap} {c e : Component} {checked checked' : List String}
  {f t : String}

/-- Every file of every component that a component depends on is checked. -/
def DependenciesChecked (g : Condensation) (checked : List String) (c : Component) : Prop :=
  ∀ e ∈ g.components, e.id ∈ c.dependencies → ∀ f ∈ e.files, f ∈ checked

theorem DependenciesChecked.mono (h : g.DependenciesChecked checked c)
    (hsub : ∀ f ∈ checked, f ∈ checked') : g.DependenciesChecked checked' c :=
  fun e he hid f hf => hsub f (h e he hid f hf)

/-- Which components stand on the frontier depends on which files are checked, not
on how they are listed. -/
theorem eligible_congr (g : Condensation) (hiff : ∀ f, f ∈ checked' ↔ f ∈ checked) :
    g.eligible checked' = g.eligible checked := by
  have hcontains : checked'.contains = checked.contains := funext fun f => by
    rw [Bool.eq_iff_iff, List.contains_iff_mem, List.contains_iff_mem, hiff]
  unfold eligible isDone Component.isChecked
  rw [hcontains]

namespace IsQuotientOf

/-- What a component imports from outside is checked once its dependencies are. -/
theorem mem_of_edge (h : g.IsQuotientOf m) (hc : c ∈ g.components)
    (hdeps : g.DependenciesChecked checked c) (hf : f ∈ c.files) (hedge : m.digraph.Edge f t)
    (ht : t ∉ c.files) : t ∈ checked := by
  obtain ⟨e, he, hte, hid⟩ := h.exists_dependency_of_edge hc hf hedge ht
  exact hdeps e he hid t hte

/-- The dependencies of a component are looked up where they are numbered. -/
theorem all_isDone_iff (h : g.IsQuotientOf m) (hc : c ∈ g.components) :
    c.dependencies.all (g.isDone checked) ↔ g.DependenciesChecked checked c := by
  rw [List.all_eq_true]
  constructor
  · intro hall e he hid f hf
    obtain ⟨i, hi⟩ := List.getElem?_of_mem he
    have hdone := hall e.id hid
    rw [isDone, h.id_eq hi, hi, Option.any_some, Component.isChecked_iff] at hdone
    exact hdone f hf
  · intro hall d hd
    obtain ⟨-, f, -, t, -, ht⟩ := (h.mem_dependencies hc).mp hd
    obtain ⟨e, he, -⟩ := h.componentOf?_iff.mp ht
    rw [isDone, he, Option.any_some, Component.isChecked_iff]
    exact hall e (List.mem_of_getElem? he) (h.id_eq he ▸ hd)

/-- **The frontier**: the components with an unchecked file whose dependencies
are all checked. -/
theorem mem_eligible (h : g.IsQuotientOf m) :
    c ∈ g.eligible checked ↔
      c ∈ g.components ∧ (∃ f ∈ c.files, f ∉ checked) ∧ g.DependenciesChecked checked c := by
  rw [eligible, List.mem_filter, Bool.and_eq_true, Bool.not_eq_true',
    Component.isChecked_eq_false_iff]
  constructor
  · rintro ⟨hc, hopen, hdeps⟩
    exact ⟨hc, hopen, (h.all_isDone_iff hc).mp hdeps⟩
  · rintro ⟨hc, hopen, hdeps⟩
    exact ⟨hc, hopen, (h.all_isDone_iff hc).mpr hdeps⟩

/-- A file is eligible when it is not checked and the dependencies of its component are.
-/
theorem mem_eligibleFiles (h : g.IsQuotientOf m) :
    f ∈ g.eligibleFiles checked ↔
      ∃ c ∈ g.components, f ∈ c.files ∧ f ∉ checked ∧ g.DependenciesChecked checked c := by
  rw [eligibleFiles, List.mem_mergeSort, List.mem_flatMap]
  constructor
  · rintro ⟨c, hc, hf⟩
    obtain ⟨hf, hnot⟩ := Component.mem_uncheckedFiles.mp hf
    obtain ⟨hc, -, hdeps⟩ := h.mem_eligible.mp hc
    exact ⟨c, hc, hf, hnot, hdeps⟩
  · rintro ⟨c, hc, hf, hnot, hdeps⟩
    exact ⟨c, h.mem_eligible.mpr ⟨hc, ⟨f, hf, hnot⟩, hdeps⟩,
      Component.mem_uncheckedFiles.mpr ⟨hf, hnot⟩⟩

/-- The frontier depends on which files are checked, not on how they are listed. -/
theorem mem_eligibleFiles_congr (h : g.IsQuotientOf m)
    (hiff : ∀ f, f ∈ checked' ↔ f ∈ checked) :
    f ∈ g.eligibleFiles checked' ↔ f ∈ g.eligibleFiles checked := by
  simp only [h.mem_eligibleFiles, DependenciesChecked, hiff]

/-- Whether the dependencies of a component are checked can be told from the
imports: each one that leaves the class of the component leads into a class
that is all checked. -/
theorem dependenciesChecked_iff (h : g.IsQuotientOf m) (hc : c ∈ g.components)
    (hf : f ∈ c.files) :
    g.DependenciesChecked checked c ↔
      ∀ u, m.digraph.Mutual f u → ∀ t ∈ m.targets u, t ∈ m.files → ¬ m.digraph.Mutual f t →
        ∀ x, m.digraph.Mutual t x → x ∈ checked := by
  constructor
  · intro hdeps u hfu t ht htm hout x htx
    have hu : u ∈ c.files := (h.mutual_iff hc hf).mpr hfu
    have htc : t ∉ c.files := fun hmem => hout ((h.mutual_iff hc hf).mp hmem)
    obtain ⟨e, he, hte, hid⟩ :=
      h.exists_dependency_of_edge hc hu ⟨h.mem_files.mpr ⟨c, hc, hu⟩, htm, ht⟩ htc
    exact hdeps e he hid x ((h.mutual_iff he hte).mpr htx)
  · intro hall e he hid x hx
    obtain ⟨hother, u, hu, t, hte, hedge⟩ := h.exists_edge_of_dependency hc he hid
    refine hall u ((h.mutual_iff hc hf).mp hu) t hedge.2.2 hedge.2.1 (fun hft => ?_) x
      ((h.mutual_iff he hte).mp hx)
    exact hother t ((h.mutual_iff hc hf).mpr hft) hte

/-- No file is listed twice on the frontier. -/
theorem nodup_eligible (h : g.IsQuotientOf m) :
    ((g.eligible checked).flatMap (·.uncheckedFiles checked)).Nodup := by
  have hfiles : ((g.eligible checked).flatMap (·.files)).Nodup :=
    h.nodup_files.sublist (List.filter_sublist.flatMap _)
  exact hfiles.sublist (List.Sublist.flatMap_right _ fun _ _ => Component.uncheckedFiles_sublist)

/-- **Where the frontier is empty, everything is checked.** -/
theorem mem_of_eligibleFiles_eq_nil (h : g.IsQuotientOf m)
    (hnone : g.eligibleFiles checked = []) (hc : c ∈ g.components) :
    ∀ f ∈ c.files, f ∈ checked := by
  -- on the number of the component: its dependencies have lower ones
  induction hn : c.id using Nat.strongRecOn generalizing c with
  | ind n ih =>
    intro f hf
    have hdeps : g.DependenciesChecked checked c := fun e he hid =>
      ih e.id (hn ▸ h.dependency_lt hc hid) he rfl
    by_contra hnot
    have hmem : f ∈ g.eligibleFiles checked :=
      h.mem_eligibleFiles.mpr ⟨c, hc, hf, hnot, hdeps⟩
    simp [hnone] at hmem

end IsQuotientOf

end Condensation

/-- **The frontier, file by file.** A file is on the frontier exactly when it
is tracked and not checked, and every import that leaves its class, from any
file of the class, leads into a class that is all checked. The files are
strictly ascending, and there is none only when every tracked file is checked. -/
theorem frontier_by_imports (m : ImportMap) (checked : List String) :
    (∀ f, f ∈ m.condense.eligibleFiles checked ↔
      f ∈ m.rows.map (·.1) ∧ f ∉ checked ∧
        ∀ u, m.digraph.Mutual f u → ∀ t ∈ m.targets u, t ∈ m.rows.map (·.1) →
          ¬ m.digraph.Mutual f t → ∀ x, m.digraph.Mutual t x → x ∈ checked) ∧
    (m.condense.eligibleFiles checked).Pairwise (· < ·) ∧
    (m.condense.eligibleFiles checked = [] ↔ ∀ f ∈ m.rows.map (·.1), f ∈ checked) := by
  have h := m.isQuotientOf_condense
  simp only [← ImportMap.mem_files]
  have hmem : ∀ f, f ∈ m.condense.eligibleFiles checked ↔ f ∈ m.files ∧ f ∉ checked ∧
      ∀ u, m.digraph.Mutual f u → ∀ t ∈ m.targets u, t ∈ m.files → ¬ m.digraph.Mutual f t →
        ∀ x, m.digraph.Mutual t x → x ∈ checked := by
    intro f
    rw [h.mem_eligibleFiles]
    constructor
    · rintro ⟨c, hc, hf, hnot, hdeps⟩
      exact ⟨h.mem_files.mpr ⟨c, hc, hf⟩, hnot, (h.dependenciesChecked_iff hc hf).mp hdeps⟩
    · rintro ⟨hf, hnot, hall⟩
      obtain ⟨c, hc, hfc⟩ := h.mem_files.mp hf
      exact ⟨c, hc, hfc, hnot, (h.dependenciesChecked_iff hc hfc).mpr hall⟩
  refine ⟨hmem, ImportMap.pairwise_sort h.nodup_eligible, fun hnone f hf => ?_, fun hall => ?_⟩
  · obtain ⟨c, hc, hfc⟩ := h.mem_files.mp hf
    exact h.mem_of_eligibleFiles_eq_nil hnone hc f hfc
  · refine List.eq_nil_iff_forall_not_mem.mpr fun f hf => ?_
    obtain ⟨hfiles, hnot, -⟩ := (hmem f).mp hf
    exact hnot (hall f hfiles)

end Ratchet.Graph
