import Ratchet.Proofs.Graph.Frontier

/-!
# Clearance

Let some files be checked and let every file have a number of errors. A file
*clears* when no file with errors that is not checked can be reached from it
along imports, where a path may only use files whose class is not all checked.
These are the files that checking can ever reach: a set of checked files that
grows by whole clean components, each after what it depends on, adds files that
clear (`Clears.of_component`), and where it cannot grow any more it holds all of
them (`Clears.mem_of_stable`).
-/

namespace Ratchet.Graph

namespace Digraph

variable {α : Type} {g : Digraph α} {P Q : α → Prop} {u v w : α}

/-- Reachability along edges through vertices of one kind, both ends included. -/
inductive ReachesThrough (g : Digraph α) (P : α → Prop) : α → α → Prop
  | refl {u : α} : u ∈ g.vertices → P u → ReachesThrough g P u u
  | step {u v w : α} : Edge g u v → P u → ReachesThrough g P v w → ReachesThrough g P u w

theorem ReachesThrough.left (h : g.ReachesThrough P u v) : P u := by
  cases h with
  | refl _ hu => exact hu
  | step _ hu _ => exact hu

/-- A way through some vertices can be continued. -/
theorem ReachesThrough.trans (huv : g.ReachesThrough P u v) (hvw : g.ReachesThrough P v w) :
    g.ReachesThrough P u w := by
  induction huv with
  | refl _ _ => exact hvw
  | step he hu _ ih => exact .step he hu (ih hvw)

theorem ReachesThrough.mono (h : g.ReachesThrough P u v) (hsub : ∀ w, P w → Q w) :
    g.ReachesThrough Q u v := by
  induction h with
  | refl hu hp => exact .refl hu (hsub _ hp)
  | step he hu _ ih => exact .step he (hsub _ hu) ih

/-- A path lies within another kind, or it comes by a vertex that does not. -/
theorem ReachesThrough.within_or_exists (h : g.ReachesThrough P u v) (Q : α → Prop) :
    g.ReachesThrough Q u v ∨ ∃ w, ¬ Q w ∧ g.ReachesThrough P w v := by
  induction h with
  | @refl u hu hp =>
    by_cases hq : Q u
    · exact Or.inl (.refl hu hq)
    · exact Or.inr ⟨u, hq, .refl hu hp⟩
  | @step u v w he hp hrest ih =>
    by_cases hq : Q u
    · exact ih.imp_left fun hpath => .step he hq hpath
    · exact Or.inr ⟨u, hq, .step he hp hrest⟩

/-- Vertices of one class reach each other through the class. -/
theorem Reaches.through (h : g.Reaches u v) (hvu : g.Reaches v u)
    (hclass : ∀ w, g.Mutual u w → P w) : g.ReachesThrough P u v := by
  induction h with
  | refl hu => exact .refl hu (hclass _ (.refl hu))
  | step he hrest ih =>
    -- the next vertex is in the class as well, since the path leads back
    have hback := hrest.trans hvu
    refine .step he (hclass _ (.refl he.1)) (ih (hvu.trans he.reaches) fun w hw => ?_)
    exact hclass w (Mutual.trans ⟨he.reaches, hback⟩ hw)

end Digraph

namespace ImportMap

variable {m : ImportMap} {g : Condensation} {c : Component} {checked checked' : List String}
  {errors : String → Nat} {f t x : String}

/-- The class of a file is not all checked. -/
def Open (m : ImportMap) (checked : List String) (f : String) : Prop :=
  ∃ t, m.digraph.Mutual f t ∧ t ∉ checked

/-- **A file clears**: it is not checked, and no unchecked file with errors can
be reached from it through files whose class is not all checked. -/
structure Clears (m : ImportMap) (checked : List String) (errors : String → Nat)
    (f : String) : Prop where
  mem_files : f ∈ m.files
  notMem : f ∉ checked
  clean (t : String) : m.digraph.ReachesThrough (m.Open checked) f t → t ∉ checked → errors t = 0

theorem Open.of_notMem (hf : f ∈ m.files) (hnot : f ∉ checked) : m.Open checked f :=
  ⟨f, .refl hf, hnot⟩

theorem Open.mutual (h : m.Open checked f) (hft : m.digraph.Mutual f t) : m.Open checked t := by
  obtain ⟨x, hx, hnot⟩ := h
  exact ⟨x, hft.symm.trans hx, hnot⟩

/-- Files of an open class reach each other through open files. -/
theorem Open.reachesThrough (h : m.Open checked f) (hft : m.digraph.Mutual f t) :
    m.digraph.ReachesThrough (m.Open checked) f t :=
  hft.1.through hft.2 fun _ hw => h.mutual hw

namespace Clears

theorem errors_eq_zero (h : m.Clears checked errors f) : errors f = 0 :=
  h.clean f (.refl h.mem_files (.of_notMem h.mem_files h.notMem)) h.notMem

/-- A file clears only if the open files that it reaches do. -/
theorem of_reachesThrough (h : m.Clears checked errors f)
    (hft : m.digraph.ReachesThrough (m.Open checked) f t) (ht : t ∈ m.files) (hnot : t ∉ checked) :
    m.Clears checked errors t :=
  ⟨ht, hnot, fun x htx => h.clean x (hft.trans htx)⟩

/-- **What clears does not depend on where one starts.** Let `checked'` add to
`checked` only files that clear. Together with the files that clear from then
on, it comes to the same files as `checked` does with those that clear. -/
theorem mem_or_resumed (hsub : ∀ f ∈ checked, f ∈ checked')
    (hsound : ∀ f ∈ checked', f ∈ checked ∨ m.Clears checked errors f) :
    f ∈ checked' ∨ m.Clears checked' errors f ↔ f ∈ checked ∨ m.Clears checked errors f := by
  constructor
  · rintro (hf | hf)
    · exact hsound f hf
    · refine or_iff_not_imp_left.mpr fun hnot => ⟨hf.mem_files, hnot, fun t hft ht => ?_⟩
      rcases hft.within_or_exists (m.Open checked') with hpath | ⟨v, hv, hvt⟩
      · by_cases hmem : t ∈ checked'
        · exact ((hsound t hmem).resolve_left ht).errors_eq_zero
        · exact hf.clean t hpath hmem
      · -- the path comes by a class that `checked'` has closed, so a file of it clears
        obtain ⟨x, hvx, hx⟩ := hvt.left
        have hmem : x ∈ checked' := by_contra fun hnot => hv ⟨x, hvx, hnot⟩
        have hopen : m.Open checked x := ⟨x, hvx.symm.trans hvx, hx⟩
        exact ((hsound x hmem).resolve_left hx).clean t
          ((hopen.reachesThrough hvx.symm).trans hvt) ht
  · rintro (hf | hf)
    · exact Or.inl (hsub f hf)
    · refine or_iff_not_imp_left.mpr fun hnot => ⟨hf.mem_files, hnot, fun t hft ht => ?_⟩
      refine hf.clean t (hft.mono fun w hw => ?_) fun hmem => ht (hsub t hmem)
      obtain ⟨x, hwx, hx⟩ := hw
      exact ⟨x, hwx, fun hmem => hx (hsub x hmem)⟩

/-- A path from a clean component leads to no unchecked file with errors. -/
theorem errors_of_path (hq : g.IsQuotientOf m)
    (hsound : ∀ f ∈ checked', f ∈ checked ∨ m.Clears checked errors f)
    (hc : c ∈ g.components) (hdeps : g.DependenciesChecked checked' c)
    (hclean : ∀ x ∈ c.files, x ∉ checked' → errors x = 0)
    (hft : m.digraph.ReachesThrough (m.Open checked) f t) (hf : f ∈ c.files)
    (ht : t ∉ checked) : errors t = 0 := by
  induction hft with
  | @refl f _ _ =>
    by_cases hmem : f ∈ checked'
    · exact ((hsound f hmem).resolve_left ht).errors_eq_zero
    · exact hclean f hf hmem
  | @step f v t he _ hrest ih =>
    by_cases hv : v ∈ c.files
    · exact ih hv ht
    · -- `v` is open, so its class has a file that `checked'` added: that one clears
      obtain ⟨e, hec, hve, hid⟩ := hq.exists_dependency_of_edge hc hf he hv
      obtain ⟨x, hvx, hx⟩ := hrest.left
      have hxe : x ∈ e.files := (hq.mutual_iff hec hve).mpr hvx
      have hclears := (hsound x (hdeps e hec hid x hxe)).resolve_left hx
      have hopen : m.Open checked x := .of_notMem hclears.mem_files hx
      exact hclears.clean t ((hopen.reachesThrough hvx.symm).trans hrest) ht

/-- **A clean component clears.** Let `checked'` add to `checked` only files
that clear. When it holds all that a component depends on, and the files of the
component that it misses have no errors, these clear as well. -/
theorem of_component (hq : g.IsQuotientOf m) (hsub : ∀ f ∈ checked, f ∈ checked')
    (hsound : ∀ f ∈ checked', f ∈ checked ∨ m.Clears checked errors f)
    (hc : c ∈ g.components) (hdeps : g.DependenciesChecked checked' c)
    (hclean : ∀ x ∈ c.files, x ∉ checked' → errors x = 0) (hf : f ∈ c.files)
    (hnot : f ∉ checked') : m.Clears checked errors f :=
  ⟨hq.mem_files.mpr ⟨c, hc, hf⟩, fun hmem => hnot (hsub f hmem),
    fun _ hft ht => errors_of_path hq hsound hc hdeps hclean hft hf ht⟩

/-- **Where nothing is added, nothing is missing.** A set that holds each clean
component whose dependencies it holds has all the files that clear. -/
theorem mem_of_stable (hq : g.IsQuotientOf m) (hsub : ∀ f ∈ checked, f ∈ checked')
    (hstable : ∀ c ∈ g.components, g.DependenciesChecked checked' c →
      (∀ x ∈ c.files, x ∉ checked' → errors x = 0) → ∀ x ∈ c.files, x ∈ checked')
    (h : m.Clears checked errors f) : f ∈ checked' := by
  obtain ⟨c, hc, hf⟩ := hq.mem_files.mp h.mem_files
  -- on the number of the component: its dependencies have lower ones
  induction hn : c.id using Nat.strongRecOn generalizing c f with
  | ind n ih =>
    have hopen : m.Open checked f := .of_notMem h.mem_files h.notMem
    have hclass : ∀ x ∈ c.files, m.digraph.ReachesThrough (m.Open checked) f x := fun x hx =>
      hopen.reachesThrough ((hq.mutual_iff hc hf).mp hx)
    refine hstable c hc (fun e he hid y hy => ?_) (fun x hx hnot => ?_) f hf
    · by_cases hyc : y ∈ checked
      · exact hsub y hyc
      · obtain ⟨i, hi⟩ := List.getElem?_of_mem he
        obtain ⟨-, e', he', x, hx, t, ht, hte⟩ := (hq.mem_dependencies_iff hc).mp hid
        rw [hq.id_eq hi] at he'
        obtain rfl : e = e' := Option.some.inj (hi.symm.trans he')
        have hyf : y ∈ m.files := hq.mem_files.mpr ⟨e, he, hy⟩
        have htf : t ∈ m.files := hq.mem_files.mpr ⟨e, he, hte⟩
        have hxf : x ∈ m.files := hq.mem_files.mpr ⟨c, hc, hx⟩
        have hyt : m.digraph.Mutual y t := (hq.mutual_iff he hy).mp hte
        have hopent : m.Open checked t := (Open.of_notMem hyf hyc).mutual hyt
        have hopenx : m.Open checked x := hopen.mutual ((hq.mutual_iff hc hf).mp hx)
        have hfy : m.digraph.ReachesThrough (m.Open checked) f y :=
          (hclass x hx).trans (.step ⟨hxf, htf, ht⟩ hopenx (hopent.reachesThrough hyt.symm))
        exact ih e.id (hn ▸ hq.dependency_lt hc hid) (h.of_reachesThrough hfy hyf hyc) e he hy rfl
    · exact h.clean x (hclass x hx) fun hxc => hnot (hsub x hxc)

end Clears

end ImportMap

end Ratchet.Graph
