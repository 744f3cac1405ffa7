import Ratchet.Proofs.Campaign.Fixpoint
import Ratchet.Proofs.Graph.Layers

/-!
# Depth tells the pass

A steady campaign that starts with nothing checked goes through the components
layer by layer. A component that reaches no file with errors is committed in the
pass whose number is one more than its depth, and no other component ever is:
errors elsewhere neither delay nor advance it.

* `CleanBelow`: no file with errors can be reached from a component.
* `OnTime`: what every pass of such a campaign keeps.
* `depth_tells_pass`: when each component is committed, and how many passes
  there are.
-/

namespace Ratchet

open Ratchet.Graph (Condensation Component ImportMap)

/-! ## Clean components -/

namespace Graph

variable {m : ImportMap} {g : Condensation} {c : Component} {errors : String → Nat}
  {depth : Nat → Nat} {checked : List String} {f : String} {j k n : Nat}

/-- No file with errors can be reached from a component; its own files count. -/
def ImportMap.CleanBelow (m : ImportMap) (errors : String → Nat) (c : Component) : Prop :=
  ∀ f ∈ c.files, ∀ t, m.digraph.Reaches f t → errors t = 0

/-- A file is due at a depth when it belongs to a component of that depth from
which no errors can be reached. -/
def ImportMap.Due (m : ImportMap) (g : Condensation) (errors : String → Nat) (depth : Nat → Nat)
    (k : Nat) (f : String) : Prop :=
  ∃ c ∈ g.components, f ∈ c.files ∧ m.CleanBelow errors c ∧ depth c.id = k

namespace Condensation.IsQuotientOf

/-- A component is clean below when it is clean itself and its dependencies are
clean below. -/
theorem cleanBelow_iff (h : g.IsQuotientOf m) (hc : c ∈ g.components) :
    m.CleanBelow errors c ↔ (∀ f ∈ c.files, errors f = 0) ∧
      ∀ e ∈ g.components, e.id ∈ c.dependencies → m.CleanBelow errors e := by
  constructor
  · intro hclean
    refine ⟨fun f hf => hclean f hf f (.refl (h.mem_files.mpr ⟨c, hc, hf⟩)), ?_⟩
    intro e he hid x hx t hxt
    obtain ⟨-, u, hu, y, hy, hedge⟩ := h.exists_edge_of_dependency hc he hid
    have hyx : m.digraph.Mutual y x := (h.mutual_iff he hy).mp hx
    exact hclean u hu t (.step hedge (hyx.1.trans hxt))
  · rintro ⟨hown, hdeps⟩ f hf t hft
    induction hft with
    | refl _ => exact hown _ hf
    | @step f v t hedge hrest ih =>
      by_cases hv : v ∈ c.files
      · exact ih hv
      · obtain ⟨e, he, hve, hid⟩ := h.exists_dependency_of_edge hc hf hedge hv
        exact hdeps e he hid v hve t hrest

/-- **No layer is skipped**: below a component that is clean below there are
such components at every smaller depth. -/
theorem exists_cleanBelow_of_le (h : g.IsQuotientOf m) (hdepth : g.IsDepth depth)
    (hc : c ∈ g.components) (hclean : m.CleanBelow errors c) (hle : j ≤ depth c.id) :
    ∃ e ∈ g.components, m.CleanBelow errors e ∧ depth e.id = j := by
  -- on the number of the component: its dependencies have lower ones
  induction hn : c.id using Nat.strongRecOn generalizing c with
  | ind n ih =>
    rcases Nat.eq_or_lt_of_le hle with heq | hlt
    · exact ⟨c, hc, hclean, heq.symm⟩
    · obtain ⟨e, he, hid, hje⟩ := (hdepth c hc j).mp hlt
      exact ih e.id (hn ▸ h.dependency_lt hc hid) he
        (((h.cleanBelow_iff hc).mp hclean).2 e he hid) hje rfl

section

variable (h : g.IsQuotientOf m)
  (hchecked : ∀ f, f ∈ checked ↔ ∃ k < n, m.Due g errors depth k f)

include h hchecked

/-- A component is checked once its depth is passed, if it is clean below. -/
theorem mem_checked_iff (hc : c ∈ g.components) (hf : f ∈ c.files) :
    f ∈ checked ↔ m.CleanBelow errors c ∧ depth c.id < n := by
  rw [hchecked]
  constructor
  · rintro ⟨k, hk, e, he, hfe, hclean, rfl⟩
    obtain rfl := h.component_unique hc he hf hfe
    exact ⟨hclean, hk⟩
  · rintro ⟨hclean, hlt⟩
    exact ⟨_, hlt, c, hc, hf, hclean, rfl⟩

/-- **What is committed next**: with the layers below `n` checked, the files of
a component that can be committed are those due at `n`. -/
theorem committable_iff_due (hdepth : g.IsDepth depth) :
    (f ∉ checked ∧ ∃ c ∈ g.components, f ∈ c.files ∧ g.DependenciesChecked checked c ∧
        ∀ x ∈ c.files, x ∉ checked → errors x = 0) ↔
      m.Due g errors depth n f := by
  constructor
  · rintro ⟨hnot, c, hc, hf, hdeps, hown⟩
    have hbelow : ∀ e ∈ g.components, e.id ∈ c.dependencies →
        m.CleanBelow errors e ∧ depth e.id < n := fun e he hid => by
      obtain ⟨x, hx⟩ := List.exists_mem_of_ne_nil _ (h.files he).1
      exact (h.mem_checked_iff hchecked he hx).mp (hdeps e he hid x hx)
    have hclean : m.CleanBelow errors c := by
      refine (h.cleanBelow_iff hc).mpr ⟨fun x hx => ?_, fun e he hid => (hbelow e he hid).1⟩
      by_cases hxc : x ∈ checked
      · obtain ⟨hclean, -⟩ := (h.mem_checked_iff hchecked hc hx).mp hxc
        exact ((h.cleanBelow_iff hc).mp hclean).1 x hx
      · exact hown x hx hxc
    have hge : n ≤ depth c.id := Nat.le_of_not_lt fun hlt =>
      hnot ((h.mem_checked_iff hchecked hc hf).mpr ⟨hclean, hlt⟩)
    have hle : depth c.id ≤ n := Nat.le_of_not_lt fun hlt => by
      obtain ⟨e, he, hid, hne⟩ := (hdepth c hc n).mp hlt
      have := (hbelow e he hid).2
      omega
    exact ⟨c, hc, hf, hclean, Nat.le_antisymm hle hge⟩
  · rintro ⟨c, hc, hf, hclean, rfl⟩
    obtain ⟨hown, hdeps⟩ := (h.cleanBelow_iff hc).mp hclean
    refine ⟨fun hmem => ?_, c, hc, hf, fun e he hid x hx => ?_, fun x hx _ => hown x hx⟩
    · exact Nat.lt_irrefl _ ((h.mem_checked_iff hchecked hc hf).mp hmem).2
    · exact (h.mem_checked_iff hchecked he hx).mpr
        ⟨hdeps e he hid, (hdepth c hc _).mpr ⟨e, he, hid, Nat.le_refl _⟩⟩

end

end Condensation.IsQuotientOf

end Graph

/-! ## Pass by pass -/

variable {σ : Type} {env : Environment σ} {m : Migration} {j j' : Journal σ} {start : σ}
  {report : PassReport} {imports : ImportMap} {errors : String → Nat} {depth : Nat → Nat}

/-- **What every pass of a steady campaign from nothing keeps**: each pass has
committed what was due at its place, and that was something. -/
structure OnTime (imports : ImportMap) (errors : String → Nat) (depth : Nat → Nat)
    (m : Migration) (j : Journal σ) : Prop where
  running : m.cancelled = false
  checked (f : String) : f ∈ j.checked.files ↔
    ∃ k < m.passes.length, imports.Due imports.condense errors depth k f
  passes {k : Nat} {p : PassReport} : m.passes[k]? = some p →
    p.number = k + 1 ∧ p.committed ≠ [] ∧
      ∀ f, f ∈ p.committed ↔ imports.Due imports.condense errors depth k f

namespace OnTime

variable (hs : OnTime imports errors depth m j)

include hs

/-- The next pass commits what is due. -/
theorem mem_committed (h : env.Steady imports errors) (hdepth : imports.condense.IsDepth depth)
    (hd : report.Describes env imports.condense j.checked.files) (f : String) :
    f ∈ report.committed ↔
      imports.Due imports.condense errors depth m.passes.length f := by
  rw [h.mem_committed hd]
  exact imports.isQuotientOf_condense.committable_iff_due hs.checked hdepth

/-- A pass that commits something keeps a campaign on time. -/
theorem addPass (h : env.Steady imports errors) (hdepth : imports.condense.IsDepth depth)
    (hnumber : report.number = m.passes.length + 1)
    (hd : report.Describes env imports.condense j.checked.files)
    (hchecked : ∀ f, f ∈ j'.checked.files ↔ f ∈ j.checked.files ∨ f ∈ report.committed)
    (hsome : report.committed ≠ []) : OnTime imports errors depth (m.addPass report) j' where
  running := hs.running
  checked f := by
    have hlen : (m.addPass report).passes.length = m.passes.length + 1 := by
      simp [Migration.addPass]
    rw [hchecked, hs.checked, hs.mem_committed h hdepth hd, hlen]
    constructor
    · rintro (⟨k, hk, hdue⟩ | hdue)
      · exact ⟨k, by omega, hdue⟩
      · exact ⟨_, Nat.lt_succ_self _, hdue⟩
    · rintro ⟨k, hk, hdue⟩
      rcases Nat.eq_or_lt_of_le (Nat.le_of_lt_succ hk) with rfl | hlt
      · exact Or.inr hdue
      · exact Or.inl ⟨k, hlt, hdue⟩
  passes {k p} hp := by
    rcases Migration.getElem?_addPass.mp hp with hp | ⟨rfl, rfl⟩
    · exact hs.passes hp
    · exact ⟨hnumber, hsome, hs.mem_committed h hdepth hd⟩

section

variable (h : env.Steady imports errors) (hdepth : imports.condense.IsDepth depth)
  (hd : report.Describes env imports.condense j.checked.files) (hnone : report.committed = [])

include h hdepth hd hnone

/-- Where nothing is due, no clean component lies as deep. -/
theorem depth_lt {c : Component} (hc : c ∈ imports.condense.components)
    (hclean : imports.CleanBelow errors c) : depth c.id < m.passes.length := by
  have hq := imports.isQuotientOf_condense
  by_contra hge
  obtain ⟨e, he, hclean, heq⟩ :=
    hq.exists_cleanBelow_of_le hdepth hc hclean (Nat.le_of_not_lt hge)
  obtain ⟨f, hf⟩ := List.exists_mem_of_ne_nil _ (hq.files he).1
  have hmem : f ∈ report.committed :=
    (hs.mem_committed h hdepth hd f).mpr ⟨e, he, hf, hclean, heq⟩
  simp [hnone] at hmem

/-- **When a file is committed**: in the pass that its component's depth tells. -/
theorem exists_pass_iff {c : Component} (hc : c ∈ imports.condense.components) {f : String}
    (hf : f ∈ c.files) (k : Nat) :
    (∃ p, (m.addPass report).passes[k]? = some p ∧ f ∈ p.committed) ↔
      imports.CleanBelow errors c ∧ k = depth c.id := by
  constructor
  · rintro ⟨p, hp, hfp⟩
    rcases Migration.getElem?_addPass.mp hp with hp | ⟨-, rfl⟩
    · obtain ⟨-, -, hdue⟩ := hs.passes hp
      obtain ⟨e, he, hfe, hclean, rfl⟩ := (hdue f).mp hfp
      obtain rfl := imports.isQuotientOf_condense.component_unique hc he hf hfe
      exact ⟨hclean, rfl⟩
    · simp [hnone] at hfp
  · rintro ⟨hclean, rfl⟩
    have hlt := hs.depth_lt h hdepth hd hnone hc hclean
    have hp : m.passes[depth c.id]? = some m.passes[depth c.id] := List.getElem?_eq_getElem hlt
    exact ⟨_, Migration.getElem?_addPass.mpr (Or.inl hp),
      ((hs.passes hp).2.2 f).mpr ⟨c, hc, hf, hclean, rfl⟩⟩

/-- The pass before the last one has committed the deepest clean components. -/
theorem exists_deepest (hpos : 0 < m.passes.length) :
    ∃ c ∈ imports.condense.components, imports.CleanBelow errors c ∧
      depth c.id + 1 = m.passes.length ∧
      ∀ e ∈ imports.condense.components, imports.CleanBelow errors e → depth e.id ≤ depth c.id := by
  have hlast : m.passes[m.passes.length - 1]? = some m.passes[m.passes.length - 1] :=
    List.getElem?_eq_getElem (by omega)
  obtain ⟨-, hsome, hdue⟩ := hs.passes hlast
  obtain ⟨f, hf⟩ := List.exists_mem_of_ne_nil _ hsome
  obtain ⟨c, hc, -, hclean, hdepthc⟩ := (hdue f).mp hf
  refine ⟨c, hc, hclean, by omega, fun e he hcleane => ?_⟩
  have := hs.depth_lt h hdepth hd hnone he hcleane
  omega

end

end OnTime

/-- **Depth tells the pass.** A steady campaign that starts with nothing checked
ends by itself. The files of a component are committed in pass `k`, counted from
one, exactly when no file with errors can be reached from the component and `k`
is one more than its depth; no other file is ever committed. There is one pass
more than the largest such `k`, and just one if there is none. -/
theorem depth_tells_pass {w : σ} (h : env.Steady imports errors)
    (hload : env.load start = (.ok [], w)) :
    ∃ layered result j enough,
      imports.condense.layer = .ok layered ∧
      (∀ budget, enough < budget → env.run none budget start = (.finished result, j)) ∧
      result.cancelled = false ∧
      (∀ k p, result.passes[k]? = some p → p.number = k + 1) ∧
      (∀ p ∈ result.passes, ∀ f ∈ p.committed, ∃ c ∈ layered.components, f ∈ c.files) ∧
      (∀ c ∈ layered.components, ∃ d, c.depth = some d ∧ ∀ f ∈ c.files, ∀ k,
        (∃ p ∈ result.passes, p.number = k ∧ f ∈ p.committed) ↔
          imports.CleanBelow errors c ∧ k = d.dependency + 1) ∧
      ((∃ c ∈ layered.components, ∃ d, c.depth = some d ∧ imports.CleanBelow errors c ∧
          result.passes.length = 1 + (d.dependency + 1) ∧
          ∀ e ∈ layered.components, ∀ d', e.depth = some d' → imports.CleanBelow errors e →
            d'.dependency ≤ d.dependency) ∨
        (∀ c ∈ layered.components, ¬ imports.CleanBelow errors c) ∧
          result.passes.length = 1) := by
  have hq := imports.isQuotientOf_condense
  obtain ⟨layered, depth, height, hlayer, hdepth, hcomponents⟩ := hq.layer_ok
  -- the last pass commits nothing, and those before it what was due
  let first : Journal σ := { world := w, checked := .ofList [] }
  have hfirst : OnTime imports errors depth {} first :=
    ⟨rfl, fun f => by simp [first, CheckedSet.mem_ofList], by simp⟩
  obtain ⟨m, j, report, last, hs, hnumber, hd, -, hnone, hrounds⟩ := h.undisturbed.rounds_end
    (fun hs hn hd hchecked hsome => hs.addPass h hdepth hn hd hchecked hsome) hfirst
  have hnumbers : ∀ k p, (m.addPass report).passes[k]? = some p → p.number = k + 1 := by
    intro k p hp
    rcases Migration.getElem?_addPass.mp hp with hp | ⟨rfl, rfl⟩
    · exact (hs.passes hp).1
    · exact hnumber
  have hlen : (m.addPass report).passes.length = m.passes.length + 1 := by
    simp [Migration.addPass]
  -- layering adds the depths and changes nothing else
  have hlayered : ∀ c ∈ layered.components, ∃ c₀ ∈ imports.condense.components,
      c = { c₀ with depth := some ⟨depth c₀.id, height c₀.id⟩ } := by
    intro c hc
    rw [hcomponents, List.mem_map] at hc
    obtain ⟨c₀, hc₀, rfl⟩ := hc
    exact ⟨c₀, hc₀, rfl⟩
  have hmem : ∀ c ∈ imports.condense.components,
      { c with depth := some ⟨depth c.id, height c.id⟩ } ∈ layered.components := by
    intro c hc
    rw [hcomponents]
    exact List.mem_map_of_mem hc
  refine ⟨layered, m.addPass report, last, (openComponents imports.condense []).length, hlayer,
    fun budget hb => ?_, hs.running, hnumbers, fun p hp f hf => ?_, fun c hc => ?_, ?_⟩
  · rw [Environment.run, hload]
    exact hrounds budget hb
  · obtain ⟨k, hk⟩ := List.getElem?_of_mem hp
    rcases Migration.getElem?_addPass.mp hk with hk | ⟨-, rfl⟩
    · obtain ⟨c, hc, hfc, -⟩ := ((hs.passes hk).2.2 f).mp hf
      exact ⟨_, hmem c hc, hfc⟩
    · simp [hnone] at hf
  · obtain ⟨c₀, hc₀, rfl⟩ := hlayered c hc
    refine ⟨_, rfl, fun f hf k => ?_⟩
    have hiff := hs.exists_pass_iff h hdepth hd hnone hc₀ hf
    constructor
    · rintro ⟨p, hp, rfl, hfp⟩
      obtain ⟨i, hi⟩ := List.getElem?_of_mem hp
      obtain ⟨hclean, rfl⟩ := (hiff i).mp ⟨p, hi, hfp⟩
      exact ⟨hclean, hnumbers _ p hi⟩
    · rintro ⟨hclean, rfl⟩
      obtain ⟨p, hp, hfp⟩ := (hiff (depth c₀.id)).mpr ⟨hclean, rfl⟩
      exact ⟨p, List.mem_of_getElem? hp, hnumbers _ p hp, hfp⟩
  · rcases Nat.eq_zero_or_pos m.passes.length with hzero | hpos
    · refine Or.inr ⟨fun c hc hclean => ?_, by omega⟩
      obtain ⟨c₀, hc₀, rfl⟩ := hlayered c hc
      have := hs.depth_lt h hdepth hd hnone hc₀ hclean
      omega
    · obtain ⟨c, hc, hclean, hlast, hdeepest⟩ := hs.exists_deepest h hdepth hd hnone hpos
      refine Or.inl ⟨_, hmem c hc, _, rfl, hclean, ?_, fun e he d' hd' hclean' => ?_⟩
      · rw [hlen, ← hlast, Nat.add_comm]
      · obtain ⟨e₀, he₀, rfl⟩ := hlayered e he
        cases hd'
        exact hdeepest e₀ he₀ hclean'

/-- Three files in a chain, the first of which also imports a file with errors,
and one that stands alone. -/
def chainAndFault : ImportMap where
  rows := [("a", ["b", "e"]), ("b", ["c"]), ("c", []), ("d", []), ("e", [])]

/-- The chain is committed from its end, but for `a`, which imports the errors of
`e`. -/
theorem counting_tells_pass :
    (Environment.counting chainAndFault [] fun file _ => errorsInE file).Steady
      chainAndFault errorsInE ∧
    (Environment.counting chainAndFault [] fun file _ => errorsInE file).load 0 = (.ok [], 0) ∧
    ∃ layered result j enough,
      chainAndFault.condense.layer = .ok layered ∧
      (∀ budget, enough < budget →
        (Environment.counting chainAndFault [] fun file _ => errorsInE file).run none budget 0 =
          (.finished result, j)) ∧
      result.cancelled = false ∧
      (∀ k p, result.passes[k]? = some p → p.number = k + 1) ∧
      (∀ p ∈ result.passes, ∀ f ∈ p.committed, ∃ c ∈ layered.components, f ∈ c.files) ∧
      (∀ c ∈ layered.components, ∃ d, c.depth = some d ∧ ∀ f ∈ c.files, ∀ k,
        (∃ p ∈ result.passes, p.number = k ∧ f ∈ p.committed) ↔
          chainAndFault.CleanBelow errorsInE c ∧ k = d.dependency + 1) ∧
      ((∃ c ∈ layered.components, ∃ d, c.depth = some d ∧ chainAndFault.CleanBelow errorsInE c ∧
          result.passes.length = 1 + (d.dependency + 1) ∧
          ∀ e ∈ layered.components, ∀ d', e.depth = some d' →
            chainAndFault.CleanBelow errorsInE e → d'.dependency ≤ d.dependency) ∨
        (∀ c ∈ layered.components, ¬ chainAndFault.CleanBelow errorsInE c) ∧
          result.passes.length = 1) :=
  ⟨Environment.steady_counting _ _ _, rfl,
    depth_tells_pass (Environment.steady_counting chainAndFault [] errorsInE) rfl⟩

end Ratchet
