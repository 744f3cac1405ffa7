import Mathlib
import Ratchet.Proofs.Campaign.Run

/-!
# No file is checked before its imports

A pass commits a component as a whole, and only after everything that the
component imports. The scans may differ and the checker may change its answers
from one pass to the next; each pass is judged by its own scan and outcomes.

* `closed_pass`: a pass keeps the checked files closed under imports.
* `pass_commits_clean_components`: what every completed pass of every run
  commits, and what follows for the checked files.
-/

namespace Ratchet

open Ratchet.Graph (Condensation ImportMap)

variable {σ : Type} {env : Environment σ} {maxPasses : Option Nat} {m : Migration}
  {j before after : Journal σ} {start : σ} {report : PassReport} {imports : ImportMap}
  {g : Condensation} {checked checked' : List String}

/-- A pass keeps the checked files closed under imports. -/
theorem PassReport.Describes.closed_pass (h : report.Describes env g checked)
    (hq : g.IsQuotientOf imports)
    (hchecked : ∀ f, f ∈ checked' ↔ f ∈ checked ∨ f ∈ report.committed)
    (hclosed : imports.Closed checked) : imports.Closed checked' := by
  intro f t hedge hf
  rw [hchecked] at hf ⊢
  rcases hf with hf | hf
  · exact Or.inl (hclosed f t hedge hf)
  · obtain ⟨-, c, hc, hfc, -⟩ := (h.mem_committed_iff hq).mp hf
    obtain ⟨hwhole, hdeps⟩ := h.component_of_mem_committed hq hf hc hfc
    by_cases ht : t ∈ c.files
    · exact hwhole t ht
    · exact Or.inl (hq.mem_of_edge hc hdeps hfc hedge ht)

/-- When all scans give one import map, a run keeps the checked files closed
under its imports. -/
theorem Environment.Reached.closed (h : env.Reached maxPasses start m j)
    (hscans : ∀ w g w', env.scan w = (.ok g, w') → g = imports.condense)
    (hload : ∀ files w, env.load start = (.ok files, w) → imports.Closed files) :
    imports.Closed j.checked.files := by
  refine h.induction (P := fun _ j => imports.Closed j.checked.files) ?_ ?_
  · intro files w hl f t hedge hf
    rw [CheckedSet.mem_ofList] at hf ⊢
    exact hload files w hl f t hedge hf
  · intro m j m' j' hclosed hround
    obtain ⟨j₁, report, hpoll, -, hpass, -, -⟩ := Environment.round_going hround
    obtain ⟨g, w, hg, hdescribes, hchecked⟩ := Journal.pass_ok hpass
    obtain rfl := hscans _ _ _ hg
    have hkeep : j₁.checked = j.checked := by
      rw [← env.checked_pollStop j, hpoll]
    rw [hkeep] at hdescribes hchecked
    exact (hdescribes imports.isQuotientOf_condense.nodup_files).closed_pass
      imports.isQuotientOf_condense hchecked hclosed

/-- **A pass commits clean components whose imports are checked.** In every
completed pass of every run, a file is committed exactly when it was unchecked,
all that its component depends on was checked, and every unchecked file of the
component was tested without errors; no file is tested twice, and the outcomes
are the checker's answers. So the component of a committed file ends up checked
as a whole, and each file it imports from outside was checked before the pass.
When all scans give the same imports and the loaded files are closed under
them, the checked files are closed before and after every pass. -/
theorem pass_commits_clean_components
    (h : env.CompletesPass maxPasses start before report after)
    (hscan : (env.scan before.world).1 = .ok imports.condense) :
    (∀ f, f ∈ report.committed ↔ f ∉ before.checked.files ∧
      ∃ c ∈ imports.condense.components, f ∈ c.files ∧
        (∀ e ∈ imports.condense.components, e.id ∈ c.dependencies →
          ∀ x ∈ e.files, x ∈ before.checked.files) ∧
        ∀ x ∈ c.files, x ∉ before.checked.files → ⟨x, 0⟩ ∈ report.tested) ∧
    (report.tested.map (·.file)).Nodup ∧
    (∀ o ∈ report.tested, env.Answered o) ∧
    (∀ f, f ∈ after.checked.files ↔ f ∈ before.checked.files ∨ f ∈ report.committed) ∧
    (∀ f ∈ report.committed, ∀ c ∈ imports.condense.components, f ∈ c.files →
      ∀ x ∈ c.files, x ∈ after.checked.files ∧
        ∀ t ∈ imports.targets x, t ∈ imports.files → t ∉ c.files →
          t ∈ before.checked.files) ∧
    ((∀ w g w', env.scan w = (.ok g, w') → g = imports.condense) →
      (∀ files w, env.load start = (.ok files, w) → imports.Closed files) →
      imports.Closed before.checked.files ∧ imports.Closed after.checked.files) := by
  obtain ⟨m, j, hreached, hpoll, -, hpass⟩ := h
  obtain ⟨hdescribes, hchecked⟩ := Journal.pass_condense hpass hscan
  have hq := imports.isQuotientOf_condense
  refine ⟨fun f => hdescribes.mem_committed_iff hq, hdescribes.nodup_tested,
    hdescribes.answered, hchecked, ?_, ?_⟩
  · intro f hf c hc hfc x hx
    obtain ⟨hwhole, hdeps⟩ := hdescribes.component_of_mem_committed hq hf hc hfc
    refine ⟨(hchecked x).mpr (hwhole x hx), fun t ht htracked hout => ?_⟩
    exact hq.mem_of_edge hc hdeps hx ⟨hq.mem_files.mpr ⟨c, hc, hx⟩, htracked, ht⟩ hout
  · intro hscans hload
    have hkeep : before.checked = j.checked := by
      rw [← env.checked_pollStop j, hpoll]
    have hclosed := hkeep ▸ hreached.closed hscans hload
    exact ⟨hclosed, hdescribes.closed_pass hq hchecked hclosed⟩

/-- A checker that finds an error in `b` at first, and none later. -/
def wavering : Environment Nat :=
  .counting ringAndSingle [] fun file count => if file = "b" ∧ count < 3 then 1 else 0

/-- The second pass over the ring commits it. -/
theorem wavering_commits_ring :
    wavering.CompletesPass none 0 (wavering.run none 1 0).2
      { number := 2, eligibleComponents := 1, tested := [⟨"a", 0⟩, ⟨"b", 0⟩],
        committed := ["a", "b"] }
      ((wavering.run none 1 0).2.pass wavering 2).2 ∧
    (wavering.scan (wavering.run none 1 0).2.world).1 = .ok ringAndSingle.condense ∧
    (∀ f ∈ ["a", "b"], f ∉ (wavering.run none 1 0).2.checked.files) ∧
    ringAndSingle.Closed ((wavering.run none 1 0).2.pass wavering 2).2.checked.files := by
  have hpass : wavering.CompletesPass none 0 (wavering.run none 1 0).2
      { number := 2, eligibleComponents := 1, tested := [⟨"a", 0⟩, ⟨"b", 0⟩],
        committed := ["a", "b"] }
      ((wavering.run none 1 0).2.pass wavering 2).2 :=
    ⟨{ passes := [{ number := 1, eligibleComponents := 2,
                    tested := [⟨"a", 0⟩, ⟨"b", 1⟩, ⟨"c", 0⟩], committed := ["c"] }],
       committed := ["c"], failures := [("b", 1)] },
      _, ⟨1, by cbv⟩, rfl, rfl, by cbv⟩
  obtain ⟨hcommitted, -, -, -, -, hclosed⟩ := pass_commits_clean_components hpass rfl
  refine ⟨hpass, rfl, fun f hf => ((hcommitted f).mp hf).1, (hclosed ?_ ?_).2⟩
  · intro w g w' h
    cases h
    rfl
  · intro files w h f t _ hf
    cases h
    cases hf

end Ratchet
