import Mathlib.Tactic.Tauto
import Ratchet.Proofs.Campaign.Run
import Ratchet.Proofs.Graph.Clearance

/-!
# Where a campaign ends

When the imports do not change and the checker always gives the same answers,
where a campaign ends can be told from the imports alone: it adds to the loaded
files exactly those that clear.

* `Steady`: an undisturbed environment whose checker keeps to its answers.
* `Sound`: what a round of a steady campaign keeps.
* `run_reaches_clearance`: the end of every steady run.
-/

namespace Ratchet

open Ratchet.Graph (Condensation ImportMap)

variable {σ : Type} {env : Environment σ} {m : Migration} {j j' : Journal σ} {start : σ}
  {report : PassReport} {imports : ImportMap} {errors : String → Nat}
  {files checked : List String} {f : String} {n : Nat}

/-! ## Failures -/

/-- When every file that failed before fails again, the failures are those of
the new pass. -/
theorem Migration.failures_addPass
    (h : ∀ e ∈ m.failures, e.1 ∈ report.failures.map (·.1)) :
    (m.addPass report).failures = report.failures := by
  have hnone : (m.failures.filter fun e => !report.committed.contains e.1).filter
      (fun e => !report.failures.any (·.1 == e.1)) = [] := by
    rw [List.filter_eq_nil_iff]
    intro e he
    obtain ⟨e', he', heq⟩ := List.mem_map.mp (h e (List.mem_of_mem_filter he))
    simpa using ⟨e'.2, heq ▸ he'⟩
  rw [addPass, noteFailures, hnone, List.nil_append]

/-! ## Steady campaigns -/

namespace Environment

/-- **A steady environment**: every scan gives the same imports and every check
of a file the same number of errors; nothing fails and nothing stops the run. -/
structure Steady (env : Environment σ) (imports : ImportMap) (errors : String → Nat) :
    Prop where
  scan (w : σ) : (env.scan w).1 = .ok imports.condense
  check (file : String) (w : σ) : (env.check file w).1 = .ok (errors file : Int)
  records : env.Records
  poll (w : σ) : (env.poll w).1 = false

namespace Steady

theorem undisturbed (h : env.Steady imports errors) : env.Undisturbed imports :=
  ⟨h.scan, fun file w => ⟨errors file, h.check file w⟩, h.records, h.poll⟩

/-- What a pass tests, and what it finds. -/
theorem mem_tested (h : env.Steady imports errors)
    (hd : report.Describes env imports.condense checked) :
    ⟨f, n⟩ ∈ report.tested ↔ f ∈ imports.condense.eligibleFiles checked ∧ errors f = n := by
  have hfile : f ∈ report.tested.map (·.file) ↔ f ∈ imports.condense.eligibleFiles checked := by
    rw [hd.mem_tested, Condensation.eligibleFiles, List.mem_mergeSort, List.mem_flatMap]
  have herrors : ∀ o ∈ report.tested, errors o.file = o.errors := by
    intro o ho
    obtain ⟨w, hw⟩ := hd.answered o ho
    rw [h.check] at hw
    exact Int.ofNat.inj (Except.ok.inj hw)
  rw [← hfile]
  constructor
  · exact fun ho => ⟨List.mem_map_of_mem ho, herrors _ ho⟩
  · rintro ⟨hf, rfl⟩
    obtain ⟨o, ho, rfl⟩ := List.mem_map.mp hf
    rwa [herrors o ho]

/-- The failures of a pass are the files on the frontier with their errors. -/
theorem mem_failures (h : env.Steady imports errors)
    (hd : report.Describes env imports.condense checked) :
    (f, n) ∈ report.failures ↔
      f ∈ imports.condense.eligibleFiles checked ∧ 0 < n ∧ errors f = n := by
  rw [PassReport.mem_failures, h.mem_tested hd]
  tauto

/-- A file is committed with its component, when no file that the component
misses has errors. -/
theorem mem_committed (h : env.Steady imports errors)
    (hd : report.Describes env imports.condense checked) :
    f ∈ report.committed ↔ f ∉ checked ∧ ∃ c ∈ imports.condense.components, f ∈ c.files ∧
      imports.condense.DependenciesChecked checked c ∧
        ∀ x ∈ c.files, x ∉ checked → errors x = 0 := by
  have hq := imports.isQuotientOf_condense
  rw [hd.mem_committed_iff hq]
  have htested : ∀ c ∈ imports.condense.components,
      imports.condense.DependenciesChecked checked c → ∀ x ∈ c.files, x ∉ checked →
        (⟨x, 0⟩ ∈ report.tested ↔ errors x = 0) := by
    intro c hc hdeps x hx hnot
    rw [h.mem_tested hd, hq.mem_eligibleFiles]
    exact and_iff_right ⟨c, hc, hx, hnot, hdeps⟩
  constructor
  · rintro ⟨hnot, c, hc, hf, hdeps, hclean⟩
    exact ⟨hnot, c, hc, hf, hdeps, fun x hx hxn =>
      (htested c hc hdeps x hx hxn).mp (hclean x hx hxn)⟩
  · rintro ⟨hnot, c, hc, hf, hdeps, hclean⟩
    exact ⟨hnot, c, hc, hf, hdeps, fun x hx hxn =>
      (htested c hc hdeps x hx hxn).mpr (hclean x hx hxn)⟩

end Steady

end Environment

/-- **What every round of a steady campaign keeps.** The checked files are
those loaded and others that clear, and the files that have failed are still to
be tested. -/
structure Sound (imports : ImportMap) (errors : String → Nat) (files : List String)
    (m : Migration) (j : Journal σ) : Prop where
  running : m.cancelled = false
  sub : ∀ f ∈ files, f ∈ j.checked.files
  clears : ∀ f ∈ j.checked.files, f ∈ files ∨ imports.Clears files errors f
  failures : ∀ e ∈ m.failures,
    e.1 ∈ imports.condense.eligibleFiles j.checked.files ∧ 0 < errors e.1

namespace Sound

variable (h : env.Steady imports errors) (hs : Sound imports errors files m j)
  (hd : report.Describes env imports.condense j.checked.files)
  (hchecked : ∀ f, f ∈ j'.checked.files ↔ f ∈ j.checked.files ∨ f ∈ report.committed)

include h hs hd

/-- After each pass the failures are those of the pass. -/
theorem failures_addPass : (m.addPass report).failures = report.failures := by
  refine Migration.failures_addPass fun e he => ?_
  obtain ⟨hel, hpos⟩ := hs.failures e he
  exact List.mem_map.mpr ⟨(e.1, errors e.1), (h.mem_failures hd).mpr ⟨hel, hpos, rfl⟩, rfl⟩

include hchecked

/-- **A pass keeps a steady campaign sound.** -/
theorem addPass : Sound imports errors files (m.addPass report) j' where
  running := hs.running
  sub f hf := (hchecked f).mpr (Or.inl (hs.sub f hf))
  clears f hf := by
    rcases (hchecked f).mp hf with hf | hf
    · exact hs.clears f hf
    · obtain ⟨hnot, c, hc, hfc, hdeps, hclean⟩ := (h.mem_committed hd).mp hf
      exact Or.inr (.of_component imports.isQuotientOf_condense hs.sub hs.clears hc hdeps hclean
        hfc hnot)
  failures := by
    rw [hs.failures_addPass h hd]
    rintro ⟨f, n⟩ he
    obtain ⟨hel, hpos, rfl⟩ := (h.mem_failures hd).mp he
    refine ⟨?_, hpos⟩
    rw [imports.isQuotientOf_condense.mem_eligibleFiles] at hel ⊢
    obtain ⟨c, hc, hf, hnot, hdeps⟩ := hel
    refine ⟨c, hc, hf, fun hmem => ?_, hdeps.mono fun x hx => (hchecked x).mpr (Or.inl hx)⟩
    -- a file that fails keeps its component from being committed
    rcases (hchecked f).mp hmem with hmem | hmem
    · exact hnot hmem
    · obtain ⟨-, e, he, hfe, -, hclean⟩ := (h.mem_committed hd).mp hmem
      have := hclean f hfe hnot
      omega

omit hchecked in
/-- **Where a pass commits nothing, every file that clears is checked.** -/
theorem mem_of_clears (hnone : report.committed = []) (hf : imports.Clears files errors f) :
    f ∈ j.checked.files := by
  refine hf.mem_of_stable imports.isQuotientOf_condense hs.sub fun c hc hdeps hclean x hx => ?_
  -- a file that this misses would have been committed with its component
  by_contra hnot
  have hmem : x ∈ report.committed :=
    (h.mem_committed hd).mpr ⟨hnot, c, hc, hx, hdeps, hclean⟩
  simp [hnone] at hmem

end Sound

/-- **A steady campaign checks what clears.** It ends by itself. In the end the
checked files are those loaded and, of the others, those from which no unchecked
file with errors can be reached through files whose class was not all checked
at the start; and the failures are the files of the last frontier that have
errors, each once, with their number. -/
theorem run_reaches_clearance {w : σ} (h : env.Steady imports errors)
    (hload : env.load start = (.ok files, w)) :
    ∃ result j enough,
      (∀ budget, enough < budget → env.run none budget start = (.finished result, j)) ∧
      result.cancelled = false ∧
      (∀ f, f ∈ j.checked.files ↔ f ∈ files ∨ imports.Clears files errors f) ∧
      (∀ f n, (f, n) ∈ result.failures ↔
        f ∈ imports.condense.eligibleFiles j.checked.files ∧ 0 < n ∧ errors f = n) ∧
      (result.failures.map (·.1)).Nodup := by
  have hq := imports.isQuotientOf_condense
  let first : Journal σ := { world := w, checked := .ofList files }
  have hfirst : Sound imports errors files {} first :=
    ⟨rfl, fun f hf => CheckedSet.mem_ofList.mpr hf,
      fun f hf => Or.inl (CheckedSet.mem_ofList.mp hf), by simp⟩
  obtain ⟨m, j, report, last, hs, hd, hchecked, hnone, hrounds⟩ :=
    h.undisturbed.rounds_finish (fun hs hd hchecked => hs.addPass h hd hchecked) hfirst
  have hsame : ∀ f, f ∈ last.checked.files ↔ f ∈ j.checked.files := by
    simpa [hnone] using hchecked
  refine ⟨m.addPass report, last, (openComponents imports.condense first.checked.files).length,
    fun budget hb => ?_, hs.running, fun f => ?_, fun f n => ?_, ?_⟩
  · rw [Environment.run, hload]
    exact hrounds budget hb
  · rw [hsame]
    refine ⟨hs.clears f, ?_⟩
    rintro (hf | hf)
    · exact hs.sub f hf
    · exact hs.mem_of_clears h hd hnone hf
  · rw [hs.failures_addPass h hd, h.mem_failures hd, hq.mem_eligibleFiles_congr hsame]
  · rw [hs.failures_addPass h hd]
    exact PassReport.nodup_failures hd.nodup_tested

/-- A checker that never changes its answers is steady. -/
theorem Environment.steady_counting (imports : ImportMap) (files : List String)
    (errors : String → Nat) :
    (Environment.counting imports files fun file _ => errors file).Steady imports errors :=
  ⟨fun _ => rfl, fun _ _ => rfl, fun _ _ => rfl, fun _ => rfl⟩

/-- Two files that import each other, one that imports them, and two more, of
which one imports the other. -/
def ringAndChain : ImportMap where
  rows := [("a", ["b"]), ("b", ["a"]), ("c", ["a"]), ("d", ["e"]), ("e", [])]

/-- Two errors in `e`, and none elsewhere. -/
def errorsInE (file : String) : Nat :=
  if file = "e" then 2 else 0

/-- A campaign may start from a file of a ring and a file that is not tracked. -/
theorem counting_reaches_clearance :
    (Environment.counting ringAndChain ["b", "z"] fun file _ => errorsInE file).Steady
      ringAndChain errorsInE ∧
    (Environment.counting ringAndChain ["b", "z"] fun file _ => errorsInE file).load 0 =
      (.ok ["b", "z"], 0) ∧
    ∃ result j enough,
      (∀ budget, enough < budget →
        (Environment.counting ringAndChain ["b", "z"] fun file _ => errorsInE file).run
          none budget 0 = (.finished result, j)) ∧
      result.cancelled = false ∧
      (∀ f, f ∈ j.checked.files ↔
        f ∈ ["b", "z"] ∨ ringAndChain.Clears ["b", "z"] errorsInE f) ∧
      (∀ f n, (f, n) ∈ result.failures ↔
        f ∈ ringAndChain.condense.eligibleFiles j.checked.files ∧ 0 < n ∧ errorsInE f = n) ∧
      (result.failures.map (·.1)).Nodup :=
  ⟨Environment.steady_counting _ _ _, rfl,
    run_reaches_clearance (Environment.steady_counting ringAndChain ["b", "z"] errorsInE) rfl⟩

end Ratchet
