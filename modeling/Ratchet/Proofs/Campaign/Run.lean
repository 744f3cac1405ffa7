import Ratchet.Proofs.Campaign.Pass

/-!
# Rounds and runs

What holds when a campaign has loaded its files, and is kept by every round,
holds whenever a run stands between two rounds (`Reached.induction`). A
completed pass of a run starts from such a state (`CompletesPass`).

In an `Undisturbed` environment nothing fails, nothing stops the run, and the
imports stay. Then every round completes a pass, and each but the last leaves
fewer components open, so the run ends (`Undisturbed.rounds_end`).
-/

namespace Ratchet

open Ratchet.Graph (Condensation Component ImportMap)

variable {σ : Type} {env : Environment σ} {maxPasses : Option Nat} {m m' : Migration}
  {j j' before after : Journal σ} {start : σ} {report : PassReport} {imports : ImportMap}
  {checked : List String} {f : String} {n : Nat}

/-! ## Reports -/

/-- The failures of a pass are its tests with errors. -/
theorem PassReport.mem_failures : (f, n) ∈ report.failures ↔ ⟨f, n⟩ ∈ report.tested ∧ 0 < n := by
  rw [failures, failuresOf, List.mem_map]
  constructor
  · rintro ⟨o, ho, heq⟩
    obtain ⟨ho, hpassed⟩ := List.mem_filter.mp ho
    cases heq
    exact ⟨ho, Nat.pos_of_ne_zero (by simpa [Outcome.passed] using hpassed)⟩
  · rintro ⟨ho, hn⟩
    refine ⟨⟨f, n⟩, List.mem_filter.mpr ⟨ho, ?_⟩, rfl⟩
    simpa [Outcome.passed] using Nat.ne_of_gt hn

theorem PassReport.nodup_failures (h : (report.tested.map (·.file)).Nodup) :
    (report.failures.map (·.1)).Nodup := by
  rw [failures, failuresOf, List.map_map]
  exact h.sublist (List.filter_sublist.map _)

/-! ## Rounds -/

theorem Migration.length_addPass (m : Migration) (report : PassReport) :
    (m.addPass report).passes.length = m.passes.length + 1 := by
  simp [addPass]

theorem Migration.getElem?_addPass {k : Nat} {p : PassReport} :
    (m.addPass report).passes[k]? = some p ↔
      m.passes[k]? = some p ∨ k = m.passes.length ∧ report = p := by
  rw [addPass]
  rcases Nat.lt_trichotomy k m.passes.length with hlt | rfl | hgt
  · rw [List.getElem?_append_left hlt]
    simp [Nat.ne_of_lt hlt]
  · simp
  · rw [List.getElem?_eq_none (by simp; omega), List.getElem?_eq_none (by omega)]
    simp [Nat.ne_of_gt hgt]

namespace Environment

theorem checked_pollStop (env : Environment σ) (j : Journal σ) :
    (env.pollStop j).2.checked = j.checked :=
  rfl

/-- **What a round can come to**: it stops, its pass fails, or its pass is
completed and has committed nothing or something. -/
theorem round_cases (env : Environment σ) (maxPasses : Option Nat) (m : Migration)
    (j : Journal σ) :
    ∃ stopped j₁, env.pollStop j = (stopped, j₁) ∧
      ((stopped = true ∨ maxPasses.any (· ≤ m.passes.length) = true) ∧
          env.round maxPasses m j = conclude { m with cancelled := true } j₁ ∨
        (stopped = false ∧ maxPasses.any (· ≤ m.passes.length) = false) ∧
          ((∃ cause j₂, j₁.pass env (m.passes.length + 1) = (.error cause, j₂) ∧
              env.round maxPasses m j = .ended (.failed cause) j₂) ∨
            ∃ report j₂, j₁.pass env (m.passes.length + 1) = (.ok report, j₂) ∧
              (report.committed = [] ∧ env.round maxPasses m j = conclude (m.addPass report) j₂ ∨
                report.committed ≠ [] ∧
                  env.round maxPasses m j = .going (m.addPass report) j₂))) := by
  rcases hpoll : env.pollStop j with ⟨stopped, j₁⟩
  refine ⟨stopped, j₁, rfl, ?_⟩
  unfold round
  rw [hpoll]
  by_cases hstop : (stopped || maxPasses.any (· ≤ m.passes.length)) = true
  · refine Or.inl ⟨by simpa only [Bool.or_eq_true] using hstop, ?_⟩
    exact if_pos hstop
  · refine Or.inr ⟨by simpa only [Bool.or_eq_true, not_or, Bool.not_eq_true] using hstop, ?_⟩
    simp only [if_neg hstop]
    rcases hpass : j₁.pass env (m.passes.length + 1) with ⟨answer, j₂⟩
    cases answer with
    | error cause => exact Or.inl ⟨cause, j₂, rfl, rfl⟩
    | ok report =>
      refine Or.inr ⟨report, j₂, rfl, ?_⟩
      by_cases hnone : report.committed = []
      · exact Or.inl ⟨hnone, if_pos (List.isEmpty_iff.mpr hnone)⟩
      · exact Or.inr ⟨hnone, if_neg fun h => hnone (List.isEmpty_iff.mp h)⟩

/-- A round that another follows has completed a pass with commits. -/
theorem round_going (h : env.round maxPasses m j = .going m' j') :
    ∃ j₁ report, env.pollStop j = (false, j₁) ∧
      maxPasses.any (· ≤ m.passes.length) = false ∧
      j₁.pass env (m.passes.length + 1) = (.ok report, j') ∧
      m' = m.addPass report ∧ report.committed ≠ [] := by
  obtain ⟨stopped, j₁, hpoll, ⟨-, hr⟩ | ⟨⟨rfl, hcap⟩, ⟨cause, j₂, -, hr⟩ |
    ⟨report, j₂, hpass, ⟨-, hr⟩ | ⟨hsome, hr⟩⟩⟩⟩ := env.round_cases maxPasses m j
  all_goals
    rw [hr] at h
    cases h
  exact ⟨j₁, report, hpoll, hcap, hpass, rfl, hsome⟩

/-- A round in which a pass is completed. -/
theorem round_of_pass {before after : Journal σ} {report : PassReport}
    (hpoll : env.pollStop j = (false, before))
    (hcap : maxPasses.any (· ≤ m.passes.length) = false)
    (hpass : before.pass env (m.passes.length + 1) = (.ok report, after)) :
    env.round maxPasses m j =
      if report.committed = [] then conclude (m.addPass report) after
      else .going (m.addPass report) after := by
  obtain ⟨stopped, j₁, hpoll', ⟨hstop, -⟩ | ⟨-, ⟨cause, j₂, hpass', -⟩ | ⟨report', j₂, hpass',
    ⟨hnone, hr⟩ | ⟨hsome, hr⟩⟩⟩⟩ := env.round_cases maxPasses m j
  all_goals cases hpoll.symm.trans hpoll'
  · simp [hcap] at hstop
  · cases hpass.symm.trans hpass'
  · cases hpass.symm.trans hpass'
    rw [hr, if_pos hnone]
  · cases hpass.symm.trans hpass'
    rw [hr, if_neg hsome]

/-- A round never ends for want of rounds. -/
theorem round_ne_unfinished : env.round maxPasses m j ≠ .ended (.unfinished m') j' := by
  intro h
  obtain ⟨stopped, j₁, -, ⟨-, hr⟩ | ⟨-, ⟨cause, j₂, -, hr⟩ |
    ⟨report, j₂, -, ⟨-, hr⟩ | ⟨-, hr⟩⟩⟩⟩ := env.round_cases maxPasses m j
  all_goals
    rw [hr] at h
    cases h

/-- What every round keeps, some rounds keep. -/
theorem rounds_induction {P : Migration → Journal σ → Prop}
    (hround : ∀ {m j m' j'}, P m j → env.round maxPasses m j = .going m' j' → P m' j')
    {budget : Nat} (h : P m j)
    (hrounds : env.rounds maxPasses budget m j = (.unfinished m', j')) : P m' j' := by
  induction budget generalizing m j with
  | zero =>
    cases hrounds
    exact h
  | succ budget ih =>
    unfold rounds at hrounds
    rcases hr : env.round maxPasses m j with ⟨conclusion, j₁⟩ | ⟨m₁, j₁⟩
    · rw [hr] at hrounds
      cases hrounds
      exact absurd hr round_ne_unfinished
    · rw [hr] at hrounds
      exact ih (hround h hr) hrounds

/-- A run reaches a state between two rounds when it stands there with its
budget used up. -/
def Reached (env : Environment σ) (maxPasses : Option Nat) (start : σ) (m : Migration)
    (j : Journal σ) : Prop :=
  ∃ budget, env.run maxPasses budget start = (.unfinished m, j)

/-- **What holds at the start and is kept by every round holds throughout.** -/
theorem Reached.induction {P : Migration → Journal σ → Prop}
    (h : env.Reached maxPasses start m j)
    (hload : ∀ {files w}, env.load start = (.ok files, w) →
      P {} { world := w, checked := .ofList files })
    (hround : ∀ {m j m' j'}, P m j → env.round maxPasses m j = .going m' j' → P m' j') :
    P m j := by
  obtain ⟨budget, hrun⟩ := h
  unfold run at hrun
  rcases hl : env.load start with ⟨answer, w⟩
  rw [hl] at hrun
  cases answer with
  | error cause => cases hrun
  | ok files => exact rounds_induction hround (hload hl) hrun

/-- Rounds follow on rounds. -/
theorem rounds_add {budget : Nat}
    (h : env.rounds maxPasses budget m j = (.unfinished m', j')) (more : Nat) :
    env.rounds maxPasses (budget + more) m j = env.rounds maxPasses more m' j' := by
  induction budget generalizing m j with
  | zero =>
    cases h
    rw [Nat.zero_add]
  | succ budget ih =>
    rw [Nat.add_right_comm, rounds]
    rw [rounds] at h
    rcases hr : env.round maxPasses m j with ⟨conclusion, j₁⟩ | ⟨m₁, j₁⟩
    · rw [hr] at h
      cases h
      exact absurd hr round_ne_unfinished
    · rw [hr] at h
      exact ih h

/-- From a reached state on, a run is made of the rounds that follow. -/
theorem Reached.exists_run (h : env.Reached maxPasses start m j) :
    ∃ budget, ∀ more, env.run maxPasses (budget + more) start = env.rounds maxPasses more m j := by
  obtain ⟨budget, hrun⟩ := h
  refine ⟨budget, fun more => ?_⟩
  unfold run at hrun ⊢
  rcases hl : env.load start with ⟨answer, w⟩
  rw [hl] at hrun
  cases answer with
  | error cause => cases hrun
  | ok files => exact rounds_add hrun more

/-- A run that goes on reaches the next round. -/
theorem Reached.next (h : env.Reached maxPasses start m j)
    (hround : env.round maxPasses m j = .going m' j') : env.Reached maxPasses start m' j' := by
  obtain ⟨budget, hrun⟩ := h.exists_run
  refine ⟨budget + 1, ?_⟩
  rw [hrun, rounds, hround]
  rfl

/-- A round that ends ends the run, whatever further rounds are allowed. -/
theorem Reached.run_eq {conclusion : Conclusion} (h : env.Reached maxPasses start m j)
    (hround : env.round maxPasses m j = .ended conclusion j') :
    ∃ enough, ∀ budget, enough < budget →
      env.run maxPasses budget start = (conclusion, j') := by
  obtain ⟨enough, hrun⟩ := h.exists_run
  refine ⟨enough, fun budget hb => ?_⟩
  obtain ⟨more, rfl⟩ : ∃ more, budget = enough + (more + 1) := ⟨budget - enough - 1, by omega⟩
  rw [hrun, rounds, hround]

/-- A run starts between two rounds, with the loaded files checked. -/
theorem reached_of_load {files : List String} {w : σ} (h : env.load start = (.ok files, w)) :
    env.Reached maxPasses start {} { world := w, checked := .ofList files } := by
  refine ⟨0, ?_⟩
  rw [run, h]
  rfl

/-- Rounds that end, end with a last one. -/
theorem Reached.exists_last_round {budget : Nat} {conclusion : Conclusion}
    (h : env.Reached maxPasses start m j)
    (hrounds : env.rounds maxPasses budget m j = (conclusion, j'))
    (hended : ∀ soFar, conclusion ≠ .unfinished soFar) :
    ∃ m₁ j₁, env.Reached maxPasses start m₁ j₁ ∧
      env.round maxPasses m₁ j₁ = .ended conclusion j' := by
  induction budget generalizing m j with
  | zero =>
    cases hrounds
    exact absurd rfl (hended m)
  | succ budget ih =>
    unfold rounds at hrounds
    rcases hr : env.round maxPasses m j with ⟨ending, j₁⟩ | ⟨m₁, j₁⟩
    · rw [hr] at hrounds
      cases hrounds
      exact ⟨m, j, h, hr⟩
    · rw [hr] at hrounds
      exact ih (h.next hr) hrounds

/-- A run that has loaded its files and ends, ends with a last round. -/
theorem exists_last_round {budget : Nat} {conclusion : Conclusion} {files : List String} {w : σ}
    (hload : env.load start = (.ok files, w))
    (h : env.run maxPasses budget start = (conclusion, j'))
    (hended : ∀ soFar, conclusion ≠ .unfinished soFar) :
    ∃ m j, env.Reached maxPasses start m j ∧ env.round maxPasses m j = .ended conclusion j' := by
  unfold run at h
  rw [hload] at h
  exact (reached_of_load hload).exists_last_round h hended

/-- **How a run finishes**: it is stopped between two passes, or a pass has
committed nothing. -/
theorem run_finished_cases {budget : Nat} {result : Migration}
    (h : env.run maxPasses budget start = (.finished result, j')) :
    ∃ m j j₁, env.Reached maxPasses start m j ∧
      ((∃ stopped, env.pollStop j = (stopped, j₁) ∧ result = { m with cancelled := true } ∧
          j' = { j₁ with phase := .done }) ∨
        ∃ report j₂, env.pollStop j = (false, j₁) ∧
          maxPasses.any (· ≤ m.passes.length) = false ∧
          j₁.pass env (m.passes.length + 1) = (.ok report, j₂) ∧ report.committed = [] ∧
          result = m.addPass report ∧ j' = { j₂ with phase := .done }) := by
  rcases hl : env.load start with ⟨answer, w⟩
  cases answer with
  | error cause =>
    rw [run, hl] at h
    cases h
  | ok files =>
    obtain ⟨m, j, hreached, hround⟩ := exists_last_round hl h (by simp)
    obtain ⟨stopped, j₁, hpoll, ⟨-, hr⟩ | ⟨⟨rfl, hcap⟩, ⟨cause, j₂, -, hr⟩ |
      ⟨report, j₂, hpass, ⟨hnone, hr⟩ | ⟨-, hr⟩⟩⟩⟩ := env.round_cases maxPasses m j
    all_goals
      rw [hr] at hround
      cases hround
    · exact ⟨m, j, j₁, hreached, Or.inl ⟨stopped, hpoll, rfl, rfl⟩⟩
    · exact ⟨m, j, j₁, hreached, Or.inr ⟨report, j₂, hpoll, hcap, hpass, hnone, rfl, rfl⟩⟩

/-- **A completed pass of a run**: it starts from a state between two rounds,
neither the poll nor `maxPasses` forbids it, and it gives a report. -/
def CompletesPass (env : Environment σ) (maxPasses : Option Nat) (start : σ)
    (before : Journal σ) (report : PassReport) (after : Journal σ) : Prop :=
  ∃ m j, env.Reached maxPasses start m j ∧ env.pollStop j = (false, before) ∧
    maxPasses.any (· ≤ m.passes.length) = false ∧
    before.pass env (m.passes.length + 1) = (.ok report, after)

end Environment

/-! ## Runs that end -/

namespace Environment

/-- **A run ends** when every round that another follows makes something
smaller, after no more rounds than that. -/
theorem rounds_terminate {P : Migration → Journal σ → Prop} (size : Journal σ → Nat)
    (hround : ∀ {m j}, P m j →
      (∃ m' j', env.round maxPasses m j = .going m' j' ∧ P m' j' ∧ size j' < size j) ∨
        ∃ conclusion j', env.round maxPasses m j = .ended conclusion j')
    (h : P m j) :
    ∃ m₁ j₁ conclusion j', P m₁ j₁ ∧ env.round maxPasses m₁ j₁ = .ended conclusion j' ∧
      ∀ budget, size j < budget → env.rounds maxPasses budget m j = (conclusion, j') := by
  induction hn : size j using Nat.strongRecOn generalizing m j with
  | ind n ih =>
    rcases hround h with ⟨m', j', hgoing, hP, hlt⟩ | ⟨conclusion, j', hended⟩
    · obtain ⟨m₁, j₁, conclusion, j₂, hP₁, hlast, hrounds⟩ := ih (size j') (hn ▸ hlt) hP rfl
      refine ⟨m₁, j₁, conclusion, j₂, hP₁, hlast, fun budget hb => ?_⟩
      obtain ⟨budget, rfl⟩ : ∃ b, budget = b + 1 := ⟨budget - 1, by omega⟩
      rw [rounds, hgoing]
      exact hrounds budget (by omega)
    · refine ⟨m, j, conclusion, j', h, hended, fun budget hb => ?_⟩
      obtain ⟨budget, rfl⟩ : ∃ b, budget = b + 1 := ⟨budget - 1, by omega⟩
      rw [rounds, hended]

/-- **An undisturbed environment**: every scan gives the same imports, nothing
fails, and the poll never stops the run. The checker may change its answers. -/
structure Undisturbed (env : Environment σ) (imports : ImportMap) : Prop where
  scan (w : σ) : (env.scan w).1 = .ok imports.condense
  answers : env.Answers
  records : env.Records
  poll (w : σ) : (env.poll w).1 = false

/-- Every round of an undisturbed run completes a pass, and the run goes on
exactly when the pass has committed something. -/
theorem Undisturbed.round (h : env.Undisturbed imports) (m : Migration) (j : Journal σ) :
    ∃ report j', report.number = m.passes.length + 1 ∧
      report.Describes env imports.condense j.checked.files ∧
      (∀ f, f ∈ j'.checked.files ↔ f ∈ j.checked.files ∨ f ∈ report.committed) ∧
      (report.committed ≠ [] ∧ env.round none m j = .going (m.addPass report) j' ∨
        report.committed = [] ∧
          env.round none m j = .ended (.finished (m.addPass report)) j') := by
  obtain ⟨stopped, j₁, hpoll, hcases⟩ := env.round_cases none m j
  have hkeep : j₁.checked = j.checked := by
    rw [← env.checked_pollStop j, hpoll]
  have hstopped : stopped = false := by
    rw [← h.poll j.world]
    exact (congrArg Prod.fst hpoll).symm
  obtain ⟨report, j₂, hpass⟩ :=
    Journal.exists_pass h.answers h.records (h.scan j₁.world) (m.passes.length + 1)
  obtain ⟨hdescribes, hchecked⟩ := Journal.pass_condense hpass (h.scan _)
  have hnumber := Journal.number_pass hpass
  rw [hkeep] at hdescribes hchecked
  obtain ⟨hstop, -⟩ | ⟨-, ⟨cause, j', herror, -⟩ | ⟨report', j', hok, hround⟩⟩ := hcases
  · simp [hstopped] at hstop
  · rw [hpass] at herror
    cases herror
  · rw [hpass] at hok
    cases hok
    obtain ⟨hnone, hr⟩ | ⟨hsome, hr⟩ := hround
    · exact ⟨report, { j₂ with phase := .done }, hnumber, hdescribes, hchecked,
        Or.inr ⟨hnone, hr⟩⟩
    · exact ⟨report, j₂, hnumber, hdescribes, hchecked, Or.inl ⟨hsome, hr⟩⟩

end Environment

/-! ## Components left to check -/

/-- The components that are not fully checked. -/
def openComponents (g : Condensation) (checked : List String) : List Component :=
  g.components.filter fun c => !c.isChecked checked

/-- Which files are checked decides which components are open. -/
theorem openComponents_congr {g : Condensation} {checked' : List String}
    (h : ∀ f, f ∈ checked ↔ f ∈ checked') :
    openComponents g checked = openComponents g checked' := by
  refine List.filter_congr fun c _ => ?_
  rw [Bool.eq_iff_iff, Bool.not_eq_true', Bool.not_eq_true', Component.isChecked_eq_false_iff,
    Component.isChecked_eq_false_iff]
  simp only [h]

/-- **A pass that commits something finishes a component.** -/
theorem PassReport.Describes.openComponents_lt {g : Condensation} {checked' : List String}
    (h : report.Describes env g checked) (hq : g.IsQuotientOf imports)
    (hchecked : ∀ f, f ∈ checked' ↔ f ∈ checked ∨ f ∈ report.committed)
    (hcommitted : report.committed ≠ []) :
    (openComponents g checked').length < (openComponents g checked).length := by
  obtain ⟨f, hf⟩ := List.exists_mem_of_ne_nil _ hcommitted
  obtain ⟨hnot, c, hc, hfc, -⟩ := (h.mem_committed_iff hq).mp hf
  obtain ⟨hwhole, -⟩ := h.component_of_mem_committed hq hf hc hfc
  have hopen : (!c.isChecked checked) = true := by
    rw [Bool.not_eq_true', Component.isChecked_eq_false_iff]
    exact ⟨f, hfc, hnot⟩
  have hdone : ¬ (!c.isChecked checked') = true := by
    rw [Bool.not_eq_true, Bool.not_eq_false', Component.isChecked_iff]
    exact fun x hx => (hchecked x).mpr (hwhole x hx)
  -- what is open afterwards was open before, and `c` is so no longer
  have hsub : openComponents g checked' =
      (openComponents g checked).filter fun c => !c.isChecked checked' := by
    rw [openComponents, openComponents, List.filter_filter]
    refine List.filter_congr fun e _ => ?_
    rw [Bool.eq_iff_iff, Bool.and_eq_true, Bool.not_eq_true', Bool.not_eq_true',
      Component.isChecked_eq_false_iff, Component.isChecked_eq_false_iff, iff_self_and]
    rintro ⟨x, hx, hxn⟩
    exact ⟨x, hx, fun hmem => hxn ((hchecked x).mpr (Or.inl hmem))⟩
  rw [hsub, List.length_filter_lt_length_iff_exists]
  exact ⟨c, List.mem_filter.mpr ⟨hc, hopen⟩, hdone⟩

/-- **An undisturbed run ends**, after no more passes than there are open
components and one. What the passes that commit something keep holds before the
last one, which commits nothing. -/
theorem Environment.Undisturbed.rounds_end {P : Migration → Journal σ → Prop}
    (h : env.Undisturbed imports)
    (hpass : ∀ {m j report j'}, P m j → report.number = m.passes.length + 1 →
      report.Describes env imports.condense j.checked.files →
      (∀ f, f ∈ j'.checked.files ↔ f ∈ j.checked.files ∨ f ∈ report.committed) →
      report.committed ≠ [] → P (m.addPass report) j')
    (hP : P m j) :
    ∃ m₁ j₁ report last, P m₁ j₁ ∧ report.number = m₁.passes.length + 1 ∧
      report.Describes env imports.condense j₁.checked.files ∧
      (∀ f, f ∈ last.checked.files ↔ f ∈ j₁.checked.files ∨ f ∈ report.committed) ∧
      report.committed = [] ∧
      ∀ budget, (openComponents imports.condense j.checked.files).length < budget →
        env.rounds none budget m j = (.finished (m₁.addPass report), last) := by
  obtain ⟨m₁, j₁, conclusion, last, hP₁, hlast, hrounds⟩ := Environment.rounds_terminate
    (fun j => (openComponents imports.condense j.checked.files).length)
    (fun {m j} hP => by
      obtain ⟨report, j', hn, hd, hchecked, ⟨hsome, hround⟩ | ⟨-, hround⟩⟩ := h.round m j
      · exact Or.inl ⟨_, j', hround, hpass hP hn hd hchecked hsome,
          hd.openComponents_lt imports.isQuotientOf_condense hchecked hsome⟩
      · exact Or.inr ⟨_, j', hround⟩)
    hP
  obtain ⟨report, j', hn, hd, hchecked, ⟨-, hround⟩ | ⟨hnone, hround⟩⟩ := h.round m₁ j₁
  · rw [hlast] at hround
    cases hround
  · rw [hlast] at hround
    cases hround
    exact ⟨m₁, j₁, report, last, hP₁, hn, hd, hchecked, hnone, hrounds⟩

/-- An undisturbed run ends, and what every pass keeps holds before the last
one. -/
theorem Environment.Undisturbed.rounds_finish {P : Migration → Journal σ → Prop}
    (h : env.Undisturbed imports)
    (hpass : ∀ {m j report j'}, P m j →
      report.Describes env imports.condense j.checked.files →
      (∀ f, f ∈ j'.checked.files ↔ f ∈ j.checked.files ∨ f ∈ report.committed) →
      P (m.addPass report) j')
    (hP : P m j) :
    ∃ m₁ j₁ report last, P m₁ j₁ ∧ report.Describes env imports.condense j₁.checked.files ∧
      (∀ f, f ∈ last.checked.files ↔ f ∈ j₁.checked.files ∨ f ∈ report.committed) ∧
      report.committed = [] ∧
      ∀ budget, (openComponents imports.condense j.checked.files).length < budget →
        env.rounds none budget m j = (.finished (m₁.addPass report), last) := by
  obtain ⟨m₁, j₁, report, last, hP₁, -, hlast⟩ :=
    h.rounds_end (fun hP _ hd hchecked _ => hpass hP hd hchecked) hP
  exact ⟨m₁, j₁, report, last, hP₁, hlast⟩

/-- An environment whose state counts the checks, so that the checker may
answer differently as they go on. -/
def Environment.counting (imports : ImportMap) (files : List String)
    (errors : String → Nat → Nat) : Environment Nat where
  start := id
  check file count := (.ok (errors file count : Int), count + 1)
  stop := id
  load count := (.ok files, count)
  scan count := (.ok imports.condense, count)
  commit _ count := (.ok (), count)
  poll count := (false, count)

/-- Two files that import each other, and one that imports nothing. -/
def ringAndSingle : ImportMap where
  rows := [("a", ["b"]), ("b", ["a"]), ("c", [])]

end Ratchet
