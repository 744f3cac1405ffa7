import Ratchet.Proofs.Campaign.Run

/-!
# Passes made again

Where the checker gives the same answer about a file whenever it is asked, a pass
finds the same as an earlier one over the same components, if the same files are
checked. What is counted, the events and whatever is outside may differ. So a pass
that has committed nothing commits nothing when it is made again.

* `Fixed`: checkers that do not change their answers.
* `session_replay`: a session that succeeds, succeeds again.
* `pass_replay`: a pass made again.
* `run_once`: a run whose first pass commits nothing.
-/

namespace Ratchet

open Ratchet.Graph (Component Condensation testOrder)

variable {σ τ : Type} {env : Environment σ} {env' : Environment τ} {j j' : Journal σ}
  {k : Journal τ} {answers : String → Except Failure Int} {number total : Nat}
  {before outcomes all : List Outcome} {found found' : Findings} {components : List Component}
  {files : List String} {file : String} {report : PassReport} {g : Condensation}

/-- **The checker gives the same answer** about a file whenever it is asked. -/
def Environment.Fixed (env : Environment σ) (answers : String → Except Failure Int) : Prop :=
  ∀ file w, (env.check file w).1 = answers file

namespace Journal

/-- A check succeeds with the outcome that the answers say. -/
theorem checkOne_ok_iff {o : Outcome} (h : env.Fixed answers) (number : Nat) (file : String)
    (j : Journal σ) :
    (∃ j', j.checkOne env number file = (.ok o, j')) ↔ o.reply = (file, answers file) := by
  obtain ⟨reply, j₁, hcont, -, hends⟩ := checkOne_cases env number file j
  have hreply : reply = answers file := by
    rw [← h file j.world]
    simpa [Environment.replies, Environment.reply] using hcont.replies.symm
  subst hreply
  obtain ⟨n, hn, hone⟩ | ⟨cause, hrefusal, hone⟩ := hends
  · rw [hone, hn]
    constructor
    · rintro ⟨j', hj'⟩
      cases hj'
      rfl
    · intro heq
      obtain ⟨hfile, herrors⟩ := Prod.mk.inj heq
      have hcount : o.errors = n := by exact_mod_cast Except.ok.inj herrors
      cases o
      cases hfile
      cases hcount
      exact ⟨j₁, rfl⟩
  · rw [hone]
    refine iff_of_false (by simp) fun heq => ?_
    -- a number of errors is no fault
    have hfault := hrefusal.isFault
    rw [← (Prod.mk.inj heq).2] at hfault
    exact o.not_isFault hfault

section

variable (hfixed : env.Fixed answers) (hfixed' : env'.Fixed answers)
  (hchecked : ∀ f, f ∈ k.checked.files ↔ f ∈ j.checked.files)

include hfixed hfixed' hchecked

/-- The same files are tested again, with the same outcomes. -/
theorem checkFiles_replay (number' total' : Nat)
    (h : j.checkFiles env number total before outcomes files = (.ok all, j')) :
    ∃ k', k.checkFiles env' number' total' before outcomes files = (.ok all, k') := by
  induction files generalizing outcomes j k with
  | nil =>
    cases h
    exact ⟨k, rfl⟩
  | cons file files ih =>
    have hsame : k.checked.contains file = j.checked.contains file := by
      rw [Bool.eq_iff_iff, CheckedSet.contains_iff, CheckedSet.contains_iff, hchecked]
    unfold checkFiles at h ⊢
    simp only [hsame]
    by_cases hskip : (before ++ outcomes).any (·.file == file) || j.checked.contains file
    · simp only [hskip, if_true] at h ⊢
      exact ih hchecked h
    · simp only [hskip, Bool.false_eq_true, if_false] at h ⊢
      rcases hone : (j.note [.progress ((before ++ outcomes).length + 1) total]).checkOne env
        number file with ⟨answer, j₁⟩
      have hkeep := checked_checkOne env number file
        (j.note [.progress ((before ++ outcomes).length + 1) total])
      rw [hone] at h hkeep
      cases answer with
      | error cause => cases h
      | ok o =>
        -- the checker gives the same number of errors again
        let again := k.note [.progress ((before ++ outcomes).length + 1) total']
        obtain ⟨k₁, hone'⟩ := (checkOne_ok_iff hfixed' number' file again).mpr
          ((checkOne_ok_iff hfixed _ _ _).mp ⟨j₁, hone⟩)
        have hkeep' := checked_checkOne env' number' file again
        rw [hone'] at hkeep' ⊢
        have hchecked₁ : ∀ f, f ∈ k₁.checked.files ↔ f ∈ j₁.checked.files := by
          intro f
          rw [show k₁.checked = k.checked from hkeep', show j₁.checked = j.checked from hkeep]
          exact hchecked f
        exact ih hchecked₁ h

/-- The same checks come to the same findings in another run. -/
theorem checkComponents_replay (number' total' : Nat)
    (h : j.checkComponents env number total found components = (.ok found', j')) :
    ∃ k', k.checkComponents env' number' total' found components = (.ok found', k') := by
  induction components generalizing found j k with
  | nil =>
    cases h
    exact ⟨k, rfl⟩
  | cons c components ih =>
    unfold checkComponents at h ⊢
    have hkeep := checked_checkFiles env number total found.tested [] c.files j
    have hkeep' := checked_checkFiles env' number' total' found.tested [] c.files k
    rcases hfiles : j.checkFiles env number total found.tested [] c.files with ⟨answer, j₁⟩
    rw [hfiles] at h hkeep
    cases answer with
    | error cause => cases h
    | ok outcomes =>
      obtain ⟨k₁, hfiles'⟩ :=
        checkFiles_replay hfixed hfixed' hchecked number' total' hfiles
      rw [hfiles'] at hkeep' ⊢
      have hchecked₁ : ∀ f, f ∈ k₁.checked.files ↔ f ∈ j₁.checked.files := by
        intro f
        rw [show k₁.checked = k.checked from hkeep', show j₁.checked = j.checked from hkeep]
        exact hchecked f
      exact ih hchecked₁ h

/-- **A session that succeeds, succeeds again** and finds the same. -/
theorem session_replay (number' : Nat) {frontier : List Component}
    (h : j.session env number frontier = (.ok found, j')) :
    ∃ k', k.session env' number' frontier = (.ok found, k') := by
  unfold session at h ⊢
  simp only at h ⊢
  obtain ⟨h, -⟩ := Prod.mk.inj h
  let opened := { j with world := env.start j.world, phase := .testing }.note [.start]
  let opened' := { k with world := env'.start k.world, phase := .testing }.note [.start]
  have hopened : ∀ f, f ∈ opened'.checked.files ↔ f ∈ opened.checked.files := hchecked
  obtain ⟨k₁, hk₁⟩ := checkComponents_replay hfixed hfixed' hopened number'
    (Graph.countUnchecked frontier k.checked.files) (Prod.ext h rfl)
  rw [hk₁]
  exact ⟨_, rfl⟩

/-- **A pass made again.** After a pass that has committed nothing, one over the
same components, with the same files checked, is completed and commits nothing. -/
theorem pass_replay (number' : Nat) (h : j.pass env number = (.ok report, j'))
    (hnone : report.committed = []) (hscan : (env.scan j.world).1 = .ok g)
    (hscan' : (env'.scan k.world).1 = .ok g) :
    ∃ again k', k.pass env' number' = (.ok again, k') ∧ again.committed = [] := by
  obtain ⟨opened, hopened, -, hpass⟩ := exists_pass_eq hscan number
  obtain ⟨opened', hopened', -, hpass'⟩ := exists_pass_eq hscan' number'
  rw [hpass] at h
  rw [hpass', g.eligible_congr hchecked]
  have hsame : ∀ f, f ∈ opened'.checked.files ↔ f ∈ opened.checked.files := by
    rw [hopened, hopened']
    exact hchecked
  -- the first session has found something, and nothing that passes
  obtain ⟨total, j₁, hkeep, ⟨found, hsession, -, -, hunchecked, hclean⟩ |
    ⟨cause, _, _, _, hsession, -⟩⟩ := session_cases env number (g.eligible j.checked.files) opened
  · rw [hsession] at h
    have hpassing : found.passing = [] := by
      rcases hcommit : j₁.commit env found.passing with ⟨answer, j₂⟩
      simp only [hcommit] at h
      cases answer with
      | error cause => cases h
      | ok committed =>
        cases h
        obtain ⟨hmissing, -⟩ := commit_ok hcommit
        rw [List.eq_nil_iff_forall_not_mem]
        intro f hf
        have hnew : f ∈ j₁.checked.missing found.passing :=
          CheckedSet.mem_missing.mpr ⟨hf, hkeep ▸ hunchecked _ (hclean f hf)⟩
        rw [← hmissing, show committed = [] from hnone] at hnew
        cases hnew
    obtain ⟨k₁, hsession'⟩ := session_replay hfixed hfixed' hsame number' hsession
    rw [hsession']
    simp only [hpassing, Journal.commit, List.isEmpty_nil, if_true]
    exact ⟨_, _, rfl, rfl⟩
  · rw [hsession] at h
    cases h

end

end Journal

/-- A run whose first pass commits nothing makes no other one. -/
theorem Environment.run_once {maxPasses : Option Nat} {budget : Nat} {start w : σ}
    {before after : Journal σ} (hload : env.load start = (.ok files, w))
    (hpoll : env.pollStop { world := w, checked := .ofList files } = (false, before))
    (hmax : maxPasses ≠ some 0) (hbudget : 0 < budget)
    (hpass : before.pass env 1 = (.ok report, after)) (hnone : report.committed = []) :
    env.run maxPasses budget start =
      (.finished (({} : Migration).addPass report), { after with phase := .done }) := by
  obtain ⟨budget, rfl⟩ := Nat.exists_eq_succ_of_ne_zero (Nat.ne_of_gt hbudget)
  have hcap : maxPasses.any (· ≤ ({} : Migration).passes.length) = false := by
    cases maxPasses with
    | none => rfl
    | some n =>
      have hn : n ≠ 0 := fun hn => hmax (congrArg some hn)
      simpa using hn
  have hround : env.round maxPasses {} { world := w, checked := .ofList files } =
      conclude (({} : Migration).addPass report) after := by
    rw [round_of_pass hpoll hcap hpass, if_pos hnone]
  rw [run, hload]
  simp only [rounds, hround, conclude]

end Ratchet
