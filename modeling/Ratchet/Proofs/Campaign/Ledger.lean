import Mathlib
import Ratchet.Proofs.Campaign.Run
import Ratchet.Proofs.Campaign.Trace

/-!
# The ledger of a run

What a pass commits is told four times: by its report, by the result of the run,
by the checked set and by what is recorded outside. A run keeps these accounts in
step, whatever is scanned and whatever the checker replies.

* `AccountsFor`: what a report tells of a pass.
* `pass_cases`: what a pass can come to, with all that is done outside.
* `Ledger`: what every completed pass keeps.
* `run_keeps_accounts`: no commit is lost, and none is made twice.
-/

namespace Ratchet

open Ratchet.Graph (Condensation Component ImportMap)

variable {σ : Type} {env : Environment σ} {maxPasses : Option Nat} {budget number total : Nat}
  {m m' result : Migration} {j j' before after : Journal σ} {start : σ}
  {report p : PassReport} {files : List String} {f : String}

/-! ## Commits in a trace -/

/-- The files that an event records. -/
def Event.recorded? : Event → Option (List String)
  | .commit files => some files
  | _ => none

/-- **What some events record**: the list of files of each commit, in order. -/
def recordings (events : List Event) : List (List String) :=
  events.filterMap (·.recorded?)

theorem recordings_append (events events' : List Event) :
    recordings (events ++ events') = recordings events ++ recordings events' :=
  List.filterMap_append

namespace Journal

theorem recordings_testEvents (total taken : Nat) (outcomes : List Outcome) :
    recordings (testEvents total taken outcomes) = [] := by
  rw [recordings, filterMap_testEvents fun _ _ => rfl]
  simp [Event.recorded?]

theorem recordings_sessionEvents (events : List Event) :
    recordings (sessionEvents events) = recordings events :=
  filterMap_sessionEvents rfl rfl events

/-- The events of a commit. Nothing is recorded when there is nothing to record. -/
def commitEvents (files : List String) : List Event :=
  if files = [] then [] else [.commit files]

/-- **What a commit can come to.** Of files none of which is checked, all are new,
and they are recorded once, or not at all when there are none. -/
theorem commit_cases (env : Environment σ) (files : List String) (j : Journal σ)
    (hnew : ∀ f ∈ files, f ∉ j.checked.files) :
    ∃ committed j', j.Continues env (commitEvents committed) [] j' ∧
      committed.Pairwise (· < ·) ∧ (∀ f, f ∈ committed ↔ f ∈ files) ∧
      (∀ f, f ∈ j'.checked.files ↔ f ∈ j.checked.files ∨ f ∈ committed) ∧
      (j.commit env files = (.ok committed, j') ∧
          (committed = [] ∨ env.commit committed j.world = (.ok (), j'.world)) ∨
        ∃ cause, j.commit env files = (.error cause, j')) := by
  -- no file is checked, so what is missing from the checked set is all of them
  have hmem : ∀ f, f ∈ j.checked.missing files ↔ f ∈ files := fun f =>
    CheckedSet.mem_missing.trans (and_iff_left_of_imp (hnew f))
  rw [Journal.commit]
  by_cases hempty : files.isEmpty
  · rw [if_pos hempty]
    obtain rfl : files = [] := by simpa using hempty
    exact ⟨[], { j with phase := .committing }, ⟨(List.append_nil _).symm, rfl, rfl⟩, .nil,
      by simp, by simp, Or.inl ⟨rfl, Or.inl rfl⟩⟩
  · rw [if_neg hempty]
    have hsome : j.checked.missing files ≠ [] := by
      obtain ⟨f, hf⟩ := List.exists_mem_of_ne_nil files (by simpa using hempty)
      exact List.ne_nil_of_mem ((hmem f).mpr hf)
    rcases hcommit : env.commit (j.checked.missing files) j.world with ⟨answer, w⟩
    refine ⟨j.checked.missing files,
      { j with world := w, checked := (j.checked.insertAll files).2, phase := .committing }.note
        [.commit (j.checked.missing files)],
      ⟨?_, ?_, ?_⟩, pairwise_ascending _, hmem, fun f => CheckedSet.mem_insertAll, ?_⟩
    · rw [commitEvents, if_neg hsome]
      rfl
    · rw [commitEvents, if_neg hsome]
      exact (congrArg Prod.snd hcommit).symm
    · rw [commitEvents, if_neg hsome]
      rfl
    · have hnew : (j.checked.insertAll files).1 = j.checked.missing files := rfl
      simp only [hnew, hcommit]
      cases answer with
      | error cause => exact Or.inr ⟨cause, rfl⟩
      | ok _ => exact Or.inl ⟨rfl, Or.inr rfl⟩

end Journal

/-! ## What a report tells -/

namespace PassReport

/-- The events of a pass before it commits. -/
def testingEvents (p : PassReport) (total : Nat) : List Event :=
  .scan :: Journal.sessionEvents (Journal.testEvents total 0 p.tested)

/-- **The events of a completed pass**: a scan, a session with the tests
reported, and a commit unless nothing is committed. -/
def events (p : PassReport) (total : Nat) : List Event :=
  p.testingEvents total ++ Journal.commitEvents p.committed

theorem recordings_testingEvents (p : PassReport) (total : Nat) :
    recordings (p.testingEvents total) = [] := by
  rw [testingEvents, recordings, List.filterMap_cons_none rfl]
  rw [← recordings, Journal.recordings_sessionEvents, Journal.recordings_testEvents]

/-- A pass records what it commits, if there is anything. -/
theorem recordings_events (p : PassReport) (total : Nat) :
    recordings (p.events total) = [p.committed].filter (· ≠ []) := by
  rw [events, recordings_append, recordings_testingEvents, Journal.commitEvents]
  by_cases hnone : p.committed = []
  · simp [hnone, recordings]
  · simp [hnone, recordings, Event.recorded?]

/-- **What a report tells of a pass**, whatever has been scanned: all that was
done outside, that each file tested was unchecked and tested once, and that
exactly the files committed, all of them tested without errors, are checked
anew. -/
structure AccountsFor (p : PassReport) (env : Environment σ) (before after : Journal σ) :
    Prop where
  continues : ∃ total, before.Continues env (p.events total) (p.tested.map (·.reply)) after
  nodup_tested : (p.tested.map (·.file)).Nodup
  unchecked : ∀ o ∈ p.tested, o.file ∉ before.checked.files
  clean : ∀ f ∈ p.committed, ⟨f, 0⟩ ∈ p.tested
  pairwise_committed : p.committed.Pairwise (· < ·)
  mem_checked (f : String) : f ∈ after.checked.files ↔ f ∈ before.checked.files ∨ f ∈ p.committed

/-- What a pass commits is recorded, after its tests. -/
def Recorded (p : PassReport) (env : Environment σ) (before after : Journal σ) : Prop :=
  p.committed = [] ∨ ∃ total, env.commit p.committed
    (env.performAll before.world (p.testingEvents total)) = (.ok (), after.world)

end PassReport

namespace Journal

/-- **What a pass can come to**, with all that it does outside: the scan fails,
the checker refuses a file, or the tests are completed. Then the pass is, unless
its commit cannot be recorded. -/
theorem pass_cases (env : Environment σ) (number : Nat) (j : Journal σ) :
    (∃ cause j', (env.scan j.world).1 = .error cause ∧ j.pass env number = (.error cause, j') ∧
      j.Continues env [.scan] [] j') ∨
    (∃ cause j' total outcomes file reply, j.pass env number = (.error cause, j') ∧
      j.Continues env (.scan :: sessionEvents (refusedEvents total outcomes file))
        (outcomes.map (·.reply) ++ [(file, reply)]) j' ∧
      Refusal number file reply cause ∧ j'.checked = j.checked) ∨
    ∃ (p : PassReport) (j' : Journal σ), p.AccountsFor env j j' ∧
      (j.pass env number = (.ok p, j') ∧ p.Recorded env j j' ∨
        ∃ cause, j.pass env number = (.error cause, j')) := by
  cases hscan : (env.scan j.world).1 with
  | error cause =>
    obtain ⟨j', hpass, hcont, -⟩ := exists_pass_eq_error hscan number
    exact .inl ⟨cause, j', rfl, hpass, hcont⟩
  | ok g =>
    refine .inr ?_
    obtain ⟨opened, hsame, hopened, hpass⟩ := exists_pass_eq hscan number
    obtain ⟨total, j₁, hkeep, hends⟩ :=
      session_cases env number (g.eligible j.checked.files) opened
    rw [hsame] at hkeep hends
    rcases hends with ⟨found, hok, hcont, hnodup, hunchecked, hclean⟩ |
      ⟨cause, outcomes, file, reply, herror, hcont, hrefused⟩
    · -- a file that passes was tested, so it is not checked
      have hpassing : ∀ f ∈ found.passing, f ∉ j₁.checked.files := fun f hf =>
        hkeep ▸ hunchecked _ (hclean f hf)
      have htesting := hopened.trans hcont
      obtain ⟨committed, j', hcommits, hpairwise, hmem, hchecked, hends⟩ :=
        commit_cases env found.passing j₁ hpassing
      rw [hpass, hok]
      refine .inr ⟨⟨number, (g.eligible j.checked.files).length, found.tested, committed⟩, j',
        ⟨⟨total, ?_⟩, hnodup, hunchecked, fun f hf => hclean f ((hmem f).mp hf), hpairwise,
          fun f => hkeep ▸ hchecked f⟩, ?_⟩
      · have hall := htesting.trans hcommits
        rwa [List.nil_append, List.append_nil] at hall
      · rcases hends with ⟨hok, hrecorded⟩ | ⟨cause, herror⟩
        · refine .inl ⟨by simp only [hok], hrecorded.imp_right fun hrecorded => ⟨total, ?_⟩⟩
          rw [← hrecorded, htesting.world]
          rfl
        · exact .inr ⟨cause, by simp only [herror]⟩
    · rw [hpass, herror]
      exact .inl ⟨cause, j₁, total, outcomes, file, reply, rfl, hopened.trans hcont, hrefused,
        hkeep⟩

/-- The report of a completed pass tells of it, and what it commits is recorded. -/
theorem accountsFor_of_pass (h : j.pass env number = (.ok report, j')) :
    report.AccountsFor env j j' ∧ report.Recorded env j j' := by
  obtain ⟨cause, j₁, -, herror, -⟩ | ⟨cause, j₁, total, outcomes, file, reply, herror, -⟩ |
    ⟨p, j₁, haccounts, ⟨hok, hrecorded⟩ | ⟨cause, herror⟩⟩ := pass_cases env number j
  · cases herror.symm.trans h
  · cases herror.symm.trans h
  · cases hok.symm.trans h
    exact ⟨haccounts, hrecorded⟩
  · cases herror.symm.trans h

end Journal

/-! ## The ledger -/

theorem PassReport.AccountsFor.notMem_of_committed (h : p.AccountsFor env before after)
    (hf : f ∈ p.committed) : f ∉ before.checked.files :=
  h.unchecked _ (h.clean f hf)

/-- **The accounts of a run** that started from some files: every commit is in the
result, in the passes and in the trace, and the checked files are the first ones
and all that was recorded. -/
structure Ledger (files : List String) (m : Migration) (j : Journal σ) : Prop where
  committed : m.committed = (m.passes.map (·.committed)).flatten
  ascending : ∀ p ∈ m.passes, p.committed.Pairwise (· < ·)
  disjoint : m.passes.Pairwise fun p q => p.committed.Disjoint q.committed
  fresh : ∀ p ∈ m.passes, p.committed.Disjoint files
  recorded : recordings j.trace = (m.passes.map (·.committed)).filter (· ≠ [])
  mem_checked (f : String) : f ∈ j.checked.files ↔ f ∈ files ∨ f ∈ (recordings j.trace).flatten

namespace Ledger

theorem flatten_recordings (h : Ledger files m j) : (recordings j.trace).flatten = m.committed := by
  rw [h.recorded, h.committed, List.flatten_filter_ne_nil]

/-- What is checked was loaded or has been committed. -/
theorem mem_checked_iff (h : Ledger files m j) :
    f ∈ j.checked.files ↔ f ∈ files ∨ f ∈ m.committed := by
  rw [h.mem_checked, h.flatten_recordings]

/-- The accounts are about the passes, the trace and the checked set only. -/
theorem congr (h : Ledger files m j) (hpasses : m'.passes = m.passes)
    (hcommitted : m'.committed = m.committed) (htrace : j'.trace = j.trace)
    (hchecked : j'.checked = j.checked) : Ledger files m' j' where
  committed := by rw [hcommitted, hpasses, h.committed]
  ascending := hpasses ▸ h.ascending
  disjoint := hpasses ▸ h.disjoint
  fresh := hpasses ▸ h.fresh
  recorded := by rw [htrace, hpasses, h.recorded]
  mem_checked f := by rw [hchecked, htrace, h.mem_checked]

/-- A completed pass keeps the accounts. -/
theorem addPass (h : Ledger files m before) (hp : p.AccountsFor env before after) :
    Ledger files (m.addPass p) after := by
  have hpasses : (m.addPass p).passes = m.passes ++ [p] := rfl
  have hrecordings : recordings after.trace =
      ((m.passes ++ [p]).map (·.committed)).filter (· ≠ []) := by
    obtain ⟨total, hcont⟩ := hp.continues
    rw [hcont.trace, recordings_append, h.recorded, p.recordings_events, List.map_append,
      List.filter_append]
    rfl
  refine ⟨?_, ?_, ?_, ?_, hrecordings, ?_⟩
  · simp [Migration.addPass, h.committed]
  · intro q hq
    rcases List.mem_append.mp hq with hq | hq
    · exact h.ascending q hq
    · obtain rfl := List.mem_singleton.mp hq
      exact hp.pairwise_committed
  · rw [hpasses, List.pairwise_append]
    refine ⟨h.disjoint, List.pairwise_singleton _ _, fun q hq p' hp' f hfq hfp => ?_⟩
    obtain rfl := List.mem_singleton.mp hp'
    -- what was committed before is checked, so it is not tested again
    refine hp.notMem_of_committed hfp (h.mem_checked_iff.mpr (Or.inr ?_))
    rw [h.committed]
    exact List.mem_flatten_of_mem (List.mem_map_of_mem hq) hfq
  · intro q hq
    rcases List.mem_append.mp hq with hq | hq
    · exact h.fresh q hq
    · obtain rfl := List.mem_singleton.mp hq
      exact fun f hfq hf => hp.notMem_of_committed hfq (h.mem_checked_iff.mpr (Or.inl hf))
  · intro f
    rw [hp.mem_checked, h.mem_checked_iff, hrecordings, List.flatten_filter_ne_nil, h.committed]
    simp [or_assoc]

end Ledger

/-! ## Runs -/

namespace Environment

/-- Each pass of a run was completed in its place, its report tells of it, and
the accounts were kept after it. -/
def PassesKept (env : Environment σ) (maxPasses : Option Nat) (start : σ) (files : List String)
    (m : Migration) : Prop :=
  ∀ k p, m.passes[k]? = some p → ∃ before after soFar,
    env.CompletesPass maxPasses start before p after ∧ p.AccountsFor env before after ∧
      Ledger files soFar after ∧ soFar.passes = m.passes.take (k + 1)

/-- Another pass that accounts for what it does keeps the account. -/
theorem PassesKept.addPass (h : env.PassesKept maxPasses start files m)
    (hcompletes : env.CompletesPass maxPasses start before report after)
    (haccounts : report.AccountsFor env before after)
    (hledger : Ledger files (m.addPass report) after) :
    env.PassesKept maxPasses start files (m.addPass report) := by
  intro k p hp
  rcases Migration.getElem?_addPass.mp hp with hp | ⟨rfl, rfl⟩
  · obtain ⟨before', after', soFar, hcompletes', haccounts', hledger', hsoFar⟩ := h k p hp
    refine ⟨before', after', soFar, hcompletes', haccounts', hledger', ?_⟩
    obtain ⟨hk, -⟩ := List.getElem?_eq_some_iff.mp hp
    rw [hsoFar]
    exact (List.take_append_of_le_length hk).symm
  · refine ⟨before, after, m.addPass report, hcompletes, haccounts, hledger, ?_⟩
    exact (List.take_of_length_le (m.length_addPass report).le).symm

/-- What was done outside in a pass, and the accounts after it. -/
theorem PassesKept.continues {k : Nat} (h : env.PassesKept maxPasses start files m)
    (hp : m.passes[k]? = some p) :
    ∃ before after soFar total, env.CompletesPass maxPasses start before p after ∧
      before.Continues env (p.events total) (p.tested.map (·.reply)) after ∧
      Ledger files soFar after ∧ soFar.passes = m.passes.take (k + 1) := by
  obtain ⟨before, after, soFar, hcompletes, haccounts, hledger, hsoFar⟩ := h k p hp
  obtain ⟨total, hcont⟩ := haccounts.continues
  exact ⟨before, after, soFar, total, hcompletes, hcont, hledger, hsoFar⟩

/-- **What holds between two rounds**: the accounts are kept, no pass has
committed nothing, and the run has not been stopped. -/
structure Underway (env : Environment σ) (maxPasses : Option Nat) (start : σ)
    (files : List String) (m : Migration) (j : Journal σ) : Prop where
  reached : env.Reached maxPasses start m j
  running : m.cancelled = false
  ledger : Ledger files m j
  committing : ∀ p ∈ m.passes, p.committed ≠ []
  passes : env.PassesKept maxPasses start files m

/-- A completed pass of a run keeps the accounts. -/
theorem Underway.keep (h : env.Underway maxPasses start files m j)
    (hpoll : env.pollStop j = (false, before))
    (hcap : maxPasses.any (· ≤ m.passes.length) = false)
    (hpass : before.pass env (m.passes.length + 1) = (.ok report, after)) :
    Ledger files (m.addPass report) after ∧
      env.PassesKept maxPasses start files (m.addPass report) := by
  obtain ⟨haccounts, -⟩ := Journal.accountsFor_of_pass hpass
  have hbefore : (env.pollStop j).2 = before := congrArg Prod.snd hpoll
  have hledger : Ledger files (m.addPass report) after :=
    (h.ledger.congr rfl rfl (hbefore ▸ rfl) (hbefore ▸ rfl)).addPass haccounts
  exact ⟨hledger, h.passes.addPass ⟨m, j, h.reached, hpoll, hcap, hpass⟩ haccounts hledger⟩

/-- Wherever a run gets, it is under way from what has been loaded. -/
theorem Reached.underway (h : env.Reached maxPasses start m j) :
    ∃ files w, env.load start = (.ok files, w) ∧ env.Underway maxPasses start files m j := by
  refine h.induction (P := fun m j => ∃ files w, env.load start = (.ok files, w) ∧
    env.Underway maxPasses start files m j) ?_ ?_
  · intro files w hl
    refine ⟨files, w, hl, reached_of_load hl, rfl, ?_, by simp, by simp [PassesKept]⟩
    refine ⟨rfl, by simp, .nil, by simp, rfl, fun f => ?_⟩
    rw [CheckedSet.mem_ofList]
    simp [recordings]
  · rintro m j m' j' ⟨files, w, hl, h⟩ hround
    obtain ⟨j₁, report, hpoll, hcap, hpass, rfl, hsome⟩ := round_going hround
    obtain ⟨hledger, hpasses⟩ := h.keep hpoll hcap hpass
    refine ⟨files, w, hl, h.reached.next hround, h.running, hledger, fun p hp => ?_, hpasses⟩
    rcases List.mem_append.mp hp with hp | hp
    · exact h.committing p hp
    · exact List.mem_singleton.mp hp ▸ hsome

/-- A finished run has kept the accounts, at its end and after each pass. -/
theorem run_finished_kept (h : env.run maxPasses budget start = (.finished result, j)) :
    ∃ files w, env.load start = (.ok files, w) ∧ Ledger files result j ∧
      env.PassesKept maxPasses start files result := by
  obtain ⟨m, j₀, j₁, hreached, hends⟩ := run_finished_cases h
  obtain ⟨files, w, hl, hunderway⟩ := hreached.underway
  refine ⟨files, w, hl, ?_⟩
  rcases hends with ⟨stopped, hpoll, rfl, rfl⟩ | ⟨report, j₂, hpoll, hcap, hpass, -, rfl, rfl⟩
  · cases hpoll
    exact ⟨hunderway.ledger.congr rfl rfl rfl rfl, hunderway.passes⟩
  · obtain ⟨hledger, hkept⟩ := hunderway.keep hpoll hcap hpass
    exact ⟨hledger.congr rfl rfl rfl rfl, hkept⟩

end Environment

/-- **No commit is lost, and none is made twice.** When a run finishes, stopped
or not, each of its passes was completed in its place. What was done outside in
the pass is the scan, the session and, unless nothing was committed, one commit
of exactly the files reported. The accounts are kept after each pass and at the
end. All passes but the last commit something, and the last one commits nothing
exactly when the run was not stopped. -/
theorem run_keeps_accounts (h : env.run maxPasses budget start = (.finished result, j)) :
    ∃ files w, env.load start = (.ok files, w) ∧ Ledger files result j ∧
      (∀ k p, result.passes[k]? = some p → ∃ before after soFar total,
        env.CompletesPass maxPasses start before p after ∧
        before.Continues env (p.events total) (p.tested.map (·.reply)) after ∧
        Ledger files soFar after ∧ soFar.passes = result.passes.take (k + 1)) ∧
      (∀ k p, result.passes[k]? = some p →
        (p.committed = [] ↔ k + 1 = result.passes.length ∧ result.cancelled = false)) ∧
      (result.cancelled = false → result.passes ≠ []) := by
  obtain ⟨files, w, hl, hledger, hkept⟩ := Environment.run_finished_kept h
  refine ⟨files, w, hl, hledger, fun k p hp => hkept.continues hp, ?_⟩
  obtain ⟨m, j₀, j₁, hreached, ⟨stopped, -, rfl, -⟩ | ⟨report, j₂, -, -, -, hnone, rfl, -⟩⟩ :=
    Environment.run_finished_cases h
  all_goals obtain ⟨first, w₀, -, hunderway⟩ := hreached.underway
  · refine ⟨fun k p hp => ?_, by simp⟩
    simpa using hunderway.committing p (List.mem_of_getElem? hp)
  · refine ⟨fun k p hp => ?_, fun _ => by simp [Migration.addPass]⟩
    have hrunning : (m.addPass report).cancelled = false := hunderway.running
    have hlen := m.length_addPass report
    rcases Migration.getElem?_addPass.mp hp with hp | ⟨rfl, rfl⟩
    · obtain ⟨hk, -⟩ := List.getElem?_eq_some_iff.mp hp
      have hsome := hunderway.committing p (List.mem_of_getElem? hp)
      simp only [hsome, false_iff, not_and]
      omega
    · simp [hnone, hrunning, hlen]

/-- Two files that import each other for the first three checks, and one that
imports nothing. Later only the second imports the first. -/
def parting (count : Nat) : ImportMap where
  rows := [("a", if count < 3 then ["b"] else []), ("b", ["a"]), ("c", [])]

/-- A campaign on files that part, with an error in `b` until they do. -/
def partingCampaign : Environment Nat :=
  { Environment.counting {} [] fun file count => if file = "b" ∧ count < 3 then 1 else 0 with
    scan := fun count => (.ok (parting count).condense, count) }

/-- The ring is held back by its error; after it has parted, its two files are
committed one after the other. -/
theorem partingCampaign_keeps_accounts :
    ∃ result j, partingCampaign.run none 9 0 = (.finished result, j) ∧
      result.committed = ["c", "a", "b"] ∧ result.cancelled = false ∧
      (∀ k p, result.passes[k]? = some p → (p.committed = [] ↔ k = 3)) ∧
      ∃ files w, partingCampaign.load 0 = (.ok files, w) ∧ Ledger files result j := by
  have hrun : (partingCampaign.run none 9 0).1 = .finished
      { passes := [{ number := 1, eligibleComponents := 2,
                     tested := [⟨"a", 0⟩, ⟨"b", 1⟩, ⟨"c", 0⟩], committed := ["c"] },
                   { number := 2, eligibleComponents := 1, tested := [⟨"a", 0⟩],
                     committed := ["a"] },
                   { number := 3, eligibleComponents := 1, tested := [⟨"b", 0⟩],
                     committed := ["b"] },
                   { number := 4 }],
        committed := ["c", "a", "b"] } := by
    cbv
  obtain ⟨files, w, hload, hledger, -, hlast, -⟩ := run_keeps_accounts (Prod.ext hrun rfl)
  refine ⟨_, _, Prod.ext hrun rfl, rfl, rfl, fun k p hp => ?_, files, w, hload, hledger⟩
  rw [hlast k p hp]
  simp

end Ratchet
