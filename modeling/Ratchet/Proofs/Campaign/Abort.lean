import Ratchet.Proofs.Campaign.Ledger

/-!
# Passes that are broken off

The checker may fail on any file of any pass, after others of the pass were found
clean. The pass is broken off, the session is closed, and the run fails. What is
checked and what is stored is then what it was before the pass: the first files
and what the passes before have committed.

* `IsFault`: the replies that break off a pass.
* `Stores`: a store, as far as it can be told from the state outside.
* `fault_leaves_no_trace`: what a fault leaves behind, in any pass of any run.
-/

namespace Ratchet

open Ratchet.Graph (ImportMap)

variable {σ : Type} {env : Environment σ} {maxPasses : Option Nat} {number : Nat}
  {m : Migration} {j j' before after : Journal σ} {start w : σ} {p : PassReport}
  {events : List Event} {files : List String} {file f : String}
  {reply : Except Failure Int} {stored : σ → String → Prop}

/-! ## Faults of the checker -/

/-- Only the last reply of a pass that is refused can be a fault. -/
theorem eq_of_isFault {outcomes : List Outcome} {entry : String × Except Failure Int}
    (hmem : (file, reply) ∈ outcomes.map (·.reply) ++ [entry]) (h : IsFault reply) :
    (file, reply) = entry := by
  rcases List.mem_append.mp hmem with hmem | hmem
  · obtain ⟨o, -, heq⟩ := List.mem_map.mp hmem
    exact absurd (heq ▸ h) o.not_isFault
  · exact List.mem_singleton.mp hmem

namespace Journal

/-- Nothing is recorded in a session that is broken off. -/
theorem recordings_refusedEvents (total : Nat) (outcomes : List Outcome) (file : String) :
    recordings (.scan :: sessionEvents (refusedEvents total outcomes file)) = [] := by
  rw [recordings, List.filterMap_cons_none rfl, ← recordings, recordings_sessionEvents,
    refusedEvents, recordings_append, recordings_testEvents]
  rfl

theorem phase_commit (env : Environment σ) (files : List String) (j : Journal σ) :
    (j.commit env files).2.phase = .committing := by
  rw [Journal.commit]
  split <;> rfl

/-- **A pass that fails while testing** has recorded nothing, and what is checked is
what it was. -/
theorem pass_of_testing {cause : Failure} (h : j.pass env number = (.error cause, j'))
    (hphase : j'.phase = .testing) :
    ∃ events answers, j.Continues env events answers j' ∧ recordings events = [] ∧
      j'.checked = j.checked := by
  cases hscan : (env.scan j.world).1 with
  | error cause' =>
    obtain ⟨j₁, hpass, -, -, hscanning⟩ := exists_pass_eq_error hscan number
    cases hpass.symm.trans h
    cases hphase.symm.trans hscanning
  | ok g =>
    obtain ⟨opened, hopened, hscanned, hpass⟩ := exists_pass_eq hscan number
    rw [hpass] at h
    obtain ⟨total, j₁, hkeep, ⟨found, hsession, -⟩ |
      ⟨cause', outcomes, file, reply, hsession, hcont, -⟩⟩ :=
        session_cases env number (g.eligible j.checked.files) opened
    · -- a pass that has tested everything fails in its commit, if at all
      rw [hsession] at h
      have hcommitting := phase_commit env found.passing j₁
      rcases hcommit : j₁.commit env found.passing with ⟨answer, j₂⟩
      simp only [hcommit] at h hcommitting
      cases answer with
      | error cause' =>
        cases h
        cases hphase.symm.trans hcommitting
      | ok committed => cases h
    · rw [hsession] at h
      cases h
      exact ⟨_, _, hscanned.trans hcont, recordings_refusedEvents total outcomes file,
        hkeep.trans hopened⟩

/-- **A fault breaks off the pass** at the file, closes the session, and changes
nothing in the checked set. -/
theorem pass_of_isFault
    (htrace : (j.pass env number).2.trace = j.trace ++ events)
    (hreply : (file, reply) ∈ env.replies j.world events) (hfault : IsFault reply) :
    ∃ cause after total outcomes, j.pass env number = (.error cause, after) ∧
      Refusal number file reply cause ∧
      events = .scan :: sessionEvents (refusedEvents total outcomes file) ∧
      j.Continues env events (outcomes.map (·.reply) ++ [(file, reply)]) after ∧
      after.checked = j.checked := by
  obtain ⟨cause, j', -, hpass, hcont⟩ |
    ⟨cause, j', total, outcomes, file', reply', hpass, hcont, hrefusal, hkeep⟩ |
    ⟨p, j', haccounts, hends⟩ := pass_cases env number j
  · -- where the scan fails, nothing is checked
    rw [hpass] at htrace
    obtain rfl := hcont.events_eq htrace
    rw [hcont.replies] at hreply
    cases hreply
  · -- the refused reply is the only fault, so it is the one given
    rw [hpass] at htrace
    obtain rfl := hcont.events_eq htrace
    rw [hcont.replies] at hreply
    cases eq_of_isFault hreply hfault
    exact ⟨cause, j', total, outcomes, hpass, hrefusal, rfl, hcont, hkeep⟩
  · -- a pass that comes to its commit has a number of errors for each file
    obtain ⟨total, hcont⟩ := haccounts.continues
    have hlast : (j.pass env number).2 = j' := by
      obtain ⟨hpass, -⟩ | ⟨cause, hpass⟩ := hends
      all_goals rw [hpass]
    rw [hlast] at htrace
    obtain rfl := hcont.events_eq htrace
    rw [hcont.replies] at hreply
    obtain ⟨o, -, heq⟩ := List.mem_map.mp hreply
    exact absurd (heq ▸ hfault) o.not_isFault

end Journal

/-! ## The store -/

namespace Environment

/-- **A store**, as far as it can be told from the state outside: its files are
those that are loaded, recording files adds them, and nothing else changes it. -/
structure Stores (env : Environment σ) (stored : σ → String → Prop) : Prop where
  load {w w' : σ} {files : List String} (h : env.load w = (.ok files, w')) (f : String) :
    stored w' f ↔ f ∈ files
  poll (w : σ) : stored (env.poll w).2 = stored w
  perform (w : σ) {e : Event} (h : e.recorded? = none) : stored (env.perform w e) = stored w
  commit {w w' : σ} {files : List String} (h : env.commit files w = (.ok (), w')) (f : String) :
    stored w' f ↔ stored w f ∨ f ∈ files

namespace Stores

/-- Where nothing is recorded, the store stays as it is. -/
theorem performAll (h : env.Stores stored) (w : σ) (hevents : recordings events = []) :
    stored (env.performAll w events) = stored w := by
  induction events generalizing w with
  | nil => rfl
  | cons e events ih =>
    rcases he : e.recorded? with _ | files
    · rw [recordings, List.filterMap_cons_none he] at hevents
      exact (ih (env.perform w e) hevents).trans (h.perform w he)
    · rw [recordings, List.filterMap_cons_some he] at hevents
      cases hevents

/-- A completed pass adds to the store what it commits. -/
theorem pass (h : env.Stores stored) (hpass : j.pass env number = (.ok p, j')) (f : String) :
    stored j'.world f ↔ stored j.world f ∨ f ∈ p.committed := by
  obtain ⟨haccounts, hnone | ⟨total, hcommit⟩⟩ := Journal.accountsFor_of_pass hpass
  · obtain ⟨total, hcont⟩ := haccounts.continues
    rw [hcont.world, h.performAll _ (by rw [p.recordings_events, hnone]; rfl), hnone]
    simp
  · rw [h.commit hcommit, h.performAll _ (p.recordings_testingEvents total)]

/-- **Between two rounds the store and the checked set agree.** -/
theorem reached (h : env.Stores stored) (hreached : env.Reached maxPasses start m j) (f : String) :
    stored j.world f ↔ f ∈ j.checked.files := by
  revert f
  refine hreached.induction (P := fun _ j => ∀ f, stored j.world f ↔ f ∈ j.checked.files) ?_ ?_
  · intro files w hl f
    rw [h.load hl, CheckedSet.mem_ofList]
  · intro m j m' j' hsame hround f
    obtain ⟨before, report, hpoll, -, hpass, -, -⟩ := round_going hround
    obtain ⟨haccounts, -⟩ := Journal.accountsFor_of_pass hpass
    obtain rfl : (env.pollStop j).2 = before := congrArg Prod.snd hpoll
    have hpolled : stored (env.pollStop j).2.world = stored j.world := h.poll j.world
    rw [h.pass hpass, haccounts.mem_checked, hpolled, env.checked_pollStop, hsame]

end Stores

/-! ## Runs -/

/-- **A pass of a run begins**: the run stands between two rounds with some passes
completed, and neither the poll nor `maxPasses` forbids another one. -/
def BeginsPass (env : Environment σ) (maxPasses : Option Nat) (start : σ) (m : Migration)
    (before : Journal σ) : Prop :=
  ∃ j, env.Reached maxPasses start m j ∧ env.pollStop j = (false, before) ∧
    maxPasses.any (· ≤ m.passes.length) = false

/-- A pass that is broken off fails the run. -/
theorem BeginsPass.run_eq {cause : Failure} (h : env.BeginsPass maxPasses start m before)
    (hpass : before.pass env (m.passes.length + 1) = (.error cause, after)) :
    ∃ enough, ∀ budget, enough < budget →
      env.run maxPasses budget start = (.failed cause, after) := by
  obtain ⟨j, hreached, hpoll, hcap⟩ := h
  refine hreached.run_eq ?_
  obtain ⟨stopped, j₁, hpoll', ⟨hstop, -⟩ | ⟨-, ⟨cause', j₂, hpass', hround⟩ |
    ⟨report, j₂, hpass', -⟩⟩⟩ := env.round_cases maxPasses m j
  all_goals cases hpoll.symm.trans hpoll'
  · simp [hcap] at hstop
  · cases hpass.symm.trans hpass'
    exact hround
  · cases hpass.symm.trans hpass'

end Environment

/-- **A fault leaves no trace.** In any pass of any run, let the checker break, or
reply a negative number, for some file. Then the run fails, with the failure that
the reply amounts to. In the pass there has been a scan and a session, which was
closed right after the fault, and no commit. The checked set holds the first files
and what the passes before have committed, and so does any store; recorded are
these commits and nothing else. -/
theorem fault_leaves_no_trace
    (hload : env.load start = (.ok files, w))
    (hbegins : env.BeginsPass maxPasses start m before)
    (htrace : (before.pass env (m.passes.length + 1)).2.trace = before.trace ++ events)
    (hreply : (file, reply) ∈ env.replies before.world events) (hfault : IsFault reply) :
    ∃ cause after enough total outcomes,
      (∀ budget, enough < budget → env.run maxPasses budget start = (.failed cause, after)) ∧
      Journal.Refusal (m.passes.length + 1) file reply cause ∧
      before.Continues env events (outcomes.map (·.reply) ++ [(file, reply)]) after ∧
      events = .scan :: Journal.sessionEvents (Journal.refusedEvents total outcomes file) ∧
      recordings events = [] ∧
      recordings after.trace = (m.passes.map (·.committed)).filter (· ≠ []) ∧
      (∀ f, f ∈ after.checked.files ↔ f ∈ files ∨ ∃ p ∈ m.passes, f ∈ p.committed) ∧
      ∀ stored, env.Stores stored →
        ∀ f, stored after.world f ↔ f ∈ files ∨ ∃ p ∈ m.passes, f ∈ p.committed := by
  obtain ⟨cause, after, total, outcomes, hpass, hrefusal, hevents, hcont, hkeep⟩ :=
    Journal.pass_of_isFault htrace hreply hfault
  obtain ⟨enough, hrun⟩ := hbegins.run_eq hpass
  obtain ⟨j, hreached, hpoll, -⟩ := hbegins
  obtain rfl : (env.pollStop j).2 = before := congrArg Prod.snd hpoll
  obtain ⟨files', w', hload', hunderway⟩ := hreached.underway
  cases hload.symm.trans hload'
  have hledger := hunderway.ledger
  have hnone : recordings events = [] := by
    rw [hevents]
    exact Journal.recordings_refusedEvents total outcomes file
  have hchecked : ∀ f, f ∈ after.checked.files ↔ f ∈ files ∨ ∃ p ∈ m.passes, f ∈ p.committed := by
    intro f
    rw [hkeep, env.checked_pollStop, hledger.mem_checked_iff, hledger.committed]
    simp
  refine ⟨cause, after, enough, total, outcomes, hrun, hrefusal, hcont, hevents, hnone, ?_,
    hchecked, fun stored hstored f => ?_⟩
  · rw [hcont.trace, recordings_append, hnone, List.append_nil]
    exact hledger.recorded
  · -- the store agreed with the checked set before the pass, and both are as they were
    have hpolled : stored (env.pollStop j).2.world = stored j.world := hstored.poll j.world
    rw [hcont.world, hstored.performAll _ hnone, hpolled, hstored.reached hreached, ← hchecked,
      hkeep, env.checked_pollStop]

/-- Two files that import a third one. -/
def twoAboveOne : ImportMap where
  rows := [("a", []), ("b", ["a"]), ("c", ["a"])]

/-- A campaign whose state is the stored files and the number of checks made. The
checker finds no errors, and times out on the third check. -/
def tiring : Environment (List String × Nat) where
  start := id
  check _ w := (if w.2 = 2 then .error (.checker "timed out") else .ok 0, w.1, w.2 + 1)
  stop := id
  load w := (.ok w.1, w)
  scan w := (.ok twoAboveOne.condense, w)
  commit files w := (.ok (), w.1 ++ files, w.2)
  poll w := (false, w)

theorem stores_tiring : tiring.Stores fun w f => f ∈ w.1 where
  load h f := by
    cases h
    rfl
  poll w := rfl
  perform w e h := by
    cases e with
    | commit files => cases h
    | _ => rfl
  commit h f := by
    cases h
    exact List.mem_append

/-- What happens in the second pass of this campaign. -/
def tiredEvents : List Event :=
  [.scan, .start, .progress 1 2, .check "b", .progress 2 2, .check "c", .stop]

/-- The second pass is broken off after `b` was found clean: only `a`, committed in
the first pass, is checked and stored. -/
theorem tiring_leaves_no_trace :
    ∃ m before after cause enough, tiring.BeginsPass none ([], 0) m before ∧
      ("c", .error (.checker "timed out")) ∈ tiring.replies before.world tiredEvents ∧
      (∀ budget, enough < budget → tiring.run none budget ([], 0) = (.failed cause, after)) ∧
      Journal.Refusal 2 "c" (.error (.checker "timed out")) cause ∧
      recordings after.trace = [["a"]] ∧ (∀ f, f ∈ after.checked.files ↔ f = "a") ∧
      ∀ f, f ∈ after.world.1 ↔ f = "a" := by
  have hrun : (tiring.run none 1 ([], 0)).1 = .unfinished
      { passes := [{ number := 1, eligibleComponents := 1, tested := [⟨"a", 0⟩],
                     committed := ["a"] }],
        committed := ["a"] } := by
    cbv
  have hworld : (tiring.run none 1 ([], 0)).2.world = (["a"], 1) := by
    cbv
  have hreply : ("c", .error (.checker "timed out")) ∈
      tiring.replies (tiring.run none 1 ([], 0)).2.world tiredEvents := by
    rw [hworld]
    exact .tail _ (.head _)
  have htrace : ((tiring.run none 1 ([], 0)).2.pass tiring 2).2.trace =
      (tiring.run none 1 ([], 0)).2.trace ++ tiredEvents := by
    cbv
  have hbegins : tiring.BeginsPass none ([], 0) _ (tiring.run none 1 ([], 0)).2 :=
    ⟨_, ⟨1, Prod.ext hrun rfl⟩, rfl, rfl⟩
  obtain ⟨cause, after, enough, -, -, hfails, hrefusal, -, -, -, hrecorded, hchecked, hstored⟩ :=
    fault_leaves_no_trace rfl hbegins htrace hreply True.intro
  refine ⟨_, _, after, cause, enough, hbegins, hreply, hfails, hrefusal, hrecorded,
    fun f => ?_, fun f => ?_⟩
  · rw [hchecked]
    simp
  · rw [hstored _ stores_tiring]
    simp

end Ratchet
