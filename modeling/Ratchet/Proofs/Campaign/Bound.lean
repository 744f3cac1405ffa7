import Ratchet.Proofs.Campaign.Ledger

/-!
# Runs end

A pass that another follows has committed something, and so it has completed a
component that was open before. With the same components at every scan this
bounds the passes: there are no more than components open at the start, and one.
Neither the poll nor `maxPasses` is needed for that, and the checker may answer
as it likes.

* `count_scan_pass`: a pass scans once, however it goes.
* `run_ends_within_components`: every run ends, after so many passes at most.
-/

namespace Ratchet

open Ratchet.Graph (ImportMap)

variable {σ : Type} {env : Environment σ} {maxPasses : Option Nat} {m m' : Migration}
  {j j' : Journal σ} {start : σ} {imports : ImportMap} {files : List String} {bound : Nat}

/-! ## Scans in a trace -/

namespace Journal

theorem count_scan_testEvents (total taken : Nat) (outcomes : List Outcome) :
    (testEvents total taken outcomes).count .scan = 0 := by
  induction outcomes generalizing taken with
  | nil => rfl
  | cons o outcomes ih => simpa [testEvents] using ih (taken + 1)

theorem count_scan_sessionEvents (events : List Event) :
    (sessionEvents events).count .scan = events.count .scan := by
  simp [sessionEvents]

/-- A pass scans once. -/
theorem count_scan_events (p : PassReport) (total : Nat) : (p.events total).count .scan = 1 := by
  have hcommit : (commitEvents p.committed).count .scan = 0 := by
    rw [commitEvents]
    split <;> simp
  rw [PassReport.events, PassReport.testingEvents, List.count_append, List.count_cons_self,
    count_scan_sessionEvents, count_scan_testEvents, hcommit]

/-- A pass scans once, however it goes. -/
theorem count_scan_pass (env : Environment σ) (number : Nat) (j : Journal σ) :
    (j.pass env number).2.trace.count .scan = j.trace.count .scan + 1 := by
  obtain ⟨cause, j₁, -, hpass, hcont⟩ | ⟨cause, j₁, total, outcomes, file, reply, hpass, hcont, -⟩ |
    ⟨p, j₁, haccounts, hends⟩ := pass_cases env number j
  · rw [hpass, hcont.trace, List.count_append]
    rfl
  · rw [hpass, hcont.trace, List.count_append, List.count_cons_self, count_scan_sessionEvents,
      refusedEvents, List.count_append, count_scan_testEvents]
    simp
  · obtain ⟨total, hcont⟩ := haccounts.continues
    have hworld : (j.pass env number).2 = j₁ := by
      obtain ⟨hok, -⟩ | ⟨cause, herror⟩ := hends
      · rw [hok]
      · rw [herror]
    rw [hworld, hcont.trace, List.count_append, count_scan_events]

end Journal

/-! ## Runs -/

/-- **What every pass keeps that another follows**: there are no more passes, and
no more scans, than components completed since the start. -/
structure Bounded (imports : ImportMap) (bound : Nat) (m : Migration) (j : Journal σ) : Prop where
  scans : j.trace.count .scan = m.passes.length
  passes : m.passes.length + (openComponents imports.condense j.checked.files).length ≤ bound

namespace Environment

/-- **How a bounded run may end**: it is finished or has failed, after no more
passes than the bound and one. It can only fail when something called fails. -/
structure EndsWithin (env : Environment σ) (bound : Nat) (conclusion : Conclusion)
    (j : Journal σ) : Prop where
  scans : j.trace.count .scan ≤ bound + 1
  ended : (∃ result, conclusion = .finished result ∧ result.passes.length ≤ bound + 1) ∨
    ∃ cause, conclusion = .failed cause ∧ ¬ (env.Answers ∧ env.Records)

/-- **What a round can come to** when the components stay: another follows, with
fewer components open, or the run ends. -/
theorem round_bounded (maxPasses : Option Nat)
    (hscan : ∀ w, (env.scan w).1 = .ok imports.condense) (h : Bounded imports bound m j) :
    (∃ m' j', env.round maxPasses m j = .going m' j' ∧ Bounded imports bound m' j' ∧
        (openComponents imports.condense j'.checked.files).length <
          (openComponents imports.condense j.checked.files).length) ∨
      ∃ conclusion j', env.round maxPasses m j = .ended conclusion j' ∧
        env.EndsWithin bound conclusion j' := by
  obtain ⟨stopped, j₁, hpoll, hcases⟩ := env.round_cases maxPasses m j
  have hkeep : j₁.checked = j.checked := by rw [← env.checked_pollStop j, hpoll]
  have htrace : j₁.trace = j.trace := (congrArg (fun r => r.2.trace) hpoll).symm
  have hbound : m.passes.length + 1 ≤ bound + 1 :=
    Nat.succ_le_succ (Nat.le_trans (Nat.le_add_right ..) h.passes)
  have hscans : ∀ {answer j₂}, j₁.pass env (m.passes.length + 1) = (answer, j₂) →
      j₂.trace.count .scan = m.passes.length + 1 := by
    intro answer j₂ hpass
    have hcount := Journal.count_scan_pass env (m.passes.length + 1) j₁
    rwa [hpass, htrace, h.scans] at hcount
  obtain ⟨-, hr⟩ | ⟨-, ⟨cause, j₂, hpass, hr⟩ | ⟨report, j₂, hpass, hends⟩⟩ := hcases
  · -- stopped before the pass: there are as many scans as passes
    have hstopped : j₁.trace.count .scan ≤ bound + 1 := by
      rw [htrace, h.scans]
      exact Nat.le_of_succ_le hbound
    exact Or.inr ⟨_, _, hr, hstopped, Or.inl ⟨_, rfl, Nat.le_of_succ_le hbound⟩⟩
  · refine Or.inr ⟨_, _, hr, hscans hpass ▸ hbound, Or.inr ⟨cause, rfl, ?_⟩⟩
    rintro ⟨hanswers, hrecords⟩
    obtain ⟨report, j₃, hok⟩ :=
      Journal.exists_pass hanswers hrecords (hscan j₁.world) (m.passes.length + 1)
    cases hpass.symm.trans hok
  · obtain ⟨-, hr⟩ | ⟨hsome, hr⟩ := hends
    · exact Or.inr ⟨_, _, hr, hscans hpass ▸ hbound,
        Or.inl ⟨_, rfl, (m.length_addPass report).symm ▸ hbound⟩⟩
    · -- the pass has committed something, so it has completed a component
      obtain ⟨hdescribes, hchecked⟩ := Journal.pass_condense hpass (hscan _)
      rw [hkeep] at hdescribes hchecked
      have hfewer := hdescribes.openComponents_lt imports.isQuotientOf_condense hchecked hsome
      refine Or.inl ⟨_, j₂, hr, ⟨(hscans hpass).trans (m.length_addPass report).symm, ?_⟩, hfewer⟩
      have := h.passes
      rw [m.length_addPass]
      omega

end Environment

/-- **Every run ends within the components.** When every scan gives the same
components, a run ends after no more passes than there are components open at
the start, and one: with the poll and `maxPasses` or without, and whatever the
checker answers from one call to the next. Where the checker answers every file
and recording never fails, it is finished. -/
theorem run_ends_within_components {w : σ}
    (hscan : ∀ w, (env.scan w).1 = .ok imports.condense)
    (hload : env.load start = (.ok files, w)) :
    ∃ conclusion j,
      (∀ budget, (openComponents imports.condense files).length < budget →
        env.run maxPasses budget start = (conclusion, j)) ∧
      j.trace.count .scan ≤ (openComponents imports.condense files).length + 1 ∧
      ((∃ result, conclusion = .finished result ∧
          result.passes.length ≤ (openComponents imports.condense files).length + 1) ∨
        ∃ cause, conclusion = .failed cause ∧ ¬ (env.Answers ∧ env.Records)) := by
  let first : Journal σ := { world := w, checked := .ofList files }
  have hopen : openComponents imports.condense first.checked.files =
      openComponents imports.condense files :=
    openComponents_congr fun f => CheckedSet.mem_ofList
  have hfirst : Bounded imports (openComponents imports.condense files).length {} first :=
    ⟨rfl, by rw [hopen]; simp⟩
  obtain ⟨m, j, conclusion, last, hbounded, hlast, hrounds⟩ :=
    Environment.rounds_terminate
      (fun j => (openComponents imports.condense j.checked.files).length)
      (fun h => (Environment.round_bounded maxPasses hscan h).imp_right
        fun ⟨conclusion, j', hr, _⟩ => ⟨conclusion, j', hr⟩) hfirst
  obtain ⟨m', j', hgoing, -⟩ | ⟨conclusion', j', hended, hends⟩ :=
    Environment.round_bounded maxPasses hscan hbounded
  · cases hlast.symm.trans hgoing
  · cases hlast.symm.trans hended
    refine ⟨conclusion, last, fun budget hb => ?_, hends.scans, hends.ended⟩
    rw [Environment.run, hload]
    exact hrounds budget (hopen ▸ hb)

/-- A file that imports a ring one file of which is checked, and one that stands
alone. -/
def aboveHalfRing : ImportMap where
  rows := [("a", ["b"]), ("b", ["c"]), ("c", ["b"]), ("d", [])]

/-- A checker that finds an error in every third check, whatever the file. -/
def everyThird : Environment Nat :=
  .counting aboveHalfRing ["b"] fun _ count => if count % 3 = 2 then 1 else 0

/-- Three components are open at the start, so that the fourth pass, if it comes
to it, is the last. -/
theorem everyThird_ends_within_components :
    (∀ w, (everyThird.scan w).1 = .ok aboveHalfRing.condense) ∧
    everyThird.load 0 = (.ok ["b"], 0) ∧
    ∃ conclusion j,
      (∀ budget, (openComponents aboveHalfRing.condense ["b"]).length < budget →
        everyThird.run none budget 0 = (conclusion, j)) ∧
      j.trace.count .scan ≤ (openComponents aboveHalfRing.condense ["b"]).length + 1 ∧
      ((∃ result, conclusion = .finished result ∧
          result.passes.length ≤ (openComponents aboveHalfRing.condense ["b"]).length + 1) ∨
        ∃ cause, conclusion = .failed cause ∧ ¬ (everyThird.Answers ∧ everyThird.Records)) :=
  ⟨fun _ => rfl, rfl, run_ends_within_components (fun _ => rfl) rfl⟩

end Ratchet
