import Ratchet.Proofs.Campaign.Ledger

/-!
# Files that fail

The result of a run gives the files that fail, with a number of errors each. A
file is dropped when it is committed, and its number is replaced when it fails
again. A file of a ring may also be tested without errors and yet be held back by
another one that fails. Then the number found earlier stays.

* `lastCount`: the number of errors last found in a file.
* `Tallied`: what every completed pass keeps.
* `run_failures_iff`: the failures of a run, by the tests it made.
-/

namespace Ratchet

variable {σ : Type} {env : Environment σ} {maxPasses : Option Nat} {budget n total taken : Nat}
  {m result : Migration} {j before after : Journal σ} {start : σ} {p : PassReport}
  {outcomes : List Outcome} {f : String}

/-! ## The last test of a file -/

/-- **The number of errors last found in a file**, in the course of some tests. -/
def lastCount (outcomes : List Outcome) (f : String) : Option Nat :=
  (outcomes.reverse.find? (·.file == f)).map (·.errors)

/-- The tests that found errors. -/
def failing (outcomes : List Outcome) : List Outcome :=
  outcomes.filter (!·.passed)

theorem failing_append (outcomes new : List Outcome) :
    failing (outcomes ++ new) = failing outcomes ++ failing new :=
  List.filter_append ..

/-- What was found last in the new tests counts, and else what was found before. -/
theorem lastCount_append (outcomes new : List Outcome) (f : String) :
    lastCount (outcomes ++ new) f = (lastCount new f).or (lastCount outcomes f) := by
  rw [lastCount, List.reverse_append, List.find?_append, Option.map_or]
  rfl

/-- The last count of a file is one of its outcomes. -/
theorem mem_of_lastCount (h : lastCount outcomes f = some n) : ⟨f, n⟩ ∈ outcomes := by
  obtain ⟨o, ho, rfl⟩ := Option.map_eq_some_iff.mp h
  obtain rfl : o.file = f := by simpa using List.find?_some ho
  exact List.mem_reverse.mp (List.mem_of_find?_eq_some ho)

theorem lastCount_eq_none_iff : lastCount outcomes f = none ↔ f ∉ outcomes.map (·.file) := by
  simp [lastCount]

theorem exists_lastCount (h : f ∈ outcomes.map (·.file)) : ∃ n, lastCount outcomes f = some n :=
  Option.ne_none_iff_exists'.mp fun hnone => lastCount_eq_none_iff.mp hnone h

/-- Where no file is tested twice, each test is the last one of its file. -/
theorem lastCount_eq_some_iff (hnodup : (outcomes.map (·.file)).Nodup) :
    lastCount outcomes f = some n ↔ ⟨f, n⟩ ∈ outcomes := by
  refine ⟨mem_of_lastCount, fun hmem => ?_⟩
  obtain ⟨k, hk⟩ := exists_lastCount (List.mem_map_of_mem hmem)
  cases List.inj_on_of_nodup_map hnodup (mem_of_lastCount hk) hmem rfl
  exact hk

/-- A file whose last test found errors was last found failing there. -/
theorem lastCount_failing (h : lastCount outcomes f = some n) (hpos : 0 < n) :
    lastCount (failing outcomes) f = some n := by
  obtain ⟨o, ho, rfl⟩ := Option.map_eq_some_iff.mp h
  obtain ⟨hfile, later, earlier, hsplit, hlater⟩ := List.find?_eq_some_iff_append.mp ho
  have hfails : (!o.passed) = true := by
    simpa [Outcome.passed] using Nat.ne_of_gt hpos
  refine Option.map_eq_some_iff.mpr ⟨o, List.find?_eq_some_iff_append.mpr
    ⟨hfile, later.filter (!·.passed), earlier.filter (!·.passed), ?_, ?_⟩, rfl⟩
  · rw [failing, ← List.filter_reverse, hsplit, List.filter_append, List.filter_cons,
      if_pos hfails]
  · exact fun o' ho' => hlater o' (List.mem_of_mem_filter ho')

/-! ## Failures of a run -/

theorem not_any_key_iff {entries : List (String × Nat)} :
    (!entries.any (·.1 == f)) = true ↔ f ∉ entries.map (·.1) := by
  simp only [Bool.not_eq_true', List.any_eq_false, beq_iff_eq, List.mem_map, not_exists, not_and]

/-- New counts take the place of old ones for the same file. -/
theorem Migration.mem_noteFailures {new old : List (String × Nat)} :
    (f, n) ∈ Migration.noteFailures new old ↔
      (f, n) ∈ old ∧ f ∉ new.map (·.1) ∨ (f, n) ∈ new := by
  rw [noteFailures, List.mem_append, List.mem_filter, not_any_key_iff]

/-- What a pass does to the failures: those committed go, those counted are set. -/
theorem Migration.mem_failures_addPass :
    (f, n) ∈ (m.addPass p).failures ↔
      ((f, n) ∈ m.failures ∧ f ∉ p.committed) ∧ f ∉ p.failures.map (·.1) ∨
        (f, n) ∈ p.failures := by
  rw [addPass, mem_noteFailures, List.mem_filter]
  simp

/-- No file fails twice in a report. -/
theorem Migration.nodup_failures_addPass (h : (m.failures.map (·.1)).Nodup)
    (hp : (p.failures.map (·.1)).Nodup) : ((m.addPass p).failures.map (·.1)).Nodup := by
  rw [addPass, noteFailures, List.map_append, List.nodup_append]
  refine ⟨h.sublist ?_, hp, ?_⟩
  · exact (List.filter_sublist.trans List.filter_sublist).map _
  · rintro f hf _ hnew rfl
    obtain ⟨e, he, rfl⟩ := List.mem_map.mp hf
    exact not_any_key_iff.mp (List.mem_filter.mp he).2 hnew

/-- The tests of a run, in order. -/
def Migration.tests (m : Migration) : List Outcome :=
  m.passes.flatMap (·.tested)

theorem Migration.tests_addPass (m : Migration) (p : PassReport) :
    (m.addPass p).tests = m.tests ++ p.tested := by
  simp [tests, addPass]

/-- The file that an event checks. -/
def Event.checked? : Event → Option String
  | .check file => some file
  | _ => none

/-- **The files that some events check**, in order. -/
def checks (events : List Event) : List String :=
  events.filterMap (·.checked?)

theorem PassReport.checks_events (p : PassReport) (total : Nat) :
    checks (p.events total) = p.tested.map (·.file) := by
  have hcommit : (Journal.commitEvents p.committed).filterMap (·.checked?) = [] := by
    rw [Journal.commitEvents]
    split <;> rfl
  rw [checks, events, List.filterMap_append, hcommit, List.append_nil, testingEvents,
    List.filterMap_cons_none rfl, Journal.filterMap_sessionEvents rfl rfl,
    Journal.filterMap_testEvents fun _ _ => rfl]
  exact congrFun List.filterMap_eq_map p.tested

/-- **The tally of a run**: the tests reported are all the checks made, a committed
file was last tested without errors, and the failures give for each file that is
not committed what its last failing test found. -/
structure Tallied (m : Migration) (j : Journal σ) : Prop where
  checks_eq : checks j.trace = m.tests.map (·.file)
  nodup : (m.failures.map (·.1)).Nodup
  clean {f : String} : f ∈ m.committed → lastCount m.tests f = some 0
  mem_failures {f : String} {n : Nat} :
    (f, n) ∈ m.failures ↔ f ∉ m.committed ∧ lastCount (failing m.tests) f = some n

namespace Tallied

/-- A pass keeps the tally when it tests no committed file. -/
theorem addPass (h : Tallied m before) (hp : p.AccountsFor env before after)
    (hold : ∀ o ∈ p.tested, o.file ∉ m.committed) : Tallied (m.addPass p) after := by
  have hcommitted : (m.addPass p).committed = m.committed ++ p.committed := rfl
  have hfailures : ∀ {f n}, (f, n) ∈ p.failures ↔ lastCount (failing p.tested) f = some n := by
    intro f n
    rw [PassReport.mem_failures, failing,
      lastCount_eq_some_iff (hp.nodup_tested.sublist (List.filter_sublist.map _)), List.mem_filter]
    simp [Outcome.passed, Nat.pos_iff_ne_zero]
  have hkeys : ∀ {f}, f ∉ p.failures.map (·.1) ↔ lastCount (failing p.tested) f = none := by
    intro f
    simp [lastCount_eq_none_iff, PassReport.failures, failuresOf, failing]
  refine ⟨?_, Migration.nodup_failures_addPass h.nodup
    (PassReport.nodup_failures hp.nodup_tested), ?_, ?_⟩
  · obtain ⟨total, hcont⟩ := hp.continues
    rw [hcont.trace, checks, List.filterMap_append, ← checks, ← checks, h.checks_eq,
      p.checks_events, m.tests_addPass, List.map_append]
  · intro f hf
    rw [m.tests_addPass, lastCount_append]
    rcases List.mem_append.mp hf with hf | hf
    · -- what was committed before is not tested again
      have hnot : lastCount p.tested f = none := by
        rw [lastCount_eq_none_iff, List.mem_map]
        rintro ⟨o, ho, rfl⟩
        exact hold o ho hf
      rw [hnot, Option.none_or, h.clean hf]
    · rw [(lastCount_eq_some_iff hp.nodup_tested).mpr (hp.clean f hf), Option.some_or]
  · intro f n
    rw [Migration.mem_failures_addPass, hkeys, hfailures, h.mem_failures, m.tests_addPass,
      failing_append, lastCount_append, hcommitted, List.mem_append, not_or]
    -- either the pass has found errors in the file, or what was found before counts
    rcases hfound : lastCount (failing p.tested) f with _ | k
    · simp [and_right_comm]
    · obtain ⟨hmem, hfails⟩ := List.mem_filter.mp (mem_of_lastCount hfound)
      have hp' : f ∉ p.committed := by
        intro hf
        cases List.inj_on_of_nodup_map hp.nodup_tested hmem (hp.clean f hf) rfl
        simp [Outcome.passed] at hfails
      simp [hold _ hmem, hp']

/-- What the failures are, by the last test of each file. -/
theorem mem_failures_iff (h : Tallied m j) :
    (f, n) ∈ m.failures ↔
      lastCount m.tests f = some n ∧ 0 < n ∨
        lastCount m.tests f = some 0 ∧ f ∉ m.committed ∧
          lastCount (failing m.tests) f = some n := by
  rw [h.mem_failures]
  constructor
  · rintro ⟨hnot, hfailing⟩
    -- a file that has failed was tested, so there is a last test of it
    obtain ⟨htest, -⟩ := List.mem_filter.mp (mem_of_lastCount hfailing)
    obtain ⟨k, hlast⟩ := exists_lastCount (List.mem_map_of_mem htest)
    rcases Nat.eq_zero_or_pos k with rfl | hpos
    · exact Or.inr ⟨hlast, hnot, hfailing⟩
    · obtain rfl : n = k := Option.some.inj (hfailing.symm.trans (lastCount_failing hlast hpos))
      exact Or.inl ⟨hlast, hpos⟩
  · rintro (⟨hlast, hpos⟩ | ⟨-, hnot, hfailing⟩)
    · refine ⟨fun hf => ?_, lastCount_failing hlast hpos⟩
      cases hlast.symm.trans (h.clean hf)
      exact Nat.lt_irrefl 0 hpos
    · exact ⟨hnot, hfailing⟩

end Tallied

/-! ## Runs -/

/-- A completed pass of a run keeps the tally. -/
theorem Tallied.keep (h : Tallied m j) (hreached : env.Reached maxPasses start m j)
    (hpoll : env.pollStop j = (false, before))
    (hpass : before.pass env (m.passes.length + 1) = (.ok p, after)) :
    Tallied (m.addPass p) after := by
  obtain ⟨files, w, -, hunderway⟩ := hreached.underway
  obtain ⟨haccounts, -⟩ := Journal.accountsFor_of_pass hpass
  obtain rfl : (env.pollStop j).2 = before := congrArg Prod.snd hpoll
  have hbefore : Tallied m (env.pollStop j).2 := ⟨h.checks_eq, h.nodup, h.clean, h.mem_failures⟩
  -- a committed file is checked, and checked files are not tested
  exact hbefore.addPass haccounts fun o ho hcommitted =>
    haccounts.unchecked o ho (hunderway.ledger.mem_checked_iff.mpr (Or.inr hcommitted))

/-- The failures are tallied wherever a run gets. -/
theorem Environment.Reached.tallied (h : env.Reached maxPasses start m j) : Tallied m j := by
  refine (h.induction (P := fun m j => env.Reached maxPasses start m j ∧ Tallied m j) ?_ ?_).2
  · intro files w hl
    refine ⟨reached_of_load hl, rfl, .nil, by simp, ?_⟩
    simp [failing, Migration.tests, lastCount]
  · rintro m j m' j' ⟨hreached, h⟩ hround
    obtain ⟨j₁, report, hpoll, -, hpass, rfl, -⟩ := round_going hround
    exact ⟨hreached.next hround, h.keep hreached hpoll hpass⟩

/-- **Which files a run reports as failing.** When a run finishes, its tests are
all the checks it made, in order, and each test reports what the checker replied
in its pass. Each file has one number of errors at most. It is what the last test
of the file found, if that was not nothing. If it was nothing, the file still
counts as failing when it is not committed and an earlier test of it found
errors: then the number is that of the last test that did. -/
theorem run_failures_iff (h : env.run maxPasses budget start = (.finished result, j)) :
    checks j.trace = result.tests.map (·.file) ∧
      (∀ q ∈ result.passes, ∃ before after total,
        env.CompletesPass maxPasses start before q after ∧
        before.Continues env (q.events total) (q.tested.map (·.reply)) after) ∧
      (result.failures.map (·.1)).Nodup ∧
      ∀ f n, (f, n) ∈ result.failures ↔
        lastCount result.tests f = some n ∧ 0 < n ∨
          lastCount result.tests f = some 0 ∧ f ∉ result.committed ∧
            lastCount (failing result.tests) f = some n := by
  obtain ⟨files, w, -, -, hkept⟩ := Environment.run_finished_kept h
  have htallied : Tallied result j := by
    obtain ⟨m, j₀, j₁, hreached, ⟨stopped, hpoll, rfl, rfl⟩ |
      ⟨report, j₂, hpoll, -, hpass, -, rfl, rfl⟩⟩ := Environment.run_finished_cases h
    · cases hpoll
      have h := hreached.tallied
      exact ⟨h.checks_eq, h.nodup, h.clean, h.mem_failures⟩
    · have h := hreached.tallied.keep hreached hpoll hpass
      exact ⟨h.checks_eq, h.nodup, h.clean, h.mem_failures⟩
  refine ⟨htallied.checks_eq, fun q hq => ?_, htallied.nodup, fun f n => htallied.mem_failures_iff⟩
  obtain ⟨k, hk⟩ := List.getElem?_of_mem hq
  obtain ⟨before, after, soFar, total, hcompletes, hcont, -⟩ := hkept.continues hk
  exact ⟨before, after, total, hcompletes, hcont⟩

/-- A checker that finds an error in `b` at first, and two in `a` later. -/
def trading : Environment Nat :=
  .counting ringAndSingle [] fun file count =>
    if file = "b" ∧ count < 3 then 1 else if file = "a" ∧ 3 ≤ count then 2 else 0

/-- The ring is tested twice, and a different file of it fails each time. -/
theorem trading_run :
    (trading.run none 9 0).1 = .finished
      { passes := [{ number := 1, eligibleComponents := 2,
                     tested := [⟨"a", 0⟩, ⟨"b", 1⟩, ⟨"c", 0⟩], committed := ["c"] },
                   { number := 2, eligibleComponents := 1, tested := [⟨"a", 2⟩, ⟨"b", 0⟩] }],
        committed := ["c"], failures := [("b", 1), ("a", 2)] } := by
  cbv

/-- Left are the last counts above none, and old ones of files that have passed since but
were not committed. -/
theorem trading_failures :
    ∃ result j, trading.run none 9 0 = (.finished result, j) ∧
      ∀ f n, (f, n) ∈ result.failures ↔
        lastCount result.tests f = some n ∧ 0 < n ∨
          lastCount result.tests f = some 0 ∧ f ∉ result.committed ∧
            lastCount (failing result.tests) f = some n := by
  obtain ⟨-, -, -, hfailures⟩ := run_failures_iff (Prod.ext trading_run rfl)
  exact ⟨_, _, Prod.ext trading_run rfl, hfailures⟩

/-- **A failure may be out of date.** The last test of `b` found nothing, and
still it is reported with the one error found before. -/
theorem trading_keeps_old_failure :
    ∃ result j, trading.run none 9 0 = (.finished result, j) ∧
      ("b", 1) ∈ result.failures ∧ lastCount result.tests "b" = some 0 ∧
      ¬ ∀ f n, (f, n) ∈ result.failures ↔ lastCount result.tests f = some n ∧ 0 < n := by
  refine ⟨_, _, Prod.ext trading_run rfl, by decide, by decide, fun h => ?_⟩
  obtain ⟨hlast, -⟩ := (h "b" 1).mp (by decide)
  revert hlast
  decide

end Ratchet
