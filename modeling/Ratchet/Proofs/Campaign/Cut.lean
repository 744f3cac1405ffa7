import Ratchet.Proofs.Campaign.Fixpoint
import Ratchet.Proofs.Campaign.Ledger

/-!
# Runs that are cut short

A run is stopped between two passes only: by the cap on the passes, or by the
poll before the next one. What the run has done until then is what it would
have done anyway, so its result is a first part of the result of the run that
is not stopped. And where the imports and the answers of the checker do not
change, a new run from the files checked so far ends where the whole run would
have ended.

* `polledBy`: an environment in which a script answers the poll.
* `CutAfter`: the result of a run that is cut after so many passes.
* `run_cut`: the run that is stopped first after so many passes.
* `cut_and_resumed`: how every cut comes out, and that it can be made good.
-/

namespace Ratchet

open Ratchet.Graph (Component ImportMap)

variable {σ : Type} {env : Environment σ} {answers : Nat → Bool} {maxPasses : Option Nat}
  {budget k : Nat} {m m' whole : Migration} {j j' last : Journal (σ × Nat)} {start : σ}
  {imports : ImportMap} {errors : String → Nat} {files : List String} {f : String}

/-! ## Results -/

namespace Migration

/-- Add some passes, one after the other. -/
def addPasses (m : Migration) (passes : List PassReport) : Migration :=
  passes.foldl addPass m

/-- **A result that is cut after so many passes of another**: its passes are the
first ones of the other, its commits and its failures are those of these passes,
and it counts as cancelled when the other has more of them. -/
structure CutAfter (whole : Migration) (k : Nat) (cut : Migration) : Prop where
  passes : cut.passes = whole.passes.take k
  committed : cut.committed = (cut.passes.map (·.committed)).flatten
  failures : cut.failures = (({} : Migration).addPasses cut.passes).failures
  cancelled : cut.cancelled = decide (k < whole.passes.length)

theorem addPasses_cons (m : Migration) (p : PassReport) (ps : List PassReport) :
    m.addPasses (p :: ps) = (m.addPass p).addPasses ps :=
  rfl

/-- Passes are reported in the order in which they are added. -/
theorem passes_addPasses (m : Migration) (ps : List PassReport) :
    (m.addPasses ps).passes = m.passes ++ ps := by
  induction ps generalizing m with
  | nil => exact (List.append_nil _).symm
  | cons p ps ih =>
    rw [addPasses_cons, ih, addPass, List.append_assoc]
    rfl

/-- What is committed is what the passes commit, in their order. -/
theorem committed_addPasses (m : Migration) (ps : List PassReport) :
    (m.addPasses ps).committed = m.committed ++ (ps.map (·.committed)).flatten := by
  induction ps generalizing m with
  | nil => exact (List.append_nil _).symm
  | cons p ps ih =>
    rw [addPasses_cons, ih, addPass, List.append_assoc]
    rfl

/-- Stopping after some of the passes gives a cut. -/
theorem cutAfter_addPasses (ps : List PassReport) (k : Nat) :
    (({} : Migration).addPasses ps).CutAfter k
      { ({} : Migration).addPasses (ps.take k) with cancelled := decide (k < ps.length) } := by
  have hall : ∀ qs, (({} : Migration).addPasses qs).passes = qs := fun qs =>
    passes_addPasses {} qs
  refine ⟨?_, ?_, ?_, ?_⟩
  · simp only [hall]
  · simp only [hall, committed_addPasses]
    rfl
  · simp only [hall]
  · simp only [hall]

end Migration

/-! ## The poll -/

namespace Journal

/-- Checking files does not ask whether to stop. -/
theorem checkFiles_poll (env : Environment σ) (poll : σ → Bool × σ) (number total : Nat)
    (before outcomes : List Outcome) (files : List String) (j : Journal σ) :
    j.checkFiles { env with poll } number total before outcomes files =
      j.checkFiles env number total before outcomes files := by
  induction files generalizing outcomes j with
  | nil => rfl
  | cons file files ih =>
    unfold checkFiles
    simp only [ih]
    rfl

/-- Checking components does not ask whether to stop. -/
theorem checkComponents_poll (env : Environment σ) (poll : σ → Bool × σ) (number total : Nat)
    (found : Findings) (components : List Component) (j : Journal σ) :
    j.checkComponents { env with poll } number total found components =
      j.checkComponents env number total found components := by
  induction components generalizing found j with
  | nil => rfl
  | cons c components ih =>
    unfold checkComponents
    simp only [ih, checkFiles_poll]

/-- **A pass does not poll.** -/
theorem pass_poll (env : Environment σ) (poll : σ → Bool × σ) (number : Nat) (j : Journal σ) :
    j.pass { env with poll } number = j.pass env number := by
  simp only [pass, session, checkComponents_poll]
  rfl

end Journal

namespace Environment

/-- **A scripted poll.** The polls are counted from one, and the script tells
which of them stop the run. Everything else is as in the given environment. -/
def polledBy (env : Environment σ) (answers : Nat → Bool) : Environment (σ × Nat) where
  start w := (env.start w.1, w.2)
  check file w := ((env.check file w.1).1, (env.check file w.1).2, w.2)
  stop w := (env.stop w.1, w.2)
  load w := ((env.load w.1).1, (env.load w.1).2, w.2)
  scan w := ((env.scan w.1).1, (env.scan w.1).2, w.2)
  commit files w := ((env.commit files w.1).1, (env.commit files w.1).2, w.2)
  poll w := (answers (w.2 + 1), w.1, w.2 + 1)

/-- The script of a run that is never stopped. -/
def never : Nat → Bool := fun _ => false

/-- The first poll that stops the run is a given one. -/
structure IsFirstStop (answers : Nat → Bool) (k : Nat) : Prop where
  pos : 0 < k
  stops : answers k = true
  before (i : Nat) : 0 < i → i < k → answers i = false

/-- A pass does not depend on when to stop. -/
theorem pass_polledBy (env : Environment σ) (answers answers' : Nat → Bool) (n : Nat)
    (j : Journal (σ × Nat)) : j.pass (env.polledBy answers) n = j.pass (env.polledBy answers') n :=
  Journal.pass_poll (env.polledBy answers') (env.polledBy answers).poll n j

/-- Only the poll counts the polls. -/
theorem performAll_polledBy_snd (env : Environment σ) (answers : Nat → Bool) (w : σ × Nat)
    (events : List Event) : ((env.polledBy answers).performAll w events).2 = w.2 := by
  induction events generalizing w with
  | nil => rfl
  | cons e events ih =>
    have hone : ((env.polledBy answers).perform w e).2 = w.2 := by cases e <;> rfl
    exact (ih _).trans hone

/-- A pass does not ask whether to stop. -/
theorem pass_polledBy_snd {n : Nat} {report : PassReport}
    (h : j.pass (env.polledBy answers) n = (.ok report, j')) : j'.world.2 = j.world.2 := by
  obtain ⟨haccounts, -⟩ := Journal.accountsFor_of_pass h
  obtain ⟨total, hcont⟩ := haccounts.continues
  rw [hcont.world, performAll_polledBy_snd]

/-- Whether a run is stopped when it has made so many passes. -/
def stopsAfter (answers : Nat → Bool) (maxPasses : Option Nat) (n : Nat) : Bool :=
  answers (n + 1) || maxPasses.any (· ≤ n)

/-- A round that is stopped. -/
theorem round_polledBy_stops (hcount : j.world.2 = m.passes.length)
    (h : stopsAfter answers maxPasses m.passes.length = true) :
    ∃ j', (env.polledBy answers).round maxPasses m j =
      .ended (.finished { m with cancelled := true }) j' := by
  have hstop : (answers (j.world.2 + 1) || maxPasses.any (· ≤ m.passes.length)) = true := by
    rwa [hcount]
  exact ⟨_, if_pos hstop⟩

/-- A round that is not stopped is the round of a run that never is. -/
theorem round_polledBy_goes (hcount : j.world.2 = m.passes.length)
    (h : stopsAfter answers maxPasses m.passes.length = false) :
    (env.polledBy answers).round maxPasses m j = (env.polledBy never).round none m j := by
  have hstop : ¬ (answers (j.world.2 + 1) || maxPasses.any (· ≤ m.passes.length)) = true := by
    rw [hcount]
    exact Bool.eq_false_iff.mp h
  have hleft : (env.polledBy answers).round maxPasses m j = _ := if_neg hstop
  rw [hleft, env.pass_polledBy answers never]
  rfl

/-- The rounds of a run that is never stopped add passes until one commits
nothing. -/
theorem rounds_never
    (h : (env.polledBy never).rounds none budget m j = (.finished whole, last)) :
    ∃ ps, ps ≠ [] ∧ whole = m.addPasses ps := by
  induction budget generalizing m j with
  | zero => cases h
  | succ budget ih =>
    rw [rounds] at h
    obtain ⟨stopped, j₁, hpoll, ⟨hstop, -⟩ | ⟨-, ⟨cause, j₂, -, hr⟩ |
      ⟨report, j₂, -, ⟨-, hr⟩ | ⟨-, hr⟩⟩⟩⟩ := (env.polledBy never).round_cases none m j
    · cases hpoll
      simp [never] at hstop
    · rw [hr] at h
      cases h
    · rw [hr] at h
      cases h
      exact ⟨[report], by simp, rfl⟩
    · rw [hr] at h
      obtain ⟨ps, -, rfl⟩ := ih h
      exact ⟨report :: ps, by simp, rfl⟩

/-- **The rounds of a run that is stopped** first after `k` further passes, beside
those of the run that is never stopped. -/
theorem rounds_cut (hcount : j.world.2 = m.passes.length) (hrunning : m.cancelled = false)
    (hgoes : ∀ i < k, stopsAfter answers maxPasses (m.passes.length + i) = false)
    (hstops : stopsAfter answers maxPasses (m.passes.length + k) = true)
    (h : (env.polledBy never).rounds none budget m j = (.finished whole, last)) :
    ∃ ps, whole = m.addPasses ps ∧ ∃ j', (env.polledBy answers).rounds maxPasses budget m j =
      (.finished { m.addPasses (ps.take k) with cancelled := decide (k < ps.length) }, j') := by
  induction budget generalizing m j k with
  | zero => cases h
  | succ budget ih =>
    rcases k with - | k
    · -- the run is stopped at once, and the other one makes at least one more pass
      obtain ⟨ps, hps, rfl⟩ := rounds_never h
      obtain ⟨j', hround⟩ := env.round_polledBy_stops hcount hstops
      refine ⟨ps, rfl, j', ?_⟩
      have hmore : decide (0 < ps.length) = true := decide_eq_true (List.length_pos_iff.mpr hps)
      rw [rounds, hround, hmore]
      rfl
    · have hsame := env.round_polledBy_goes hcount (hgoes 0 (Nat.succ_pos k))
      rw [rounds] at h ⊢
      rw [hsame]
      obtain ⟨stopped, j₁, hpoll, ⟨hstop, -⟩ | ⟨-, ⟨cause, j₂, -, hr⟩ |
        ⟨report, j₂, hpass, ⟨-, hr⟩ | ⟨-, hr⟩⟩⟩⟩ := (env.polledBy never).round_cases none m j
      · cases hpoll
        simp [never] at hstop
      · rw [hr] at h
        cases h
      · rw [hr] at h ⊢
        cases h
        refine ⟨[report], rfl, { j₂ with phase := .done }, ?_⟩
        have hlast : decide (k + 1 < [report].length) = m.cancelled := by simp [hrunning]
        rw [hlast]
        simp only [List.take_succ_cons, List.take_nil]
        rfl
      · rw [hr] at h ⊢
        have hlen := m.length_addPass report
        have hpolled : j₁.world.2 = j.world.2 + 1 := by
          cases hpoll
          rfl
        have hcount' : j₂.world.2 = (m.addPass report).passes.length := by
          rw [pass_polledBy_snd hpass, hpolled, hcount, hlen]
        obtain ⟨ps, rfl, j', hrounds⟩ := ih hcount' hrunning
          (fun i hi => by
            have hnext := hgoes (i + 1) (Nat.succ_lt_succ hi)
            rwa [hlen, Nat.add_assoc, Nat.add_comm 1 i])
          (by rwa [hlen, Nat.add_assoc, Nat.add_comm 1 k]) h
        refine ⟨report :: ps, rfl, j', ?_⟩
        simpa only [List.length_cons, Nat.add_lt_add_iff_right, List.take_succ_cons,
          Migration.addPasses_cons] using hrounds

/-- **A run that is stopped first after `k` passes** does what the run does that
is never stopped, up to there. -/
theorem run_cut (hgoes : ∀ i < k, stopsAfter answers maxPasses i = false)
    (hstops : stopsAfter answers maxPasses k = true)
    (h : (env.polledBy never).run none budget (start, 0) = (.finished whole, last)) :
    ∃ cut j, (env.polledBy answers).run maxPasses budget (start, 0) = (.finished cut, j) ∧
      whole.CutAfter k cut := by
  unfold run at h ⊢
  have hload : (env.polledBy answers).load (start, 0) = (env.polledBy never).load (start, 0) := rfl
  rw [hload]
  rcases hl : (env.polledBy never).load (start, 0) with ⟨answer, w⟩
  have hcount : w.2 = 0 := (congrArg (fun r => r.2.2) hl).symm
  rw [hl] at h
  cases answer with
  | error cause => cases h
  | ok files =>
    obtain ⟨ps, rfl, j, hrounds⟩ := rounds_cut (m := {}) hcount rfl (by simpa using hgoes)
      (by simpa using hstops) h
    exact ⟨_, j, hrounds, Migration.cutAfter_addPasses ps k⟩

end Environment

/-! ## Steady runs -/

section Steady

variable {env' : Environment σ} {w : σ} {before mid after : Journal σ} {report : PassReport}
  {result : Migration} {n : Nat} {stopped : Bool}

namespace Sound

/-- A campaign is sound when it has loaded its files. -/
theorem of_load (imports : ImportMap) (errors : String → Nat) (files : List String) (w : σ) :
    Sound imports errors files {} ({ world := w, checked := .ofList files } : Journal σ) where
  running := rfl
  sub f hf := CheckedSet.mem_ofList.mpr hf
  clears f hf := Or.inl (CheckedSet.mem_ofList.mp hf)
  failures := by simp

/-- Soundness is about the checked files, whatever else is done. -/
theorem congr (h : Sound imports errors files m before)
    (hchecked : after.checked = before.checked) :
    Sound imports errors files m after where
  running := h.running
  sub := hchecked ▸ h.sub
  clears := hchecked ▸ h.clears
  failures := hchecked ▸ h.failures

end Sound

namespace Environment

section

variable (hsame : ∀ n (j : Journal σ), j.pass env' n = j.pass env n)
  (h : env.Steady imports errors)

include hsame h

/-- A pass that is made as in a steady environment keeps a campaign sound,
whoever answers the poll before it. -/
theorem Steady.sound_pass (hs : Sound imports errors files m before)
    (hpoll : env'.pollStop before = (stopped, mid))
    (hpass : mid.pass env' n = (.ok report, after)) :
    Sound imports errors files (m.addPass report) after := by
  have hkeep : mid.checked = before.checked := by
    rw [← env'.checked_pollStop before, hpoll]
  rw [hsame] at hpass
  obtain ⟨hdescribes, hchecked⟩ := Journal.pass_condense hpass (h.scan _)
  rw [hkeep] at hdescribes hchecked
  exact hs.addPass h hdescribes hchecked

/-- Whatever a steady campaign reaches is sound. -/
theorem Steady.sound_of_reached (hload : env'.load start = (.ok files, w))
    (hreached : env'.Reached maxPasses start m before) :
    Sound imports errors files m before := by
  refine hreached.induction (P := fun m j => Sound imports errors files m j) ?_ ?_
  · intro loaded w' hl
    cases hload.symm.trans hl
    exact .of_load imports errors files w
  · intro m j m' j' hs hround
    obtain ⟨j₁, report, hpoll, -, hpass, rfl, -⟩ := round_going hround
    exact h.sound_pass hsame hs hpoll hpass

/-- **A run that is stopped leaves a sound campaign behind.** -/
theorem Steady.sound_of_finished (hload : env'.load start = (.ok files, w))
    (hrun : env'.run maxPasses budget start = (.finished result, after)) :
    ∃ m, Sound imports errors files m after := by
  obtain ⟨m, j, j₁, hreached, hends⟩ := run_finished_cases hrun
  have hs : Sound imports errors files m j := h.sound_of_reached hsame hload hreached
  rcases hends with ⟨stopped, hpoll, -, rfl⟩ | ⟨report, j₂, hpoll, -, hpass, -, -, rfl⟩
  · cases hpoll
    exact ⟨m, hs.congr rfl⟩
  · exact ⟨m.addPass report, (h.sound_pass hsame hs hpoll hpass).congr rfl⟩

end

/-- A script that never stops a run leaves an environment steady. -/
theorem Steady.polledBy_never (h : env.Steady imports errors) :
    (env.polledBy never).Steady imports errors :=
  ⟨fun w => h.scan w.1, fun file w => h.check file w.1, fun files w => h.records files w.1,
    fun _ => rfl⟩

/-- A steady run that nothing stops finishes. -/
theorem Steady.finishes (h : env.Steady imports errors) (hload : env.load start = (.ok files, w)) :
    ∃ result last enough, ∀ budget, enough < budget →
      env.run none budget start = (.finished result, last) := by
  obtain ⟨m, j, report, last, -, -, -, -, hrounds⟩ :=
    h.undisturbed.rounds_finish (P := fun _ _ => True) (fun _ _ _ => trivial)
      (m := {}) (j := { world := w, checked := .ofList files }) trivial
  refine ⟨m.addPass report, last,
    (openComponents imports.condense (CheckedSet.ofList files).files).length, fun budget hb => ?_⟩
  rw [run, hload]
  exact hrounds budget hb

/-- **Where a steady run ends**: at the loaded files and those that clear. -/
theorem Steady.mem_checked_of_finished (h : env.Steady imports errors)
    (hload : env.load start = (.ok files, w))
    (hrun : env.run none budget start = (.finished result, after)) :
    result.cancelled = false ∧
      ∀ f, f ∈ after.checked.files ↔ f ∈ files ∨ imports.Clears files errors f := by
  have hrounds : env.rounds none budget {} { world := w, checked := .ofList files } =
      (.finished result, after) := by
    rw [run, hload] at hrun
    exact hrun
  obtain ⟨m, j, hreached, hround⟩ := (reached_of_load hload).exists_last_round hrounds (by simp)
  have hs : Sound imports errors files m j := h.sound_of_reached (fun _ _ => rfl) hload hreached
  obtain ⟨report, last, -, hd, hchecked, ⟨-, hgoing⟩ | ⟨hnone, hended⟩⟩ :=
    h.undisturbed.round m j
  · rw [hgoing] at hround
    cases hround
  · rw [hended] at hround
    cases hround
    -- the last pass commits nothing, so it leaves no file that clears
    have hsame : ∀ f, f ∈ after.checked.files ↔ f ∈ j.checked.files := by
      simpa [hnone] using hchecked
    refine ⟨hs.running, fun f => ?_⟩
    rw [hsame]
    refine ⟨hs.clears f, ?_⟩
    rintro (hf | hf)
    · exact hs.sub f hf
    · exact hs.mem_of_clears h hd hnone hf

end Environment

end Steady

/-! ## Cuts -/

open Environment (never IsFirstStop)

/-- **A run can be cut at any pass, and resumed.** Let a run finish that nothing
stops. Then with a cap on the passes, or with a poll that stops the run, it
finishes as well, after the passes that come before the cut. It has made the
first ones of the passes of the whole run, its commits are theirs, and it
counts as cancelled exactly when there would have been more. When the imports
and the answers of the checker do not change, a new run from the files that any
such run has left checked, in any such environment, ends by itself, with the
same files checked as the whole run. -/
theorem cut_and_resumed
    (h : (env.polledBy never).run none budget (start, 0) = (.finished whole, last)) :
    (∀ cap, ∃ cut j, (env.polledBy never).run (some cap) budget (start, 0) = (.finished cut, j) ∧
      whole.CutAfter cap cut) ∧
    (∀ answers k, IsFirstStop answers k →
      ∃ cut j, (env.polledBy answers).run none budget (start, 0) = (.finished cut, j) ∧
        whole.CutAfter (k - 1) cut ∧ cut.cancelled = decide (k ≤ whole.passes.length)) ∧
    (∀ imports errors, (env.polledBy never).Steady imports errors →
      ∀ answers maxPasses spent cut j,
        (env.polledBy answers).run maxPasses spent (start, 0) = (.finished cut, j) →
      ∀ (τ : Type) (env' : Environment τ) start' files w, env'.Steady imports errors →
        env'.load start' = (.ok files, w) → (∀ f, f ∈ files ↔ f ∈ j.checked.files) →
        ∃ result end' enough,
          (∀ more, enough < more → env'.run none more start' = (.finished result, end')) ∧
          result.cancelled = false ∧
          ∀ f, f ∈ end'.checked.files ↔ f ∈ last.checked.files) := by
  refine ⟨fun cap => ?_, fun answers k hk => ?_, ?_⟩
  · exact Environment.run_cut (fun i hi => by simpa [Environment.stopsAfter, never] using hi)
      (by simp [Environment.stopsAfter]) h
  · -- after so many passes the next poll is the one that stops
    have hpos := hk.pos
    have hnext : k - 1 + 1 = k := Nat.succ_pred_eq_of_pos hpos
    have hgoes : ∀ i < k - 1, Environment.stopsAfter answers none i = false := fun i hi => by
      have hbefore := hk.before (i + 1) (Nat.succ_pos i) (by omega)
      simpa [Environment.stopsAfter] using hbefore
    have hstops : Environment.stopsAfter answers none (k - 1) = true := by
      simpa [Environment.stopsAfter, hnext] using hk.stops
    obtain ⟨cut, j, hrun, hcut⟩ := Environment.run_cut hgoes hstops h
    refine ⟨cut, j, hrun, hcut, ?_⟩
    rw [hcut.cancelled, decide_eq_decide]
    omega
  · intro imports errors hsteady answers maxPasses spent cut j hcut τ env' start' files' w' hsteady'
      hload' hfiles'
    obtain ⟨files, w, hload, -, -⟩ := Environment.run_finished_kept h
    have hwhole := (hsteady.mem_checked_of_finished hload h).2
    obtain ⟨m, hs⟩ := hsteady.sound_of_finished
      (fun n j => env.pass_polledBy answers never n j) hload hcut
    obtain ⟨result, end', enough, hrun⟩ := hsteady'.finishes hload'
    obtain ⟨hrunning, hend⟩ :=
      hsteady'.mem_checked_of_finished hload' (hrun (enough + 1) (Nat.lt_succ_self enough))
    refine ⟨result, end', enough, hrun, hrunning, fun f => ?_⟩
    rw [hend, hwhole]
    -- what is left to clear after the cut is what was to clear at the start, less what was checked
    exact ImportMap.Clears.mem_or_resumed (fun f hf => (hfiles' f).mpr (hs.sub f hf))
      fun f hf => hs.clears f ((hfiles' f).mp hf)

/-- Three files, each of which imports the next. -/
def chainOfThree : ImportMap where
  rows := [("a", ["b"]), ("b", ["c"]), ("c", [])]

/-- A campaign on clean files that import each other in a chain. -/
def chainCampaign (files : List String) : Environment Nat :=
  .counting chainOfThree files fun _ _ => 0

theorem steady_chainCampaign (files : List String) :
    (chainCampaign files).Steady chainOfThree fun _ => 0 :=
  Environment.steady_counting chainOfThree files fun _ => 0

/-- The chain is checked from its end in four passes. A cap of two leaves the
first file out, and the fifth poll comes too late to cancel anything. When the
second poll stops the run, only the last file is checked, and a new run from
there checks the others. -/
theorem chain_cut_and_resumed :
    ∃ whole last, ((chainCampaign []).polledBy never).run none 9 (0, 0) = (.finished whole, last) ∧
      whole.committed = ["c", "b", "a"] ∧
      (∃ cut j, ((chainCampaign []).polledBy never).run (some 2) 9 (0, 0) = (.finished cut, j) ∧
        cut.committed = ["c", "b"] ∧ cut.cancelled = true) ∧
      (IsFirstStop (· == 5) 5 ∧ ∃ cut j,
        ((chainCampaign []).polledBy (· == 5)).run none 9 (0, 0) = (.finished cut, j) ∧
          cut.committed = ["c", "b", "a"] ∧ cut.cancelled = false) ∧
      ((chainCampaign []).polledBy never).Steady chainOfThree (fun _ => 0) ∧
      (∃ cut j, ((chainCampaign []).polledBy (· == 2)).run none 9 (0, 0) = (.finished cut, j) ∧
        (chainCampaign ["c"]).Steady chainOfThree (fun _ => 0) ∧
        (chainCampaign ["c"]).load 0 = (.ok ["c"], 0) ∧ (∀ f, f ∈ ["c"] ↔ f ∈ j.checked.files) ∧
        ∃ result end' enough,
          (∀ more, enough < more →
            (chainCampaign ["c"]).run none more 0 = (.finished result, end')) ∧
          ∀ f, f ∈ end'.checked.files ↔ f ∈ last.checked.files) := by
  let passes : List PassReport :=
    [{ number := 1, eligibleComponents := 1, tested := [⟨"c", 0⟩], committed := ["c"] },
     { number := 2, eligibleComponents := 1, tested := [⟨"b", 0⟩], committed := ["b"] },
     { number := 3, eligibleComponents := 1, tested := [⟨"a", 0⟩], committed := ["a"] },
     { number := 4 }]
  have hrun : (((chainCampaign []).polledBy never).run none 9 (0, 0)).1 =
      .finished { passes, committed := ["c", "b", "a"] } := by
    cbv
  obtain ⟨hcaps, hpolls, hresumed⟩ := cut_and_resumed (Prod.ext hrun rfl)
  have hfirst : IsFirstStop (· == 5) 5 := ⟨by decide, rfl, fun i _ hi => by simpa using hi.ne⟩
  have hsteady := (steady_chainCampaign []).polledBy_never
  refine ⟨_, _, Prod.ext hrun rfl, rfl, ?_, ⟨hfirst, ?_⟩, hsteady, ?_⟩
  · obtain ⟨cut, j, hcut, hafter⟩ := hcaps 2
    exact ⟨cut, j, hcut, by rw [hafter.committed, hafter.passes]; rfl, hafter.cancelled⟩
  · obtain ⟨cut, j, hcut, hafter, -⟩ := hpolls _ 5 hfirst
    exact ⟨cut, j, hcut, by rw [hafter.committed, hafter.passes]; rfl, hafter.cancelled⟩
  · have hcut : (((chainCampaign []).polledBy (· == 2)).run none 9 (0, 0)).1 =
        .finished { passes := passes.take 1, committed := ["c"], cancelled := true } := by
      cbv
    have hleft : (((chainCampaign []).polledBy (· == 2)).run none 9 (0, 0)).2.checked.files =
        ["c"] := by
      cbv
    have hfiles : ∀ f, f ∈ ["c"] ↔
        f ∈ (((chainCampaign []).polledBy (· == 2)).run none 9 (0, 0)).2.checked.files := by
      simp [hleft]
    obtain ⟨result, end', enough, hends, -, hmem⟩ :=
      hresumed chainOfThree _ hsteady (· == 2) none 9 _ _ (Prod.ext hcut rfl) Nat
        (chainCampaign ["c"]) 0 ["c"] 0 (steady_chainCampaign _) rfl hfiles
    exact ⟨_, _, Prod.ext hcut rfl, steady_chainCampaign _, rfl, hfiles, result, end', enough,
      hends, hmem⟩

end Ratchet
