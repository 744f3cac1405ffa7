import Mathlib.Data.List.Nodup
import Ratchet.Campaign

/-!
# What is done outside

A journal notes an event for each call to the outside. Played back, these events
lead to the state that is left behind, so that nothing is done outside but what
the trace tells, and the checker's replies can be read off it.

* `Continues`: one journal goes on from another by some events.
* `IsFault`, `Refusal`: the replies of the checker that end a run, and how.
* `Tested`: some files have been tested, one after the other.
* `session_cases`: what a session can come to, whatever its components are.
-/

namespace Ratchet

open Ratchet.Graph (Component testOrder)

variable {σ : Type} {env : Environment σ} {j j₁ j' : Journal σ} {number total : Nat}
  {before outcomes new : List Outcome} {events events' : List Event} {file f : String}
  {answers answers' : List (String × Except Failure Int)}

/-- The reply of the checker that an outcome reports. -/
def Outcome.reply (o : Outcome) : String × Except Failure Int :=
  (o.file, .ok (o.errors : Int))

/-- **A fault of the checker**: something broke, or the number of errors is
negative. -/
def IsFault : Except Failure Int → Prop
  | .error _ => True
  | .ok count => count < 0

theorem Outcome.not_isFault (o : Outcome) : ¬ IsFault o.reply.2 :=
  Int.not_lt.mpr (Int.natCast_nonneg o.errors)

/-! ## Playing back events -/

namespace Environment

/-- The state outside after the call that an event tells of. -/
def perform (env : Environment σ) (w : σ) : Event → σ
  | .scan => (env.scan w).2
  | .start => env.start w
  | .progress _ _ => w
  | .check file => (env.check file w).2
  | .stop => env.stop w
  | .commit files => (env.commit files w).2

/-- The state outside after some events. -/
def performAll (env : Environment σ) (w : σ) (events : List Event) : σ :=
  events.foldl env.perform w

/-- What the checker replies when an event is a check. -/
def reply (env : Environment σ) (w : σ) : Event → List (String × Except Failure Int)
  | .check file => [(file, (env.check file w).1)]
  | _ => []

/-- **What the checker replies** in the course of some events, with the files. -/
def replies (env : Environment σ) : σ → List Event → List (String × Except Failure Int)
  | _, [] => []
  | w, e :: events => env.reply w e ++ env.replies (env.perform w e) events

theorem performAll_append (env : Environment σ) (w : σ) (events events' : List Event) :
    env.performAll w (events ++ events') = env.performAll (env.performAll w events) events' :=
  List.foldl_append

/-- Replies come one after another. -/
theorem replies_append (env : Environment σ) (w : σ) (events events' : List Event) :
    env.replies w (events ++ events') =
      env.replies w events ++ env.replies (env.performAll w events) events' := by
  induction events generalizing w with
  | nil => rfl
  | cons e events ih =>
    rw [List.cons_append, replies, replies, ih, List.append_assoc]
    rfl

/-- Each reply is what the checker has given for the file, at some moment. -/
theorem exists_of_mem_replies {w : σ} {reply : Except Failure Int}
    (h : (file, reply) ∈ env.replies w events) : ∃ w', (env.check file w').1 = reply := by
  induction events generalizing w with
  | nil => cases h
  | cons e events ih =>
    rcases List.mem_append.mp h with h | h
    · cases e with
      | check checked =>
        cases List.mem_singleton.mp h
        exact ⟨w, rfl⟩
      | _ => cases h
    · exact ih h

end Environment

namespace Journal

/-- **One journal continues another** by some events, with some replies of the
checker: the trace goes on with the events, and the state outside is what comes
of them. -/
structure Continues (env : Environment σ) (j : Journal σ) (events : List Event)
    (answers : List (String × Except Failure Int)) (j' : Journal σ) : Prop where
  trace : j'.trace = j.trace ++ events
  world : j'.world = env.performAll j.world events
  replies : env.replies j.world events = answers

namespace Continues

theorem refl (env : Environment σ) (j : Journal σ) : j.Continues env [] [] j :=
  ⟨(List.append_nil _).symm, rfl, rfl⟩

/-- A continuation of a continuation is one. -/
theorem trans (h : j.Continues env events answers j₁)
    (h' : j₁.Continues env events' answers' j') :
    j.Continues env (events ++ events') (answers ++ answers') j' where
  trace := by rw [h'.trace, h.trace, List.append_assoc]
  world := by rw [h'.world, h.world, env.performAll_append]
  replies := by rw [env.replies_append, ← h.world, h.replies, h'.replies]

/-- The events are those that the trace has gained. -/
theorem events_eq (h : j.Continues env events answers j')
    (htrace : j'.trace = j.trace ++ events') : events = events' :=
  List.append_cancel_left (h.trace.symm.trans htrace)

theorem progress (env : Environment σ) (j : Journal σ) (done total : Nat) :
    j.Continues env [.progress done total] [] (j.note [.progress done total]) :=
  ⟨rfl, rfl, rfl⟩

end Continues

/-! ## Checking a file -/

/-- **The failure that a reply amounts to** which is no number of errors: it
names the pass and the file, unless something else than the checker broke. -/
inductive Refusal (number : Nat) (file : String) : Except Failure Int → Failure → Prop
  | checker (text : String) :
      Refusal number file (.error (.checker text))
        (.checker s!"Pass {number}: checking {file} failed: {text}")
  | other {cause : Failure} (h : ∀ text, cause ≠ .checker text) :
      Refusal number file (.error cause) cause
  | negative {count : Int} (h : count < 0) :
      Refusal number file (.ok count)
        (.checker s!"Pass {number}: checker reported a negative error count for {file}")

/-- A refusal is a fault. -/
theorem Refusal.isFault {reply : Except Failure Int} {cause : Failure}
    (h : Refusal number file reply cause) : IsFault reply := by
  cases h with
  | checker text => exact True.intro
  | other h => exact True.intro
  | negative h => exact h

/-- The one call of `checkOne` is told by one event. A number of errors is
reported as it is, and any other reply ends in a failure. -/
theorem checkOne_cases (env : Environment σ) (number : Nat) (file : String) (j : Journal σ) :
    ∃ reply j', j.Continues env [.check file] [(file, reply)] j' ∧ j'.checked = j.checked ∧
      ((∃ n : Nat, reply = .ok (n : Int) ∧ j.checkOne env number file = (.ok ⟨file, n⟩, j')) ∨
        ∃ cause, Refusal number file reply cause ∧
          j.checkOne env number file = (.error cause, j')) := by
  refine ⟨(env.check file j.world).1,
    { j with world := (env.check file j.world).2 }.note [.check file], ⟨rfl, rfl, rfl⟩, rfl, ?_⟩
  unfold checkOne
  rcases env.check file j.world with ⟨answer, w⟩
  cases answer with
  | error cause =>
    refine Or.inr ?_
    cases cause with
    | checker text => exact ⟨_, .checker text, rfl⟩
    | _ => exact ⟨_, .other (by simp), rfl⟩
  | ok count =>
    by_cases hcount : count < 0
    · exact Or.inr ⟨_, .negative hcount, by simp only [hcount, if_true]⟩
    · refine Or.inl ⟨count.toNat, ?_, by simp only [hcount, if_false]⟩
      rw [Int.toNat_of_nonneg (Int.not_lt.mp hcount)]

/-! ## Testing files -/

/-- The events of testing some files, when so many have been taken up before. -/
def testEvents (total : Nat) : Nat → List Outcome → List Event
  | _, [] => []
  | taken, o :: outcomes =>
    .progress (taken + 1) total :: .check o.file :: testEvents total (taken + 1) outcomes

theorem testEvents_append (total taken : Nat) (os new : List Outcome) :
    testEvents total taken (os ++ new) =
      testEvents total taken os ++ testEvents total (taken + os.length) new := by
  induction os generalizing taken with
  | nil => rfl
  | cons o os ih =>
    rw [List.cons_append, testEvents, testEvents, ih, List.length_cons, Nat.add_right_comm,
      Nat.add_assoc]
    rfl

/-- What is read off the events of testing some files is read off their checks. -/
theorem filterMap_testEvents {α : Type} {read : Event → Option α}
    (hprogress : ∀ done total, read (.progress done total) = none) (total taken : Nat)
    (outcomes : List Outcome) :
    (testEvents total taken outcomes).filterMap read =
      outcomes.filterMap fun o => read (.check o.file) := by
  induction outcomes generalizing taken with
  | nil => rfl
  | cons o outcomes ih =>
    rw [testEvents, List.filterMap_cons_none (hprogress _ _), List.filterMap_cons,
      List.filterMap_cons, ih]

/-- **Some files have been tested**, one after the other: each was unchecked and
had not been taken up before, and its outcome is the checker's reply. -/
structure Tested (env : Environment σ) (total : Nat) (before : List Outcome) (j : Journal σ)
    (outcomes : List Outcome) (j' : Journal σ) : Prop where
  continues : j.Continues env (testEvents total before.length outcomes)
    (outcomes.map (·.reply)) j'
  checked : j'.checked = j.checked
  unchecked : ∀ o ∈ outcomes, o.file ∉ j.checked.files
  nodup : (before.map (·.file)).Nodup → ((before ++ outcomes).map (·.file)).Nodup

namespace Tested

theorem nil (env : Environment σ) (total : Nat) (before : List Outcome) (j : Journal σ) :
    Tested env total before j [] j :=
  ⟨.refl env j, rfl, by simp, by simp⟩

/-- Tests of more files come after those of the first. -/
theorem append (h : Tested env total before j outcomes j₁)
    (h' : Tested env total (before ++ outcomes) j₁ new j') :
    Tested env total before j (outcomes ++ new) j' := by
  refine ⟨?_, h'.checked.trans h.checked, ?_, ?_⟩
  · rw [testEvents_append, ← List.length_append, List.map_append]
    exact h.continues.trans h'.continues
  · intro o ho
    rcases List.mem_append.mp ho with ho | ho
    · exact h.unchecked o ho
    · exact h.checked ▸ h'.unchecked o ho
  · intro hnodup
    rw [← List.append_assoc]
    exact h'.nodup (h.nodup hnodup)

/-- A file that is neither taken up before nor checked is tested when the checker
reports a number of errors. -/
theorem one {o : Outcome} (hnew : before.any (·.file == file) = false)
    (hunchecked : j.checked.contains file = false)
    (h : (j.note [.progress (before.length + 1) total]).checkOne env number file = (.ok o, j')) :
    Tested env total before j [o] j' := by
  obtain ⟨reply, j₁, hcont, hchecked, ⟨n, rfl, hone⟩ | ⟨cause, -, hone⟩⟩ :=
    checkOne_cases env number file (j.note [.progress (before.length + 1) total])
  · rw [hone] at h
    cases h
    refine ⟨(Continues.progress env j _ total).trans hcont, hchecked, ?_, ?_⟩
    · simpa [← CheckedSet.contains_iff] using hunchecked
    · intro hnodup
      rw [List.map_append, List.nodup_append]
      refine ⟨hnodup, by simp, ?_⟩
      simpa using hnew
  · rw [hone] at h
    cases h

end Tested

/-- **What becomes of the next file**: it is passed over, the checker refuses it, or it
is tested. -/
theorem checkFiles_cons (env : Environment σ) (number total : Nat) (before outcomes : List Outcome)
    (file : String) (files : List String) (j : Journal σ) :
    ((before ++ outcomes).any (·.file == file) || j.checked.contains file) = true ∧
        j.checkFiles env number total before outcomes (file :: files) =
          j.checkFiles env number total before outcomes files ∨
      (before ++ outcomes).any (·.file == file) = false ∧ j.checked.contains file = false ∧
        ((∃ cause j', (j.note [.progress ((before ++ outcomes).length + 1) total]).checkOne env
              number file = (.error cause, j') ∧
            j.checkFiles env number total before outcomes (file :: files) = (.error cause, j')) ∨
          ∃ o j', (j.note [.progress ((before ++ outcomes).length + 1) total]).checkOne env
              number file = (.ok o, j') ∧
            Tested env total (before ++ outcomes) j [o] j' ∧
            j.checkFiles env number total before outcomes (file :: files) =
              j'.checkFiles env number total before (outcomes ++ [o]) files) := by
  rw [checkFiles]
  by_cases hskip : (before ++ outcomes).any (·.file == file) || j.checked.contains file
  · exact .inl ⟨hskip, if_pos hskip⟩
  · rw [if_neg hskip]
    rw [Bool.not_eq_true, Bool.or_eq_false_iff] at hskip
    refine .inr ⟨hskip.1, hskip.2, ?_⟩
    rcases hone : (j.note [.progress ((before ++ outcomes).length + 1) total]).checkOne env
      number file with ⟨answer, j'⟩
    cases answer with
    | error cause => exact .inl ⟨cause, j', rfl, rfl⟩
    | ok o => exact .inr ⟨o, j', rfl, .one hskip.1 hskip.2 hone, rfl⟩

/-- **What testing a component's files can come to**: all that need it are
tested, or the checker refuses one after some of them. -/
theorem checkFiles_cases (env : Environment σ) (number total : Nat) (before outcomes : List Outcome)
    (files : List String) (j : Journal σ) :
    ∃ new mid, Tested env total (before ++ outcomes) j new mid ∧
      (j.checkFiles env number total before outcomes files = (.ok (outcomes ++ new), mid) ∨
        ∃ file cause j',
          (mid.note [.progress ((before ++ outcomes ++ new).length + 1) total]).checkOne env number
            file = (.error cause, j') ∧
          j.checkFiles env number total before outcomes files = (.error cause, j')) := by
  -- the outcomes of the component grow along the files, so they are generalised
  induction files generalizing outcomes j with
  | nil => exact ⟨[], j, .nil .., Or.inl (by rw [List.append_nil]; rfl)⟩
  | cons file files ih =>
    obtain ⟨-, hstep⟩ | ⟨-, -, ⟨cause, j₁, hone, hstep⟩ | ⟨o, j₁, -, htested, hstep⟩⟩ :=
      checkFiles_cons env number total before outcomes file files j
    · rw [hstep]
      exact ih outcomes j
    · exact ⟨[], j, .nil .., Or.inr ⟨file, cause, j₁, by rwa [List.append_nil], hstep⟩⟩
    · obtain ⟨new, mid, hnew, hends⟩ := ih (outcomes ++ [o]) j₁
      rw [← List.append_assoc] at hnew hends
      rw [List.append_assoc outcomes, List.append_assoc (before ++ outcomes)] at hends
      rw [hstep]
      exact ⟨o :: new, mid, htested.append hnew, hends⟩

/-- The files that pass were tested without errors. -/
theorem mem_passing_of_addComponent {found : Findings}
    (hf : f ∈ (found.addComponent new).passing) : f ∈ found.passing ∨ ⟨f, 0⟩ ∈ new := by
  rcases List.mem_append.mp hf with hf | hf
  · exact Or.inl hf
  · split at hf
    · rename_i hclean
      obtain ⟨o, ho, rfl⟩ := List.mem_map.mp hf
      have hzero : o.errors = 0 := by
        simpa [Outcome.passed] using List.all_eq_true.mp hclean o ho
      exact Or.inr (by rwa [← hzero])
    · cases hf

/-- **What testing some components can come to.** -/
theorem checkComponents_cases (env : Environment σ) (number total : Nat) (found : Findings)
    (components : List Component) (j : Journal σ) :
    ∃ new mid, Tested env total found.tested j new mid ∧
      ((∃ found', j.checkComponents env number total found components = (.ok found', mid) ∧
          found'.tested = found.tested ++ new ∧
          ∀ f ∈ found'.passing, f ∈ found.passing ∨ ⟨f, 0⟩ ∈ new) ∨
        ∃ file cause j',
          (mid.note [.progress ((found.tested ++ new).length + 1) total]).checkOne env number
            file = (.error cause, j') ∧
          j.checkComponents env number total found components = (.error cause, j')) := by
  induction components generalizing found j with
  | nil =>
    exact ⟨[], j, .nil .., Or.inl ⟨found, rfl, (List.append_nil _).symm, fun f hf => Or.inl hf⟩⟩
  | cons c components ih =>
    unfold checkComponents
    obtain ⟨outcomes, mid, htested, hends⟩ :=
      checkFiles_cases env number total found.tested [] c.files j
    rw [List.append_nil] at htested hends
    rcases hends with hends | ⟨file, cause, j', hone, hends⟩
    · -- the component is tested; what follows starts from its findings
      rw [hends]
      obtain ⟨new, mid', hnew, hrest⟩ := ih (found.addComponent outcomes) mid
      refine ⟨outcomes ++ new, mid', htested.append hnew, ?_⟩
      rw [← List.append_assoc]
      refine hrest.imp_left ?_
      rintro ⟨found', hok, hfound, hpassing⟩
      refine ⟨found', hok, hfound, fun f hf => ?_⟩
      rw [List.mem_append, ← or_assoc]
      exact (hpassing f hf).imp_left mem_passing_of_addComponent
    · rw [hends]
      exact ⟨outcomes, mid, htested, Or.inr ⟨file, cause, j', hone, rfl⟩⟩

/-! ## Sessions -/

/-- The events of a session in which some events take place. -/
def sessionEvents (events : List Event) : List Event :=
  .start :: events ++ [.stop]

/-- The events of testing some files and checking one more, which is refused. -/
def refusedEvents (total : Nat) (outcomes : List Outcome) (file : String) : List Event :=
  testEvents total 0 outcomes ++ [.progress (outcomes.length + 1) total, .check file]

/-- Opening and closing a session are passed over when other events are read. -/
theorem filterMap_sessionEvents {α : Type} {read : Event → Option α}
    (hstart : read .start = none) (hstop : read .stop = none) (events : List Event) :
    (sessionEvents events).filterMap read = events.filterMap read := by
  rw [sessionEvents, List.cons_append, List.filterMap_cons_none hstart, List.filterMap_append,
    List.filterMap_cons_none hstop, List.filterMap_nil, List.append_nil]

/-- A session has been opened. -/
def opened (env : Environment σ) (j : Journal σ) : Journal σ :=
  { j with world := env.start j.world, phase := .testing }.note [.start]

/-- What is done in a session is done between opening and closing it. -/
theorem Continues.session (h : (j.opened env).Continues env events answers j₁) :
    j.Continues env (sessionEvents events) answers
      ({ j₁ with world := env.stop j₁.world }.note [.stop]) where
  trace := by
    rw [note, h.trace]
    simp [opened, note, sessionEvents]
  world := by
    rw [note, h.world]
    exact (env.performAll_append (env.start j.world) events [.stop]).symm
  replies := by
    rw [← h.replies]
    exact (env.replies_append (env.start j.world) events [.stop]).trans (List.append_nil _)

section

variable {frontier : List Component}
  (htotal : total = Graph.countUnchecked frontier j.checked.files)

include htotal

/-- A session whose tests are all made is closed at the end. -/
theorem session_of_tested {found : Findings} {mid : Journal σ}
    (htested : Tested env total [] (j.opened env) found.tested mid)
    (hok : (j.opened env).checkComponents env number total {} (testOrder frontier) =
      (.ok found, mid)) :
    ∃ j', j'.checked = j.checked ∧ j.session env number frontier = (.ok found, j') ∧
      j.Continues env (sessionEvents (testEvents total 0 found.tested))
        (found.tested.map (·.reply)) j' := by
  refine ⟨{ mid with world := env.stop mid.world }.note [.stop], htested.checked, ?_,
    htested.continues.session⟩
  rw [opened] at hok
  simp only [session, ← htotal, hok]

/-- A session in which a check is refused is closed right after it. -/
theorem session_of_refused {outcomes : List Outcome} {cause : Failure} {mid : Journal σ}
    (htested : Tested env total [] (j.opened env) outcomes mid)
    (hone : (mid.note [.progress (outcomes.length + 1) total]).checkOne env number file =
      (.error cause, j₁))
    (herror : (j.opened env).checkComponents env number total {} (testOrder frontier) =
      (.error cause, j₁)) :
    ∃ reply j', j'.checked = j.checked ∧ j.session env number frontier = (.error cause, j') ∧
      j.Continues env (sessionEvents (refusedEvents total outcomes file))
        (outcomes.map (·.reply) ++ [(file, reply)]) j' ∧
      Refusal number file reply cause := by
  have hmid := htested.continues.trans (.progress env mid (outcomes.length + 1) total)
  obtain ⟨reply, j₂, hcont, hchecked, ⟨n, -, hone'⟩ | ⟨cause', hrefused, hone'⟩⟩ :=
    checkOne_cases env number file (mid.note [.progress (outcomes.length + 1) total])
  · cases hone'.symm.trans hone
  · cases hone'.symm.trans hone
    refine ⟨reply, { j₁ with world := env.stop j₁.world }.note [.stop],
      hchecked.trans htested.checked, ?_, ?_, hrefused⟩
    · rw [opened] at herror
      simp only [session, ← htotal, herror]
    · have hrefusal := (hmid.trans hcont).session
      rwa [List.append_assoc, List.append_nil] at hrefusal

end

/-- **What a session can come to.** Either all its tests are made and reported,
and each file that passes has been tested without errors; or the checker refuses
a file, and the session fails. In both cases it is closed at the end. -/
theorem session_cases (env : Environment σ) (number : Nat) (frontier : List Component)
    (j : Journal σ) :
    ∃ total j', j'.checked = j.checked ∧
      ((∃ found, j.session env number frontier = (.ok found, j') ∧
          j.Continues env (sessionEvents (testEvents total 0 found.tested))
            (found.tested.map (·.reply)) j' ∧
          (found.tested.map (·.file)).Nodup ∧
          (∀ o ∈ found.tested, o.file ∉ j.checked.files) ∧
          ∀ f ∈ found.passing, ⟨f, 0⟩ ∈ found.tested) ∨
        ∃ cause outcomes file reply, j.session env number frontier = (.error cause, j') ∧
          j.Continues env (sessionEvents (refusedEvents total outcomes file))
            (outcomes.map (·.reply) ++ [(file, reply)]) j' ∧
          Refusal number file reply cause) := by
  obtain ⟨outcomes, mid, htested, hends⟩ := checkComponents_cases env number
    (Graph.countUnchecked frontier j.checked.files) {} (testOrder frontier) (j.opened env)
  rcases hends with ⟨found, hok, hfound, hpassing⟩ | ⟨file, cause, j₁, hone, herror⟩
  · obtain rfl : found.tested = outcomes := hfound
    obtain ⟨j', hkeep, hsession, hcont⟩ := session_of_tested rfl htested hok
    refine ⟨_, j', hkeep, .inl ⟨found, hsession, hcont, htested.nodup .nil, htested.unchecked,
      fun f hf => ?_⟩⟩
    simpa using hpassing f hf
  · obtain ⟨reply, j', hkeep, hsession, hcont, hrefused⟩ :=
      session_of_refused rfl htested hone herror
    exact ⟨_, j', hkeep, .inr ⟨cause, outcomes, file, reply, hsession, hcont, hrefused⟩⟩

end Journal

end Ratchet
