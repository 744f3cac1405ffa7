import Mathlib.Data.List.Flatten
import Ratchet.Proofs.Campaign.Abort
import Ratchet.Proofs.Campaign.Bound
import Ratchet.Proofs.Campaign.Failures

/-!
# The course of a run

The trace of a run is made of the events of the passes it has begun. A pass over
the components of an import map goes through the eligible files, by the first
file of their component and then by name: it scans, opens a session, notes
progress and checks for one file after the other, closes the session, and commits
what has passed. If a check fails, the session is closed right after it, and that
is the end of the run.

* `IsTestingOrder`: the order in which a pass checks the eligible files.
* `Course`: the events of one pass.
* `HasBegun`: the passes that a run has begun.
* `run_takes_its_course`: the trace of every run.
-/

namespace Ratchet

open Ratchet.Graph (Condensation Component ImportMap testOrder)

/-! ## The order of the files -/

namespace Graph

variable {g : Condensation} {m : ImportMap} {checked : List String}

namespace Condensation

/-- **A file comes before another**: its component has the lesser first file, or
the components have the same one and it has the lesser name. -/
def ComesBefore (g : Condensation) (a b : String) : Prop :=
  ∃ c ∈ g.components, ∃ e ∈ g.components, a ∈ c.files ∧ b ∈ e.files ∧
    (c.files.headD "" < e.files.headD "" ∨ c.files.headD "" = e.files.headD "" ∧ a < b)

/-- **The order in which a pass checks the eligible files**, all of them. -/
structure IsTestingOrder (g : Condensation) (checked order : List String) : Prop where
  /-- They are the eligible files. -/
  perm : order.Perm (g.eligibleFiles checked)
  /-- They stand by the first file of their component, and then by name. -/
  pairwise : order.Pairwise g.ComesBefore

/-- The unchecked files of the frontier, as they are checked. -/
def testFiles (g : Condensation) (checked : List String) : List String :=
  (testOrder (g.eligible checked)).flatMap (·.uncheckedFiles checked)

theorem testFiles_perm (g : Condensation) (checked : List String) :
    (g.testFiles checked).Perm ((g.eligible checked).flatMap (·.uncheckedFiles checked)) :=
  (Journal.testOrder_perm _).flatMap_right _

/-- As many files are checked as were counted beforehand. -/
theorem length_testFiles (g : Condensation) (checked : List String) :
    (g.testFiles checked).length = countUnchecked (g.eligible checked) checked :=
  (g.testFiles_perm checked).length_eq

/-- No file is tested twice in a pass. -/
theorem nodup_testFiles (g : Condensation) (h : (g.components.flatMap (·.files)).Nodup) :
    (g.testFiles checked).Nodup := by
  refine (g.testFiles_perm checked).nodup_iff.mpr (h.sublist ?_)
  exact (List.Sublist.flatMap_right _ fun _ _ => Component.uncheckedFiles_sublist).trans
    (List.filter_sublist.flatMap _)

namespace IsQuotientOf

/-- Of two components the one that is tested first has the lesser first file. -/
theorem pairwise_testOrder (h : g.IsQuotientOf m) :
    (testOrder (g.eligible checked)).Pairwise fun c e => c.files.headD "" < e.files.headD "" := by
  have hmem : ∀ {c}, c ∈ testOrder (g.eligible checked) → c ∈ g.components := fun hc =>
    List.mem_of_mem_filter ((Journal.testOrder_perm _).mem_iff.mp hc)
  have hsorted : (testOrder (g.eligible checked)).Pairwise fun c e =>
      decide (c.files.headD "" ≤ e.files.headD "") = true :=
    List.pairwise_mergeSort (fun a b c => by simpa using le_trans)
      (fun a b => by simpa using le_total _ _) _
  have hdisjoint : (testOrder (g.eligible checked)).Pairwise fun c e =>
      c.files.Disjoint e.files := by
    have hnodup : ((testOrder (g.eligible checked)).flatMap (·.files)).Nodup :=
      ((Journal.testOrder_perm _).flatMap_right _).nodup_iff.mpr
        (h.nodup_files.sublist (List.filter_sublist.flatMap _))
    exact (List.nodup_flatMap.mp hnodup).2
  refine List.Pairwise.imp_of_mem ?_ (hsorted.and hdisjoint)
  rintro c e hc he ⟨hle, hne⟩
  refine lt_of_le_of_ne (by simpa using hle) fun heq => ?_
  -- two components with the same first file would share it
  obtain ⟨f, fs, hf⟩ := List.exists_cons_of_ne_nil (h.files (hmem hc)).1
  obtain ⟨t, ts, ht⟩ := List.exists_cons_of_ne_nil (h.files (hmem he)).1
  rw [hf, ht] at heq hne
  obtain rfl : f = t := heq
  exact hne (.head _) (.head _)

/-- **The eligible files are checked in order**, by the first file of their
component and then by name. -/
theorem isTestingOrder (h : g.IsQuotientOf m) : g.IsTestingOrder checked (g.testFiles checked) := by
  have hmem : ∀ {c}, c ∈ testOrder (g.eligible checked) → c ∈ g.components := fun hc =>
    List.mem_of_mem_filter ((Journal.testOrder_perm _).mem_iff.mp hc)
  refine ⟨(g.testFiles_perm checked).trans (List.mergeSort_perm _ _).symm, ?_⟩
  rw [testFiles, List.pairwise_flatMap]
  constructor
  · intro c hc
    refine List.Pairwise.imp_of_mem (fun {a b} ha hb hlt => ?_)
      ((h.files (hmem hc)).2.sublist Component.uncheckedFiles_sublist)
    exact ⟨c, hmem hc, c, hmem hc, (Component.mem_uncheckedFiles.mp ha).1,
      (Component.mem_uncheckedFiles.mp hb).1, .inr ⟨rfl, hlt⟩⟩
  · refine List.Pairwise.imp_of_mem (fun {c e} hc he hlt a ha b hb => ?_) h.pairwise_testOrder
    exact ⟨c, hmem hc, e, hmem he, (Component.mem_uncheckedFiles.mp ha).1,
      (Component.mem_uncheckedFiles.mp hb).1, .inl hlt⟩

end IsQuotientOf

end Condensation

end Graph

variable {σ : Type} {env : Environment σ} {maxPasses : Option Nat} {budget number total k : Nat}
  {m : Migration} {j j' before after : Journal σ} {start : σ} {g : Condensation}
  {conclusion : Conclusion} {order : List String} {events events' : List Event}
  {begun : List (Journal σ × List Event)}

/-! ## The events of a pass -/

/-- The events of checking some files out of so many, one after the other. -/
def checkEvents (total : Nat) (files : List String) : List Event :=
  files.zipIdx.flatMap fun (f, i) => [.progress (i + 1) total, .check f]

namespace Journal

theorem testEvents_eq (total taken : Nat) (outcomes : List Outcome) :
    testEvents total taken outcomes =
      ((outcomes.map (·.file)).zipIdx taken).flatMap fun (f, i) =>
        [.progress (i + 1) total, .check f] := by
  induction outcomes generalizing taken with
  | nil => rfl
  | cons o outcomes ih =>
    rw [testEvents, ih, List.map_cons, List.zipIdx_cons, List.flatMap_cons]
    rfl

theorem testEvents_eq_checkEvents (total : Nat) (outcomes : List Outcome) :
    testEvents total 0 outcomes = checkEvents total (outcomes.map (·.file)) :=
  testEvents_eq total 0 outcomes

theorem refusedEvents_eq_checkEvents (total : Nat) (outcomes : List Outcome) (file : String) :
    refusedEvents total outcomes file = checkEvents total (outcomes.map (·.file) ++ [file]) := by
  rw [refusedEvents, testEvents_eq_checkEvents, checkEvents, checkEvents, List.zipIdx_append,
    List.flatMap_append]
  simp

/-- The checks are those of the given files, in their order. -/
theorem checks_checkEvents (total : Nat) (files : List String) :
    checks (checkEvents total files) = files := by
  rw [checks, checkEvents, List.filterMap_flatMap]
  conv_rhs => rw [← List.zipIdx_map_fst 0 files, List.map_eq_flatMap]
  rfl

theorem checks_sessionEvents (events : List Event) :
    checks (sessionEvents events) = checks events :=
  filterMap_sessionEvents rfl rfl events

/-- A file without errors among the replies is one among the outcomes. -/
theorem mem_map_reply {outcomes : List Outcome} {f : String} :
    (f, .ok 0) ∈ outcomes.map (·.reply) ↔ ⟨f, 0⟩ ∈ outcomes := by
  rw [List.mem_map]
  constructor
  · rintro ⟨⟨file, errors⟩, ho, heq⟩
    obtain ⟨rfl, hzero⟩ := Prod.mk.inj heq
    obtain rfl : errors = 0 := by simpa using hzero
    exact ho
  · exact fun ho => ⟨_, ho, rfl⟩

/-- **The course of a pass** over components `g`, when the files are checked in a
given order and the pass ends with `answer`. -/
inductive Course (env : Environment σ) (g : Condensation) (before : Journal σ)
    (order : List String) (answer : Except Failure PassReport) (events : List Event) : Prop
  /-- No check fails. All files are checked, and there is one commit, of what has
  passed, unless nothing has: the files of the components all of whose unchecked
  files were found without errors. -/
  | tested (committed : List String)
      (hevents : events =
        .scan :: sessionEvents (checkEvents order.length order) ++ commitEvents committed)
      (hreplies : ∀ entry ∈ env.replies before.world events, ¬ IsFault entry.2)
      (hascending : committed.Pairwise (· < ·))
      (hcommitted : ∀ f, f ∈ committed ↔ ∃ c ∈ g.eligible before.checked.files,
        f ∈ c.uncheckedFiles before.checked.files ∧
        ∀ x ∈ c.uncheckedFiles before.checked.files,
          (x, .ok 0) ∈ env.replies before.world events)
  /-- The check of one file fails. It is the last one, the session is closed, and
  the pass fails. -/
  | refused (earlier : List String) (file : String) (later : List String)
      (reply : Except Failure Int) (cause : Failure)
      (horder : order = earlier ++ file :: later)
      (hevents : events = .scan :: sessionEvents (checkEvents order.length (earlier ++ [file])))
      (hreply : (env.replies before.world events).getLast? = some (file, reply))
      (hfault : IsFault reply)
      (hanswer : answer = .error cause)

/-- **Every pass over components takes its course**, in the order of the files. -/
theorem pass_course (hscan : (env.scan j.world).1 = .ok g)
    (hnodup : (g.components.flatMap (·.files)).Nodup) (number : Nat) :
    ∃ events, (j.pass env number).2.trace = j.trace ++ events ∧
      j.Course env g (g.testFiles j.checked.files) (j.pass env number).1 events := by
  obtain ⟨opened, hopened, hscanned, hpass⟩ := exists_pass_eq hscan number
  have hfiles : ((g.eligible j.checked.files).flatMap (·.files)).Nodup :=
    hnodup.sublist (List.filter_sublist.flatMap _)
  obtain ⟨outcomes, rest, j₁, hkeep, htested, hends⟩ := session_order env number opened hfiles
  rw [hopened] at hkeep htested hends
  rw [← g.length_testFiles] at hends
  rcases hends with ⟨groups, rfl, rfl, hgroups, hsession, hcont⟩ |
    ⟨file, later, cause, reply, rfl, hsession, hcont, hrefusal⟩
  · -- all files are checked, so the pass comes to its commit
    rw [List.append_nil] at htested
    change groups.flatten.map (·.file) = g.testFiles j.checked.files at htested
    have hpassing : ∀ f, f ∈ (groups.foldl Findings.addComponent {}).passing ↔
        ∃ c ∈ g.eligible j.checked.files, f ∈ c.uncheckedFiles j.checked.files ∧
          ∀ x ∈ c.uncheckedFiles j.checked.files, ⟨x, 0⟩ ∈ groups.flatten := fun f => by
      rw [Findings.mem_passing_foldl, mem_passing_iff hgroups (htested ▸ g.nodup_testFiles hnodup)]
      simp only [List.not_mem_nil, false_or, (testOrder_perm _).mem_iff]
    have hnew : ∀ f ∈ (groups.foldl Findings.addComponent {}).passing, f ∉ j₁.checked.files := by
      intro f hf
      obtain ⟨c, -, hfc, -⟩ := (hpassing f).mp hf
      exact hkeep ▸ (Component.mem_uncheckedFiles.mp hfc).2
    obtain ⟨committed, j₂, hcommits, hascending, hmem, -, hends⟩ :=
      commit_cases env (groups.foldl Findings.addComponent {}).passing j₁ hnew
    have hlast : (j.pass env number).2 = j₂ := by
      rw [hpass, hsession]
      rcases hends with ⟨hok, -⟩ | ⟨cause, herror⟩
      · simp only [hok]
      · simp only [herror]
    have hall := (hscanned.trans hcont).trans hcommits
    rw [testEvents_eq_checkEvents, htested, List.nil_append, List.append_nil] at hall
    have hreplies := hall.replies
    rw [List.singleton_append] at hreplies
    refine ⟨_, hlast ▸ hall.trace, .tested committed rfl ?_ hascending fun f => ?_⟩
    · rw [hreplies]
      intro entry hentry
      obtain ⟨o, -, rfl⟩ := List.mem_map.mp hentry
      exact o.not_isFault
    · rw [hreplies, hmem, hpassing]
      simp only [mem_map_reply]
  · -- the session ends with the check that is refused
    change outcomes.map (·.file) ++ file :: later = g.testFiles j.checked.files at htested
    have hall := hscanned.trans hcont
    rw [refusedEvents_eq_checkEvents, List.nil_append] at hall
    refine ⟨_, ?_, .refused _ file later reply cause htested.symm rfl ?_ hrefusal.isFault ?_⟩
    · rw [hpass, hsession]
      exact hall.trace
    · rw [← List.singleton_append, hall.replies, List.getLast?_concat]
    · rw [hpass, hsession]

/-- The checks of a pass are those of its files, in order, up to one that fails. -/
theorem Course.checks_prefix {answer : Except Failure PassReport}
    (h : before.Course env g order answer events) : checks events <+: order := by
  have hread : ∀ (total : Nat) (files : List String),
      checks (.scan :: sessionEvents (checkEvents total files)) = files := fun total files => by
    rw [checks, List.filterMap_cons_none rfl]
    exact (checks_sessionEvents _).trans (checks_checkEvents total files)
  cases h with
  | tested committed hevents =>
    have hcommit : (commitEvents committed).filterMap (·.checked?) = [] := by
      rw [commitEvents]
      split <;> rfl
    rw [hevents, checks, List.filterMap_append, hcommit, List.append_nil, ← checks, hread]
  | refused earlier file later reply cause horder hevents =>
    rw [hevents, hread, horder]
    exact ⟨later, by simp⟩

end Journal

/-! ## Sessions -/

/-- Whether a session is open after an event. A session is opened where none is,
and closed where one is; progress and checks take place inside, scans and commits
outside. Any other event is out of place. -/
def Event.session? : Bool → Event → Option Bool
  | false, .start => some true
  | true, .stop => some false
  | true, .progress _ _ => some true
  | true, .check _ => some true
  | false, .scan => some false
  | false, .commit _ => some false
  | _, _ => none

/-- **No event is out of place**, and no session is left open. -/
def InSessions (events : List Event) : Prop :=
  events.foldlM Event.session? false = some false

theorem InSessions.append (h : InSessions events) (h' : InSessions events') :
    InSessions (events ++ events') := by
  rw [InSessions, List.foldlM_append, h]
  exact h'

namespace Journal

/-- Checks take place in a session. -/
theorem session?_of_mem_checkEvents {files : List String} {e : Event}
    (h : e ∈ checkEvents total files) : e.session? true = some true := by
  obtain ⟨⟨f, i⟩, -, he⟩ := List.mem_flatMap.mp h
  rcases List.mem_cons.mp he with rfl | he
  · rfl
  · obtain rfl := List.mem_singleton.mp he
    rfl

/-- The checks of a session are enclosed by its start and its end. -/
theorem inSessions_sessionEvents (total : Nat) (files : List String) :
    InSessions (sessionEvents (checkEvents total files)) := by
  have hinside : ∀ events : List Event, (∀ e ∈ events, e.session? true = some true) →
      events.foldlM Event.session? true = some true := by
    intro events hevents
    induction events with
    | nil => rfl
    | cons e events ih =>
      rw [List.foldlM_cons, hevents e (.head _)]
      exact ih fun e he => hevents e (.tail _ he)
  have hchecks := hinside (checkEvents total files) fun e he => session?_of_mem_checkEvents he
  change (checkEvents total files ++ [Event.stop]).foldlM Event.session? true = some false
  rw [List.foldlM_append, hchecks]
  rfl

theorem count_start_sessionEvents (total : Nat) (files : List String) :
    (sessionEvents (checkEvents total files)).count .start = 1 := by
  have hnone : .start ∉ checkEvents total files := fun h => by
    cases session?_of_mem_checkEvents h
  rw [sessionEvents, List.cons_append, List.count_cons_self, List.count_append,
    List.count_eq_zero.mpr hnone]
  rfl

/-- **A pass opens one session, and closes it**, if it gets as far as that. -/
theorem exists_events_pass (env : Environment σ) (number : Nat) (j : Journal σ) :
    ∃ events, (j.pass env number).2.trace = j.trace ++ events ∧ InSessions events ∧
      events.count .start = if (env.scan j.world).1.isOk then 1 else 0 := by
  have hscanned : ∀ (total : Nat) (files : List String),
      InSessions (.scan :: sessionEvents (checkEvents total files)) ∧
        (Event.scan :: sessionEvents (checkEvents total files)).count .start = 1 :=
    fun total files => ⟨inSessions_sessionEvents total files, by
      rw [List.count_cons_of_ne (by simp), count_start_sessionEvents]⟩
  rcases hscan : (env.scan j.world).1 with cause | g
  · obtain ⟨j', hpass, hcont, -⟩ := exists_pass_eq_error hscan number
    exact ⟨[.scan], by rw [hpass, hcont.trace], rfl, rfl⟩
  · change ∃ events : List Event, _ ∧ _ ∧ events.count .start = 1
    obtain ⟨cause, j', herror, -⟩ |
      ⟨cause, j', total, outcomes, file, reply, hpass, hcont, -⟩ | ⟨p, j', haccounts, hends⟩ :=
        pass_cases env number j
    · cases hscan.symm.trans herror
    · rw [refusedEvents_eq_checkEvents] at hcont
      exact ⟨_, by rw [hpass, hcont.trace], hscanned total _⟩
    · obtain ⟨total, hcont⟩ := haccounts.continues
      have hlast : (j.pass env number).2 = j' := by
        obtain ⟨hok, -⟩ | ⟨cause, herror⟩ := hends
        · rw [hok]
        · rw [herror]
      have hcommit : InSessions (commitEvents p.committed) ∧
          (commitEvents p.committed).count .start = 0 := by
        rw [commitEvents]
        split
        · exact ⟨rfl, rfl⟩
        · exact ⟨rfl, List.count_eq_zero.mpr (by simp)⟩
      have htested := hscanned total (p.tested.map (·.file))
      rw [← testEvents_eq_checkEvents] at htested
      refine ⟨p.events total, by rw [hlast, hcont.trace], htested.1.append hcommit.1, ?_⟩
      rw [PassReport.events, List.count_append, hcommit.2]
      exact htested.2

end Journal

/-! ## The passes of a run -/

namespace Environment

/-- **The passes that a run has begun**, each with the journal at its start and its
events, which together are the trace. -/
structure HasBegun (env : Environment σ) (maxPasses : Option Nat) (start : σ)
    (begun : List (Journal σ × List Event)) (trace : List Event) : Prop where
  /-- The trace is made of the events of the passes. -/
  trace_eq : trace = begun.flatMap (·.2)
  /-- Each pass begins when those before it are completed. -/
  begins {k : Nat} {before : Journal σ} {events : List Event} :
    begun[k]? = some (before, events) →
      ∃ m, env.BeginsPass maxPasses start m before ∧ m.passes.length = k
  /-- It goes on from their events, with its own. -/
  events {k : Nat} {before : Journal σ} {events : List Event} :
    begun[k]? = some (before, events) →
      before.trace = (begun.take k).flatMap (·.2) ∧
        (before.pass env (k + 1)).2.trace = before.trace ++ events

/-- A pass that is listed was listed before, or it is the last one. -/
theorem getElem?_concat_cases {b last : Journal σ × List Event}
    (hb : (begun ++ [last])[k]? = some b) :
    (k ≤ begun.length ∧ begun[k]? = some b) ∨ k = begun.length ∧ b = last := by
  rcases Nat.lt_trichotomy k begun.length with hlt | rfl | hgt
  · exact .inl ⟨Nat.le_of_lt hlt, by rwa [List.getElem?_append_left hlt] at hb⟩
  · simp at hb
    exact .inr ⟨rfl, hb.symm⟩
  · rw [List.getElem?_eq_none (by simp; omega)] at hb
    cases hb

/-- Another pass begins. -/
theorem HasBegun.pass (h : env.HasBegun maxPasses start begun before.trace)
    (hbegins : env.BeginsPass maxPasses start m before) (hlen : m.passes.length = begun.length) :
    ∃ events, env.HasBegun maxPasses start (begun ++ [(before, events)])
      (before.pass env (m.passes.length + 1)).2.trace := by
  obtain ⟨events, htrace, -⟩ := Journal.exists_events_pass env (m.passes.length + 1) before
  refine ⟨events, ?_, fun {k b es} hb => ?_, fun {k b es} hb => ?_⟩
  · rw [htrace, h.trace_eq, List.flatMap_append, List.flatMap_singleton]
  · rcases getElem?_concat_cases hb with ⟨-, hb⟩ | ⟨rfl, heq⟩
    · exact h.begins hb
    · cases heq
      exact ⟨m, hbegins, hlen⟩
  · rcases getElem?_concat_cases hb with ⟨hk, hb⟩ | ⟨rfl, heq⟩
    · rw [List.take_append_of_le_length hk]
      exact h.events hb
    · cases heq
      rw [List.take_append_of_le_length (Nat.le_refl _), List.take_length, ← hlen]
      exact ⟨h.trace_eq, htrace⟩

/-- The sessions and the scans of a run are those of its passes. -/
theorem HasBegun.sessions {trace : List Event} (h : env.HasBegun maxPasses start begun trace) :
    InSessions trace ∧ trace.count .scan = begun.length ∧
      trace.count .start = begun.countP fun b => (env.scan b.1.world).1.isOk := by
  have hpass : ∀ b ∈ begun, InSessions b.2 ∧ b.2.count .scan = 1 ∧
      b.2.count .start = if (env.scan b.1.world).1.isOk then 1 else 0 := by
    intro b hb
    obtain ⟨k, hk⟩ := List.getElem?_of_mem hb
    obtain ⟨-, htrace⟩ := h.events hk
    obtain ⟨events, hevents, hin, hcount⟩ := Journal.exists_events_pass env (k + 1) b.1
    obtain rfl : b.2 = events := List.append_cancel_left (htrace.symm.trans hevents)
    have hscan := Journal.count_scan_pass env (k + 1) b.1
    rw [htrace, List.count_append] at hscan
    exact ⟨hin, Nat.add_left_cancel hscan, hcount⟩
  rw [h.trace_eq]
  clear h
  induction begun with
  | nil => exact ⟨rfl, rfl, rfl⟩
  | cons b begun ih =>
    obtain ⟨hin, hscan, hcount⟩ := hpass b (.head _)
    obtain ⟨hins, hscans, hcounts⟩ := ih fun b hb => hpass b (.tail _ hb)
    rw [List.flatMap_cons, List.count_append, List.count_append, hscan, hscans, hcount, hcounts,
      List.countP_cons, List.length_cons]
    exact ⟨hin.append hins, Nat.add_comm .., Nat.add_comm ..⟩

/-- The passes begun so far are completed. -/
def AllCompleted (env : Environment σ) (begun : List (Journal σ × List Event)) : Prop :=
  ∀ (k : Nat) b, begun[k]? = some b → ∃ p, (b.1.pass env (k + 1)).1 = .ok p

/-- Another completed pass leaves all begun passes completed. -/
theorem AllCompleted.concat {p : PassReport} (h : env.AllCompleted begun)
    (hpass : (before.pass env (begun.length + 1)).1 = .ok p) (events : List Event) :
    env.AllCompleted (begun ++ [(before, events)]) := by
  intro k b hb
  rcases getElem?_concat_cases hb with ⟨hk, hb⟩ | ⟨rfl, rfl⟩
  · exact h k b hb
  · exact ⟨p, hpass⟩

/-- **Every run has begun its passes one after the other.** A pass that fails is
the last one, and fails the run. -/
theorem rounds_hasBegun (hreached : env.Reached maxPasses start m j)
    (h : env.HasBegun maxPasses start begun j.trace) (hlen : m.passes.length = begun.length)
    (hall : env.AllCompleted begun)
    (hrounds : env.rounds maxPasses budget m j = (conclusion, j')) :
    ∃ begun', env.HasBegun maxPasses start begun' j'.trace ∧
      ∀ (k : Nat) b cause, begun'[k]? = some b → (b.1.pass env (k + 1)).1 = .error cause →
        k + 1 = begun'.length ∧ conclusion = .failed cause := by
  have hnone : ∀ {conclusion : Conclusion} {passes}, env.AllCompleted passes →
      ∀ (k : Nat) b cause, passes[k]? = some b → (b.1.pass env (k + 1)).1 = .error cause →
        k + 1 = passes.length ∧ conclusion = .failed cause := by
    intro conclusion passes hpasses k b cause hb hfail
    obtain ⟨p, hp⟩ := hpasses k b hb
    cases hp.symm.trans hfail
  induction budget generalizing m j begun with
  | zero =>
    cases hrounds
    exact ⟨begun, h, hnone hall⟩
  | succ budget ih =>
    obtain ⟨stopped, j₁, hpoll, hcases⟩ := env.round_cases maxPasses m j
    have htrace : j₁.trace = j.trace := (congrArg (fun r => r.2.trace) hpoll).symm
    rw [← htrace] at h
    rw [rounds] at hrounds
    rcases hcases with ⟨-, hr⟩ | ⟨⟨rfl, hcap⟩, hcases⟩
    · rw [hr] at hrounds
      cases hrounds
      exact ⟨begun, h, hnone hall⟩
    · obtain ⟨events, hbegun⟩ := h.pass ⟨j, hreached, hpoll, hcap⟩ hlen
      rcases hcases with ⟨cause, j₂, hpass, hr⟩ | ⟨report, j₂, hpass, ⟨-, hr⟩ | ⟨-, hr⟩⟩
      all_goals
        rw [hr] at hrounds
        rw [hpass] at hbegun
        rw [hlen] at hpass
      · cases hrounds
        refine ⟨_, hbegun, fun k b cause' hb hfail => ?_⟩
        rcases getElem?_concat_cases hb with ⟨hk, hb⟩ | ⟨rfl, rfl⟩
        · obtain ⟨p, hp⟩ := hall k b hb
          cases hp.symm.trans hfail
        · rw [hpass] at hfail
          cases hfail
          exact ⟨by simp, rfl⟩
      · cases hrounds
        exact ⟨_, hbegun, hnone (hall.concat (by rw [hpass]) events)⟩
      · refine ih (hreached.next hr) hbegun ?_ (hall.concat (by rw [hpass]) events) hrounds
        rw [m.length_addPass, hlen, List.length_append, List.length_singleton]

end Environment

/-- **Every run takes its course.** Its trace is made of the events of the passes
that it has begun, in order. No event is out of place: each check lies inside a
session, and a session is closed before another is opened. There is one scan for
each pass, and one session for each whose scan gave components. A pass that scans
the components of an import map checks the eligible files by the first file of
their component and then by name, none of them twice and none that is checked;
its events are a scan, a session with progress and a check for one file after the
other, and a commit if anything has passed. If a check fails, it is the last one:
the session is closed, the pass is the last, and the run fails. -/
theorem run_takes_its_course (h : env.run maxPasses budget start = (conclusion, j)) :
    ∃ begun : List (Journal σ × List Event),
      env.HasBegun maxPasses start begun j.trace ∧
      InSessions j.trace ∧ j.trace.count .scan = begun.length ∧
      j.trace.count .start = begun.countP (fun b => (env.scan b.1.world).1.isOk) ∧
      (∀ (k : Nat) b cause, begun[k]? = some b → (b.1.pass env (k + 1)).1 = .error cause →
        k + 1 = begun.length ∧ conclusion = .failed cause) ∧
      ∀ (k : Nat) (before : Journal σ) (events : List Event) (imports : ImportMap),
        begun[k]? = some (before, events) →
        (env.scan before.world).1 = .ok imports.condense →
        ∃ order, imports.condense.IsTestingOrder before.checked.files order ∧
          before.Course env imports.condense order (before.pass env (k + 1)).1 events ∧
          (checks events).Nodup ∧ ∀ f ∈ checks events, f ∉ before.checked.files := by
  have hbegun : ∃ begun, env.HasBegun maxPasses start begun j.trace ∧
      ∀ (k : Nat) b cause, begun[k]? = some b → (b.1.pass env (k + 1)).1 = .error cause →
        k + 1 = begun.length ∧ conclusion = .failed cause := by
    rcases hl : env.load start with ⟨answer, w⟩
    rw [Environment.run, hl] at h
    cases answer with
    | error cause =>
      cases h
      exact ⟨[], ⟨rfl, by simp, by simp⟩, by simp⟩
    | ok files =>
      have hnone : env.HasBegun maxPasses start [] [] := ⟨rfl, by simp, by simp⟩
      have hall : env.AllCompleted [] := by simp [Environment.AllCompleted]
      exact Environment.rounds_hasBegun (Environment.reached_of_load hl) hnone rfl hall h
  obtain ⟨begun, hbegun, hfails⟩ := hbegun
  obtain ⟨hin, hscans, hstarts⟩ := hbegun.sessions
  refine ⟨begun, hbegun, hin, hscans, hstarts, hfails, fun k before events imports hk hscan => ?_⟩
  have hq := imports.isQuotientOf_condense
  obtain ⟨events', htrace, hcourse⟩ := Journal.pass_course hscan hq.nodup_files (k + 1)
  obtain rfl : events = events' :=
    List.append_cancel_left ((hbegun.events hk).2.symm.trans htrace)
  have hprior := hcourse.checks_prefix
  refine ⟨_, hq.isTestingOrder, hcourse,
    (imports.condense.nodup_testFiles hq.nodup_files).sublist hprior.sublist, fun f hf => ?_⟩
  obtain ⟨c, -, hfc⟩ := List.mem_flatMap.mp (hprior.subset hf)
  exact (Component.mem_uncheckedFiles.mp hfc).2

/-- The third check times out: of the two files of the second pass one is found
clean, and the session is closed after the other. -/
theorem tiring_takes_its_course :
    ∃ cause j begun, tiring.run none 9 ([], 0) = (.failed cause, j) ∧
      j.trace = [.scan, .start, .progress 1 1, .check "a", .stop, .commit ["a"],
        .scan, .start, .progress 1 2, .check "b", .progress 2 2, .check "c", .stop] ∧
      tiring.HasBegun none ([], 0) begun j.trace ∧ InSessions j.trace ∧ begun.length = 2 ∧
      ∀ (before : Journal (List String × Nat)) events, begun[1]? = some (before, events) →
        ∃ order, twoAboveOne.condense.IsTestingOrder before.checked.files order ∧
          before.Course tiring twoAboveOne.condense order (before.pass tiring 2).1 events := by
  have htrace : (tiring.run none 9 ([], 0)).2.trace =
      [.scan, .start, .progress 1 1, .check "a", .stop, .commit ["a"],
        .scan, .start, .progress 1 2, .check "b", .progress 2 2, .check "c", .stop] := by
    cbv
  have hfailed : (tiring.run none 9 ([], 0)).1 =
      .failed (.checker "Pass 2: checking c failed: timed out") := by
    cbv
  have hrun : tiring.run none 9 ([], 0) =
      (.failed (.checker "Pass 2: checking c failed: timed out"), (tiring.run none 9 ([], 0)).2) :=
    Prod.ext hfailed rfl
  obtain ⟨begun, hbegun, hin, hscans, -, -, hcourse⟩ := run_takes_its_course hrun
  refine ⟨_, _, begun, hrun, htrace, hbegun, hin, ?_, fun before events hk => ?_⟩
  · rw [← hscans, htrace]
    decide
  · obtain ⟨order, horder, hpass, -⟩ := hcourse 1 before events twoAboveOne hk rfl
    exact ⟨order, horder, hpass⟩

end Ratchet
