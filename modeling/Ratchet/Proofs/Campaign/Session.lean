import Ratchet.Proofs.Campaign.Trace

/-!
# What a session finds

A session tests each component on its own. `Tests` says what testing one
component gives: one outcome for each unchecked file, in order, as the checker
has answered. Everything else is read off the list of these groups of
outcomes.

* `session_ok`: a session gives one such group for each component.
* `mem_passing_iff`: which files pass in a session.
* `exists_session`: a session succeeds when the checker answers every file.
-/

namespace Ratchet

open Ratchet.Graph (Component testOrder)

variable {σ : Type} {env : Environment σ} {j j' : Journal σ} {number total : Nat}
  {before outcomes : List Outcome} {found found' : Findings} {groups : List (List Outcome)}
  {components : List Component} {c : Component} {files checked : List String} {f : String}

/-! ## Groups of outcomes -/

/-- An outcome gives a number of errors that the checker has answered. -/
def Environment.Answered (env : Environment σ) (o : Outcome) : Prop :=
  ∃ w, (env.check o.file w).1 = .ok (o.errors : Int)

/-- **Testing one component** gives an outcome for each of its unchecked files,
in order, as the checker has answered. -/
structure Environment.Tests (env : Environment σ) (checked : List String) (c : Component)
    (outcomes : List Outcome) : Prop where
  /-- The unchecked files are tested, in order. -/
  files : outcomes.map (·.file) = c.uncheckedFiles checked
  /-- The numbers of errors are the checker's. -/
  answered : ∀ o ∈ outcomes, env.Answered o

namespace Findings

/-- What has been tested is what each component brought, in order. -/
theorem tested_foldl (groups : List (List Outcome)) (found : Findings) :
    (groups.foldl addComponent found).tested = found.tested ++ groups.flatten := by
  induction groups generalizing found with
  | nil => simp
  | cons os groups ih =>
    rw [List.foldl_cons, ih, addComponent, List.flatten_cons, List.append_assoc]

/-- A component adds all its files to those that pass, or none. -/
theorem mem_passing_addComponent :
    f ∈ (found.addComponent outcomes).passing ↔
      f ∈ found.passing ∨ (∀ o ∈ outcomes, o.errors = 0) ∧ f ∈ outcomes.map (·.file) := by
  have hall : outcomes.all (·.passed) = true ↔ ∀ o ∈ outcomes, o.errors = 0 := by
    simp [Outcome.passed]
  rw [addComponent, List.mem_append, ← hall]
  by_cases hclean : outcomes.all (·.passed) = true
  · simp only [hclean, if_true, true_and]
  · rw [if_neg hclean]
    simp only [hclean, List.not_mem_nil, Bool.false_eq_true, false_and]

/-- A file passes when its component has no errors. -/
theorem mem_passing_foldl :
    f ∈ (groups.foldl addComponent found).passing ↔
      f ∈ found.passing ∨ ∃ os ∈ groups, (∀ o ∈ os, o.errors = 0) ∧ f ∈ os.map (·.file) := by
  induction groups generalizing found with
  | nil => simp
  | cons os groups ih =>
    rw [List.foldl_cons, ih, mem_passing_addComponent, List.exists_mem_cons_iff, or_assoc]

end Findings

/-- The files tested are the unchecked ones, component by component. -/
theorem map_file_flatten (h : List.Forall₂ (env.Tests checked) components groups) :
    groups.flatten.map (·.file) = components.flatMap (·.uncheckedFiles checked) := by
  induction h with
  | nil => rfl
  | cons ht _ ih => rw [List.flatten_cons, List.map_append, ht.files, ih, List.flatMap_cons]

/-- Every outcome of a session is an answer of the checker. -/
theorem answered_of_mem_flatten (h : List.Forall₂ (env.Tests checked) components groups)
    {o : Outcome} (ho : o ∈ groups.flatten) : env.Answered o := by
  induction h with
  | nil => simp at ho
  | cons ht _ ih =>
    rw [List.flatten_cons, List.mem_append] at ho
    exact ho.elim (ht.answered o) ih

/-- Every component has its outcomes. -/
theorem exists_group (h : List.Forall₂ (env.Tests checked) components groups)
    (hc : c ∈ components) : ∃ os ∈ groups, env.Tests checked c os := by
  induction h with
  | nil => cases hc
  | cons ht _ ih =>
    rcases List.mem_cons.mp hc with rfl | hc
    · exact ⟨_, .head _, ht⟩
    · obtain ⟨os, hos, hts⟩ := ih hc
      exact ⟨os, .tail _ hos, hts⟩

/-- Outcomes are those of a component. -/
theorem exists_tested_component (h : List.Forall₂ (env.Tests checked) components groups)
    (hos : outcomes ∈ groups) : ∃ c ∈ components, env.Tests checked c outcomes := by
  induction h with
  | nil => cases hos
  | cons ht _ ih =>
    rcases List.mem_cons.mp hos with rfl | hos
    · exact ⟨_, .head _, ht⟩
    · obtain ⟨c, hc, htc⟩ := ih hos
      exact ⟨c, .tail _ hc, htc⟩

/-- A file passes exactly when all the unchecked files of the component that
holds it have been tested without errors. No other component's outcomes
matter, since no file is tested twice. -/
theorem mem_passing_iff (h : List.Forall₂ (env.Tests checked) components groups)
    (hnodup : (groups.flatten.map (·.file)).Nodup) :
    (∃ os ∈ groups, (∀ o ∈ os, o.errors = 0) ∧ f ∈ os.map (·.file)) ↔
      ∃ c ∈ components, f ∈ c.uncheckedFiles checked ∧
        ∀ x ∈ c.uncheckedFiles checked, ⟨x, 0⟩ ∈ groups.flatten := by
  constructor
  · rintro ⟨os, hos, hclean, hf⟩
    obtain ⟨c, hc, ht⟩ := exists_tested_component h hos
    refine ⟨c, hc, ht.files ▸ hf, fun x hx => ?_⟩
    rw [← ht.files] at hx
    obtain ⟨o, ho, rfl⟩ := List.mem_map.mp hx
    have hzero : (⟨o.file, 0⟩ : Outcome) = o := by rw [← hclean o ho]
    rw [hzero]
    exact List.mem_flatten_of_mem hos ho
  · rintro ⟨c, hc, hf, hclean⟩
    obtain ⟨os, hos, ht⟩ := exists_group h hc
    -- a file is tested once, so the clean outcome of a file is its only one
    refine ⟨os, hos, fun o ho => ?_, ht.files ▸ hf⟩
    have hfile : o.file ∈ c.uncheckedFiles checked := ht.files ▸ List.mem_map_of_mem ho
    have heq := List.inj_on_of_nodup_map hnodup (List.mem_flatten_of_mem hos ho)
      (hclean o.file hfile) rfl
    rw [heq]

/-! ## Testing -/

namespace Journal

/-- The numbers of errors are the checker's. -/
theorem Tested.answered (h : Tested env total before j outcomes j') {o : Outcome}
    (ho : o ∈ outcomes) : env.Answered o := by
  have hreply : (o.file, .ok (o.errors : Int)) ∈
      env.replies j.world (testEvents total before.length outcomes) := by
    rw [h.continues.replies]
    exact List.mem_map_of_mem ho
  exact env.exists_of_mem_replies hreply

/-- A check that succeeds has an outcome for the file, as the checker answers. -/
theorem checkOne_ok {file : String} {o : Outcome}
    (h : j.checkOne env number file = (.ok o, j')) : o.file = file ∧ env.Answered o := by
  obtain ⟨reply, j₁, hcont, -, ⟨n, rfl, hone⟩ | ⟨cause, -, hone⟩⟩ :=
    checkOne_cases env number file j
  all_goals cases hone.symm.trans h
  refine ⟨rfl, j.world, ?_⟩
  simpa [Environment.replies, Environment.reply] using hcont.replies

/-- Checking a file leaves the checked set alone, whether it succeeds or not. -/
theorem checked_checkOne (env : Environment σ) (number : Nat) (file : String) (j : Journal σ) :
    (j.checkOne env number file).2.checked = j.checked := by
  obtain ⟨reply, j₁, -, hkeep, ⟨n, -, hone⟩ | ⟨cause, -, hone⟩⟩ :=
    checkOne_cases env number file j
  all_goals
    rw [hone]
    exact hkeep

/-- Testing files checks none of them off. -/
theorem checked_checkFiles (env : Environment σ) (number total : Nat) (before : List Outcome)
    (outcomes : List Outcome) (files : List String) (j : Journal σ) :
    (j.checkFiles env number total before outcomes files).2.checked = j.checked := by
  obtain ⟨new, mid, htested, hends | ⟨file, cause, j₁, hone, hends⟩⟩ :=
    checkFiles_cases env number total before outcomes files j
  · rw [hends]
    exact htested.checked
  · have hkeep := checked_checkOne env number file
      (mid.note [.progress ((before ++ outcomes ++ new).length + 1) total])
    rw [hone] at hkeep
    rw [hends]
    exact hkeep.trans htested.checked

/-- **The unchecked files of a component are checked**, in order, unless one
of them cannot be. No file has been taken up before, so none is passed over on
that ground: those that are left when a check is refused begin with its file. -/
theorem checkFiles_order (env : Environment σ) (number total : Nat) (j : Journal σ)
    (hnodup : files.Nodup) (hfresh : ∀ o ∈ before ++ outcomes, o.file ∉ files) :
    ∃ new mid rest, Tested env total (before ++ outcomes) j new mid ∧
      new.map (·.file) ++ rest = files.filter (fun f => !j.checked.contains f) ∧
      (rest = [] ∧
          j.checkFiles env number total before outcomes files = (.ok (outcomes ++ new), mid) ∨
        ∃ file later cause j', rest = file :: later ∧
          (mid.note [.progress ((before ++ outcomes ++ new).length + 1) total]).checkOne env number
            file = (.error cause, j') ∧
          j.checkFiles env number total before outcomes files = (.error cause, j')) := by
  induction files generalizing outcomes j with
  | nil => exact ⟨[], j, [], .nil .., rfl, .inl ⟨rfl, by rw [List.append_nil]; rfl⟩⟩
  | cons file files ih =>
    obtain ⟨hfile, hnodup⟩ := List.nodup_cons.mp hnodup
    have hnew : (before ++ outcomes).any (·.file == file) = false := by
      rw [List.any_eq_false]
      intro o ho
      simpa using fun he : o.file = file => hfresh o ho (he ▸ List.mem_cons_self)
    have hrest : ∀ o ∈ before ++ outcomes, o.file ∉ files := fun o ho hmem =>
      hfresh o ho (.tail _ hmem)
    obtain ⟨hskip, hstep⟩ | ⟨-, hunchecked, hends⟩ :=
      checkFiles_cons env number total before outcomes file files j
    · rw [hnew, Bool.false_or] at hskip
      rw [hstep, List.filter_cons_of_neg (by simpa using hskip)]
      exact ih j hnodup hrest
    rw [List.filter_cons_of_pos (by simpa using hunchecked)]
    rcases hends with ⟨cause, j₁, hone, hstep⟩ | ⟨o, j₁, hone, htested, hstep⟩
    · exact ⟨[], j, _, .nil .., rfl,
        .inr ⟨file, _, cause, j₁, rfl, by rwa [List.append_nil], hstep⟩⟩
    · obtain ⟨hof, -⟩ := checkOne_ok hone
      have hfresh' : ∀ o' ∈ before ++ (outcomes ++ [o]), o'.file ∉ files := by
        intro o' ho'
        rw [← List.append_assoc, List.mem_append, List.mem_singleton] at ho'
        rcases ho' with ho' | rfl
        · exact hrest o' ho'
        · rwa [hof]
      obtain ⟨new, mid, rest, hmore, hfiles, hends⟩ := ih j₁ hnodup hfresh'
      rw [← List.append_assoc] at hmore hends
      rw [List.append_assoc outcomes, List.append_assoc (before ++ outcomes)] at hends
      rw [htested.checked] at hfiles
      rw [hstep]
      refine ⟨o :: new, mid, rest, htested.append hmore, ?_, hends⟩
      rw [List.map_cons, List.cons_append, hfiles, hof]

/-- **Components are tested one after the other**, as long as no two share a file:
all of them, with an outcome for each unchecked file, or up to a check that is
refused. -/
theorem checkComponents_order (env : Environment σ) (number total : Nat) (j : Journal σ)
    (hnodup : (components.flatMap (·.files)).Nodup)
    (hfresh : ∀ o ∈ found.tested, o.file ∉ components.flatMap (·.files)) :
    ∃ new mid rest, Tested env total found.tested j new mid ∧
      new.map (·.file) ++ rest = components.flatMap (·.uncheckedFiles j.checked.files) ∧
      ((∃ groups, rest = [] ∧ new = groups.flatten ∧
          List.Forall₂ (env.Tests j.checked.files) components groups ∧
          j.checkComponents env number total found components =
            (.ok (groups.foldl Findings.addComponent found), mid)) ∨
        ∃ file later cause j', rest = file :: later ∧
          (mid.note [.progress ((found.tested ++ new).length + 1) total]).checkOne env number
            file = (.error cause, j') ∧
          j.checkComponents env number total found components = (.error cause, j')) := by
  induction components generalizing found j with
  | nil => exact ⟨[], j, [], .nil .., rfl, .inl ⟨[], rfl, rfl, .nil, rfl⟩⟩
  | cons c components ih =>
    rw [List.flatMap_cons] at hnodup hfresh
    obtain ⟨hc, hnodup, hdisjoint⟩ := List.nodup_append'.mp hnodup
    have hfreshc : ∀ o ∈ found.tested ++ [], o.file ∉ c.files := fun o ho hmem =>
      hfresh o (by simpa using ho) (List.mem_append_left _ hmem)
    unfold checkComponents
    obtain ⟨outcomes, mid, rest, htested, hfiles, hends⟩ :=
      checkFiles_order env number total j hc hfreshc
    rw [List.append_nil] at htested hends
    rw [List.flatMap_cons]
    rcases hends with ⟨rfl, hok⟩ | ⟨file, later, cause, j', rfl, hone, herror⟩
    · rw [List.append_nil] at hfiles
      have htests : env.Tests j.checked.files c outcomes :=
        ⟨hfiles, fun o ho => htested.answered ho⟩
      -- what was just tested belongs to `c`, so not to a later component
      have hfresh' : ∀ o ∈ (found.addComponent outcomes).tested,
          o.file ∉ components.flatMap (·.files) := by
        intro o ho hmem
        rcases List.mem_append.mp ho with ho | ho
        · exact hfresh o ho (List.mem_append_right _ hmem)
        · have hfile : o.file ∈ c.uncheckedFiles j.checked.files :=
            htests.files ▸ List.mem_map_of_mem ho
          exact hdisjoint (List.mem_of_mem_filter hfile) hmem
      obtain ⟨new, mid', rest, hmore, hrest, hends⟩ := ih mid hnodup hfresh'
      rw [htested.checked] at hrest hends
      rw [hok]
      refine ⟨outcomes ++ new, mid', rest, htested.append hmore, ?_, ?_⟩
      · rw [List.map_append, List.append_assoc, hrest, htests.files]
      · rw [← List.append_assoc]
        rcases hends with ⟨groups, hnone, rfl, hgroups, hok'⟩ | hends
        · exact .inl ⟨outcomes :: groups, hnone, rfl, .cons htests hgroups, hok'⟩
        · exact .inr hends
    · rw [herror]
      refine ⟨outcomes, mid,
        file :: (later ++ components.flatMap (·.uncheckedFiles j.checked.files)), htested, ?_,
        .inr ⟨file, _, cause, j', rfl, hone, rfl⟩⟩
      rw [← List.cons_append, ← List.append_assoc, hfiles]
      rfl

/-- A session checks no file off. -/
theorem checked_session (env : Environment σ) (number : Nat) (frontier : List Component)
    (j : Journal σ) : (j.session env number frontier).2.checked = j.checked := by
  obtain ⟨total, j₁, hkeep, ⟨found, hends, -⟩ | ⟨cause, outcomes, file, reply, hends, -⟩⟩ :=
    session_cases env number frontier j
  all_goals
    rw [hends]
    exact hkeep

theorem testOrder_perm (frontier : List Component) : (testOrder frontier).Perm frontier :=
  List.mergeSort_perm _ _

/-- **What a session comes to, in order.** No two components share a file. The
unchecked files are tested component by component, all of them, or up to a check
that is refused. -/
theorem session_order (env : Environment σ) (number : Nat) {frontier : List Component}
    (j : Journal σ) (hnodup : (frontier.flatMap (·.files)).Nodup) :
    ∃ outcomes rest j', j'.checked = j.checked ∧
      outcomes.map (·.file) ++ rest =
        (testOrder frontier).flatMap (·.uncheckedFiles j.checked.files) ∧
      ((∃ groups, rest = [] ∧ outcomes = groups.flatten ∧
          List.Forall₂ (env.Tests j.checked.files) (testOrder frontier) groups ∧
          j.session env number frontier = (.ok (groups.foldl Findings.addComponent {}), j') ∧
          j.Continues env (sessionEvents (testEvents
            (Graph.countUnchecked frontier j.checked.files) 0 outcomes))
            (outcomes.map (·.reply)) j') ∨
        ∃ file later cause reply, rest = file :: later ∧
          j.session env number frontier = (.error cause, j') ∧
          j.Continues env (sessionEvents (refusedEvents
            (Graph.countUnchecked frontier j.checked.files) outcomes file))
            (outcomes.map (·.reply) ++ [(file, reply)]) j' ∧
          Refusal number file reply cause) := by
  have hnodup' : ((testOrder frontier).flatMap (·.files)).Nodup :=
    ((testOrder_perm frontier).flatMap_right _).nodup_iff.mpr hnodup
  have hnone : ∀ o ∈ ({} : Findings).tested, o.file ∉ (testOrder frontier).flatMap (·.files) := by
    simp
  obtain ⟨outcomes, mid, rest, htested, hfiles, hends⟩ := checkComponents_order env number
    (Graph.countUnchecked frontier j.checked.files) (j.opened env) hnodup' hnone
  rcases hends with ⟨groups, hrest, rfl, hgroups, hok⟩ |
    ⟨file, later, cause, j₁, hrest, hone, herror⟩
  · have hall : (groups.foldl Findings.addComponent {}).tested = groups.flatten :=
      Findings.tested_foldl groups {}
    rw [← hall] at htested
    obtain ⟨j', hkeep, hsession, hcont⟩ := session_of_tested rfl htested hok
    rw [hall] at hcont
    exact ⟨_, rest, j', hkeep, hfiles, .inl ⟨groups, hrest, rfl, hgroups, hsession, hcont⟩⟩
  · obtain ⟨reply, j', hkeep, hsession, hcont, hrefused⟩ :=
      session_of_refused rfl htested hone herror
    exact ⟨outcomes, rest, j', hkeep, hfiles,
      .inr ⟨file, later, cause, reply, hrest, hsession, hcont, hrefused⟩⟩

/-- What a session that succeeds has found, component by component. -/
theorem session_ok {frontier : List Component}
    (h : j.session env number frontier = (.ok found, j'))
    (hnodup : (frontier.flatMap (·.files)).Nodup) :
    ∃ groups, List.Forall₂ (env.Tests j.checked.files) (testOrder frontier) groups ∧
      found = groups.foldl Findings.addComponent {} := by
  obtain ⟨outcomes, rest, j₁, -, -, ⟨groups, -, -, hgroups, hsession, -⟩ |
    ⟨file, later, cause, reply, -, hsession, -⟩⟩ := session_order env number j hnodup
  all_goals cases hsession.symm.trans h
  exact ⟨groups, hgroups, rfl⟩

end Journal

/-! ## Sessions succeed -/

/-- The checker answers every file, with a number of errors. -/
def Environment.Answers (env : Environment σ) : Prop :=
  ∀ file w, ∃ n : Nat, (env.check file w).1 = .ok (n : Int)

/-- Where the checker answers every file, there is no fault among its replies. -/
theorem Environment.Answers.not_isFault {events : List Event} {w : σ} {file : String}
    {reply : Except Failure Int} (h : env.Answers)
    (hreply : (file, reply) ∈ env.replies w events) : ¬ IsFault reply := by
  obtain ⟨w', rfl⟩ := Environment.exists_of_mem_replies hreply
  obtain ⟨n, hn⟩ := h file w'
  rw [hn]
  exact Outcome.not_isFault ⟨file, n⟩

/-- A session succeeds where the checker answers. -/
theorem Journal.exists_session (h : env.Answers) (number : Nat) (frontier : List Component)
    (j : Journal σ) : ∃ found j', j.session env number frontier = (.ok found, j') := by
  obtain ⟨total, j₁, -, ⟨found, hends, -⟩ | ⟨cause, outcomes, file, reply, -, hcont, hrefusal⟩⟩ :=
    session_cases env number frontier j
  · exact ⟨found, j₁, hends⟩
  · have hreply : (file, reply) ∈ outcomes.map (·.reply) ++ [(file, reply)] := by simp
    rw [← hcont.replies] at hreply
    exact absurd hrefusal.isFault (h.not_isFault hreply)

end Ratchet
