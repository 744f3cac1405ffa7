import Mathlib.Data.List.Flatten
import Ratchet.Proofs.Campaign.Session
import Ratchet.Proofs.Graph.Frontier

/-!
# What a pass does

A pass scans, tests the frontier in a session, and commits what is clean. Its
report tells all of it: which files were tested, with what outcome, and which
were committed.

* `Describes`: what a report tells of a pass over given components.
* `pass_ok`: what a completed pass reports and leaves behind.
* `mem_committed_iff`: which files are committed, in terms of the imports.
* `exists_pass`: a pass completes when nothing it calls fails.
-/

namespace Ratchet

open Ratchet.Graph (Condensation Component ImportMap testOrder)

variable {σ : Type} {env : Environment σ} {j j' before after : Journal σ} {number : Nat}
  {report : PassReport} {imports : ImportMap} {g : Condensation} {c : Component}
  {files checked : List String} {f : String}

/-! ## Committing -/

namespace Journal

/-- A commit adds the files that were missing. -/
theorem commit_ok {committed : List String}
    (h : j.commit env files = (.ok committed, j')) :
    committed = j.checked.missing files ∧
      ∀ f, f ∈ j'.checked.files ↔ f ∈ j.checked.files ∨ f ∈ committed := by
  rw [Journal.commit] at h
  split at h
  · rename_i hempty
    obtain rfl : files = [] := by simpa using hempty
    cases h
    exact ⟨rfl, by simp⟩
  · have hfst : Except.map (fun _ => j.checked.missing files)
        (env.commit (j.checked.missing files) j.world).1 = .ok committed :=
      congrArg Prod.fst h
    have hsnd : (j.checked.insertAll files).2 = j'.checked :=
      congrArg (fun r => r.2.checked) h
    cases hw : (env.commit (j.checked.missing files) j.world).1 with
    | error cause =>
      rw [hw] at hfst
      cases hfst
    | ok _ =>
      rw [hw] at hfst
      cases hfst
      exact ⟨rfl, fun f => hsnd ▸ CheckedSet.mem_insertAll⟩

end Journal

/-! ## The pass -/

/-- **What a report tells of a pass** over given components, with given files
checked before: each unchecked file of the frontier was tested once, and
committed when its component came out clean. -/
structure PassReport.Describes (p : PassReport) (env : Environment σ) (g : Condensation)
    (checked : List String) : Prop where
  /-- The unchecked files of the frontier are tested, component by component. -/
  tested : p.tested.map (·.file) =
    (testOrder (g.eligible checked)).flatMap (·.uncheckedFiles checked)
  /-- No file is tested twice. -/
  nodup_tested : (p.tested.map (·.file)).Nodup
  /-- The numbers of errors are the checker's. -/
  answered : ∀ o ∈ p.tested, env.Answered o
  /-- The files of the components that came out clean are committed. -/
  mem_committed {f : String} : f ∈ p.committed ↔
    ∃ c ∈ g.eligible checked, f ∈ c.uncheckedFiles checked ∧
      ∀ x ∈ c.uncheckedFiles checked, ⟨x, 0⟩ ∈ p.tested
  /-- They are listed in ascending order. -/
  pairwise_committed : p.committed.Pairwise (· < ·)

/-- The tested files are the unchecked ones on the frontier. -/
theorem PassReport.Describes.mem_tested {p : PassReport} {g : Condensation}
    (h : p.Describes env g checked) :
    f ∈ p.tested.map (·.file) ↔ ∃ c ∈ g.eligible checked, f ∈ c.uncheckedFiles checked := by
  rw [h.tested, List.mem_flatMap]
  simp only [(Journal.testOrder_perm _).mem_iff]

/-- A session over the frontier and a commit of what passes in it are described
by their report. -/
theorem PassReport.describes_of_tests {groups : List (List Outcome)} {s : CheckedSet}
    (hgroups : List.Forall₂ (env.Tests s.files) (testOrder (g.eligible s.files)) groups)
    (hnodup : ((g.eligible s.files).flatMap (·.files)).Nodup)
    (htested : report.tested = groups.flatten)
    (hcommitted : report.committed =
      s.missing (groups.foldl Findings.addComponent {}).passing) :
    report.Describes env g s.files := by
  have hunique : (groups.flatten.map (·.file)).Nodup := by
    rw [map_file_flatten hgroups]
    refine ((Journal.testOrder_perm _).flatMap_right _).nodup_iff.mpr
      (hnodup.sublist (List.Sublist.flatMap_right _ fun c _ => ?_))
    exact Component.uncheckedFiles_sublist
  refine ⟨?_, ?_, ?_, ?_, ?_⟩
  · rw [htested, map_file_flatten hgroups]
  · rw [htested]
    exact hunique
  · rw [htested]
    exact fun o => answered_of_mem_flatten hgroups
  · intro f
    rw [htested, hcommitted, CheckedSet.mem_missing, Findings.mem_passing_foldl,
      mem_passing_iff hgroups hunique]
    simp only [List.not_mem_nil, false_or, (Journal.testOrder_perm _).mem_iff]
    constructor
    · exact fun h => h.1
    · rintro ⟨c, hc, hf, hclean⟩
      exact ⟨⟨c, hc, hf, hclean⟩, (Component.mem_uncheckedFiles.mp hf).2⟩
  · rw [hcommitted]
    exact pairwise_ascending _

namespace Journal

/-- A pass that cannot scan ends there. -/
theorem exists_pass_eq_error {cause : Failure} (hscan : (env.scan j.world).1 = .error cause)
    (number : Nat) :
    ∃ j' : Journal σ, j.pass env number = (.error cause, j') ∧ j.Continues env [.scan] [] j' ∧
      j'.checked = j.checked ∧ j'.phase = .scanning := by
  refine ⟨{ j with world := (env.scan j.world).2, phase := .scanning }.note [.scan], ?_,
    ⟨rfl, rfl, rfl⟩, rfl, rfl⟩
  unfold pass
  rcases hw : env.scan j.world with ⟨scanned, w⟩
  rw [hw] at hscan
  obtain rfl : scanned = .error cause := hscan
  rfl

/-- What a pass does when it has scanned. -/
theorem exists_pass_eq (hscan : (env.scan j.world).1 = .ok g) (number : Nat) :
    ∃ opened : Journal σ, opened.checked = j.checked ∧ j.Continues env [.scan] [] opened ∧
      j.pass env number =
        match opened.session env number (g.eligible j.checked.files) with
        | (.error cause, j) => (.error cause, j)
        | (.ok found, j₁) =>
          match j₁.commit env found.passing with
          | (.error cause, j) => (.error cause, j)
          | (.ok committed, j₂) =>
            (.ok ⟨number, (g.eligible j.checked.files).length, found.tested, committed⟩, j₂) := by
  refine ⟨{ j with world := (env.scan j.world).2, phase := .scanning }.note [.scan], rfl,
    ⟨rfl, rfl, rfl⟩, ?_⟩
  unfold pass
  rcases hw : env.scan j.world with ⟨scanned, w⟩
  rw [hw] at hscan
  obtain rfl : scanned = .ok g := hscan
  rfl

/-- **A completed pass**: its report describes it, and exactly the files
committed are checked anew. -/
theorem pass_ok {report : PassReport} (h : j.pass env number = (.ok report, j')) :
    ∃ g w, env.scan j.world = (.ok g, w) ∧
      ((g.components.flatMap (·.files)).Nodup → report.Describes env g j.checked.files) ∧
      ∀ f, f ∈ j'.checked.files ↔ f ∈ j.checked.files ∨ f ∈ report.committed := by
  rcases hscan : env.scan j.world with ⟨scanned, w⟩
  cases scanned with
  | error cause =>
    obtain ⟨j₁, hpass, -⟩ := exists_pass_eq_error (congrArg Prod.fst hscan) number
    cases hpass.symm.trans h
  | ok g =>
    refine ⟨g, w, rfl, ?_⟩
    obtain ⟨opened, hopened, -, hpass⟩ := exists_pass_eq (congrArg Prod.fst hscan) number
    rw [hpass] at h
    rcases hsession : opened.session env number (g.eligible j.checked.files) with ⟨answer, j₁⟩
    have hkeep := checked_session env number (g.eligible j.checked.files) opened
    rw [hsession] at h hkeep
    cases answer with
    | error cause => cases h
    | ok found =>
      rcases hcommit : j₁.commit env found.passing with ⟨answer, j₂⟩
      simp only [hcommit] at h
      cases answer with
      | error cause => cases h
      | ok committed =>
        cases h
        obtain ⟨rfl, hchecked⟩ := commit_ok hcommit
        rw [show j₁.checked = j.checked from hkeep.trans hopened] at hchecked ⊢
        refine ⟨fun hnodup => ?_, hchecked⟩
        have hfiles : ((g.eligible j.checked.files).flatMap (·.files)).Nodup :=
          hnodup.sublist (List.filter_sublist.flatMap _)
        obtain ⟨groups, hgroups, rfl⟩ := session_ok hsession hfiles
        rw [hopened] at hgroups
        exact PassReport.describes_of_tests hgroups hfiles (Findings.tested_foldl groups {}) rfl

/-- A report bears the number of its pass. -/
theorem number_pass {report : PassReport} (h : j.pass env number = (.ok report, j')) :
    report.number = number := by
  unfold pass at h
  simp only at h
  split at h
  · cases h
  · split at h
    · cases h
    · split at h
      · cases h
      · cases h
        rfl

end Journal

/-! ## What a pass commits -/

namespace PassReport.Describes

/-- **Which files are committed**: the unchecked files of the components whose
dependencies are checked and whose unchecked files all came out clean. -/
theorem mem_committed_iff (h : report.Describes env g checked) (hq : g.IsQuotientOf imports) :
    f ∈ report.committed ↔ f ∉ checked ∧ ∃ c ∈ g.components, f ∈ c.files ∧
      g.DependenciesChecked checked c ∧ ∀ x ∈ c.files, x ∉ checked → ⟨x, 0⟩ ∈ report.tested := by
  rw [h.mem_committed]
  constructor
  · rintro ⟨c, hc, hf, hclean⟩
    obtain ⟨hc, -, hdeps⟩ := hq.mem_eligible.mp hc
    obtain ⟨hf, hnot⟩ := Component.mem_uncheckedFiles.mp hf
    exact ⟨hnot, c, hc, hf, hdeps, fun x hx hxn =>
      hclean x (Component.mem_uncheckedFiles.mpr ⟨hx, hxn⟩)⟩
  · rintro ⟨hnot, c, hc, hf, hdeps, hclean⟩
    refine ⟨c, hq.mem_eligible.mpr ⟨hc, ⟨f, hf, hnot⟩, hdeps⟩,
      Component.mem_uncheckedFiles.mpr ⟨hf, hnot⟩, fun x hx => ?_⟩
    obtain ⟨hx, hxn⟩ := Component.mem_uncheckedFiles.mp hx
    exact hclean x hx hxn

/-- A component is committed as a whole, and only after all that it imports. -/
theorem component_of_mem_committed (h : report.Describes env g checked)
    (hq : g.IsQuotientOf imports) (hf : f ∈ report.committed) (hc : c ∈ g.components)
    (hfc : f ∈ c.files) :
    (∀ x ∈ c.files, x ∈ checked ∨ x ∈ report.committed) ∧ g.DependenciesChecked checked c := by
  obtain ⟨-, e, he, hfe, hdeps, hclean⟩ := (h.mem_committed_iff hq).mp hf
  obtain rfl := hq.component_unique hc he hfc hfe
  refine ⟨fun x hx => ?_, hdeps⟩
  by_cases hxn : x ∈ checked
  · exact Or.inl hxn
  · exact Or.inr ((h.mem_committed_iff hq).mpr ⟨hxn, c, hc, hx, hdeps, hclean⟩)

end PassReport.Describes

/-- A completed pass over the components of an import map. -/
theorem Journal.pass_condense {number : Nat} (h : before.pass env number = (.ok report, after))
    (hscan : (env.scan before.world).1 = .ok imports.condense) :
    report.Describes env imports.condense before.checked.files ∧
      ∀ f, f ∈ after.checked.files ↔ f ∈ before.checked.files ∨ f ∈ report.committed := by
  obtain ⟨g, w, hg, hdescribes, hchecked⟩ := Journal.pass_ok h
  rw [hg] at hscan
  cases hscan
  exact ⟨hdescribes imports.isQuotientOf_condense.nodup_files, hchecked⟩

/-! ## Passes complete -/

/-- Recording files as checked never fails. -/
def Environment.Records (env : Environment σ) : Prop :=
  ∀ files w, (env.commit files w).1 = .ok ()

namespace Journal

/-- A commit succeeds where recording does. -/
theorem exists_commit (h : env.Records) (files : List String) (j : Journal σ) :
    ∃ committed j', j.commit env files = (.ok committed, j') := by
  rw [Journal.commit]
  split
  · exact ⟨_, _, rfl⟩
  · refine ⟨j.checked.missing files, _, Prod.ext ?_ rfl⟩
    exact congrArg (Except.map fun _ => j.checked.missing files) (h _ _)

/-- **A pass completes** when the scan and the commit succeed and the checker
answers every file. -/
theorem exists_pass {g : Condensation} (hanswers : env.Answers) (hrecords : env.Records)
    (hscan : (env.scan j.world).1 = .ok g) (number : Nat) :
    ∃ report j', j.pass env number = (.ok report, j') := by
  obtain ⟨opened, -, -, hpass⟩ := exists_pass_eq hscan number
  obtain ⟨found, j₁, hsession⟩ := exists_session hanswers number (g.eligible j.checked.files) opened
  obtain ⟨committed, j₂, hcommit⟩ := exists_commit hrecords found.passing j₁
  rw [hpass, hsession]
  simp only [hcommit]
  exact ⟨_, _, rfl⟩

end Journal

end Ratchet
