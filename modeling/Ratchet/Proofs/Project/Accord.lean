import Ratchet.Project.Migration
import Ratchet.Proofs.AllowList.Revision
import Ratchet.Proofs.Campaign.Abort
import Ratchet.Proofs.Campaign.Bound
import Ratchet.Proofs.Campaign.Replay
import Ratchet.Proofs.Survey.Settled

/-!
# The campaign and its allow-list

A campaign on a project keeps what is checked twice: in its journal, and in the
document of the allow-list. On a project that nobody edits the two agree between any
two rounds. What a campaign commits are tracked files, each of which the allow-list
names in one way only and reads back; and writing the document changes nothing that
the surveyor looks at once it has made its first survey.

* `Ready`: the projects that this is true of.
* `InStep`: agreement, with what a later round needs of the files and the surveyor.
* `InStep.pass`: a pass keeps it, by way of `InStep.scan` and `InStep.add`.
* `inStep_of_reached`: it holds whenever a run stands between two rounds.
-/

namespace Ratchet

open Ratchet.Graph (Condensation ImportMap)

variable {σ : Type} {p : Project} {a : AllowList} {checker : Checker (FileSystem × σ)}
  {poll : FileSystem × σ → Bool × FileSystem × σ} {first fs fs' : FileSystem}
  {w w' : Worksite σ} {checked checked' : CheckedSet} {events : List Event}
  {files listing : List String} {f : String}

/-! ## What is done outside -/

/-- **The checker changes no file.** -/
structure Checker.SparesFiles (checker : Checker (FileSystem × σ)) : Prop where
  start (w : FileSystem × σ) : (checker.start w).1 = w.1
  check (file : String) (w : FileSystem × σ) : (checker.check file w).2.1 = w.1
  stop (w : FileSystem × σ) : (checker.stop w).1 = w.1

namespace Worksite

theorem scan_fs (w : Worksite σ) : w.scan.2.fs = w.fs := by
  rw [scan]
  split <;> rfl

/-- A commit that succeeds adds to the allow-list and leaves the surveyor. -/
theorem commit_eq_ok (h : commit a files w = (.ok (), w')) :
    w'.surveyor = w.surveyor ∧ ∃ written, a.add w.fs files = .ok (written, w'.fs) := by
  rw [commit] at h
  split at h
  · cases h
  · rename_i written fs' hadd
    cases h
    exact ⟨rfl, written, hadd⟩

/-- Only commits change the files. -/
theorem fs_performAll (hchecker : checker.SparesFiles) (w : Worksite σ)
    (hevents : recordings events = []) :
    ((environment a checker poll).performAll w events).fs = w.fs := by
  induction events generalizing w with
  | nil => rfl
  | cons e events ih =>
    have hstep : (environment a checker poll).performAll w (e :: events) =
        (environment a checker poll).performAll ((environment a checker poll).perform w e)
          events := rfl
    cases e with
    | commit files => cases hevents
    | scan => exact (ih _ hevents).trans w.scan_fs
    | start => exact (ih _ hevents).trans (hchecker.start _)
    | progress done total => exact ih _ hevents
    | check file => exact (ih _ hevents).trans (hchecker.check file _)
    | stop => exact (ih _ hevents).trans (hchecker.stop _)

/-- Only scans change the surveyor. -/
theorem surveyor_performAll (w : Worksite σ) (hevents : events.count .scan = 0) :
    ((environment a checker poll).performAll w events).surveyor = w.surveyor := by
  induction events generalizing w with
  | nil => rfl
  | cons e events ih =>
    have hrest : events.count .scan = 0 :=
      Nat.eq_zero_of_le_zero ((List.count_le_count_cons).trans hevents.le)
    have hone : ((environment a checker poll).perform w e).surveyor = w.surveyor := by
      cases e with
      | scan => simp at hevents
      | commit files =>
        change (commit a files w).2.surveyor = w.surveyor
        rw [commit]
        split <;> rfl
      | start | progress | check | stop => rfl
    exact (ih _ hrest).trans hone

end Worksite

/-! ## Ready projects -/

/-- **A project as a campaign may find it**: a tree as it can be, and an allow-list
that excludes nothing and is no tracked file itself. -/
structure Project.Ready (p : Project) (a : AllowList) (fs : FileSystem) : Prop where
  proper : fs.Proper
  named : fs.Named
  allowList : p.allowList fs = .ok a
  unexcluded : a.Unexcluded fs
  untracked : isTracked p.languages a.path = false

namespace Project.Ready

variable (h : p.Ready a fs)

include h

/-- The allow-list is found again from the same working directory. -/
theorem allowList_congr (hcwd : fs'.cwd = fs.cwd) : p.allowList fs' = .ok a := by
  rw [← h.allowList]
  simp only [Project.allowList, AllowList.atPath, FileSystem.resolve_congr hcwd]

theorem exists_path : ∃ parts, a.path = .ofParts parts ∧ ".." ∉ parts :=
  AllowList.atPath_eq_ok h.allowList h.proper.cwd

/-- The tracked files are named as the allow-list names them. -/
theorem isCanonical (htracked : p.tracked fs = .ok listing) (hf : f ∈ listing) :
    a.IsCanonical fs f := by
  refine isCanonical_of_discover h.proper h.named htracked hf fun q hq => ?_
  obtain ⟨place, -, hlist⟩ := Outcome.bind_eq_ok.mp h.allowList
  cases hlist
  -- in no language there is no tracked file
  have hsome : p.languages ≠ [] := by
    intro hnone
    rw [hnone] at hq
    cases hq
  rwa [if_neg hsome]

end Project.Ready

/-! ## In step -/

/-- The surveyor has settled on the imports that a project had in some state. -/
def Surveyor.SettledAt (s : Surveyor) (p : Project) (first : FileSystem) : Prop :=
  ∃ listing imports, p.tracked first = .ok listing ∧ p.imports first = .ok imports ∧
    s.project = p ∧ s.Settled listing imports

namespace Worksite

/-- **The allow-list is in step** with the checked files, on a project that was
first found in some state. Nothing but the allow-list has changed since, and the
surveyor is new or has settled on the imports of then. -/
structure InStep (p : Project) (a : AllowList) (first : FileSystem) (w : Worksite σ)
    (checked : CheckedSet) : Prop where
  proper : w.fs.Proper
  extendsAt : first.ExtendsAt a.path.parts w.fs
  alike : first.isFile a.path = .ok true → first.Alike w.fs
  tracked : p.tracked w.fs = p.tracked first
  unexcluded : a.Unexcluded w.fs
  stored : ∃ stored, a.load w.fs = .ok stored ∧ ∀ f, f ∈ stored ↔ f ∈ checked.files
  surveyor : Surveyor.new first p = .ok w.surveyor ∧ w.fs = first ∨ w.surveyor.SettledAt p first

/-- A campaign starts in step. -/
theorem inStep_of_load {surveyor : Surveyor} {rest : σ} (hready : p.Ready a first)
    (hnew : Surveyor.new first p = .ok surveyor) (hload : a.load first = .ok files) :
    InStep p a first { fs := first, surveyor, rest } (.ofList files) where
  proper := hready.proper
  extendsAt := .refl _ first
  alike _ := ⟨fun _ => rfl, rfl⟩
  tracked := rfl
  unexcluded := hready.unexcluded
  stored := ⟨files, hload, fun _ => CheckedSet.mem_ofList.symm⟩
  surveyor := .inl ⟨hnew, rfl⟩

namespace InStep

variable (h : InStep p a first w checked)

include h

/-- It is told from the files, the surveyor and the checked files. -/
theorem congr (hfs : w'.fs = w.fs) (hsurveyor : w'.surveyor = w.surveyor)
    (hchecked : ∀ f, f ∈ checked'.files ↔ f ∈ checked.files) : InStep p a first w' checked' where
  proper := hfs ▸ h.proper
  extendsAt := hfs ▸ h.extendsAt
  alike := hfs ▸ h.alike
  tracked := hfs ▸ h.tracked
  unexcluded := hfs ▸ h.unexcluded
  stored := by
    obtain ⟨stored, hload, hmem⟩ := h.stored
    exact ⟨stored, hfs ▸ hload, fun f => (hmem f).trans (hchecked f).symm⟩
  surveyor := by
    rw [hfs, hsurveyor]
    exact h.surveyor

theorem project_eq : w.surveyor.project = p :=
  h.surveyor.elim (fun hfirst => Surveyor.project_of_new hfirst.1)
    fun ⟨_, _, _, _, hproject, _⟩ => hproject

/-- A scan succeeds where the tracked files could be listed at first. -/
theorem exists_scan (hlisting : p.tracked first = .ok listing) :
    ∃ g w', w.scan = (.ok g, w') := by
  have htracked : w.surveyor.project.tracked w.fs = .ok listing := by
    rw [h.project_eq, h.tracked, hlisting]
  obtain ⟨v, hv, -⟩ := Surveyor.survey_eq htracked
  rw [Worksite.scan, hv]
  exact ⟨_, _, rfl⟩

/-- **A scan finds the imports of the first state**, and settles the surveyor. -/
theorem scan {g : Condensation} (hscan : w.scan = (.ok g, w')) :
    (∃ imports, p.imports first = .ok imports ∧ g = imports.condense) ∧
      w'.surveyor.SettledAt p first := by
  obtain ⟨v, s', hv, rfl, rfl⟩ : ∃ v s', w.surveyor.survey w.fs = .ok (v, s') ∧
      v.components = g ∧ w'.surveyor = s' := by
    rw [Worksite.scan] at hscan
    split at hscan
    · cases hscan
    · rename_i v s' hv
      cases hscan
      exact ⟨v, s', hv, rfl, rfl⟩
  obtain ⟨hnew, hfirst⟩ | ⟨listing, imports, hlisting, himports, hproject, hsettled⟩ := h.surveyor
  · -- the first survey
    rw [hfirst] at hv
    have hproject := Surveyor.project_of_new hnew
    have htracked : p.tracked first = .ok v.files := hproject ▸ Surveyor.tracked_of_survey hv
    have himports : p.imports first = .ok v.graph.imports :=
      Project.imports_eq_ok.mpr ⟨w.surveyor, v, _, hnew, hv, rfl⟩
    exact ⟨⟨_, himports, (Surveyor.graph_of_survey hv).2⟩, v.files, _, htracked, himports,
      (Surveyor.survey_ok hv).1.trans hproject, Surveyor.settled_of_survey hv⟩
  · -- any later one
    have htracked : w.surveyor.project.tracked w.fs = .ok listing := by
      rw [h.project_eq, h.tracked, hlisting]
    obtain ⟨v', hv', hcomponents⟩ := hsettled.survey htracked
    obtain ⟨rfl, hsame⟩ := Prod.mk.inj (Except.ok.inj (hv.symm.trans hv'))
    rw [hsame]
    exact ⟨⟨imports, himports, hcomponents⟩, listing, imports, hlisting, himports, hproject,
      hsettled⟩

/-- **Recording tracked files keeps in step.** -/
theorem add (hready : p.Ready a first) (hlisting : p.tracked first = .ok listing)
    (hne : files ≠ []) (hfiles : ∀ f ∈ files, f ∈ listing) {written : List String}
    (hadd : a.add w.fs files = .ok (written, w'.fs)) (hsettled : w'.surveyor.SettledAt p first)
    (hchecked : ∀ f, f ∈ checked'.files ↔ f ∈ checked.files ∨ f ∈ files) :
    InStep p a first w' checked' := by
  obtain ⟨parts, hpath, hup⟩ := hready.exists_path
  obtain ⟨stored, hload, hmem⟩ := h.stored
  have hcanonical : ∀ f ∈ files, a.IsCanonical w.fs f := fun f hf =>
    (hready.isCanonical hlisting (hfiles f hf)).congr h.extendsAt.cwd
  obtain ⟨hproper, -⟩ := AllowList.proper_add hpath hup h.proper hadd
  obtain ⟨hunexcluded, stored', hload', hmem'⟩ :=
    AllowList.load_add_of_unexcluded hpath hup h.proper h.unexcluded hload hcanonical hadd
  have hextends : first.ExtendsAt a.path.parts w'.fs := h.extendsAt.trans <| by
    rw [hpath]
    exact AllowList.extendsAt_add hpath hup hadd
  refine ⟨hproper, hextends, fun hfile => ?_, ?_, hunexcluded, ⟨stored', hload', fun f => ?_⟩,
    .inr hsettled⟩
  · -- the document was there from the start, so writing it keeps the shape
    have halike := h.alike hfile
    rw [halike.isFile] at hfile
    obtain ⟨-, n, hn, hfile⟩ := FileSystem.ask_eq_true.mp hfile
    cases n with
    | directory es => cases hfile
    | file content executable =>
      exact halike.trans (AllowList.alike_add_of_find hpath hup hn hadd hne)
  · obtain ⟨f, hf⟩ := List.exists_mem_of_ne_nil files hne
    rw [hlisting]
    -- the document has been written, so its path is not too long
    have hshort : ¬ w'.fs.IsTooLong (.ofParts a.path.parts) := by
      rw [hpath]
      exact AllowList.not_isTooLong_add hpath hup hadd hne
    exact discover_extends hready.proper hready.named hproper hextends hshort
      (by rw [hpath]; exact hpath ▸ hready.untracked) hlisting (hfiles f hf)
  · rw [hmem', hchecked, hmem]

/-- Where the document of the allow-list was there from the start, a new surveyor
still finds the same imports. -/
theorem imports {m : ImportMap} (hready : p.Ready a first) (hfile : first.isFile a.path = .ok true)
    (himports : p.imports first = .ok m) : p.imports w.fs = .ok m := by
  have halike := h.alike hfile
  refine Project.imports_alike halike h.tracked (fun f hf => ?_) himports
  obtain ⟨listing, hlisting, hmem⟩ := Project.lists_iff.mp hf
  exact read_extends hready.proper h.proper hready.named halike h.extendsAt
    hready.untracked hlisting hmem

end InStep

/-! ## A run in step -/

variable {j j' : Journal (Worksite σ)} {number : Nat} {report : PassReport}
  {maxPasses : Option Nat} {m : Migration} {start : Worksite σ}

/-- A pass that commits nothing changes no file. -/
theorem fs_of_pass (hchecker : checker.SparesFiles)
    (hpass : j.pass (environment a checker poll) number = (.ok report, j'))
    (hnone : report.committed = []) : j'.world.fs = j.world.fs := by
  obtain ⟨haccounts, -⟩ := Journal.accountsFor_of_pass hpass
  obtain ⟨total, hcont⟩ := haccounts.continues
  rw [hcont.world]
  refine fs_performAll hchecker j.world ?_
  rw [report.recordings_events, hnone]
  rfl

/-- **A pass keeps in step**: what it commits is tracked, and is recorded. -/
theorem InStep.pass (h : InStep p a first j.world j.checked) (hready : p.Ready a first)
    (hchecker : checker.SparesFiles)
    (hpass : j.pass (environment a checker poll) number = (.ok report, j')) :
    InStep p a first j'.world j'.checked ∧ ∃ imports, p.imports first = .ok imports ∧
      ((environment a checker poll).scan j.world).1 = .ok imports.condense := by
  obtain ⟨g, w, hscan, hdescribes, hchecked⟩ := Journal.pass_ok hpass
  obtain ⟨⟨imports, himports, rfl⟩, hsettled⟩ := h.scan hscan
  refine ⟨?_, imports, himports, congrArg Prod.fst hscan⟩
  obtain ⟨haccounts, hrecorded⟩ := Journal.accountsFor_of_pass hpass
  obtain ⟨total, hcont⟩ := haccounts.continues
  -- the surveyor is the one that the scan has left
  have hsurveyor : j'.world.surveyor = w.surveyor := by
    have hcount := Journal.count_scan_events report total
    rw [hcont.world]
    rw [PassReport.events, PassReport.testingEvents, List.cons_append, List.count_cons_self,
      Nat.add_eq_right] at hcount
    have hw : ((environment a checker poll).perform j.world .scan) = w := congrArg Prod.snd hscan
    rw [← hw]
    exact surveyor_performAll _ hcount
  rw [← hsurveyor] at hsettled
  by_cases hnone : report.committed = []
  · -- nothing is recorded
    have hsame : ∀ f, f ∈ j'.checked.files ↔ f ∈ j.checked.files := by
      intro f
      rw [hchecked, hnone]
      simp
    have hkeep : InStep p a first { j'.world with surveyor := j.world.surveyor } j'.checked :=
      h.congr (fs_of_pass hchecker hpass hnone) rfl hsame
    exact { hkeep with surveyor := .inr hsettled }
  · obtain ⟨total', hcommit⟩ := hrecorded.resolve_left hnone
    obtain ⟨-, written, hadd⟩ := commit_eq_ok hcommit
    rw [fs_performAll hchecker j.world (report.recordings_testingEvents total')] at hadd
    obtain ⟨listing, -, hlisting, -⟩ := id hsettled
    refine h.add hready hlisting hnone (fun f hf => ?_) hadd hsettled hchecked
    -- what is committed was tested, so it lies in a component
    have hq := imports.isQuotientOf_condense
    obtain ⟨-, c, hc, hfc, -⟩ := ((hdescribes hq.nodup_files).mem_committed_iff hq).mp hf
    exact (Project.mem_files_of_imports himports hlisting).mp (hq.mem_files.mpr ⟨c, hc, hfc⟩)

theorem InStep.polled {before : Journal (Worksite σ)} {stopped : Bool}
    (hpoll : ∀ w, (poll w).2.1 = w.1) (h : InStep p a first j.world j.checked)
    (hpolled : (environment a checker poll).pollStop j = (stopped, before)) :
    InStep p a first before.world before.checked := by
  obtain rfl : ((environment a checker poll).pollStop j).2 = before := congrArg Prod.snd hpolled
  exact h.congr (hpoll _) rfl fun _ => Iff.rfl

/-- **Between two rounds the allow-list is in step.** -/
theorem inStep_of_reached {surveyor : Surveyor} {rest : σ} (hready : p.Ready a first)
    (hchecker : checker.SparesFiles) (hpoll : ∀ w, (poll w).2.1 = w.1)
    (hnew : Surveyor.new first p = .ok surveyor)
    (h : (environment a checker poll).Reached maxPasses { fs := first, surveyor, rest } m j) :
    InStep p a first j.world j.checked := by
  refine h.induction (P := fun _ j => InStep p a first j.world j.checked) ?_ ?_
  · intro files w hload
    obtain ⟨hfiles, rfl⟩ := Prod.mk.inj hload
    exact inStep_of_load hready hnew hfiles
  · intro m j m' j' hstep hround
    obtain ⟨before, report, hpolled, -, hpass, -, -⟩ := Environment.round_going hround
    exact ((hstep.polled hpoll hpolled).pass hready hchecker hpass).1

end Worksite

end Ratchet
