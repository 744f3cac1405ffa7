import Ratchet.Proofs.Project.Accord

/-!
# Migrations that have come to rest

When a migration has finished of its own, its last pass has committed nothing. A
second migration begins with the same files checked; where it finds the same
imports, its first pass is that last pass made again, so it is the only one. What a
new surveyor finds may differ for one reason: recording files makes the directories
that lead to the allow-list, and imports may go by way of them.

* `AtRest`: there is nothing left to do.
* `exists_stored`: what the allow-list loads at the end.
* `migration_recorded_and_at_rest`: both for any migration that has ended.
* `detour_not_at_rest`: imports that appear with the directory of the allow-list.
-/

namespace Ratchet

open Ratchet.Graph (Condensation ImportMap testOrder)

variable {σ : Type} {p : Project} {a : AllowList} {checker : Checker (FileSystem × σ)}
  {poll : FileSystem × σ → Bool × FileSystem × σ} {fs : FileSystem} {rest : σ}
  {surveyor : Surveyor} {maxPasses : Option Nat} {budget : Nat} {conclusion : Conclusion}
  {result : Migration} {j : Journal (Worksite σ)} {files : List String}

namespace Project

/-- A migration is a run from a new surveyor on. -/
theorem migrate_eq_ok : p.migrate checker poll maxPasses budget fs rest = .ok (conclusion, j) ↔
    ∃ surveyor a, Surveyor.new fs p = .ok surveyor ∧ p.allowList fs = .ok a ∧
      (Worksite.environment a checker poll).run maxPasses budget { fs, surveyor, rest } =
        (conclusion, j) := by
  simp only [migrate, Outcome.bind_eq_ok, pure, Except.pure, Except.ok.injEq]
  constructor
  · rintro ⟨surveyor, hnew, a, hlist, hrun⟩
    exact ⟨surveyor, a, hnew, hlist, hrun⟩
  · rintro ⟨surveyor, a, hnew, hlist, hrun⟩
    exact ⟨surveyor, hnew, a, hlist, hrun⟩

/-- **There is nothing left to do**: any migration that may make a pass makes one,
commits nothing and changes no file. -/
def AtRest (p : Project) (checker : Checker (FileSystem × σ)) (fs : FileSystem) : Prop :=
  ∀ poll maxPasses budget rest, (∀ w, (poll w).1 = false ∧ (poll w).2.1 = w.1) →
    maxPasses ≠ some 0 → 0 < budget →
    ∃ result j, p.migrate checker poll maxPasses budget fs rest = .ok (.finished result, j) ∧
      result.passes.length = 1 ∧ result.committed = [] ∧ result.cancelled = false ∧ j.world.fs = fs

end Project

/-- A migration has ended: it finished, or the checker failed. -/
def Conclusion.Ends (conclusion : Conclusion) (phase : Phase) : Prop :=
  match conclusion with
  | .finished _ => True
  | .failed _ => phase = .testing
  | .unfinished _ => False

namespace Worksite

theorem fst_scan_of_survey {w : Worksite σ} {v : Survey} {s : Surveyor}
    (hv : w.surveyor.survey w.fs = .ok (v, s)) : w.scan.1 = .ok v.graph.imports.condense := by
  rw [scan, hv, ← (Surveyor.graph_of_survey hv).2]

section

variable (hready : p.Ready a fs) (hchecker : checker.SparesFiles)
  (hpoll : ∀ w, (poll w).2.1 = w.1) (hnew : Surveyor.new fs p = .ok surveyor)

include hready hchecker hpoll hnew

/-- **At the end the allow-list is what the campaign knows as checked**: the first
files and all that it has recorded. -/
theorem exists_stored (hload : a.load fs = .ok files)
    (hrun : (environment a checker poll).run maxPasses budget { fs, surveyor, rest } =
      (conclusion, j)) (hends : conclusion.Ends j.phase) :
    ∃ stored, a.load j.world.fs = .ok stored ∧ (∀ f, f ∈ stored ↔ f ∈ j.checked.files) ∧
      ∀ f, f ∈ stored ↔ f ∈ files ∨ f ∈ (recordings j.trace).flatten := by
  have hloaded : (environment a checker poll).load { fs, surveyor, rest } =
      (.ok files, { fs, surveyor, rest }) := Prod.ext hload rfl
  obtain ⟨m, j₀, hreached, hround⟩ := Environment.exists_last_round hloaded hrun fun soFar h => by
    rw [h] at hends
    exact hends
  obtain ⟨files', w, hloaded', hunderway⟩ := hreached.underway
  cases hloaded.symm.trans hloaded'
  have hreachedStep := inStep_of_reached hready hchecker hpoll hnew hreached
  -- what is stored is checked, and the trace tells what is checked
  suffices h : (∃ stored, a.load j.world.fs = .ok stored ∧
        ∀ f, f ∈ stored ↔ f ∈ j.checked.files) ∧
      ∀ f, f ∈ j.checked.files ↔ f ∈ files ∨ f ∈ (recordings j.trace).flatten by
    obtain ⟨⟨stored, hstored, hmem⟩, hchecked⟩ := h
    exact ⟨stored, hstored, hmem, fun f => (hmem f).trans (hchecked f)⟩
  obtain ⟨stopped, j₁, hpollStop, ⟨-, hr⟩ | ⟨⟨rfl, hcap⟩, ⟨cause, j₂, hpass, hr⟩ |
    ⟨report, j₂, hpass, ⟨hnone, hr⟩ | ⟨-, hr⟩⟩⟩⟩ :=
      (environment a checker poll).round_cases maxPasses m j₀
  all_goals
    have hpolled := hreachedStep.polled hpoll hpollStop
    have hledger : Ledger files m j₁ := hunderway.ledger.congr rfl rfl
      (congrArg (·.2.trace) hpollStop).symm (congrArg (·.2.checked) hpollStop).symm
    rw [hr] at hround
    cases hround
  · exact ⟨hpolled.stored, hledger.mem_checked⟩
  · -- the checker has failed, and nothing was recorded since the last round
    obtain ⟨events, answers, hcont, hrecordings, hchecked⟩ := Journal.pass_of_testing hpass hends
    refine ⟨?_, fun f => ?_⟩
    · rw [hcont.world, fs_performAll hchecker _ hrecordings, hchecked]
      exact hpolled.stored
    · rw [hcont.trace, recordings_append, hrecordings, List.append_nil, hchecked]
      exact hledger.mem_checked f
  · exact ⟨(hpolled.pass hready hchecker hpass).1.stored,
      (hunderway.keep hpollStop hcap hpass).1.mem_checked⟩

/-- **A migration that has finished of its own leaves nothing to do**, if a new
surveyor finds the imports that one found before. -/
theorem atRest_of_finished
    (hrun : (environment a checker poll).run maxPasses budget { fs, surveyor, rest } =
      (.finished result, j)) (hrunning : result.cancelled = false)
    (hsame : fs.isFile a.path = .ok true ∨ p.imports j.world.fs = p.imports fs)
    {answers : String → Except Failure Int}
    (hfixed : ∀ file w, (checker.check file w).1 = answers file) :
    p.AtRest checker j.world.fs := by
  obtain ⟨m, j₀, j₁, hreached, ⟨stopped, -, rfl, -⟩ |
    ⟨report, j₂, hpolled, -, hpass, hnone, rfl, rfl⟩⟩ := Environment.run_finished_cases hrun
  · cases hrunning
  have hreachedStep := inStep_of_reached hready hchecker hpoll hnew hreached
  obtain ⟨hstep, imports, himports, hscan⟩ :=
    (hreachedStep.polled hpoll hpolled).pass hready hchecker hpass
  have hnow : p.imports j₂.world.fs = .ok imports := by
    obtain hfile | hsame := hsame
    · exact hstep.imports hready hfile himports
    · exact hsame.trans himports
  intro poll' maxPasses' budget' rest' hpoll' hmax hbudget
  -- the second run begins with the files that are checked now, and a new surveyor
  obtain ⟨surveyor', v, s', hnew', hv, hgraph⟩ := Project.imports_eq_ok.mp hnow
  obtain ⟨stored, hstored, hmem⟩ := hstep.stored
  let start : Journal (Worksite σ) :=
    { world := { fs := j₂.world.fs, surveyor := surveyor', rest := rest' }
      checked := .ofList stored }
  let again := ((environment a checker poll').pollStop start).2
  have hagain : (environment a checker poll').pollStop start = (false, again) :=
    Prod.ext (hpoll' _).1 rfl
  have hfs : again.world.fs = j₂.world.fs := (hpoll' _).2
  have hchecked : ∀ f, f ∈ again.checked.files ↔ f ∈ j₁.checked.files := by
    obtain ⟨-, -, -, -, hkept⟩ := Journal.pass_ok hpass
    intro f
    rw [show again.checked = .ofList stored from rfl, CheckedSet.mem_ofList, hmem, hkept, hnone]
    simp
  have hscan' : ((environment a checker poll').scan again.world).1 = .ok imports.condense :=
    hgraph ▸ fst_scan_of_survey (hfs.symm ▸ hv : again.world.surveyor.survey again.world.fs = _)
  obtain ⟨report', last, hpass', hnone'⟩ := Journal.pass_replay (fun file w => hfixed file _)
    (fun file w => hfixed file _) hchecked 1 hpass hnone hscan hscan'
  refine ⟨({} : Migration).addPass report', { last with phase := .done },
    Project.migrate_eq_ok.mpr ⟨surveyor', a, hnew', hready.allowList_congr hstep.extendsAt.cwd,
      Environment.run_once (Prod.ext hstored rfl) hagain hmax hbudget hpass' hnone'⟩,
    rfl, ?_, rfl, (fs_of_pass hchecker hpass' hnone').trans hfs⟩
  rw [Migration.addPass, hnone']
  rfl

end

end Worksite

/-! ## A detour -/

section Detour

/-- A checker with an answer for each file, which leaves everything else alone. -/
def Checker.answering (answers : String → Except Failure Int) : Checker (FileSystem × Unit) where
  start := id
  check file w := (answers file, w)
  stop := id

/-- Three files: the first imports the third, and by way of a directory beside
it the second, which imports the first. -/
def detourTree (more : List (String × Node)) : FileSystem where
  root := .directory [("w", .directory
    (("a.ts", .file "import './c';\nimport './config/../b';\n".toUTF8 false) ::
      ("b.ts", .file "import './a';\n".toUTF8 false) ::
      ("c.ts", .file .empty false) :: more))]

/-- Their project, with its allow-list in the directory on the way. -/
def detour : Project where
  sourceDir := .ofParts ["w"]
  allowListPath := some (.ofParts ["w", "config", "strict.json"])
  languages := [.typescript]

def detourList : AllowList where
  path := .ofParts ["w", "config", "strict.json"]
  languages := [.typescript]
  arrangement := .ofMark 1

def detourFiles : List String :=
  ["/w/a.ts", "/w/b.ts", "/w/c.ts"]

/-- The directory, with an allow-list that names nothing. -/
def emptyList : List (String × Node) :=
  [("config", .directory [("strict.json", .file "\x7b\x7d".toUTF8 false)])]

/-- The first file has an error and the third has none; the second has a reply to
choose. -/
def detourAnswers (reply : Except Failure Int) (file : String) : Except Failure Int :=
  if file = "/w/a.ts" then .ok 1 else if file = "/w/b.ts" then reply else .ok 0

/-- The checker breaks. -/
def boom : Except Failure Int :=
  .error (.checker "boom")

/-- The campaign on the project. -/
def detourCampaign (reply : Except Failure Int) : Environment (Worksite Unit) :=
  Worksite.environment detourList (.answering (detourAnswers reply)) fun w => (false, w)

variable {reply : Except Failure Int} {tree fs' : FileSystem} {more : List (String × Node)}
  {m : ImportMap} {j : Journal (Worksite Unit)} {written : List String}

theorem sparesFiles_answering (answers : String → Except Failure Int) :
    (Checker.answering answers).SparesFiles :=
  ⟨fun _ => rfl, fun _ _ => rfl, fun _ => rfl⟩

/-- The tree of the detour is proper. -/
theorem proper_detourTree (hnames : ("a.ts" :: "b.ts" :: "c.ts" :: more.map (·.1)).Nodup)
    (hmore : ∀ e ∈ more, e.2.Proper) : (detourTree more).Proper where
  root := by
    refine Node.proper_directory (by simp) ?_
    simp only [List.mem_singleton, forall_eq]
    exact Node.proper_directory hnames (by simpa [Node.proper_file] using hmore)
  cwd := by simp [detourTree]

/-- What the project is ready for can be computed. -/
theorem ready_detour (hproper : (detourTree more).Proper)
    (hnames : ∀ entry ∈ (detourTree more).root.descendants, ∀ part ∈ entry.1, Path.IsLegal part)
    (hexcluded : ((fun d => (AllowList.listed d .excluded).toOption.map List.length) <$>
      detourList.read (detourTree more)).toOption = some (some 0)) :
    detour.Ready detourList (detourTree more) where
  proper := hproper
  named := hproper.named hnames
  allowList := rfl
  unexcluded := by
    obtain ⟨document, hread, hlisted⟩ :=
      Outcome.map_eq_ok.mp (Outcome.toOption_eq_some.mp hexcluded)
    obtain ⟨items, hitems, hlength⟩ := Option.map_eq_some_iff.mp hlisted
    cases List.length_eq_zero_iff.mp hlength
    exact ⟨document, hread, Outcome.toOption_eq_some.mp hitems⟩
  untracked := by decide +kernel

/-- Where the third file stands on the frontier alone, the first pass records it. -/
theorem first_pass_of_detour {g : Condensation}
    (hscan : ((detourCampaign reply).scan j.world).1 = .ok g)
    (hfirst : g.eligible [] = [⟨0, ["/w/c.ts"], [], [1], none⟩])
    (hchecked : j.checked = .ofList [])
    (hadd : detourList.add j.world.fs ["/w/c.ts"] = .ok (written, fs')) :
    ∃ j', j.pass (detourCampaign reply) 1 =
        (.ok ⟨1, 1, [⟨"/w/c.ts", 0⟩], ["/w/c.ts"]⟩, j') ∧
      j'.world.fs = fs' ∧ j'.checked = .ofList ["/w/c.ts"] := by
  obtain ⟨⟨world, trace, checked, phase⟩, hopened, hcont, hpass⟩ := Journal.exists_pass_eq hscan 1
  obtain rfl : checked = .ofList [] := hopened.trans hchecked
  obtain ⟨j₁, hsession, hworld, hkept⟩ : ∃ j₁,
      Journal.session (detourCampaign reply) 1 [⟨0, ["/w/c.ts"], [], [1], none⟩]
        ⟨world, trace, .ofList [], phase⟩ = (.ok ⟨[⟨"/w/c.ts", 0⟩], ["/w/c.ts"]⟩, j₁) ∧
      j₁.world = world ∧ j₁.checked = .ofList [] := by
    rw [Journal.session, testOrder, List.mergeSort_singleton]
    exact ⟨_, rfl, rfl, rfl⟩
  have hfs : j₁.world.fs = j.world.fs := by
    rw [hworld, show world = _ from hcont.world]
    exact j.world.scan_fs
  have hcommit : (detourCampaign reply).commit ["/w/c.ts"] j₁.world =
      (.ok (), { j₁.world with fs := fs' }) := by
    change Worksite.commit _ _ _ = _
    rw [Worksite.commit, hfs, hadd]
  have hnew : j₁.checked.insertAll ["/w/c.ts"] = (["/w/c.ts"], .ofList ["/w/c.ts"]) := by
    rw [hkept]
    rfl
  rw [hpass, hchecked, show (CheckedSet.ofList []).files = [] from rfl, hfirst, hsession]
  simp only [Journal.commit, hnew, hcommit]
  exact ⟨_, rfl, rfl, rfl⟩

/-- **Two passes**: where the third file stands on the frontier alone and nothing
passes after it, the first pass records it and the second one is the last. -/
theorem detour_run (hready : detour.Ready detourList tree) (hload : detourList.load tree = .ok [])
    (htracked : detour.tracked tree = .ok detourFiles) (himports : detour.imports tree = .ok m)
    (hfirst : m.condense.eligible [] = [⟨0, ["/w/c.ts"], [], [1], none⟩])
    (hsecond : ∀ j : Journal (Worksite Unit), j.checked = .ofList ["/w/c.ts"] →
      ∃ tested j', j.session (detourCampaign reply) 2 (m.condense.eligible ["/w/c.ts"]) =
        (.ok ⟨tested, []⟩, j'))
    (hadd : detourList.add tree ["/w/c.ts"] = .ok (written, fs')) :
    ∃ budget result j, detour.migrate (.answering (detourAnswers reply)) (fun w => (false, w))
        none budget tree () = .ok (.finished result, j) ∧
      result.committed = ["/w/c.ts"] ∧ result.cancelled = false ∧ j.world.fs = fs' := by
  obtain ⟨surveyor, -, -, hnew, -⟩ := Project.imports_eq_ok.mp himports
  let start : Worksite Unit := { fs := tree, surveyor, rest := () }
  have hreached : (detourCampaign reply).Reached none start {}
      { world := start, checked := .ofList [] } :=
    Environment.reached_of_load (Prod.ext hload rfl)
  have hstep : Worksite.InStep detour detourList tree start (.ofList []) :=
    Worksite.inStep_of_load hready hnew hload
  have hscans : ∀ {w : Worksite Unit} {checked : CheckedSet},
      Worksite.InStep detour detourList tree w checked →
      ((detourCampaign reply).scan w).1 = .ok m.condense := by
    intro w checked hstep
    obtain ⟨g, w', hscan⟩ := hstep.exists_scan htracked
    obtain ⟨⟨imports, himports', rfl⟩, -⟩ := hstep.scan hscan
    cases himports.symm.trans himports'
    exact congrArg Prod.fst hscan
  -- the first pass
  obtain ⟨j₁, hpass, hfs, hchecked⟩ := first_pass_of_detour
    (j := { world := start, checked := .ofList [] }) (hscans hstep) hfirst rfl hadd
  have hstep₁ : Worksite.InStep detour detourList tree j₁.world j₁.checked :=
    (hstep.pass hready (sparesFiles_answering _) hpass).1
  let soFar : Migration := ({} : Migration).addPass ⟨1, 1, [⟨"/w/c.ts", 0⟩], ["/w/c.ts"]⟩
  have hnext : (detourCampaign reply).Reached none start soFar j₁ :=
    hreached.next ((Environment.round_of_pass rfl rfl hpass).trans (if_neg (by simp)))
  -- the second pass
  obtain ⟨opened, hopened, hcont, hpass'⟩ := Journal.exists_pass_eq (hscans hstep₁) 2
  obtain ⟨tested, j₂, hsession⟩ := hsecond opened (hopened.trans hchecked)
  rw [hchecked, show (CheckedSet.ofList ["/w/c.ts"]).files = ["/w/c.ts"] from rfl,
    hsession] at hpass'
  obtain ⟨budget, hrun⟩ := hnext.run_eq
    ((Environment.round_of_pass (m := soFar) rfl rfl hpass').trans (if_pos rfl))
  refine ⟨budget + 1, _, _, Project.migrate_eq_ok.mpr ⟨surveyor, detourList, hnew, hready.allowList,
    hrun _ (Nat.lt_succ_self _)⟩, rfl, rfl,
    (Worksite.fs_of_pass (sparesFiles_answering _) hpass' rfl).trans hfs⟩

/-- The imports where the directory on the way is missing. -/
def chained : ImportMap where
  rows := [("/w/a.ts", ["/w/c.ts"]), ("/w/b.ts", ["/w/a.ts"]), ("/w/c.ts", [])]

/-- The imports where it is there. -/
def ringed : ImportMap where
  rows := [("/w/a.ts", ["/w/b.ts", "/w/c.ts"]), ("/w/b.ts", ["/w/a.ts"]), ("/w/c.ts", [])]

theorem condense_chained : chained.condense =
    ⟨[⟨0, ["/w/c.ts"], [], [1], none⟩, ⟨1, ["/w/a.ts"], [0], [2], none⟩,
      ⟨2, ["/w/b.ts"], [1], [], none⟩], [("/w/c.ts", 0), ("/w/a.ts", 1), ("/w/b.ts", 2)]⟩ := by
  cbv

/-- The condensation of the ring has two components. -/
theorem condense_ringed : ringed.condense =
    ⟨[⟨0, ["/w/c.ts"], [], [1], none⟩, ⟨1, ["/w/a.ts", "/w/b.ts"], [0], [], none⟩],
      [("/w/c.ts", 0), ("/w/a.ts", 1), ("/w/b.ts", 1)]⟩ := by
  have hsearch : ringed.digraph.classes = [["/w/c.ts"], ["/w/b.ts", "/w/a.ts"]] := by cbv
  have hclasses : ringed.classes = [["/w/c.ts"], ["/w/a.ts", "/w/b.ts"]] := by
    rw [ImportMap.classes, hsearch]
    simp [List.mergeSort, List.MergeSort.Internal.splitInTwo, List.splitAt, List.splitAt.go]
  unfold ImportMap.condense
  rw [hclasses]
  cbv

theorem eligible_ringed : ringed.condense.eligible ["/w/c.ts"] =
    [⟨1, ["/w/a.ts", "/w/b.ts"], [0], [], none⟩] := by
  rw [condense_ringed]
  rfl

/-- The imports can be computed once the tracked files are known. -/
theorem imports_detour (htracked : detour.tracked tree = .ok detourFiles)
    (hrows : ((fun s => ((s.builder.build (s.importsOf tree) detourFiles).2.graph
      detourFiles).imports.rows) <$> Surveyor.new tree detour).toOption = some m.rows) :
    detour.imports tree = .ok m := by
  obtain ⟨s, hnew, hrows⟩ := Outcome.map_eq_ok.mp (Outcome.toOption_eq_some.mp hrows)
  rw [Project.imports_of_tracked hnew htracked]
  cases m
  cases hrows
  rfl

/-- **A run that is broken off**: where the first file imports the second one, the
two are checked together. -/
theorem detour_run_fails (hload : detourList.load tree = .ok ["/w/c.ts"])
    (himports : detour.imports tree = .ok ringed) :
    ∃ enough j, ∀ budget, enough < budget →
      detour.migrate (.answering (detourAnswers boom)) (fun w => (false, w)) none budget tree () =
        .ok (.failed (.checker "Pass 1: checking /w/b.ts failed: boom"), j) := by
  obtain ⟨surveyor, v, s', hnew, hv, hgraph⟩ := Project.imports_eq_ok.mp himports
  let start : Worksite Unit := { fs := tree, surveyor, rest := () }
  have hbegins : (detourCampaign boom).BeginsPass none start {}
      { world := start, checked := .ofList ["/w/c.ts"] } :=
    ⟨_, Environment.reached_of_load (Prod.ext hload rfl), rfl, rfl⟩
  have hscan : ((detourCampaign boom).scan start).1 = .ok ringed.condense :=
    hgraph ▸ Worksite.fst_scan_of_survey (hv : start.surveyor.survey start.fs = _)
  obtain ⟨⟨world, trace, checked, phase⟩, hopened, -, hpass⟩ := Journal.exists_pass_eq
    (j := { world := start, checked := .ofList ["/w/c.ts"] }) hscan 1
  obtain rfl : checked = .ofList ["/w/c.ts"] := hopened
  rw [show (CheckedSet.ofList ["/w/c.ts"]).files = ["/w/c.ts"] from rfl, eligible_ringed,
    Journal.session, testOrder, List.mergeSort_singleton] at hpass
  obtain ⟨last, hfault⟩ : ∃ last, Journal.pass (detourCampaign boom) 1
      { world := start, checked := .ofList ["/w/c.ts"] } =
        (.error (.checker "Pass 1: checking /w/b.ts failed: boom"), last) :=
    ⟨_, hpass.trans rfl⟩
  obtain ⟨enough, hfails⟩ := hbegins.run_eq hfault
  exact ⟨enough, last, fun budget hbudget => Project.migrate_eq_ok.mpr
    ⟨surveyor, detourList, hnew, rfl, hfails budget hbudget⟩⟩

end Detour

/-! ## At the end -/

/-- **The campaign and its allow-list agree, and a finished migration is at rest.**
At its end, or when the checker has failed, the allow-list loads what the campaign
knows as checked: what it loaded at first, and all that was recorded since. And
once a migration has finished of its own, with a checker that does not change its
answers, the next one does nothing, provided that a new survey finds the imports
that one found at first, as it does where the document was there already. -/
theorem Project.migration_recorded_and_at_rest (hready : p.Ready a fs)
    (hchecker : checker.SparesFiles) (hpoll : ∀ w, (poll w).2.1 = w.1)
    (hload : a.load fs = .ok files)
    (hrun : p.migrate checker poll maxPasses budget fs rest = .ok (conclusion, j))
    (hends : conclusion.Ends j.phase) :
    (∃ stored, a.load j.world.fs = .ok stored ∧ (∀ f, f ∈ stored ↔ f ∈ j.checked.files) ∧
      ∀ f, f ∈ stored ↔ f ∈ files ∨ f ∈ (recordings j.trace).flatten) ∧
    ∀ result, conclusion = .finished result → result.committed = (recordings j.trace).flatten ∧
      ∀ answers : String → Except Failure Int, (∀ file w, (checker.check file w).1 = answers file) →
        result.cancelled = false →
        (fs.isFile a.path = .ok true ∨ p.imports j.world.fs = p.imports fs) →
        p.AtRest checker j.world.fs := by
  obtain ⟨surveyor, a', hnew, hlist, hrun⟩ := Project.migrate_eq_ok.mp hrun
  cases hready.allowList.symm.trans hlist
  refine ⟨Worksite.exists_stored hready hchecker hpoll hnew hload hrun hends, ?_⟩
  rintro result rfl
  obtain ⟨loaded, w, -, hledger, -⟩ := Environment.run_finished_kept hrun
  exact ⟨hledger.flatten_recordings.symm, fun answers hfixed hrunning hsame =>
    Worksite.atRest_of_finished hready hchecker hpoll hnew hrun hrunning hsame hfixed⟩

/-- **Where the document is there from the start, the project comes to rest**: the
first file keeps the second from being recorded. -/
theorem detour_with_list_at_rest : ∃ budget result j,
    detour.Ready detourList (detourTree emptyList) ∧
    detour.migrate (.answering (detourAnswers (.ok 0))) (fun w => (false, w)) none budget
      (detourTree emptyList) () = .ok (.finished result, j) ∧
    (∃ stored, detourList.load j.world.fs = .ok stored ∧ ∀ f, f ∈ stored ↔ f = "/w/c.ts") ∧
    result.cancelled = false ∧ (detourTree emptyList).isFile detourList.path = .ok true ∧
    detour.AtRest (.answering (detourAnswers (.ok 0))) j.world.fs := by
  have hready : detour.Ready detourList (detourTree emptyList) :=
    ready_detour (proper_detourTree (by decide) (by simp [emptyList, Node.proper_directory,
      Node.proper_file])) (by decide +kernel) (by decide +kernel)
  have hload : detourList.load (detourTree emptyList) = .ok [] :=
    Outcome.toOption_eq_some.mp (by decide +kernel)
  have htracked : detour.tracked (detourTree emptyList) = .ok detourFiles :=
    Outcome.toOption_eq_some.mp (by decide +kernel)
  obtain ⟨⟨written, fs'⟩, hadd, -⟩ := Outcome.map_eq_ok.mp <| Outcome.toOption_eq_some.mp <|
    show ((fun r => r.1) <$> detourList.add (detourTree emptyList) ["/w/c.ts"]).toOption =
      some ["../c.ts"] by decide +kernel
  have himports : detour.imports (detourTree emptyList) = .ok ringed :=
    imports_detour htracked (by decide +kernel)
  have hsecond : ∀ j : Journal (Worksite Unit), j.checked = .ofList ["/w/c.ts"] →
      ∃ tested j', j.session (detourCampaign (.ok 0)) 2 (ringed.condense.eligible ["/w/c.ts"]) =
        (.ok ⟨tested, []⟩, j') := by
    rintro ⟨world, trace, checked, phase⟩ hchecked
    obtain rfl : checked = .ofList ["/w/c.ts"] := hchecked
    rw [eligible_ringed, Journal.session, testOrder, List.mergeSort_singleton]
    exact ⟨_, _, rfl⟩
  obtain ⟨budget, result, j, hrun, hcommitted, hrunning, -⟩ := detour_run hready hload htracked
    himports (by rw [condense_ringed]; rfl) hsecond hadd
  have hfile : (detourTree emptyList).isFile detourList.path = .ok true :=
    Outcome.toOption_eq_some.mp (by decide +kernel)
  obtain ⟨⟨stored, hstored, -, hmem⟩, hfinished⟩ := Project.migration_recorded_and_at_rest hready
    (sparesFiles_answering _) (fun _ => rfl) hload hrun trivial
  obtain ⟨hrecorded, hrests⟩ := hfinished result rfl
  refine ⟨budget, result, j, hready, hrun, ⟨stored, hstored, fun f => ?_⟩, hrunning, hfile,
    hrests _ (fun _ _ => rfl) hrunning (.inl hfile)⟩
  rw [hmem, ← hrecorded, hcommitted]
  simp

/-- **Where recording makes the directory, it does not**: by way of it the first
file imports the second one now, which is checked with it, and breaks the checker. -/
theorem detour_not_at_rest : ∃ budget result j,
    detour.Ready detourList (detourTree []) ∧ detourList.load (detourTree []) = .ok [] ∧
    detour.migrate (.answering (detourAnswers boom)) (fun w => (false, w))
      none budget (detourTree []) () = .ok (.finished result, j) ∧
    result.cancelled = false ∧
    (∃ enough, ∀ budget, enough < budget → ∃ j',
      detour.migrate (.answering (detourAnswers boom)) (fun w => (false, w))
        none budget j.world.fs () =
          .ok (.failed (.checker "Pass 1: checking /w/b.ts failed: boom"), j')) ∧
    ¬ detour.AtRest (.answering (detourAnswers boom)) j.world.fs := by
  have hready : detour.Ready detourList (detourTree []) :=
    ready_detour (proper_detourTree (by decide) (by simp)) (by decide +kernel) (by decide +kernel)
  have hload : detourList.load (detourTree []) = .ok [] :=
    Outcome.toOption_eq_some.mp (by decide +kernel)
  have htracked : detour.tracked (detourTree []) = .ok detourFiles :=
    Outcome.toOption_eq_some.mp (by decide +kernel)
  have himports : detour.imports (detourTree []) = .ok chained :=
    imports_detour htracked (by decide +kernel)
  -- what the first run leaves behind
  obtain ⟨⟨written, fs'⟩, hadd, hleft⟩ := Outcome.map_eq_ok.mp <| Outcome.toOption_eq_some.mp <|
    show ((fun r => ((detourList.load r.2).toOption, (detour.tracked r.2).toOption,
        ((fun s => ((s.builder.build (s.importsOf r.2) detourFiles).2.graph
          detourFiles).imports.rows) <$> Surveyor.new r.2 detour).toOption)) <$>
        detourList.add (detourTree []) ["/w/c.ts"]).toOption =
      some (some ["/w/c.ts"], some detourFiles, some ringed.rows) by decide +kernel
  simp only [Prod.mk.injEq, Outcome.toOption_eq_some] at hleft
  obtain ⟨hload', htracked', hrows⟩ := hleft
  have himports' : detour.imports fs' = .ok ringed :=
    imports_detour htracked' (Outcome.toOption_eq_some.mpr hrows)
  have hsecond : ∀ j : Journal (Worksite Unit), j.checked = .ofList ["/w/c.ts"] →
      ∃ tested j', j.session (detourCampaign boom) 2
        (chained.condense.eligible ["/w/c.ts"]) = (.ok ⟨tested, []⟩, j') := by
    rintro ⟨world, trace, checked, phase⟩ hchecked
    obtain rfl : checked = .ofList ["/w/c.ts"] := hchecked
    rw [condense_chained, show Graph.Condensation.eligible _ _ =
      [⟨1, ["/w/a.ts"], [0], [2], none⟩] from rfl, Journal.session, testOrder,
      List.mergeSort_singleton]
    exact ⟨_, _, rfl⟩
  obtain ⟨budget, result, j, hrun, -, hrunning, rfl⟩ := detour_run hready hload htracked himports
    (by rw [condense_chained]; rfl) hsecond hadd
  obtain ⟨enough, j', hfails⟩ := detour_run_fails hload' himports'
  refine ⟨budget, result, j, hready, hload, hrun, hrunning,
    ⟨enough, fun budget hbudget => ⟨j', hfails budget hbudget⟩⟩, fun hrest => ?_⟩
  obtain ⟨again, last, hagain, -⟩ := hrest (fun w => (false, w)) none (enough + 1) ()
    (fun _ => ⟨rfl, rfl⟩) (Option.some_ne_none 0).symm (Nat.succ_pos _)
  cases (hfails _ (Nat.lt_succ_self _)).symm.trans hagain

end Ratchet
