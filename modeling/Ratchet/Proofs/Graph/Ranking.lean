import Mathlib
import Ratchet.Graph.Ranking
import Ratchet.Proofs.Basic

/-!
# How far a ranking counts

Expanding an import map takes two of its imports for one. Expanding the outcome
again takes four of them for one, so that expanding `n` times follows `2 ^ n`
imports, and not `n + 1`. Candidates are counted in the map as it is and in the
expanded one, and ranked by the second count.

* `Steps`, `Within`: files from which another one is reached by so many imports.
* `within_expand`: expanding doubles the number of imports that are followed.
* `mem_targets_expandTimes`: what is found by expanding again and again.
* `rankCandidates_counts`: what a ranking lists, and in which order.
-/

namespace Ratchet.Graph

variable {m : ImportMap} {f g h : String} {j k n : Nat} {files files' : List String}

namespace ImportMap

/-! ## Steps -/

/-- So many imports lead from one file to another. -/
inductive Steps (m : ImportMap) : Nat → String → String → Prop where
  /-- No import leads from a file to itself. -/
  | refl (f : String) : Steps m 0 f f
  /-- One import, and the others. -/
  | step {f g h : String} {n : Nat} (hg : g ∈ m.targets f) (hrest : Steps m n g h) :
      Steps m (n + 1) f h

/-- One file leads to another by one import at least, and by `n` at most. -/
def Within (m : ImportMap) (n : Nat) (f g : String) : Prop :=
  ∃ k, 0 < k ∧ k ≤ n ∧ m.Steps k f g

/-- No file imports itself. -/
def Loopless (m : ImportMap) : Prop :=
  ∀ f, f ∉ m.targets f

theorem Steps.single (hg : g ∈ m.targets f) : m.Steps 1 f g :=
  .step hg (.refl g)

/-- Steps can be taken one after another. -/
theorem Steps.trans (hfg : m.Steps j f g) (hgh : m.Steps k g h) : m.Steps (j + k) f h := by
  induction hfg with
  | refl => rwa [Nat.zero_add]
  | step hg _ ih =>
    rw [Nat.add_right_comm]
    exact .step hg (ih hgh)

theorem Within.mono (hfg : m.Within j f g) (hle : j ≤ k) : m.Within k f g := by
  obtain ⟨i, hpos, hi, hsteps⟩ := hfg
  exact ⟨i, hpos, hi.trans hle, hsteps⟩

theorem not_within_zero : ¬ m.Within 0 f g := by
  rintro ⟨k, hpos, hk, -⟩
  omega

/-- What is within one step more is imported, or within the steps of an import. -/
theorem within_succ :
    m.Within (n + 1) f h ↔ h ∈ m.targets f ∨ ∃ g ∈ m.targets f, m.Within n g h := by
  constructor
  · rintro ⟨k, hpos, hk, hsteps⟩
    cases hsteps with
    | refl => omega
    | @step _ g _ k hg hrest =>
      obtain rfl | hpos := Nat.eq_zero_or_pos k
      · cases hrest
        exact .inl hg
      · exact .inr ⟨g, hg, k, hpos, by omega, hrest⟩
  · rintro (hh | ⟨g, hg, k, hpos, hk, hrest⟩)
    · exact ⟨1, Nat.one_pos, by omega, .single hh⟩
    · exact ⟨k + 1, by omega, by omega, .step hg hrest⟩

theorem within_one : m.Within 1 f g ↔ g ∈ m.targets f := by
  simp [within_succ, not_within_zero]

/-- Only the files of a map import anything. -/
theorem mem_files_of_mem_targets (hg : g ∈ m.targets f) : f ∈ m.files := by
  rw [targets, mem_ascending] at hg
  rw [files, mem_ascending]
  by_contra hf
  have hnone : m.rows.lookup f = none := List.lookup_eq_none_iff.mpr fun row hrow =>
    bne_iff_ne.mpr fun heq => hf (List.mem_map.mpr ⟨row, hrow, heq.symm⟩)
  rw [hnone] at hg
  cases hg

theorem nodup_files (m : ImportMap) : m.files.Nodup :=
  nodup_ascending _

/-! ## Expanding -/

theorem targets_ofFunction (hf : f ∈ files) (t : String → List String) :
    (ofFunction files t).targets f = ascending (t f) := by
  rw [targets, ofFunction, lookup_map_self t hf, Option.getD_some]

theorem files_ofFunction (files : List String) (t : String → List String) :
    (ofFunction files t).files = ascending files := by
  rw [ImportMap.files, ofFunction, List.map_map]
  exact congrArg ascending (List.map_id files)

/-- **Expanding adds what the imports of a file import.** -/
theorem mem_targets_expand : g ∈ m.expand.targets f ↔
    g ≠ f ∧ (g ∈ m.targets f ∨ ∃ t ∈ m.targets f, g ∈ m.targets t) := by
  constructor
  · intro hg
    have hf : f ∈ m.files := by
      have hmem := mem_files_of_mem_targets hg
      rwa [expand, files_ofFunction, mem_ascending] at hmem
    rw [expand, targets_ofFunction hf, mem_ascending] at hg
    simpa [and_comm, ← and_or_left] using hg
  · rintro ⟨hne, hg⟩
    have hf : f ∈ m.files := hg.elim mem_files_of_mem_targets
      fun ⟨_, ht, _⟩ => mem_files_of_mem_targets ht
    rw [expand, targets_ofFunction hf]
    simpa [hne] using hg

theorem loopless_expand (m : ImportMap) : m.expand.Loopless :=
  fun _ hf => (mem_targets_expand.mp hf).1 rfl

/-- One import of the expanded map is one or two of the map. -/
theorem Steps.of_expand (hfg : m.expand.Steps k f g) :
    ∃ j, k ≤ j ∧ j ≤ 2 * k ∧ m.Steps j f g := by
  induction hfg with
  | refl f => exact ⟨0, le_rfl, le_rfl, .refl f⟩
  | step hg _ ih =>
    obtain ⟨j, hlow, hhigh, hrest⟩ := ih
    obtain ⟨-, hg | ⟨t, ht, hg⟩⟩ := mem_targets_expand.mp hg
    · exact ⟨j + 1, by omega, by omega, .step hg hrest⟩
    · exact ⟨j + 1 + 1, by omega, by omega, .step ht (.step hg hrest)⟩

/-- Two imports of a map are one of the expanded map, or none if they lead back. -/
theorem Steps.expand (hm : m.Loopless) (hk : k ≤ 2 * n) (hfg : m.Steps k f g) :
    ∃ j ≤ n, m.expand.Steps j f g := by
  -- two of the imports are taken off at a time
  induction n generalizing k f with
  | zero =>
    obtain rfl : k = 0 := by omega
    cases hfg
    exact ⟨0, le_rfl, .refl _⟩
  | succ n ih =>
    cases hfg with
    | refl => exact ⟨0, Nat.zero_le _, .refl _⟩
    | @step _ t _ _ ht hrest =>
      cases hrest with
      | refl =>
        have hne : g ≠ f := fun heq => hm f (heq ▸ ht)
        exact ⟨1, by omega, .single (mem_targets_expand.mpr ⟨hne, .inl ht⟩)⟩
      | @step _ u _ _ hu hrest =>
        obtain ⟨j, hj, hsteps⟩ := ih (by omega) hrest
        by_cases heq : u = f
        · exact ⟨j, by omega, heq ▸ hsteps⟩
        · exact ⟨j + 1, by omega, .step (mem_targets_expand.mpr ⟨heq, .inr ⟨t, ht, hu⟩⟩) hsteps⟩

/-- **Expanding doubles the number of imports that are followed.** -/
theorem within_expand (hm : m.Loopless) (hne : g ≠ f) :
    m.expand.Within n f g ↔ m.Within (2 * n) f g := by
  constructor
  · rintro ⟨k, hpos, hk, hsteps⟩
    obtain ⟨j, hlow, hhigh, hsteps⟩ := hsteps.of_expand
    exact ⟨j, by omega, by omega, hsteps⟩
  · rintro ⟨k, hpos, hk, hsteps⟩
    obtain ⟨j, hj, hsteps⟩ := hsteps.expand hm hk
    refine ⟨j, Nat.pos_of_ne_zero ?_, hj, hsteps⟩
    rintro rfl
    cases hsteps
    exact hne rfl

/-- **What is found by expanding again and again**: the other files within a number
of imports that doubles every time. -/
theorem mem_targets_expandTimes (hm : m.Loopless) (n : Nat) :
    g ∈ (m.expandTimes n).targets f ↔ g ≠ f ∧ m.Within (2 ^ n) f g := by
  induction n generalizing m with
  | zero =>
    have hne : g ∈ m.targets f → g ≠ f := fun hg heq => hm f (heq ▸ hg)
    rw [expandTimes, Nat.pow_zero, within_one, and_iff_right_of_imp hne]
  | succ n ih =>
    rw [expandTimes, ih m.loopless_expand, Nat.pow_succ']
    exact and_congr_right fun hne => within_expand hm hne

/-! ## Importers -/

theorem mem_importers : f ∈ m.importers g ↔ g ∈ m.targets f := by
  rw [importers, List.mem_filter, List.contains_iff_mem]
  exact and_iff_right_of_imp mem_files_of_mem_targets

/-- The importers of a file are finitely many, and counted once each. -/
theorem length_importers {s : Set String} (hs : ∀ f, f ∈ s ↔ g ∈ m.targets f) :
    s.Finite ∧ (m.importers g).length = s.ncard := by
  have hset : s = ((m.importers g).toFinset : Set String) :=
    Set.ext fun f => by rw [hs, Finset.mem_coe, List.mem_toFinset, mem_importers]
  have hnodup : (m.importers g).Nodup := m.nodup_files.filter _
  rw [hset, Set.ncard_coe_finset, List.toFinset_card_of_nodup hnodup]
  exact ⟨Finset.finite_toSet _, rfl⟩

end ImportMap

/-! ## Ranking -/

namespace Candidate

/-- What candidates are ranked by. -/
def key (c : Candidate) : ℕᵒᵈ ×ₗ String :=
  toLex (OrderDual.toDual c.importers, c.file)

theorem precedes_eq (a b : Candidate) : a.precedes b = decide (a.key ≤ b.key) := by
  rw [precedes, key, key, Bool.eq_iff_iff, decide_eq_true_eq, Prod.Lex.toLex_le_toLex]
  split
  · rename_i heq
    simp [heq]
  · rename_i hne
    simp [hne]

end Candidate

/-- The candidate that a file is. -/
def candidateOf (m : ImportMap) (order : Int) (file : String) : Candidate where
  file := file
  directImporters := (m.importers file).length
  importers := ((m.expandTimes (max order 1 - 1).toNat).importers file).length

theorem rankCandidates_eq (m : ImportMap) (files : List String) (order : Int) :
    rankCandidates m files order =
      (files.map (candidateOf m order)).mergeSort Candidate.precedes := rfl

/-- The other files from which `n` imports at most lead to a file. -/
def reaching (m : ImportMap) (n : Nat) (file : String) : Set String :=
  {f | f ≠ file ∧ m.Within n f file}

/-- How many imports a ranking follows. -/
def radius (order : Int) : Nat :=
  2 ^ (max order 1 - 1).toNat

theorem le_radius (order : Int) : (max order 1).toNat ≤ radius order := by
  have hlt := Nat.lt_two_pow_self (n := (max order 1 - 1).toNat)
  rw [radius]
  omega

/-- The importers of a candidate are the files that reach it within the radius. -/
theorem importers_candidateOf (hm : m.Loopless) (order : Int) (file : String) :
    (reaching m (radius order) file).Finite ∧
      (candidateOf m order file).importers = (reaching m (radius order) file).ncard :=
  ImportMap.length_importers fun f => by
    rw [ImportMap.mem_targets_expandTimes hm, ne_comm]
    rfl

/-- **What a ranking lists, and in which order.** Where no file imports itself, every
given file is listed with the number of files that import it, and with the number of
other files from which `2 ^ (order - 1)` imports at most lead to it. This is the number
of those from which `order` imports at most do, only if no file is further away. -/
theorem rankCandidates_counts (hm : m.Loopless) (files : List String) (order : Int) :
    ((rankCandidates m files order).map (·.file)).Perm files ∧
    (∀ c ∈ rankCandidates m files order,
      c.directImporters = {f | c.file ∈ m.targets f}.ncard ∧
      c.importers = (reaching m (radius order) c.file).ncard ∧
      (c.importers = (reaching m (max order 1).toNat c.file).ncard ↔
        reaching m (radius order) c.file ⊆ reaching m (max order 1).toNat c.file)) ∧
    (rankCandidates m files order).Pairwise (fun a b =>
      b.importers < a.importers ∨ a.importers = b.importers ∧ a.file ≤ b.file) ∧
    ∀ files', files'.Perm files → rankCandidates m files' order = rankCandidates m files order := by
  have hprecedes : ∀ a ∈ files.map (candidateOf m order), ∀ b ∈ files.map (candidateOf m order),
      a.precedes b = decide (a.key ≤ b.key) := fun a _ b _ => Candidate.precedes_eq a b
  simp only [rankCandidates_eq]
  refine ⟨?_, fun c hc => ?_, ?_, fun files' hperm => ?_⟩
  · refine ((List.mergeSort_perm _ _).map _).trans ?_
    rw [List.map_map]
    exact .of_eq (List.map_id files)
  · obtain ⟨file, -, rfl⟩ := List.mem_map.mp (List.mem_mergeSort.mp hc)
    obtain ⟨hfinite, hcount⟩ := importers_candidateOf hm order file
    have hsub : reaching m (max order 1).toNat file ⊆ reaching m (radius order) file :=
      fun f hf => ⟨hf.1, hf.2.mono (le_radius order)⟩
    refine ⟨(ImportMap.length_importers fun _ => Iff.rfl).2, hcount, ?_⟩
    rw [hcount]
    constructor
    · exact fun heq => (Set.eq_of_subset_of_ncard_le hsub heq.le hfinite).superset
    · exact fun hnear => congrArg Set.ncard (hnear.antisymm hsub)
  · refine (pairwise_mergeSort_key Candidate.key hprecedes).imp fun {a b} hle => ?_
    simpa [Candidate.key, Prod.Lex.toLex_le_toLex] using hle
  · refine (mergeSort_eq_of_perm Candidate.key hprecedes (fun a ha b hb hkey => ?_)
      (hperm.symm.map _)).symm
    -- a candidate is known by its file
    obtain ⟨file, -, rfl⟩ := List.mem_map.mp ha
    obtain ⟨file', -, rfl⟩ := List.mem_map.mp hb
    exact congrArg (candidateOf m order) (congrArg (fun k => (ofLex k).2) hkey)

/-! ### Five files in a row -/

/-- Five files, each of which imports the next. -/
def fiveInARow : ImportMap where
  rows := [("a", ["b"]), ("b", ["c"]), ("c", ["d"]), ("d", ["e"]), ("e", [])]

theorem mem_targets_fiveInARow : g ∈ fiveInARow.targets f ↔
    (f, g) ∈ [("a", "b"), ("b", "c"), ("c", "d"), ("d", "e")] := by
  rw [ImportMap.targets, mem_ascending]
  simp only [fiveInARow, lookup_cons_eq, List.lookup_nil]
  split_ifs <;> simp_all

theorem loopless_fiveInARow : fiveInARow.Loopless := by
  intro f hf
  have hedge := mem_targets_fiveInARow.mp hf
  simp only [List.mem_cons, Prod.mk.injEq, List.not_mem_nil, or_false] at hedge
  obtain ⟨rfl, h⟩ | ⟨rfl, h⟩ | ⟨rfl, h⟩ | ⟨rfl, h⟩ := hedge <;> exact absurd h (by decide)

/-- Asked for three orders of imports, a ranking counts the four files in front of
the last one, and puts it first. -/
theorem fiveInARow_counts : fiveInARow.Loopless ∧
    rankCandidates fiveInARow ["d", "e"] 3 = [⟨"e", 1, 4⟩, ⟨"d", 1, 3⟩] ∧
    rankCandidates fiveInARow ["e", "d"] 3 = [⟨"e", 1, 4⟩, ⟨"d", 1, 3⟩] ∧
    (reaching fiveInARow (radius 3) "e").ncard = 4 ∧
    (reaching fiveInARow (radius 3) "d").ncard = 3 := by
  have hrank : rankCandidates fiveInARow ["d", "e"] 3 = [⟨"e", 1, 4⟩, ⟨"d", 1, 3⟩] := by cbv
  obtain ⟨-, hcounts, -, hperm⟩ := rankCandidates_counts loopless_fiveInARow ["d", "e"] 3
  rw [hrank] at hcounts hperm
  exact ⟨loopless_fiveInARow, hrank, hperm _ (.swap _ _ _), (hcounts _ (.head _)).2.1.symm,
    (hcounts _ (.tail _ (.head _))).2.1.symm⟩

/-- **Three imports lead to the last of five files from three files**, and a ranking
of order three counts four of them. -/
theorem third_order_reaches_fourth :
    (rankCandidates fiveInARow ["e"] 3).map (·.importers) = [4] ∧
      (reaching fiveInARow 3 "e").ncard = 3 := by
  have hset : reaching fiveInARow 3 "e" = ({"b", "c", "d"} : Finset String) := by
    ext f
    have hnear : fiveInARow.Within 3 f "e" ↔ f = "d" ∨ f = "b" ∨ f = "c" := by
      simp [ImportMap.within_succ, ImportMap.not_within_zero, mem_targets_fiveInARow, or_and_right,
        exists_or]
    rw [reaching, Set.mem_ofPred_eq, hnear]
    simp only [Finset.mem_coe, Finset.mem_insert, Finset.mem_singleton]
    grind
  refine ⟨by cbv, ?_⟩
  rw [hset, Set.ncard_coe_finset]
  rfl

end Ratchet.Graph
