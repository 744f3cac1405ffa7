import Ratchet.Proofs.Graph.Ranking

/-!
# Expanding until nothing is left

Expanding an import map `k` times brings the files that are at most `2 ^ k` imports
away. A way that passes a file twice can be cut short, so that no file of the map is
needed twice on a way: what can be reached at all is at most as many imports away as
the map has files. From the first power of two that is no less, expanding brings all
that can be reached, and nothing more after that.

* `Steps.exists_shorter`: a way that is too long is cut short.
* `within_length_files`: what can be reached is not far away.
* `expandTimes_exact`: what is brought by expanding `k` times.
-/

namespace Ratchet.Graph.ImportMap

variable {m : ImportMap} {f g t : String} {i j k n : Nat}

/-! ## Ways without end -/

/-- One file leads to another by one import at least. -/
def LeadsTo (m : ImportMap) : String → String → Prop :=
  Relation.TransGen fun f g => g ∈ m.targets f

/-- A file leads to another when some number of steps does. -/
theorem leadsTo_iff : m.LeadsTo f t ↔ ∃ n, m.Within n f t := by
  constructor
  · intro hreach
    induction hreach with
    | single hg => exact ⟨1, 1, Nat.one_pos, le_rfl, .single hg⟩
    | tail _ hg ih =>
      obtain ⟨n, k, hpos, hk, hsteps⟩ := ih
      exact ⟨n + 1, k + 1, by omega, by omega, hsteps.trans (.single hg)⟩
  · rintro ⟨n, hwithin⟩
    induction n generalizing f with
    | zero => exact absurd hwithin not_within_zero
    | succ n ih =>
      obtain ht | ⟨g, hg, hrest⟩ := within_succ.mp hwithin
      · exact .single ht
      · exact .head hg (ih hrest)

/-! ## Short ways -/

/-- A way passes a file of the map after any number of imports but the last. -/
theorem Steps.exists_between (h : m.Steps n f t) (hi : i < n) :
    ∃ g ∈ m.files, m.Steps i f g ∧ m.Steps (n - i) g t := by
  induction h generalizing i with
  | refl => omega
  | @step f g t n hg hrest ih =>
    cases i with
    | zero => exact ⟨f, mem_files_of_mem_targets hg, .refl f, .step hg hrest⟩
    | succ i =>
      obtain ⟨u, hu, hfirst, hlast⟩ := ih (Nat.lt_of_succ_lt_succ hi)
      exact ⟨u, hu, .step hg hfirst, by rwa [Nat.succ_sub_succ]⟩

/-- **A way of more imports than the map has files passes one of them twice**, and what
lies between is left out. -/
theorem Steps.exists_shorter (h : m.Steps n f t) (hn : m.files.length < n) :
    ∃ k < n, m.Steps k f t := by
  have hpass : ∀ i : Fin n, ∃ g ∈ m.files, m.Steps i f g ∧ m.Steps (n - i) g t :=
    fun i => h.exists_between i.isLt
  choose pass hfile hfirst hlast using hpass
  have hcard : m.files.toFinset.card < (Finset.univ : Finset (Fin n)).card := by
    rw [Finset.card_fin]
    exact (List.toFinset_card_le _).trans_lt hn
  obtain ⟨i, -, j, -, hne, heq⟩ := Finset.exists_ne_map_eq_of_card_lt_of_maps_to hcard
    fun i _ => List.mem_toFinset.mpr (hfile i)
  have hcut : ∀ {i j : Fin n}, i < j → pass i = pass j → ∃ k < n, m.Steps k f t := by
    intro i j hij heq
    refine ⟨i + (n - j), by omega, (hfirst i).trans ?_⟩
    rw [heq]
    exact hlast j
  obtain hij | hji := lt_or_gt_of_ne hne
  · exact hcut hij heq
  · exact hcut hji heq.symm

/-- A way need not be longer than the number of files. -/
theorem Steps.exists_short (h : m.Steps n f t) : ∃ k ≤ m.files.length, m.Steps k f t := by
  induction n using Nat.strong_induction_on with
  | _ n ih =>
    by_cases hn : n ≤ m.files.length
    · exact ⟨n, hn, h⟩
    · obtain ⟨k, hk, hshorter⟩ := h.exists_shorter (not_le.mp hn)
      exact ih k hk hshorter

/-- **What can be reached is at most as many imports away as there are files.** -/
theorem within_length_files (hne : t ≠ f) (hn : m.files.length ≤ n) :
    m.Within n f t ↔ m.LeadsTo f t := by
  rw [leadsTo_iff]
  constructor
  · exact fun h => ⟨n, h⟩
  · rintro ⟨-, k, -, -, hsteps⟩
    obtain ⟨k, hk, hsteps⟩ := hsteps.exists_short
    refine ⟨k, Nat.pos_of_ne_zero ?_, hk.trans hn, hsteps⟩
    rintro rfl
    cases hsteps
    exact hne rfl

/-! ## Expanding -/

theorem files_expand (m : ImportMap) : m.expand.files = m.files := by
  rw [expand, files_ofFunction]
  exact ascending_congr fun f => by rw [files, mem_ascending]

theorem files_expandTimes (m : ImportMap) (k : Nat) : (m.expandTimes k).files = m.files := by
  induction k generalizing m with
  | zero => rfl
  | succ k ih => rw [expandTimes, ih, files_expand]

/-- **What is brought by expanding `k` times.** Where no file imports itself, the files of
the map stay the same, and each has the other files that are between one and `2 ^ k`
imports away, in the map or not. No file is lost by expanding further. As soon as `2 ^ k`
is the number of files or more, all that a file leads to is there, but the file itself. -/
theorem expandTimes_exact (hm : m.Loopless) :
    (∀ k, (m.expandTimes k).files = m.files ∧
      ∀ f t, t ∈ (m.expandTimes k).targets f ↔ t ≠ f ∧ m.Within (2 ^ k) f t) ∧
    (∀ j k, j ≤ k → ∀ f, (m.expandTimes j).targets f ⊆ (m.expandTimes k).targets f) ∧
    ∀ k, m.files.length ≤ 2 ^ k →
      ∀ f t, t ∈ (m.expandTimes k).targets f ↔ t ≠ f ∧ m.LeadsTo f t := by
  refine ⟨fun k => ⟨files_expandTimes m k, fun f t => mem_targets_expandTimes hm k⟩, ?_, ?_⟩
  · intro j k hjk f t ht
    obtain ⟨hne, hwithin⟩ := (mem_targets_expandTimes hm j).mp ht
    exact (mem_targets_expandTimes hm k).mpr
      ⟨hne, hwithin.mono (Nat.pow_le_pow_right Nat.two_pos hjk)⟩
  · intro k hk f t
    rw [mem_targets_expandTimes hm]
    exact and_congr_right fun hne => within_length_files hne hk

/-- Three files in a ring, one of which imports a file that is not in the map. -/
def ringWithExit : ImportMap where
  rows := [("a", ["b"]), ("b", ["c"]), ("c", ["a", "x"])]

/-- In a ring of three files the second expansion brings the last file that can be
reached, and a file is never brought to itself. -/
theorem ringWithExit_is_exhausted : ringWithExit.Loopless ∧
    (ringWithExit.expandTimes 1).targets "a" = ["b", "c"] ∧
    (ringWithExit.expandTimes 2).targets "a" = ["b", "c", "x"] ∧
    ¬ ringWithExit.Within 2 "a" "x" ∧ ringWithExit.files.length ≤ 2 ^ 2 ∧
    ∀ t, t ∈ ["b", "c", "x"] ↔ t ≠ "a" ∧ ringWithExit.LeadsTo "a" t := by
  have hm : ringWithExit.Loopless := by
    intro f hf
    have hfile := mem_files_of_mem_targets hf
    have hfiles : ringWithExit.files = ["a", "b", "c"] := by cbv
    rw [hfiles] at hfile
    simp only [List.mem_cons, List.not_mem_nil, or_false] at hfile
    obtain rfl | rfl | rfl := hfile <;> revert hf <;> decide +kernel
  have honce : (ringWithExit.expandTimes 1).targets "a" = ["b", "c"] := by cbv
  have htwice : (ringWithExit.expandTimes 2).targets "a" = ["b", "c", "x"] := by cbv
  have hlength : ringWithExit.files.length ≤ 2 ^ 2 := by decide +kernel
  obtain ⟨hexact, -, hall⟩ := expandTimes_exact hm
  refine ⟨hm, honce, htwice, fun hfar => ?_, hlength, fun t => ?_⟩
  · have hmem := ((hexact 1).2 "a" "x").mpr ⟨by decide, hfar⟩
    rw [honce] at hmem
    exact absurd hmem (by decide)
  · rw [← htwice]
    exact hall 2 hlength "a" t

end Ratchet.Graph.ImportMap
