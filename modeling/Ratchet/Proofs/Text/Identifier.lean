import Mathlib.Data.List.Perm.Basic
import Ratchet.Text.Compatibility
import Ratchet.Text.Identifier

/-!
# Identifiers in their normal form

No character of an identifier parts names, be it in a dotted name or in a
path, and none does when the identifier is brought into its normal form.

* `reorder_perm`: putting accents into order loses nothing.
* `normalize_ne_empty`, `apart_normalize`: the normal form of an identifier is
  not empty, and no character in it parts names.
-/

namespace Ratchet.Text

/-- A character that is behind the dot and the slash among all characters. -/
def IsBeyondSlash (n : Nat) : Prop := 0x2f < n

/-- The tables of identifiers and of their normal forms know no character that
is not. -/
theorem tables_beyondSlash :
    (identifierStartRanges.all fun r => 0x2f < r.1) ∧
      (identifierFollowRanges.all fun r => 0x2f < r.1) ∧
      (Compatibility.replacements.all fun r => 0x2f < r.2.2) ∧
      (Compatibility.expansions.all fun r => r.2 ≠ [] ∧ ∀ m ∈ r.2, 0x2f < m) ∧
      Compatibility.joins.all fun r => 0x2f < r.2.2 := by
  decide +kernel

theorem isBeyondSlash_of_inRanges {ranges : List Range} {c : Char}
    (hranges : ranges.all fun r => 0x2f < r.1) (h : inRanges ranges c = true) :
    IsBeyondSlash c.toNat := by
  obtain ⟨r, hr, hc⟩ := List.any_eq_true.mp h
  have hfirst : 0x2f < r.1 := by simpa using List.all_eq_true.mp hranges r hr
  have hle : r.1 ≤ c.toNat := by
    simp only [Bool.and_eq_true, decide_eq_true_eq] at hc
    exact hc.1
  exact Nat.lt_of_lt_of_le hfirst hle

theorem isBeyondSlash_of_isIdentifierStart {c : Char} (h : isIdentifierStart c = true) :
    IsBeyondSlash c.toNat :=
  isBeyondSlash_of_inRanges tables_beyondSlash.1 h

/-- What continues an identifier is beyond the slash. -/
theorem isBeyondSlash_of_isIdentifierContinue {c : Char} (h : isIdentifierContinue c = true) :
    IsBeyondSlash c.toNat := by
  obtain h | h := Bool.or_eq_true_iff.mp h
  · exact isBeyondSlash_of_isIdentifierStart h
  · exact isBeyondSlash_of_inRanges tables_beyondSlash.2.1 h

/-- The characters of an identifier. -/
theorem isBeyondSlash_of_isIdentifier {cs : List Char} (h : isIdentifier cs = true) {c : Char}
    (hc : c ∈ cs) : IsBeyondSlash c.toNat := by
  cases cs with
  | nil => cases hc
  | cons first rest =>
    obtain ⟨hfirst, hrest⟩ := Bool.and_eq_true_iff.mp h
    obtain rfl | hc := List.mem_cons.mp hc
    · exact isBeyondSlash_of_isIdentifierStart hfirst
    · exact isBeyondSlash_of_isIdentifierContinue (List.all_eq_true.mp hrest c hc)

namespace Compatibility

variable {n m : Nat} {letters : List Nat}

/-! ## Taking apart -/

theorem isBeyondSlash_replacement (h : replacement? n = some m) : IsBeyondSlash m := by
  obtain ⟨⟨first, last, goal⟩, hmem, hgoal⟩ := List.exists_of_findSome?_eq_some h
  obtain ⟨-, -, hall, -⟩ := tables_beyondSlash
  have hbeyond : 0x2f < goal := by simpa using List.all_eq_true.mp hall _ hmem
  dsimp only at hgoal
  split at hgoal
  · cases hgoal
    exact Nat.lt_of_lt_of_le hbeyond (Nat.le_add_right _ _)
  · cases hgoal

/-- An expansion has letters, all beyond the slash. -/
theorem expansion_spec (h : expansion? n = some letters) :
    letters ≠ [] ∧ ∀ m ∈ letters, IsBeyondSlash m := by
  obtain ⟨-, -, -, hall, -⟩ := tables_beyondSlash
  obtain ⟨before, after, heq, -⟩ := List.lookup_eq_some_iff.mp h
  have hmem : (n, letters) ∈ expansions := by simp [heq]
  simpa [IsBeyondSlash] using List.all_eq_true.mp hall _ hmem

/-- What a character stands for is beyond the slash if the character is. -/
theorem isBeyondSlash_expand (h : IsBeyondSlash n) : ∀ m ∈ expand n, IsBeyondSlash m := by
  unfold expand
  split
  · simpa using h
  split
  · unfold hangulLetters IsBeyondSlash
    intro m hm
    dsimp only at hm
    split at hm <;>
      · simp only [List.mem_append, List.mem_cons, List.not_mem_nil, or_false] at hm
        omega
  split
  · rename_i letters _ hexpansion
    exact (expansion_spec hexpansion).2
  · rename_i c _ hreplacement
    simpa using isBeyondSlash_replacement hreplacement
  · simpa using h

theorem expand_ne_nil (n : Nat) : expand n ≠ [] := by
  unfold expand
  split
  · simp
  split
  · unfold hangulLetters
    dsimp only
    split <;> simp
  split
  · rename_i letters _ hexpansion
    exact (expansion_spec hexpansion).1
  · simp
  · simp

/-- **Putting accents into order loses nothing.** -/
theorem reorder_perm (letters : List Nat) : (reorder letters).Perm letters := by
  let flush := fun (run : List Nat) => run.mergeSort fun a b => combiningClass a ≤ combiningClass b
  let step := fun (acc : List Nat × List Nat) n =>
    if combiningClass n = 0 then (acc.1 ++ flush acc.2 ++ [n], []) else (acc.1, acc.2 ++ [n])
  have hflush : ∀ run, (flush run).Perm run := fun run => List.mergeSort_perm run _
  have hstep : ∀ acc n, ((step acc n).1 ++ (step acc n).2).Perm (acc.1 ++ acc.2 ++ [n]) := by
    intro acc n
    by_cases hclass : combiningClass n = 0
    · have hrun := ((hflush acc.2).append_left acc.1).append_right [n]
      simpa [step, hclass] using hrun
    · simp [step, hclass]
  -- what is done and the run that waits are together what has been read
  have hread : ∀ (letters : List Nat) (acc : List Nat × List Nat), ((letters.foldl step acc).1 ++
      (letters.foldl step acc).2).Perm (acc.1 ++ acc.2 ++ letters) := by
    intro letters
    induction letters with
    | nil =>
      intro acc
      simp
    | cons n letters ih =>
      intro acc
      have hrest := (hstep acc n).append_right letters
      simpa using (ih (step acc n)).trans hrest
  have hall := hread letters ([], [])
  exact ((hflush _).append_left _).trans hall

/-! ## Joining -/

theorem isBeyondSlash_join {a b : Nat} (h : join? a b = some m) : IsBeyondSlash m := by
  obtain ⟨-, -, -, -, hall⟩ := tables_beyondSlash
  rw [join?] at h
  by_cases hfirst : 0x1100 ≤ a ∧ a < 0x1113 ∧ 0x1161 ≤ b ∧ b < 0x1176
  · rw [if_pos hfirst] at h
    have hm := Option.some.inj h
    unfold IsBeyondSlash
    omega
  rw [if_neg hfirst] at h
  by_cases hlast : 0xAC00 ≤ a ∧ a < 0xD7A4 ∧ (a - 0xAC00) % 28 = 0 ∧ 0x11A7 < b ∧ b < 0x11C3
  · rw [if_pos hlast] at h
    have hm := Option.some.inj h
    unfold IsBeyondSlash
    omega
  rw [if_neg hlast] at h
  obtain ⟨⟨x, y, joined⟩, hmem, hjoined⟩ := List.exists_of_findSome?_eq_some h
  have hbeyond : 0x2f < joined := by simpa using List.all_eq_true.mp hall _ hmem
  dsimp only at hjoined
  by_cases hpair : x = a ∧ y = b
  · rw [if_pos hpair] at hjoined
    cases hjoined
    exact hbeyond
  · rw [if_neg hpair] at hjoined
    cases hjoined

theorem compose_ne_nil (starter : Nat) (between letters : List Nat) :
    compose starter between letters ≠ [] := by
  fun_induction compose starter between letters with
  | case1 => simp
  | case2 _ _ _ _ _ _ _ _ ih => exact ih
  | case3 => simp
  | case4 _ _ _ _ _ _ _ _ ih => exact ih

/-- Joining characters that are beyond the slash. -/
theorem isBeyondSlash_compose {starter : Nat} {between letters : List Nat}
    (hstarter : IsBeyondSlash starter) (hbetween : ∀ m ∈ between, IsBeyondSlash m)
    (hletters : ∀ m ∈ letters, IsBeyondSlash m) :
    ∀ m ∈ compose starter between letters, IsBeyondSlash m := by
  fun_induction compose starter between letters with
  | case1 starter between =>
    intro m hm
    obtain rfl | hm := List.mem_cons.mp hm
    · exact hstarter
    · exact hbetween m (List.mem_reverse.mp hm)
  | case2 starter between n rest k blocked joined hjoined ih =>
    have hjoin : join? starter n = some joined := by
      split at hjoined
      · cases hjoined
      · exact hjoined
    exact ih (isBeyondSlash_join hjoin) hbetween fun m hm => hletters m (.tail _ hm)
  | case3 starter between n rest k blocked _ _ ih =>
    intro m hm
    have htail := ih (hletters n (.head _)) (by simp) fun m hm => hletters m (.tail _ hm)
    obtain hm | hm := List.mem_append.mp hm
    · obtain rfl | hm := List.mem_cons.mp hm
      · exact hstarter
      · exact hbetween m (List.mem_reverse.mp hm)
    · exact htail m hm
  | case4 starter between n rest k blocked _ _ ih =>
    refine ih hstarter (fun m hm => ?_) fun m hm => hletters m (.tail _ hm)
    obtain rfl | hm := List.mem_cons.mp hm
    · exact hletters m (.head _)
    · exact hbetween m hm

/-! ## The normal form -/

/-- What is beyond the slash is neither a dot nor a slash. -/
theorem ofNat_apart (h : IsBeyondSlash n) : Char.ofNat n ≠ '.' ∧ Char.ofNat n ≠ '/' := by
  unfold IsBeyondSlash at h
  by_cases hvalid : n.isValidChar
  · have hn : (Char.ofNat n).toNat = n := by
      rw [Char.ofNat, dif_pos hvalid]
      rfl
    constructor <;> intro heq <;> rw [heq] at hn <;> simp at hn <;> omega
  · rw [Char.ofNat, dif_neg hvalid]
    decide

variable {s : String}

/-- An identifier is not normalized to nothing. -/
theorem normalize_ne_empty (h : isIdentifier s.toList = true) : normalize s ≠ "" := by
  have hs : s.toList ≠ [] := by
    intro hnil
    rw [hnil] at h
    cases h
  unfold normalize
  split
  · exact fun hempty => hs (by rw [hempty]; rfl)
  · have hexpanded : s.toList.flatMap (fun c => expand c.toNat) ≠ [] := by
      obtain ⟨c, cs, hcs⟩ := List.exists_cons_of_ne_nil hs
      rw [hcs, List.flatMap_cons]
      exact List.append_ne_nil_of_left_ne_nil (expand_ne_nil _) _
    split
    · rename_i hnil
      have hperm := reorder_perm (s.toList.flatMap fun c => expand c.toNat)
      rw [hnil] at hperm
      exact absurd hperm.symm.eq_nil hexpanded
    · intro hempty
      have hlist := congrArg String.toList hempty
      simp [compose_ne_nil] at hlist

/-- **No character of an identifier in its normal form parts names.** -/
theorem apart_normalize (h : isIdentifier s.toList = true) :
    '.' ∉ (normalize s).toList ∧ '/' ∉ (normalize s).toList := by
  have hbeyond : ∀ c ∈ s.toList, IsBeyondSlash c.toNat := fun c hc =>
    isBeyondSlash_of_isIdentifier h hc
  unfold normalize
  split
  · constructor <;> intro hmem <;> exact absurd (hbeyond _ hmem) (by unfold IsBeyondSlash; decide)
  · have hletters : ∀ m ∈ reorder (s.toList.flatMap fun c => expand c.toNat), IsBeyondSlash m := by
      intro m hm
      obtain ⟨c, hc, hm⟩ := List.mem_flatMap.mp ((reorder_perm _).mem_iff.mp hm)
      exact isBeyondSlash_expand (hbeyond c hc) m hm
    split
    · decide
    · rename_i n rest hreordered
      rw [hreordered] at hletters
      have hcomposed : ∀ m ∈ compose n [] rest, IsBeyondSlash m :=
        isBeyondSlash_compose (hletters n (.head _)) (by simp) fun m hm => hletters m (.tail _ hm)
      rw [String.toList_ofList]
      constructor <;> intro hmem <;> obtain ⟨m, hm, heq⟩ := List.mem_map.mp hmem
      · exact (ofNat_apart (hcomposed m hm)).1 heq
      · exact (ofNat_apart (hcomposed m hm)).2 heq

end Compatibility

end Ratchet.Text
