import Mathlib.Data.Nat.Digits.Defs
import Ratchet.Proofs.Checker.Markers
import Ratchet.Proofs.Text.Substitute

/-!
# Counting across lines

Where an output has no sum, its errors are counted line by line. A sum and a marker
hold no line end, so none is lost where the lines are cut: no error is counted only
where there is no marker anywhere, and two outputs with a line feed between them
have the errors of both. Where it has a sum, the first one is believed, and nothing
else in the output matters.

* `hasSum_append`: a sum lies on one side of a line feed.
* `markedLines_append`: the errors of two outputs.
* `IsNumeral.writes`: the number of a sum is that of its digits.
* `countErrors_across_lines`: what is counted.
-/

namespace Ratchet.Checker

open Text (digitValue? isDigit numberOf)

variable {t a b run : List Char}

/-! ## Sums and line feeds -/

/-- A sum with these digits. -/
def IsSum (run m : List Char) : Prop :=
  ∃ found error, m = found ++ run ++ error ∧ IsNumeral run ∧
    found.map Char.toLower = "found ".toList ∧ error.map Char.toLower = " error".toList

/-- A text has a sum when one occurs somewhere in it. -/
theorem hasSum_iff_occurs : HasSum t ↔ ∃ run m, IsSum run m ∧ m <:+: t := by
  constructor
  · rintro ⟨pre, post, run, rfl, found, error, rest, rfl, hrun, hfound, herror⟩
    exact ⟨run, _, ⟨found, error, rfl, hrun, hfound, herror⟩, pre, rest, by simp⟩
  · rintro ⟨run, m, ⟨found, error, rfl, hrun, hfound, herror⟩, pre, rest, rfl⟩
    exact ⟨pre, _, run, List.append_assoc _ _ _, found, error, rest, rfl, hrun, hfound, herror⟩

/-- No sum extends over a line feed. -/
theorem IsSum.notMem_lineFeed {m : List Char} (hm : IsSum run m) : '\n' ∉ m := by
  have hword : ∀ {cs word : List Char}, cs.map Char.toLower = word → '\n' ∉ word → '\n' ∉ cs := by
    rintro cs word rfl hnot hmem
    exact hnot (List.mem_map_of_mem (f := Char.toLower) hmem)
  obtain ⟨found, error, rfl, hrun, hfound, herror⟩ := hm
  rw [List.mem_append, List.mem_append]
  rintro ((h | h) | h)
  · exact hword hfound (by decide) h
  · exact absurd (hrun.2 _ h) (by decide)
  · exact hword herror (by decide) h

/-- **A sum lies on one side of a line feed.** -/
theorem hasSum_append : HasSum (a ++ '\n' :: b) ↔ HasSum a ∨ HasSum b := by
  simp only [hasSum_iff_occurs, ← exists_or, ← and_or_left]
  exact exists_congr fun run => exists_congr fun m => and_congr_right fun hm =>
    Text.infix_append_cons hm.notMem_lineFeed a b

/-! ## Markers and line feeds -/

theorem countErrors_of_not_hasSum (h : ¬ HasSum t) : countErrors t = .ok (markedLines t) := by
  rw [countErrors, sum?_eq_none_iff.mpr h]

/-- **Two outputs have the errors of both.** -/
theorem markedLines_append : markedLines (a ++ '\n' :: b) = markedLines a + markedLines b :=
  Text.countP_lines_append rfl

/-! ## The number of a sum -/

/-- Digits write a number: each has a value below ten, and the first is the most
significant one. -/
def Writes (run : List Char) (n : Nat) : Prop :=
  ∃ values : List Nat, run.map digitValue? = values.map some ∧ (∀ v ∈ values, v < 10) ∧
    n = Nat.ofDigits 10 values.reverse

/-- A digit has a value below ten. -/
theorem exists_digitValue {c : Char} (h : isDigit c = true) :
    ∃ v < 10, digitValue? c = some v := by
  have hfind : (Text.noughts.find? fun z => z ≤ c.toNat && c.toNat < z + 10).isSome := by
    rw [List.find?_isSome]
    simpa [isDigit] using h
  obtain ⟨z, hz⟩ := Option.isSome_iff_exists.mp hfind
  have hrange := List.find?_some hz
  simp only [Bool.and_eq_true, decide_eq_true_eq] at hrange
  exact ⟨c.toNat - z, by omega, by rw [digitValue?, hz, Option.map_some]⟩

/-- Digits have values below ten. -/
theorem exists_digitValues (h : ∀ c ∈ run, isDigit c = true) :
    ∃ values : List Nat, run.map digitValue? = values.map some ∧ ∀ v ∈ values, v < 10 := by
  induction run with
  | nil => exact ⟨[], rfl, by simp⟩
  | cons c run ih =>
    obtain ⟨v, hv, hvalue⟩ := exists_digitValue (h c (.head _))
    obtain ⟨values, hvalues, hlt⟩ := ih fun d hd => h d (.tail _ hd)
    refine ⟨v :: values, ?_, ?_⟩
    · rw [List.map_cons, hvalue, hvalues, List.map_cons]
    · exact List.forall_mem_cons.mpr ⟨hv, hlt⟩

/-- **A numeral writes the number that is read.** -/
theorem IsNumeral.writes (h : IsNumeral run) : Writes run (numberOf run) := by
  obtain ⟨values, hvalues, hlt⟩ := exists_digitValues h.2
  refine ⟨values, hvalues, hlt, ?_⟩
  calc numberOf run
      = (run.map digitValue?).foldl (fun n o => 10 * n + o.getD 0) 0 := by
        rw [numberOf, List.foldl_map]
    _ = values.foldl (fun n v => 10 * n + v) 0 := by
        rw [hvalues, List.foldl_map]
        rfl
    _ = Nat.ofDigits 10 values.reverse := by
        rw [Nat.ofDigits_eq_foldr, List.foldr_reverse]
        simp [Nat.add_comm]

/-- **The first sum is believed**, if it has not too many digits. -/
theorem countErrors_of_firstSum (h : FirstSum run t) (hlen : run.length ≤ maxDigits) :
    countErrors t = .ok (numberOf run) := by
  rw [countErrors, sum?_eq_some_iff.mpr h]
  exact if_neg (Nat.not_lt.mpr hlen)

theorem FirstSum.isNumeral (h : FirstSum run t) : IsNumeral run := by
  obtain ⟨pre, post, rfl, ⟨found, error, rest, rfl, hrun, -, -⟩, -⟩ := h
  exact hrun

/-- **What is counted does not depend on where the lines are cut.** Without a sum, no
error is counted exactly when no marker lies anywhere in the output, and two outputs
with a line feed between them have the errors of both. With one, the count is the
number of the first sum, whatever stands before or behind it. -/
theorem countErrors_across_lines :
    (∀ a, ¬ HasSum a → (countErrors a = .ok 0 ↔ ¬ Carries none a)) ∧
    (∀ a b, ¬ HasSum a → ¬ HasSum b → ∃ m n, countErrors a = .ok m ∧ countErrors b = .ok n ∧
      countErrors (a ++ '\n' :: b) = .ok (m + n)) ∧
    ∀ t run, FirstSum run t → run.length ≤ 4300 → ∃ n, Writes run n ∧ countErrors t = .ok n := by
  refine ⟨fun a ha => ?_, fun a b ha hb => ?_, fun t run hrun hlen => ?_⟩
  · rw [countErrors_of_not_hasSum ha, Except.ok.injEq, markedLines_eq_zero_iff]
  · have hboth : ¬ HasSum (a ++ '\n' :: b) := hasSum_append.not.mpr (not_or.mpr ⟨ha, hb⟩)
    refine ⟨_, _, countErrors_of_not_hasSum ha, countErrors_of_not_hasSum hb, ?_⟩
    rw [countErrors_of_not_hasSum hboth, markedLines_append]
  · exact ⟨numberOf run, hrun.isNumeral.writes, countErrors_of_firstSum hrun hlen⟩

/-! ## A torn output -/

/-- The start of an output, cut in the middle of a line end. -/
def torn : List Char := "a.py:1:5: error: x\r".toList

/-- The rest of it, with a marker behind a form feed. -/
def remnant : List Char := "1 note\x0cerror TS7: y".toList

/-- An output with two sums, the first of twenty errors. -/
def summed : List Char := "b.py:2: error: x\nFOUND \u0662\u0660 ERRORS\nFound 3 errors\n".toList

/-- The counts of two pieces of an output add up, and of two sums the first counts. -/
theorem torn_output_counted :
    ¬ HasSum torn ∧ ¬ HasSum remnant ∧ FirstSum "\u0662\u0660".toList summed ∧
      "\u0662\u0660".toList.length ≤ 4300 ∧
    (countErrors torn = .ok 0 ↔ ¬ Carries none torn) ∧
    (∃ m n, countErrors torn = .ok m ∧ countErrors remnant = .ok n ∧
      countErrors (torn ++ '\n' :: remnant) = .ok (m + n)) ∧
    ∃ n, Writes "\u0662\u0660".toList n ∧ countErrors summed = .ok n := by
  have htorn : ¬ HasSum torn := sum?_eq_none_iff.mp (by decide)
  have hremnant : ¬ HasSum remnant := sum?_eq_none_iff.mp (by decide)
  have hsum : FirstSum "\u0662\u0660".toList summed := firstSum_of_sum? (by decide)
  obtain ⟨hmarker, hboth, hfirst⟩ := countErrors_across_lines
  exact ⟨htorn, hremnant, hsum, by decide, hmarker _ htorn, hboth _ _ htorn hremnant,
    hfirst _ _ hsum (by decide)⟩

example : countErrors (torn ++ '\n' :: remnant) = .ok 2 ∧ countErrors summed = .ok 20 := by
  decide +kernel

end Ratchet.Checker
