import Mathlib.Algebra.Order.Field.Power
import Mathlib.Data.Int.Log
import Mathlib.Data.Rat.Floor
import Mathlib.Tactic.GCongr
import Mathlib.Tactic.Positivity
import Ratchet.Decimal.Binary

/-!
# Rounding

Rounding looks at the value of a fraction only, not at how it is written; it
gives numbers of 64 bits, and leaves these as they are.

* `Binary.IsRounded`: the numbers that rounding gives.
* `Binary.exponentFor_eq`: the exponent, by the logarithm of the value.
* `Binary.ofRatio_mul_left`: a fraction may be expanded.
* `Binary.ofRatio_self`: a number that is rounded stays.
* `Binary.ofDecimal_mul_pow`: noughts may move from the digits into the exponent.
-/

namespace Ratchet.Decimal

variable {num den k n m : Nat} {e p : Int}

/-! ## Quotients -/

/-- A common factor makes no difference to a rounded quotient. -/
theorem roundDiv_mul_left (hk : 0 < k) (num den : Nat) :
    roundDiv (k * num) (k * den) = roundDiv num den := by
  have hlt : ∀ a b, 2 * (k * a) < k * b ↔ 2 * a < b := fun a b => by
    rw [Nat.mul_left_comm, Nat.mul_lt_mul_left hk]
  have hgt : ∀ a b, k * b < 2 * (k * a) ↔ b < 2 * a := fun a b => by
    rw [Nat.mul_left_comm, Nat.mul_lt_mul_left hk]
  simp only [roundDiv, Nat.mul_div_mul_left _ _ hk, Nat.mul_mod_mul_left, hlt, hgt]

/-- A quotient below a number is not rounded above it. -/
theorem roundDiv_le (hden : 0 < den) (h : num ≤ n * den) : roundDiv num den ≤ n := by
  have hq : num / den ≤ n := Nat.div_le_of_le_mul (Nat.mul_comm n den ▸ h)
  have hsplit := Nat.div_add_mod num den
  obtain hq | hq := hq.lt_or_eq
  · unfold roundDiv
    dsimp only
    split <;> [skip; split <;> [skip; split]] <;> omega
  · -- nothing is left over, so the quotient is not rounded up
    have hr : num % den = 0 := by
      rw [hq, Nat.mul_comm] at hsplit
      omega
    simp [roundDiv, hr, hden, hq]

/-- A quotient above a number is not rounded below it. -/
theorem le_roundDiv (hden : 0 < den) (h : n * den ≤ num) : n ≤ roundDiv num den := by
  have hq : n ≤ num / den := (Nat.le_div_iff_mul_le hden).mpr h
  unfold roundDiv
  dsimp only
  split <;> [skip; split <;> [skip; split]] <;> omega

theorem roundDiv_self_mul (hden : 0 < den) (n : Nat) : roundDiv (n * den) den = n :=
  Nat.le_antisymm (roundDiv_le hden le_rfl) (le_roundDiv hden le_rfl)

namespace Binary

/-! ## Powers -/

theorem twoTo_pos (e : Int) : 0 < twoTo e :=
  Nat.pow_pos (by decide)

theorem tenTo_pos (e : Int) : 0 < tenTo e :=
  Nat.pow_pos (by decide)

theorem twoTo_div (e : Int) : (twoTo e : ℚ) / twoTo (-e) = 2 ^ e := by
  obtain ⟨n, rfl | rfl⟩ := e.eq_nat_or_neg <;> simp [twoTo]

/-- A ratio below a number of steps, told by whole numbers. -/
theorem ratio_lt_iff (hden : 0 < den) (n : Nat) (e : Int) :
    (num : ℚ) / den < n * 2 ^ e ↔ num * twoTo (-e) < n * (den * twoTo e) := by
  have hden : (0 : ℚ) < den := by exact_mod_cast hden
  have htwo : (0 : ℚ) < twoTo (-e) := by exact_mod_cast twoTo_pos (-e)
  rw [← twoTo_div, ← mul_div_assoc, div_lt_div_iff₀ hden htwo, mul_right_comm, mul_assoc]
  exact_mod_cast Iff.rfl

theorem le_ratio_iff (hden : 0 < den) (n : Nat) (e : Int) :
    n * 2 ^ e ≤ (num : ℚ) / den ↔ n * (den * twoTo e) ≤ num * twoTo (-e) := by
  rw [← not_lt, ratio_lt_iff hden, Nat.not_lt]

/-! ## The exponent -/

theorem log_eq {q : ℚ} (hle : 2 ^ p ≤ q) (hlt : q < 2 ^ (p + 1)) : Int.log 2 q = p := by
  have hq : 0 < q := (zpow_pos two_pos p).trans_le hle
  have htop := (Int.lt_zpow_iff_log_lt one_lt_two hq).mp (by exact_mod_cast hlt)
  have hbottom := (Int.zpow_le_iff_le_log one_lt_two hq).mp (by exact_mod_cast hle)
  omega

/-- The logarithms of a fraction's parts tell its own, up to one. -/
theorem ratio_bounds (hnum : num ≠ 0) (hden : den ≠ 0) :
    (2 : ℚ) ^ ((num.log2 : Int) - den.log2 - 1) ≤ (num : ℚ) / den ∧
      (num : ℚ) / den < 2 ^ ((num.log2 : Int) - den.log2 + 1) := by
  have hpos : (0 : ℚ) < den := by exact_mod_cast Nat.pos_of_ne_zero hden
  have hnum_le : (2 : ℚ) ^ (num.log2 : Int) ≤ num := by exact_mod_cast Nat.log2_self_le hnum
  have hnum_lt : (num : ℚ) < 2 ^ ((num.log2 : Int) + 1) := by exact_mod_cast Nat.lt_log2_self
  have hden_le : (2 : ℚ) ^ (den.log2 : Int) ≤ den := by exact_mod_cast Nat.log2_self_le hden
  have hden_lt : (den : ℚ) < 2 ^ ((den.log2 : Int) + 1) := by exact_mod_cast Nat.lt_log2_self
  constructor
  · rw [le_div_iff₀ hpos]
    calc (2 : ℚ) ^ ((num.log2 : Int) - den.log2 - 1) * den
        ≤ 2 ^ ((num.log2 : Int) - den.log2 - 1) * 2 ^ ((den.log2 : Int) + 1) := by gcongr
      _ = 2 ^ (num.log2 : Int) := by
        rw [← zpow_add₀ two_ne_zero]
        congr 1
        omega
      _ ≤ num := hnum_le
  · rw [div_lt_iff₀ hpos]
    calc (num : ℚ) < 2 ^ ((num.log2 : Int) + 1) := hnum_lt
      _ = 2 ^ ((num.log2 : Int) - den.log2 + 1) * 2 ^ (den.log2 : Int) := by
        rw [← zpow_add₀ two_ne_zero]
        congr 1
        omega
      _ ≤ 2 ^ ((num.log2 : Int) - den.log2 + 1) * den := by gcongr

/-- **The exponent that leaves a fraction 53 bits.** -/
theorem exponentFor_eq (hnum : num ≠ 0) (hden : den ≠ 0) :
    exponentFor num den = max (Int.log 2 ((num : ℚ) / den) - 52) minExponent := by
  obtain ⟨hle, hlt⟩ := ratio_bounds hnum hden
  have hguess : (num : ℚ) / den < (1 : Nat) * 2 ^ ((num.log2 : Int) - den.log2) ↔ _ :=
    ratio_lt_iff (Nat.pos_of_ne_zero hden) 1 _
  rw [Nat.cast_one, one_mul, one_mul] at hguess
  unfold exponentFor
  dsimp only
  split
  · rename_i hbelow
    rw [log_eq hle (by simpa using hguess.mpr hbelow)]
  · rename_i habove
    rw [log_eq (not_lt.mp (mt hguess.mp habove)) hlt]

/-! ## Numbers of 64 bits -/

/-- A number as rounding gives it: of 53 bits at most, and of no fewer unless
its exponent is the smallest. -/
def IsRounded : Binary → Prop
  | .infinite => True
  | .finite m e => minExponent ≤ e ∧ e ≤ maxExponent ∧ m < 2 ^ 53 ∧ (e ≠ minExponent → 2 ^ 52 ≤ m)

/-- **A fraction may be expanded.** -/
theorem ofRatio_mul_left (hk : 0 < k) (hden : den ≠ 0) (num : Nat) :
    ofRatio (k * num) (k * den) = ofRatio num den := by
  by_cases hnum : num = 0
  · rw [hnum, Nat.mul_zero, ofRatio, ofRatio, if_pos rfl, if_pos rfl]
  have hk' : (k : ℚ) ≠ 0 := by exact_mod_cast hk.ne'
  have hratio : ((k * num : Nat) : ℚ) / (k * den : Nat) = num / den := by
    rw [Nat.cast_mul, Nat.cast_mul, mul_div_mul_left _ _ hk']
  have hexponent : exponentFor (k * num) (k * den) = exponentFor num den := by
    rw [exponentFor_eq (Nat.mul_ne_zero hk.ne' hnum) (Nat.mul_ne_zero hk.ne' hden), hratio,
      exponentFor_eq hnum hden]
  simp only [ofRatio, Nat.mul_eq_zero, hk.ne', false_or, hexponent, Nat.mul_assoc,
    roundDiv_mul_left hk]

/-- The mantissa of a rounded fraction, before a carry is shifted out of it. -/
theorem mantissa_bounds (hnum : num ≠ 0) (hden : den ≠ 0) (he : e = exponentFor num den) :
    roundDiv (num * twoTo (-e)) (den * twoTo e) ≤ 2 ^ 53 ∧
      (e ≠ minExponent → 2 ^ 52 ≤ roundDiv (num * twoTo (-e)) (den * twoTo e)) := by
  have hpos := Nat.pos_of_ne_zero hden
  have hq : (0 : ℚ) < (num : ℚ) / den := by positivity
  have hden' : 0 < den * twoTo e := Nat.mul_pos hpos (twoTo_pos e)
  rw [exponentFor_eq hnum hden] at he
  have hpow : ∀ a : Nat, ((2 ^ a : Nat) : ℚ) * 2 ^ e = (2 : ℚ) ^ (a + e) := fun a => by
    rw [zpow_add₀ two_ne_zero, zpow_natCast, Nat.cast_pow, Nat.cast_ofNat]
  constructor
  · refine roundDiv_le hden' (le_of_lt ((ratio_lt_iff hpos (2 ^ 53) e).mp ?_))
    rw [hpow]
    exact_mod_cast (Int.lt_zpow_iff_log_lt one_lt_two hq).mpr (by omega)
  · intro hne
    refine le_roundDiv hden' ((le_ratio_iff hpos (2 ^ 52) e).mp ?_)
    rw [hpow]
    exact_mod_cast (Int.zpow_le_iff_le_log one_lt_two hq).mpr (by omega)

/-- **Rounding gives numbers of 64 bits.** -/
theorem isRounded_ofRatio (hden : den ≠ 0) (num : Nat) : (ofRatio num den).IsRounded := by
  unfold ofRatio
  split
  · exact ⟨le_rfl, by decide, by decide, fun h => absurd rfl h⟩
  rename_i hnum
  obtain ⟨hle, hge⟩ := mantissa_bounds hnum hden rfl
  have hmin : minExponent ≤ exponentFor num den := by
    rw [exponentFor_eq hnum hden]
    exact le_max_right _ _
  dsimp only
  split
  · -- a carry out of the mantissa leaves half of it
    split
    · trivial
    · have hhalf : twoTo 52 < 2 ^ 53 := by decide
      exact ⟨by dsimp only; omega, by dsimp only; omega, hhalf, fun _ => le_rfl⟩
  · split
    · trivial
    · exact ⟨hmin, by dsimp only; omega, lt_of_le_of_ne hle ‹_›, hge⟩

/-- **A number of 64 bits stays as it is.** -/
theorem ofRatio_self (h : (finite m e).IsRounded) (hm : m ≠ 0) :
    ofRatio (m * twoTo e) (twoTo (-e)) = finite m e := by
  obtain ⟨hmin, hmax, hlt, hge⟩ := h
  have hnum : m * twoTo e ≠ 0 := Nat.mul_ne_zero hm (twoTo_pos e).ne'
  have hden : twoTo (-e) ≠ 0 := (twoTo_pos (-e)).ne'
  have hvalue : ((m * twoTo e : Nat) : ℚ) / twoTo (-e) = m * 2 ^ e := by
    rw [Nat.cast_mul, mul_div_assoc, twoTo_div]
  have hpos : (0 : ℚ) < m * 2 ^ e := by positivity
  have htop : Int.log 2 ((m : ℚ) * 2 ^ e) < 53 + e := by
    refine (Int.lt_zpow_iff_log_lt one_lt_two hpos).mp ?_
    rw [Nat.cast_ofNat, zpow_add₀ two_ne_zero]
    gcongr
    exact_mod_cast hlt
  have hexponent : exponentFor (m * twoTo e) (twoTo (-e)) = e := by
    rw [exponentFor_eq hnum hden, hvalue]
    by_cases he : e = minExponent
    · omega
    · have hbottom : 52 + e ≤ Int.log 2 ((m : ℚ) * 2 ^ e) := by
        refine (Int.zpow_le_iff_le_log one_lt_two hpos).mp ?_
        rw [Nat.cast_ofNat, zpow_add₀ two_ne_zero]
        gcongr
        exact_mod_cast hge he
      omega
  have hmantissa : roundDiv (m * twoTo e * twoTo (-e)) (twoTo (-e) * twoTo e) = m := by
    rw [Nat.mul_assoc, Nat.mul_comm (twoTo e)]
    exact roundDiv_self_mul (Nat.mul_pos (twoTo_pos _) (twoTo_pos _)) m
  have hcarry : m ≠ twoTo 53 := hlt.ne
  rw [ofRatio, if_neg hnum]
  simp only [hexponent, hmantissa, if_neg hcarry, if_neg (not_lt.mpr hmax)]

/-! ## Decimal numbers -/

/-- The number of a decimal is the decimal, rounded. -/
theorem isRounded_ofDecimal (digits : Nat) (exponent : Int) :
    (ofDecimal digits exponent).IsRounded := by
  unfold ofDecimal
  dsimp only
  split
  · exact ⟨le_rfl, by decide, by decide, fun h => absurd rfl h⟩
  · split
    · trivial
    · exact isRounded_ofRatio (tenTo_pos _).ne' _

/-- Ten times a number has one digit more. -/
theorem length_toDigits_mul_ten (hn : n ≠ 0) :
    (Nat.toDigits 10 (n * 10)).length = (Nat.toDigits 10 n).length + 1 := by
  rw [Nat.toDigits_of_base_le (by decide) (by omega), List.length_append, Nat.mul_div_cancel _
    (by decide)]
  rfl

theorem length_toDigits_mul_pow (hn : n ≠ 0) (k : Nat) :
    (Nat.toDigits 10 (n * 10 ^ k)).length = (Nat.toDigits 10 n).length + k := by
  induction k with
  | zero => rw [Nat.pow_zero, Nat.mul_one, Nat.add_zero]
  | succ k ih =>
    rw [Nat.pow_succ, ← Nat.mul_assoc, length_toDigits_mul_ten (by positivity), ih, Nat.add_assoc]

/-- A nought more at the end of the digits is one more in the exponent. -/
theorem ofDecimal_mul_ten (n : Nat) (x : Int) : ofDecimal (n * 10) x = ofDecimal n (x + 1) := by
  by_cases hn : n = 0
  · simp [hn, ofDecimal]
  have hmagnitude : x + ((Nat.toDigits 10 n).length + 1 : Nat) =
      x + 1 + (Nat.toDigits 10 n).length := by omega
  have hratio : ofRatio (n * 10 * tenTo x) (tenTo (-x)) =
      ofRatio (n * tenTo (x + 1)) (tenTo (-(x + 1))) := by
    obtain hx | hx := le_or_gt 0 x
    · have hup : tenTo (x + 1) = 10 * tenTo x := by
        simp only [tenTo, Int.toNat_add hx Int.one_nonneg]
        exact Nat.pow_succ'
      have hdown : tenTo (-(x + 1)) = tenTo (-x) := by
        rw [tenTo, tenTo]
        congr 1
        omega
      rw [hup, hdown, Nat.mul_assoc]
    · have hup : tenTo (x + 1) = tenTo x := by
        rw [tenTo, tenTo]
        congr 1
        omega
      have hdown : tenTo (-x) = 10 * tenTo (-(x + 1)) := by
        have hsucc : (-x).toNat = (-(x + 1)).toNat + 1 := by omega
        simp only [tenTo, hsucc]
        exact Nat.pow_succ'
      rw [hup, hdown, Nat.mul_right_comm, Nat.mul_comm _ 10,
        ofRatio_mul_left (by decide) (tenTo_pos _).ne']
  simp only [ofDecimal, length_toDigits_mul_ten hn, hmagnitude, hratio, Nat.mul_eq_zero, hn,
    OfNat.ofNat_ne_zero, or_self, false_or]

/-- **Noughts may move from the digits into the exponent.** -/
theorem ofDecimal_mul_pow (n k : Nat) (x : Int) :
    ofDecimal (n * 10 ^ k) x = ofDecimal n (x + k) := by
  induction k generalizing x with
  | zero => simp
  | succ k ih =>
    rw [Nat.pow_succ, ← Nat.mul_assoc, ofDecimal_mul_ten, ih]
    congr 1
    omega

end Binary

end Ratchet.Decimal
