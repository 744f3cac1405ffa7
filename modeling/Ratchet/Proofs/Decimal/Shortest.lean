import Ratchet.Decimal.Shortest
import Ratchet.Proofs.Decimal.Rounding

/-!
# The digits read back

The digits that write a binary fraction are read as the very same fraction: on
a grid where one of its neighbours reads back, by the choice of this neighbour,
and else because the fraction is written with all its places.

* `read_exact`: a value with all its places reads back.
* `shortest_reads_back`: so do the fewest digits.
-/

namespace Ratchet.Decimal

open Binary

variable {m n : Nat} {e places : Int}

/-! ## All places -/

theorem two_pow_lt {k limit : Nat} (hk : k ≤ 3 * limit) (hlimit : limit ≠ 0) :
    2 ^ k < 10 ^ limit :=
  calc 2 ^ k ≤ 2 ^ (3 * limit) := Nat.pow_le_pow_right (by decide) hk
    _ = 8 ^ limit := Nat.pow_mul 2 3 limit
    _ < 10 ^ limit := Nat.pow_lt_pow_left (by decide) hlimit

/-- The digits of a value with all its places are within the bounds outside
which reading computes nothing. -/
theorem magnitude_exact (h : (finite m e).IsRounded) (hm : m ≠ 0) :
    -400 ≤ -(exact m e).places + (Nat.toDigits 10 (exact m e).steps).length ∧
      -(exact m e).places + (Nat.toDigits 10 (exact m e).steps).length ≤ 400 := by
  obtain ⟨hmin, hmax, hlt, -⟩ := h
  have hlength : ∀ k, 0 < k → ((Nat.toDigits 10 (exact m e).steps).length ≤ k ↔
      (exact m e).steps < 10 ^ k) := fun k hk => Nat.length_toDigits_le_iff (by decide) hk
  have hsteps : (exact m e).steps = m * twoTo e * 5 ^ (-e).toNat := rfl
  have hplaces : (exact m e).places = (-e).toNat := rfl
  -- the bound is a variable, because its power of ten is not to be computed
  obtain ⟨limit, hlimit⟩ : ∃ limit : Nat, limit = 400 := ⟨400, rfl⟩
  rw [minExponent] at hmin
  rw [maxExponent] at hmax
  rw [hsteps] at hlength ⊢
  rw [hplaces]
  have hfive : 5 ^ (-e).toNat ≤ m * twoTo e * 5 ^ (-e).toNat :=
    Nat.le_mul_of_pos_left _ (Nat.mul_pos (Nat.pos_of_ne_zero hm) (twoTo_pos e))
  constructor
  · by_contra hsmall
    -- ten to the places would be greater than two to them times ten to 400
    have hshort := (hlength ((-e).toNat - limit) (by omega)).mp (by omega)
    have htwo : 2 ^ (-e).toNat < 10 ^ limit := two_pow_lt (by omega) (by omega)
    refine absurd ?_ (lt_irrefl (10 ^ (-e).toNat))
    calc 10 ^ (-e).toNat = 2 ^ (-e).toNat * 5 ^ (-e).toNat := by rw [← Nat.mul_pow]
      _ ≤ 10 ^ limit * 5 ^ (-e).toNat := Nat.mul_le_mul_right _ htwo.le
      _ < 10 ^ limit * 10 ^ ((-e).toNat - limit) :=
        Nat.mul_lt_mul_of_pos_left (hfive.trans_lt hshort) (Nat.pow_pos (by decide))
      _ = 10 ^ (-e).toNat := by rw [← Nat.pow_add]; congr 1; omega
  · suffices (Nat.toDigits 10 (m * twoTo e * 5 ^ (-e).toNat)).length ≤ limit + (-e).toNat by omega
    refine (hlength _ (by omega)).mpr ?_
    have htwo : m * twoTo e < 10 ^ limit :=
      calc m * twoTo e < 2 ^ 53 * 2 ^ e.toNat := Nat.mul_lt_mul_of_pos_right hlt (twoTo_pos e)
        _ = 2 ^ (53 + e.toNat) := (Nat.pow_add 2 53 e.toNat).symm
        _ < 10 ^ limit := two_pow_lt (by omega) (by omega)
    calc m * twoTo e * 5 ^ (-e).toNat < 10 ^ limit * 5 ^ (-e).toNat :=
          Nat.mul_lt_mul_of_pos_right htwo (Nat.pow_pos (by decide))
      _ ≤ 10 ^ limit * 10 ^ (-e).toNat :=
        Nat.mul_le_mul_left _ (Nat.pow_le_pow_left (by decide) _)
      _ = 10 ^ (limit + (-e).toNat) := (Nat.pow_add 10 limit _).symm

/-- **A value with all its places reads back.** -/
theorem read_exact (h : (finite m e).IsRounded) (hm : m ≠ 0) : (exact m e).read = finite m e := by
  obtain ⟨hlow, hhigh⟩ := magnitude_exact h hm
  have hplaces : (exact m e).places = (-e).toNat := rfl
  have hsteps : (exact m e).steps = 5 ^ (-e).toNat * (m * twoTo e) := Nat.mul_comm _ _
  have hne : (exact m e).steps ≠ 0 := by
    rw [hsteps]
    exact Nat.mul_ne_zero (by positivity) (Nat.mul_ne_zero hm (twoTo_pos e).ne')
  have hup : tenTo (-(exact m e).places) = 1 := by
    rw [hplaces, tenTo, Int.toNat_of_nonpos (by omega), Nat.pow_eq, Nat.pow_zero]
  have hdown : tenTo (- -(exact m e).places) = 5 ^ (-e).toNat * twoTo (-e) := by
    rw [hplaces, neg_neg, tenTo, Int.toNat_natCast, twoTo]
    exact Nat.mul_pow 5 2 _
  rw [GridPoint.read, ofDecimal, if_neg (not_or.mpr ⟨hne, not_lt.mpr hlow⟩),
    if_neg (not_lt.mpr hhigh), hup, hdown, Nat.mul_one, hsteps,
    ofRatio_mul_left (by positivity) (twoTo_pos _).ne', ofRatio_self h hm]

/-! ## The fewest digits -/

theorem read_of_pick {w : GridPoint} (h : pick m e places = some w) : w.read = finite m e :=
  of_decide_eq_true (List.find?_some (p := fun w : GridPoint => decide (w.read = finite m e)) h)

/-- What is written is read as the number, or is the number exactly. -/
theorem written_cases (m : Nat) (e : Int) :
    (written m e).read = finite m e ∨ written m e = exact m e := by
  unfold written
  dsimp only
  cases hfound : (List.range 17).findSome? fun (k : Nat) => pick m e ((k : Int) + 1 - pointOf m e)
  · exact .inr rfl
  · obtain ⟨k, -, hk⟩ := List.exists_of_findSome?_eq_some hfound
    exact .inl (read_of_pick hk)

theorem steps_written_ne_zero (hm : m ≠ 0) (e : Int) : (written m e).steps ≠ 0 := by
  obtain hread | hexact := written_cases m e
  · intro hzero
    rw [GridPoint.read, hzero, ofDecimal] at hread
    simp only [true_or, if_true, finite.injEq] at hread
    exact hm hread.1.symm
  · rw [hexact]
    exact Nat.mul_ne_zero (Nat.mul_ne_zero hm (twoTo_pos e).ne') (Nat.pow_pos (by decide)).ne'

/-- Only noughts at the end are trimmed. -/
theorem exists_trimNoughts (budget n : Nat) : ∃ k, n = trimNoughts budget n * 10 ^ k := by
  induction budget generalizing n with
  | zero => exact ⟨0, by rw [trimNoughts, Nat.pow_zero, Nat.mul_one]⟩
  | succ budget ih =>
    rw [trimNoughts]
    split
    · obtain ⟨k, hk⟩ := ih (n / 10)
      refine ⟨k + 1, ?_⟩
      rw [Nat.pow_succ, ← Nat.mul_assoc, ← hk]
      omega
    · exact ⟨0, by rw [Nat.pow_zero, Nat.mul_one]⟩

theorem shortest_number_ne_zero (hm : m ≠ 0) (e : Int) : (shortest m e).number ≠ 0 := by
  obtain ⟨k, hk⟩ := exists_trimNoughts 20 (written m e).steps
  intro hzero
  rw [show trimNoughts 20 (written m e).steps = 0 from hzero, Nat.zero_mul] at hk
  exact steps_written_ne_zero hm e hk

/-- **The fewest digits read back.** -/
theorem shortest_reads_back (h : (finite m e).IsRounded) (hm : m ≠ 0) :
    ofDecimal (shortest m e).number
      ((shortest m e).point - (Nat.toDigits 10 (shortest m e).number).length) = finite m e := by
  have hread : (written m e).read = finite m e := by
    obtain hread | hexact := written_cases m e
    · exact hread
    · rw [hexact, read_exact h hm]
  obtain ⟨k, hk⟩ := exists_trimNoughts 20 (written m e).steps
  have hpoint : (shortest m e).point =
      (Nat.toDigits 10 (written m e).steps).length - (written m e).places := rfl
  have hlength := length_toDigits_mul_pow (shortest_number_ne_zero hm e) k
  rw [GridPoint.read, hk, ofDecimal_mul_pow] at hread
  rw [← hread, hpoint]
  change ofDecimal (shortest m e).number _ = ofDecimal (shortest m e).number _
  rw [show (written m e).steps = (shortest m e).number * 10 ^ k from hk, hlength]
  congr 1
  omega

end Ratchet.Decimal
