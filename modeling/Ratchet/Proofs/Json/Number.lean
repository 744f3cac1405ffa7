import Mathlib.Algebra.Order.Monoid.Unbundled.Pow
import Mathlib.Data.List.TakeWhile
import Mathlib.Tactic.GCongr
import Mathlib.Tactic.Ring
import Ratchet.Json.Reader
import Ratchet.Json.Writer
import Ratchet.Proofs.Decimal.Shortest
import Ratchet.Proofs.Text.Plain

/-!
# Numbers read back

A number is read back from what is written of it, whatever stands behind it. It
takes that the number could have been read itself: that a whole number has few
enough digits, and that a fraction is rounded.
-/

namespace Ratchet

namespace Json

open Decimal (Binary)

variable {n : Nat} {digits rest whole behind : List Char} {negative : Bool}

/-- A text that does not go on with a number. -/
def EndsNumber (rest : List Char) : Prop :=
  ∀ c ∈ rest.head?, c.isDigit = false ∧ c ≠ '.' ∧ c ≠ 'e' ∧ c ≠ 'E'

/-- Digits of a whole number: nought alone, or digits of which the first is not
nought. -/
structure IsWhole (digits : List Char) : Prop where
  /-- All of them are digits. -/
  digit : ∀ c ∈ digits, c.isDigit
  /-- There is one. -/
  ne_nil : digits ≠ []
  /-- Nought stands at the start only by itself. -/
  head : digits.head? = some '0' → digits = ['0']

/-- Digits are read up to what is none. -/
theorem spanDigits_append (h : ∀ c ∈ digits, c.isDigit)
    (hrest : ∀ c ∈ rest.head?, c.isDigit = false) :
    spanDigits (digits ++ rest) = (digits, rest) := by
  have htake : rest.takeWhile Char.isDigit = [] := by
    cases rest with
    | nil => rfl
    | cons c rest => rw [List.takeWhile_cons_of_neg (by simp [hrest c rfl])]
  have hdrop : rest.dropWhile Char.isDigit = rest := by
    cases rest with
    | nil => rfl
    | cons c rest => rw [List.dropWhile_cons_of_neg (by simp [hrest c rfl])]
  rw [spanDigits, List.takeWhile_append_of_pos h, List.dropWhile_append_of_pos h, htake, hdrop,
    List.append_nil]

/-- A whole number is read up to what is no digit. -/
theorem integerPart_append (h : IsWhole digits) (rest : List Char)
    (hrest : ∀ c ∈ rest.head?, c.isDigit = false) :
    integerPart (digits ++ rest) = some (digits, rest) := by
  obtain ⟨c, digits, rfl⟩ := List.exists_cons_of_ne_nil h.ne_nil
  by_cases hc : c = '0'
  · subst hc
    rw [h.head rfl]
    rfl
  · have hspan := spanDigits_append h.digit hrest
    rw [List.cons_append] at hspan ⊢
    rw [integerPart, hspan, if_neg (by simp)]
    simp [hc]

theorem decimal_toDigits (n : Nat) : decimal (Nat.toDigits 10 n) = n :=
  Nat.ofDigitChars_ten_toDigits

theorem decimal_noughts_append (k : Nat) (digits : List Char) :
    decimal (List.replicate k '0' ++ digits) = decimal digits := by
  change Nat.ofDigitChars 10 _ 0 = _
  rw [Nat.ofDigitChars_append, Nat.ofDigitChars_replicate_zero, Nat.mul_zero]
  rfl

theorem decimal_append_noughts (digits : List Char) (k : Nat) :
    decimal (digits ++ List.replicate k '0') = decimal digits * 10 ^ k := by
  change Nat.ofDigitChars 10 _ 0 = _
  rw [Nat.ofDigitChars_append, Nat.ofDigitChars_replicate_zero, Nat.mul_comm]
  rfl

/-- The digits of a number are written as a whole number. -/
theorem isWhole_toDigits (n : Nat) : IsWhole (Nat.toDigits 10 n) := by
  refine ⟨fun c hc => Nat.isDigit_of_mem_toDigits (by decide) (by decide) hc, Nat.toDigits_ne_nil,
    ?_⟩
  induction n using Nat.strong_induction_on with
  | _ n ih =>
    intro hhead
    by_cases hn : n < 10
    · rw [Nat.toDigits_of_lt_base hn] at hhead ⊢
      rw [Option.some.inj hhead]
    · -- otherwise nought would be the first digit of a tenth, and all of it
      have hdigits := Nat.toDigits_of_base_le (b := 10) (by decide) (Nat.not_lt.mp hn)
      have hne : Nat.toDigits 10 (n / 10) ≠ [] := Nat.toDigits_ne_nil
      rw [hdigits, List.head?_append_of_ne_nil _ hne] at hhead
      have hzero := decimal_toDigits (n / 10)
      rw [ih (n / 10) (by omega) hhead] at hzero
      have : decimal ['0'] = 0 := rfl
      omega

/-- A fraction is read up to what is no digit. -/
theorem fractionPart_append (h : ∀ c ∈ behind, c.isDigit) (hne : behind ≠ []) (rest : List Char)
    (hrest : ∀ c ∈ rest.head?, c.isDigit = false) :
    fractionPart ('.' :: (behind ++ rest)) = some (behind, rest) := by
  rw [fractionPart, spanDigits_append h hrest, if_neg hne]

theorem fractionPart_eq_none (rest : List Char) (hrest : ∀ c ∈ rest.head?, c ≠ '.') :
    fractionPart rest = none := by
  unfold fractionPart
  split
  · exact absurd rfl (hrest '.' rfl)
  · rfl

/-- The power that an exponent writes. -/
def signedPower (sign : Char) (power : List Char) : Int :=
  (if sign = '-' then -1 else 1) * decimal power

/-- An exponent is read up to what is no digit. -/
theorem exponentPart_append {sign : Char} (hsign : sign = '+' ∨ sign = '-')
    (h : ∀ c ∈ digits, c.isDigit) (hne : digits ≠ [])
    (hrest : ∀ c ∈ rest.head?, c.isDigit = false) :
    exponentPart ('e' :: sign :: (digits ++ rest)) = some (signedPower sign digits, rest) := by
  have hspan := spanDigits_append h hrest
  obtain rfl | rfl := hsign <;>
    · rw [exponentPart, if_pos (.inl rfl)]
      simp only [hspan, if_neg hne]
      rfl

theorem exponentPart_eq_none (hrest : ∀ c ∈ rest.head?, c ≠ 'e' ∧ c ≠ 'E') :
    exponentPart rest = none := by
  cases rest with
  | nil => rfl
  | cons c rest =>
    obtain ⟨h, h'⟩ := hrest c rfl
    simp [exponentPart, h, h']

/-! ## Numbers -/

/-- **A whole number reads back.** -/
theorem readNumber_integer (negative : Bool) (hn : (Nat.toDigits 10 n).length ≤ maxDigits)
    (hrest : EndsNumber rest) :
    readNumber negative (Nat.toDigits 10 n ++ rest) =
      some (.ok (.integer (if negative then -n else n)), rest) := by
  rw [readNumber, integerPart_append (isWhole_toDigits n) rest fun c hc => (hrest c hc).1]
  simp only [bind, Option.bind, fractionPart_eq_none rest fun c hc => (hrest c hc).2.1,
    exponentPart_eq_none fun c hc => (hrest c hc).2.2, Option.map_none, Option.getD_none]
  rw [if_neg (by omega), decimal_toDigits]
  rfl

/-- The texts that write fractions other than infinity: digits with a point
among them, or with an exponent behind them. A text writes so many units of a
power of ten. -/
inductive FractionText : List Char → Nat → Int → Prop where
  /-- Digits with a point among them. -/
  | positional {whole behind : List Char} (hwhole : IsWhole whole)
      (hbehind : ∀ c ∈ behind, c.isDigit) (hne : behind ≠ []) :
      FractionText (whole ++ '.' :: behind) (decimal (whole ++ behind)) (-behind.length)
  /-- Digits with an exponent. -/
  | scientific {whole behind power : List Char} {sign : Char} (hwhole : IsWhole whole)
      (hbehind : ∀ c ∈ behind, c.isDigit) (hsign : sign = '+' ∨ sign = '-')
      (hpower : ∀ c ∈ power, c.isDigit) (hne : power ≠ []) :
      FractionText (whole ++ (if behind = [] then [] else '.' :: behind) ++ 'e' :: sign :: power)
        (decimal (whole ++ behind)) (signedPower sign power - behind.length)

/-- **The text of a fraction is read as what it writes.** -/
theorem readNumber_fractionText (negative : Bool) {cs : List Char} {units : Nat} {exponent : Int}
    (h : FractionText cs units exponent) (hrest : EndsNumber rest) :
    readNumber negative (cs ++ rest) =
      some (.ok (.fraction negative (.ofDecimal units exponent)), rest) := by
  have hdigit := fun c hc => (hrest c hc).1
  cases h with
  | @positional whole behind hwhole hbehind hne =>
    have hint := integerPart_append hwhole ('.' :: (behind ++ rest)) (by simp)
    rw [List.append_assoc, List.cons_append, readNumber, hint]
    simp only [bind, Option.bind, fractionPart_append hbehind hne rest hdigit, Option.map_some,
      Option.getD_some, exponentPart_eq_none fun c hc => (hrest c hc).2.2, Option.map_none,
      Option.getD_none, Int.zero_sub]
    rfl
  | @scientific whole behind power sign hwhole hbehind hsign hpower hne =>
    have hexponent := exponentPart_append hsign hpower hne hdigit
    rw [List.append_assoc, List.append_assoc, List.cons_append, List.cons_append]
    split
    · rename_i hnil
      have hint := integerPart_append hwhole ('e' :: sign :: (power ++ rest)) (by simp)
      have hfraction := fractionPart_eq_none ('e' :: sign :: (power ++ rest)) (by simp)
      rw [List.nil_append, readNumber, hint, hnil]
      simp only [bind, Option.bind, hfraction, Option.map_none, Option.getD_none, hexponent,
        Option.map_some, Option.getD_some]
      rfl
    · rename_i hbehind_ne
      have hint := integerPart_append hwhole
        ('.' :: (behind ++ 'e' :: sign :: (power ++ rest))) (by simp)
      have hfraction := fractionPart_append hbehind hbehind_ne
        ('e' :: sign :: (power ++ rest)) (by simp)
      rw [List.cons_append, readNumber, hint]
      simp only [bind, Option.bind, hfraction, Option.map_some, Option.getD_some, hexponent]
      rfl

theorem isWhole_nought : IsWhole ['0'] :=
  ⟨by simp, by simp, fun _ => rfl⟩

theorem isDigit_noughts (k : Nat) : ∀ c ∈ List.replicate k '0', c.isDigit := by
  intro c hc
  rw [List.eq_of_mem_replicate hc]
  rfl

/-- A number in positional notation writes its digits, the point among them. -/
theorem fractionText_positional (h : IsWhole digits) (hzero : digits ≠ ['0']) (point : Int) :
    ∃ units exponent, FractionText (positional digits point) units exponent ∧
      Binary.ofDecimal units exponent =
        Binary.ofDecimal (decimal digits) (point - digits.length) := by
  unfold positional
  split
  · -- noughts stand behind the point
    have hbehind : ∀ c ∈ List.replicate (-point).toNat '0' ++ digits, c.isDigit := fun c hc =>
      (List.mem_append.mp hc).elim (isDigit_noughts _ c) (h.digit c)
    have htext := FractionText.positional isWhole_nought hbehind (by simp [h.ne_nil])
    refine ⟨_, _, htext, ?_⟩
    rw [show ['0'] = List.replicate 1 '0' from rfl, decimal_noughts_append, decimal_noughts_append,
      List.length_append, List.length_replicate]
    congr 1
    omega
  · rename_i hpoint
    have htake : digits.take point.toNat ≠ [] := by
      simp [h.ne_nil]
      omega
    have hwhole : IsWhole (digits.take point.toNat ++
        List.replicate (point.toNat - (digits.take point.toNat).length) '0') := by
      refine ⟨fun c hc => ?_, by simp [htake], fun hhead => ?_⟩
      · exact (List.mem_append.mp hc).elim (fun hc => h.digit c (List.mem_of_mem_take hc))
          (isDigit_noughts _ c)
      · rw [List.head?_append_of_ne_nil _ htake, List.head?_take, if_neg (by omega)] at hhead
        exact absurd (h.head hhead) hzero
    dsimp only
    split
    · -- noughts stand before the point, and one behind it
      rename_i hdrop
      have hlength := List.drop_eq_nil_iff.mp hdrop
      refine ⟨_, _, .positional hwhole (isDigit_noughts 1) (by simp), ?_⟩
      rw [List.take_of_length_le hlength, show ['0'] = List.replicate 1 '0' from rfl,
        List.append_assoc, ← List.replicate_add, decimal_append_noughts, Binary.ofDecimal_mul_pow,
        List.length_replicate]
      congr 1
      omega
    · -- the point stands among the digits
      rename_i hdrop
      have hlength := List.drop_eq_nil_iff.not.mp hdrop
      refine ⟨_, _, .positional hwhole (fun c hc => h.digit c (List.mem_of_mem_drop hc)) hdrop, ?_⟩
      rw [List.length_take_of_le (by omega), Nat.sub_self, List.replicate_zero, List.append_nil,
        List.take_append_drop, List.length_drop]
      congr 1
      omega

/-- A number with an exponent writes its digits, the point behind the first. -/
theorem fractionText_scientific (h : IsWhole digits) (exponent : Int) :
    ∃ units exponent', FractionText (scientific digits exponent) units exponent' ∧
      Binary.ofDecimal units exponent' =
        Binary.ofDecimal (decimal digits) (exponent + 1 - digits.length) := by
  have hdigits : ∀ c ∈ Nat.toDigits 10 exponent.natAbs, c.isDigit := fun c hc =>
    Nat.isDigit_of_mem_toDigits (by decide) (by decide) hc
  have hwhole : IsWhole (digits.take 1) := by
    obtain ⟨c, digits, rfl⟩ := List.exists_cons_of_ne_nil h.ne_nil
    exact ⟨fun d hd => h.digit d (List.mem_of_mem_take hd), by simp, by simp⟩
  have hpos := List.length_pos_iff.mpr h.ne_nil
  unfold scientific
  dsimp only
  -- the digits of the exponent, with a nought before a single one
  generalize hpower : (if (Nat.toDigits 10 exponent.natAbs).length < 2 then
    '0' :: Nat.toDigits 10 exponent.natAbs else Nat.toDigits 10 exponent.natAbs) = power
  have hvalue : decimal power = exponent.natAbs := by
    rw [← hpower]
    split
    · exact (decimal_noughts_append 1 _).trans (decimal_toDigits _)
    · exact decimal_toDigits _
  refine ⟨_, _, .scientific hwhole (fun c hc => h.digit c (List.mem_of_mem_drop hc)) ?_ ?_ ?_, ?_⟩
  · split <;> simp
  · intro c hc
    rw [← hpower] at hc
    split at hc
    · obtain rfl | hc := List.mem_cons.mp hc
      · rfl
      · exact hdigits c hc
    · exact hdigits c hc
  · rw [← hpower]
    split
    · simp
    · exact Nat.toDigits_ne_nil
  · rw [List.take_append_drop, List.length_drop, signedPower, hvalue]
    congr 1
    obtain hneg | hnonneg := lt_or_ge exponent 0
    · rw [if_pos hneg, if_pos rfl]
      omega
    · rw [if_neg (not_lt.mpr hnonneg), if_neg (by decide)]
      omega

/-- What is written of a fraction other than infinity writes its value, if it is
rounded. -/
theorem fractionText_writeBinary (m : Nat) (e : Int) :
    ∃ units exponent, FractionText (writeBinary (.finite m e)) units exponent ∧
      ((Binary.finite m e).IsRounded → Binary.ofDecimal units exponent = .finite m e) := by
  rw [writeBinary.eq_def]
  split
  · rename_i h
    cases h
  · rename_i e' h
    cases h
    refine ⟨_, _, .positional isWhole_nought isWhole_nought.digit isWhole_nought.ne_nil, ?_⟩
    rintro ⟨-, -, -, hbits⟩
    -- nought has fewer than 53 bits
    by_cases he : e = Binary.minExponent
    · rw [he]
      rfl
    · exact absurd (hbits he) (by decide)
  · rename_i m' e' hm h
    cases h
    have hwhole := isWhole_toDigits (Decimal.shortest m e).number
    have hzero : Nat.toDigits 10 (Decimal.shortest m e).number ≠ ['0'] := by
      intro h
      have hnumber := decimal_toDigits (Decimal.shortest m e).number
      rw [h] at hnumber
      exact Decimal.shortest_number_ne_zero hm e hnumber.symm
    dsimp only
    split
    · obtain ⟨units, exponent, htext, hvalue⟩ :=
        fractionText_positional hwhole hzero (Decimal.shortest m e).point
      refine ⟨units, exponent, htext, fun hrounded => ?_⟩
      rw [hvalue, decimal_toDigits, Decimal.shortest_reads_back hrounded hm]
    · obtain ⟨units, exponent, htext, hvalue⟩ :=
        fractionText_scientific hwhole ((Decimal.shortest m e).point - 1)
      refine ⟨units, exponent, htext, fun hrounded => ?_⟩
      rw [hvalue, decimal_toDigits, Int.sub_add_cancel, Decimal.shortest_reads_back hrounded hm]

/-! ## Values without parts -/

/-- A number that is not written with too many digits, and is rounded. -/
def Number.Legible : Number → Prop
  | .integer n => (Nat.toDigits 10 n.natAbs).length ≤ maxDigits
  | .fraction _ b => b.IsRounded
  | .nan => True

/-- A word is read as its value. -/
theorem readScalar_of_word {word : String} {value : Value} (h : (word, value) ∈ wordValues)
    (place : Nat) (rest : List Char) :
    ∃ place', readScalar place (word.toList ++ rest) = .ok (value, place', rest) := by
  simp only [wordValues, List.mem_cons, Prod.mk.injEq, List.not_mem_nil, or_false] at h
  obtain ⟨rfl, rfl⟩ | ⟨rfl, rfl⟩ | ⟨rfl, rfl⟩ | ⟨rfl, rfl⟩ | ⟨rfl, rfl⟩ | ⟨rfl, rfl⟩ := h <;>
    exact ⟨_, rfl⟩

/-- What starts with a digit, behind a minus or not, is no word. -/
theorem find?_word_of_digit {c : Char} (hc : c.isDigit) (cs : List Char) :
    wordValues.find?
        (fun w => w.1.toList.isPrefixOf ((if negative then ['-'] else []) ++ c :: cs)) =
      none := by
  have hne : ∀ d : Char, d.isDigit = false → (d == c) = false := by
    intro d hd
    rw [beq_eq_false_iff_ne]
    rintro rfl
    rw [hd] at hc
    cases hc
  rw [List.find?_eq_none]
  intro w hw
  simp only [wordValues, List.mem_cons, List.not_mem_nil, or_false] at hw
  cases negative <;> obtain rfl | rfl | rfl | rfl | rfl | rfl := hw <;>
    simp [List.isPrefixOf, hne]

/-- A number is read as a scalar, with its sign. -/
theorem readScalar_of_number {c : Char} {cs : List Char} {n : Number} (hc : c.isDigit)
    (h : readNumber negative (c :: cs) = some (.ok n, rest)) (place : Nat) :
    ∃ place', readScalar place ((if negative then ['-'] else []) ++ c :: cs) =
      .ok (.number n, place', rest) := by
  rw [readScalar.eq_def, find?_word_of_digit hc]
  cases negative with
  | true => exact ⟨_, by simp [h]; rfl⟩
  | false =>
    have hminus : c ≠ '-' := by
      rintro rfl
      cases hc
    exact ⟨place + ((c :: cs).length - rest.length), by simp [hminus, h]⟩

theorem IsWhole.exists_cons (h : IsWhole digits) :
    ∃ c cs, digits = c :: cs ∧ c.isDigit := by
  obtain ⟨c, cs, rfl⟩ := List.exists_cons_of_ne_nil h.ne_nil
  exact ⟨c, cs, rfl, h.digit c (.head _)⟩

theorem FractionText.exists_cons {cs : List Char} {units : Nat} {exponent : Int}
    (h : FractionText cs units exponent) : ∃ c cs', cs = c :: cs' ∧ c.isDigit := by
  cases h with
  | positional hwhole =>
    obtain ⟨c, whole, rfl, hc⟩ := hwhole.exists_cons
    exact ⟨c, _, rfl, hc⟩
  | scientific hwhole =>
    obtain ⟨c, whole, rfl, hc⟩ := hwhole.exists_cons
    exact ⟨c, _, rfl, hc⟩

/-- A number is written with its sign and its digits. -/
theorem toList_toString (n : Int) :
    (toString n).toList = (if n < 0 then ['-'] else []) ++ Nat.toDigits 10 n.natAbs := by
  rw [Int.toString_eq_repr, Int.repr_eq_if]
  by_cases hn : n < 0
  · have hnat : (-n).toNat = n.natAbs := by omega
    rw [if_neg (by omega), if_pos hn, Nat.repr_eq_ofList_toDigits, hnat]
    simp
  · rw [if_pos (by omega), if_neg hn, Nat.repr_eq_ofList_toDigits, String.toList_ofList,
      List.nil_append]
    congr 1
    omega

/-- **A number reads back.** -/
theorem readScalar_writeNumber {n : Number} (h : n.Legible) (hrest : EndsNumber rest)
    (place : Nat) :
    ∃ place', readScalar place (writeNumber n ++ rest) = .ok (.number n, place', rest) := by
  cases n with
  | nan =>
    have hword : ("NaN", Value.number .nan) ∈ wordValues := by simp [wordValues]
    exact readScalar_of_word hword place rest
  | integer n =>
    have hread := readNumber_integer (n < 0) (n := n.natAbs) h hrest
    obtain ⟨c, cs, hcons, hc⟩ := (isWhole_toDigits n.natAbs).exists_cons
    rw [hcons, List.cons_append] at hread
    obtain ⟨place', hread'⟩ := readScalar_of_number hc hread place
    refine ⟨place', ?_⟩
    have hsign : (if n < 0 then -(n.natAbs : Int) else n.natAbs) = n := by
      split <;> omega
    rw [writeNumber, toList_toString, hcons, List.append_assoc, List.cons_append]
    simp only [decide_eq_true_eq, hsign] at hread'
    exact hread'
  | fraction negative b =>
    cases b with
    | infinite =>
      cases negative with
      | true =>
        have hword : ("-Infinity", Value.number (.fraction true .infinite)) ∈ wordValues := by
          simp [wordValues]
        exact readScalar_of_word hword place rest
      | false =>
        have hword : ("Infinity", Value.number (.fraction false .infinite)) ∈ wordValues := by
          simp [wordValues]
        exact readScalar_of_word hword place rest
    | finite m e =>
      obtain ⟨units, exponent, htext, hvalue⟩ := fractionText_writeBinary m e
      have hread := readNumber_fractionText negative htext hrest
      obtain ⟨c, cs, hcons, hc⟩ := htext.exists_cons
      rw [hcons, List.cons_append, hvalue h] at hread
      obtain ⟨place', hread'⟩ := readScalar_of_number hc hread place
      refine ⟨place', ?_⟩
      rw [writeNumber, hcons, List.append_assoc, List.cons_append, hread']

/-! ## What is read and written -/

theorem isPlain_of_isDigit {c : Char} (h : c.isDigit) : Text.IsPlain c := by
  have hle : c.toNat ≤ 57 := (Char.isDigit_iff_toNat.mp h).2
  refine ⟨by omega, ?_⟩
  rintro rfl
  cases h

theorem FractionText.isPlain {cs : List Char} {units : Nat} {exponent : Int}
    (h : FractionText cs units exponent) {c : Char} (hc : c ∈ cs) : Text.IsPlain c := by
  have key : ∀ {ds : List Char}, (∀ d ∈ ds, d.isDigit) → c ∈ ds → Text.IsPlain c :=
    fun hds hc => isPlain_of_isDigit (hds c hc)
  cases h with
  | positional hwhole hbehind hne =>
    simp only [List.mem_append, List.mem_cons] at hc
    obtain hc | rfl | hc := hc
    · exact key hwhole.digit hc
    · decide
    · exact key hbehind hc
  | scientific hwhole hbehind hsign hpower hne =>
    simp only [List.mem_append, List.mem_cons] at hc
    obtain (hc | hc) | rfl | rfl | hc := hc
    · exact key hwhole.digit hc
    · split at hc
      · cases hc
      · obtain rfl | hc := List.mem_cons.mp hc
        · decide
        · exact key hbehind hc
    · decide
    · obtain rfl | rfl := hsign <;> decide
    · exact key hpower hc

/-- What is written of a number is plain. -/
theorem isPlain_writeNumber {n : Number} {c : Char} (hc : c ∈ writeNumber n) : Text.IsPlain c := by
  have hminus : ∀ b : Bool, c ∈ (if b then ['-'] else []) → Text.IsPlain c := by
    intro b hc
    cases b with
    | true => exact List.mem_singleton.mp hc ▸ by decide
    | false => cases hc
  cases n with
  | nan => exact Text.isPlain_word "NaN" (by decide) hc
  | integer n =>
    rw [writeNumber, toList_toString] at hc
    obtain hc | hc := List.mem_append.mp hc
    · exact hminus (n < 0) (by simpa using hc)
    · exact isPlain_of_isDigit ((isWhole_toDigits _).digit c hc)
  | fraction negative b =>
    obtain hc | hc := List.mem_append.mp hc
    · exact hminus negative hc
    · cases b with
      | infinite => exact Text.isPlain_word "Infinity" (by decide) hc
      | finite m e =>
        obtain ⟨units, exponent, htext, -⟩ := fractionText_writeBinary m e
        exact htext.isPlain hc

/-- A number of some digits is below the power of ten. -/
theorem decimal_lt (h : ∀ c ∈ digits, c.isDigit) : decimal digits < 10 ^ digits.length := by
  have hfold : ∀ (digits : List Char) (init : Nat), (∀ c ∈ digits, c.isDigit) →
      digits.foldl (fun n c => 10 * n + (c.toNat - 48)) init < (init + 1) * 10 ^ digits.length := by
    intro digits
    induction digits with
    | nil => simp
    | cons c digits ih =>
      intro init h
      have hle : c.toNat ≤ 57 := (Char.isDigit_iff_toNat.mp (h c (.head _))).2
      calc digits.foldl _ (10 * init + (c.toNat - 48))
          < (10 * init + (c.toNat - 48) + 1) * 10 ^ digits.length :=
            ih _ fun d hd => h d (.tail _ hd)
        _ ≤ (10 * (init + 1)) * 10 ^ digits.length := by gcongr; omega
        _ = (init + 1) * 10 ^ (c :: digits).length := by rw [List.length_cons]; ring
  calc decimal digits < (0 + 1) * 10 ^ digits.length := hfold digits 0 h
    _ = 10 ^ digits.length := by rw [Nat.zero_add, Nat.one_mul]

/-- A whole part has digits only. -/
theorem digit_of_integerPart {cs : List Char} (h : integerPart cs = some (whole, rest)) :
    ∀ c ∈ whole, c.isDigit := by
  unfold integerPart at h
  split at h
  · cases h
    simp
  · split at h
    · cases h
    · cases h
      exact fun c hc => List.mem_takeWhile_imp hc

/-- **A number that was read reads back.** -/
theorem legible_of_readNumber {cs : List Char} {m : Number}
    (h : readNumber negative cs = some (.ok m, rest)) : m.Legible := by
  obtain ⟨⟨whole, behind⟩, hwhole, h⟩ := Option.bind_eq_some_iff.mp h
  dsimp only at h
  split at h
  · obtain ⟨hm, -⟩ := Prod.mk.inj (Option.some.inj h)
    split at hm
    · cases hm
    · rename_i hdigits
      have hlt := decimal_lt (digit_of_integerPart hwhole)
      have hle : (Nat.toDigits 10 (decimal whole)).length ≤ maxDigits :=
        (Nat.length_toDigits_le_iff (by decide) (by decide)).mpr
          (hlt.trans_le (Nat.pow_le_pow_right (by decide) (Nat.not_lt.mp hdigits)))
      cases hm
      cases negative <;> simpa [Number.Legible] using hle
  · obtain ⟨hm, -⟩ := Prod.mk.inj (Option.some.inj h)
    cases hm
    exact Binary.isRounded_ofDecimal _ _

end Json

end Ratchet
