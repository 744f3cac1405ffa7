import Mathlib.Data.List.Lex
import Mathlib.Data.List.Pairwise
import Mathlib.Data.Prod.Lex
import Mathlib.Tactic.Choose
import Ratchet.Json.Order
import Ratchet.Proofs.Basic
import Ratchet.Proofs.Decimal.Rounding

/-!
# The order of JSON values

Texts and numbers stand in linear orders, and values are the same exactly when
they stand at one place. So of a list that holds no two values that are the
same, the sorted list does not depend on the order in which they came, unless
NaN stands beside another number.

* `Number.position`: where a number stands.
* `less?_numbers`, `same_numbers`: what comparing finds out.
* `Settled`: NaN does not stand beside another number.
* `sorted?_perm`: then a sorted list does not depend on the order of the values.
* `distinct_spec`, `distinct_eq_self`: lists without repetitions.
-/

namespace Ratchet.Json

/-! ## Numbers -/

namespace Magnitude

variable {a b : Magnitude}

/-- The denominator is not nought. -/
def IsProper (a : Magnitude) : Prop :=
  ∀ r ∈ a.ratio, r.2 ≠ 0

/-- Where a number stands: minus infinity, the fractions, infinity. -/
def position (a : Magnitude) : ℤ ×ₗ ℚ :=
  match a.ratio with
  | some (m, n) => toLex (0, (if a.negative then -1 else 1) * (m / n))
  | none => toLex (if a.negative then -1 else 1, 0)

/-- Two fractions compare as they stand. -/
theorem less_fractions {s t : Bool} {m n p q : Nat} (hn : n ≠ 0) (hq : q ≠ 0) :
    less ⟨s, some (m, n)⟩ ⟨t, some (p, q)⟩ = true ↔
      (if s then -1 else 1) * ((m : ℚ) / n) < (if t then -1 else 1) * ((p : ℚ) / q) := by
  have hn' : (0 : ℚ) < n := by exact_mod_cast Nat.pos_of_ne_zero hn
  have hq' : (0 : ℚ) < q := by exact_mod_cast Nat.pos_of_ne_zero hq
  by_cases hzero : m = 0 ∧ p = 0
  · obtain ⟨rfl, rfl⟩ := hzero
    simp [less, isZero]
  have hguard : ((⟨s, some (m, n)⟩ : Magnitude).isZero && (⟨t, some (p, q)⟩ : Magnitude).isZero) =
      false := by simpa [isZero] using hzero
  have hm : (0 : ℚ) ≤ m / n := by positivity
  have hp : (0 : ℚ) ≤ p / q := by positivity
  rw [less, hguard, if_neg Bool.false_ne_true]
  cases s <;> cases t
  case false.false =>
    simp only [absLess, decide_eq_true_eq, Bool.false_eq_true, if_false, one_mul,
      div_lt_div_iff₀ hn' hq']
    exact_mod_cast Iff.rfl
  case true.true =>
    simp only [absLess, decide_eq_true_eq, if_true, neg_one_mul, neg_lt_neg_iff,
      div_lt_div_iff₀ hq' hn']
    exact_mod_cast Iff.rfl
  case true.false =>
    -- a number below nought is less, unless both are nought
    have hsum : (0 : ℚ) < m / n + p / q := by
      obtain hm' | hp' := not_and_or.mp hzero
      · exact add_pos_of_pos_of_nonneg (by positivity) hp
      · exact add_pos_of_nonneg_of_pos hm (by positivity)
    simpa [neg_lt_iff_pos_add'] using add_comm ((m : ℚ) / n) (p / q) ▸ hsum
  case false.true =>
    simpa using (neg_nonpos.mpr hp).trans hm

/-- Proper magnitudes are ordered by their positions. -/
theorem less_iff (ha : a.IsProper) (hb : b.IsProper) :
    a.less b = true ↔ a.position < b.position := by
  obtain ⟨s, _ | ⟨m, n⟩⟩ := a <;> obtain ⟨t, _ | ⟨p, q⟩⟩ := b
  case some.some =>
    rw [less_fractions (ha _ rfl) (hb _ rfl), position, position, Prod.Lex.toLex_lt_toLex]
    simp
  all_goals
    cases s <;> cases t <;> simp [less, isZero, absLess, position, Prod.Lex.toLex_lt_toLex]

/-- Proper magnitudes are equal at one position. -/
theorem equal_iff (ha : a.IsProper) (hb : b.IsProper) :
    a.equal b = true ↔ a.position = b.position := by
  rw [equal, Bool.and_eq_true, Bool.not_eq_true', Bool.not_eq_true', ← Bool.not_eq_true,
    ← Bool.not_eq_true, less_iff ha hb, less_iff hb ha, not_lt, not_lt, and_comm]
  exact le_antisymm_iff.symm

/-- No number stands as far behind. -/
theorem position_lt (a : Magnitude) : a.position < toLex (2, 0) := by
  obtain ⟨s, _ | ⟨m, n⟩⟩ := a
  · cases s <;> simp [position, Prod.Lex.toLex_lt_toLex]
  · simp [position, Prod.Lex.toLex_lt_toLex]

end Magnitude

/-- Where a number stands; NaN behind all others. -/
def Number.position (n : Number) : ℤ ×ₗ ℚ :=
  (n.magnitude?.map Magnitude.position).getD (toLex (2, 0))

theorem Number.isProper {n : Number} {a : Magnitude} (h : n.magnitude? = some a) : a.IsProper := by
  intro r hr
  cases n with
  | integer n =>
    cases h
    cases hr
    exact Nat.one_ne_zero
  | fraction negative b =>
    cases b with
    | infinite =>
      cases h
      cases hr
    | finite m e =>
      cases h
      cases hr
      exact (Decimal.Binary.twoTo_pos _).ne'
  | nan => cases h

variable {v w : Value} {m n : Number} {vs ws : List Value} {t u : Text} {a : Arrangement}

/-- Every number but one has a magnitude. -/
theorem Number.exists_magnitude (h : n ≠ .nan) : ∃ a, n.magnitude? = some a := by
  cases n with
  | integer => exact ⟨_, rfl⟩
  | fraction _ b => cases b <;> exact ⟨_, rfl⟩
  | nan => exact absurd rfl h

/-- Numbers compare as they stand. -/
theorem Number.less_iff (hm : m ≠ .nan) (hn : n ≠ .nan) :
    m.less n = true ↔ m.position < n.position := by
  obtain ⟨a, ha⟩ := exists_magnitude hm
  obtain ⟨b, hb⟩ := exists_magnitude hn
  rw [less, position, position, ha, hb]
  exact Magnitude.less_iff (isProper ha) (isProper hb)

/-- Numbers are equal where they stand at one place. -/
theorem Number.equal_iff : m.equal n = true ↔ m.position = n.position := by
  rw [equal, position, position]
  cases hm : m.magnitude? with
  | none =>
    cases hn : n.magnitude? with
    | none => simp
    | some b => simpa using b.position_lt.ne'
  | some a =>
    cases hn : n.magnitude? with
    | none => simpa using a.position_lt.ne
    | some b => exact Magnitude.equal_iff (isProper hm) (isProper hn)

/-- **Numbers stand in a line.** -/
theorem less?_numbers (hv : v.number? = some m) (hw : w.number? = some n) :
    less? v w = some (m.less n) := by
  cases v <;> cases w <;> simp_all [less?, Value.number?]

theorem same_numbers (hv : v.number? = some m) (hw : w.number? = some n) :
    same v w = m.equal n := by
  cases v <;> cases w <;> simp_all [same, Value.number?]

/-! ## Texts -/

/-- Texts are ordered by their code points. -/
theorem textLess_iff : textLess t u = true ↔ t < u := by
  induction t generalizing u with
  | nil => cases u <;> simp [textLess]
  | cons a t ih =>
    cases u with
    | nil => simp [textLess]
    | cons b u =>
      rw [textLess, List.cons_lt_cons_iff]
      split
      · rename_i hab
        simp [ih, hab]
      · rename_i hab
        simp [hab]

theorem same_string : same (.string t) v = true ↔ v = .string t := by
  cases v <;> simp [same, Value.number?, eq_comm]

/-! ## Values that are not the same -/

/-- Which values are the same does not depend on their order. -/
theorem same_comm (v w : Value) : same v w = same w v := by
  have hequal : ∀ m n : Number, m.equal n = n.equal m := fun m n => by
    rw [Bool.eq_iff_iff, Number.equal_iff, Number.equal_iff, eq_comm]
  cases v <;> cases w <;> simp [same, Value.number?, eq_comm, hequal]

/-- No two values of a list are the same. -/
def Apart (vs : List Value) : Prop :=
  vs.Pairwise fun v w => same v w = false

theorem Apart.perm (h : Apart vs) (hperm : vs.Perm ws) : Apart ws :=
  (hperm.pairwise_iff fun h => same_comm _ _ ▸ h).mp h

/-- Values that stand apart are not the same. -/
theorem Apart.eq_of_same (h : Apart vs) (hv : v ∈ vs) (hw : w ∈ vs) (hsame : same v w = true) :
    v = w := by
  have hsymm : Std.Symm fun v w : Value => same v w = true → v = w :=
    ⟨fun v w h hsame => (h (same_comm w v ▸ hsame)).symm⟩
  refine List.Pairwise.forall_of_forall (R := fun v w => same v w = true → v = w)
    (fun _ _ _ => rfl) ?_ hv hw hsame
  exact List.Pairwise.imp (fun hfalse htrue => absurd htrue (by simp [hfalse])) h

theorem apart_concat : Apart (vs ++ [v]) ↔ Apart vs ∧ vs.any (same v) = false := by
  rw [Apart, List.pairwise_append]
  simp [Apart, same_comm v]

/-! ## Lists without repetitions -/

/-- Put a value behind others, unless one of these is the same. -/
def keepNew (seen : List Value) (v : Value) : List Value :=
  if seen.any (same v) then seen else seen ++ [v]

/-- Distinct values are picked one by one, if all are scalars. -/
theorem distinct_eq_some : distinct vs = some ws ↔
    (∀ v ∈ vs, isScalar v = true) ∧ vs.foldl keepNew [] = ws := by
  rw [← List.all_eq_true]
  unfold distinct
  split
  · rename_i hscalar
    simp only [hscalar, true_and, Option.some.injEq]
    rfl
  · rename_i hscalar
    simp [hscalar]

/-- What is kept of some values behind others: no two of them are the same, all
the others are there, and each value is, or one that is the same. -/
theorem foldl_keepNew_spec {seen : List Value} (hseen : Apart seen) (vs : List Value) :
    Apart (vs.foldl keepNew seen) ∧ (∀ w ∈ seen, w ∈ vs.foldl keepNew seen) ∧
      (∀ w ∈ vs.foldl keepNew seen, w ∈ seen ∨ w ∈ vs) ∧
        ∀ v ∈ vs, v ∈ vs.foldl keepNew seen ∨ ∃ w ∈ vs.foldl keepNew seen, same v w = true := by
  induction vs generalizing seen with
  | nil => exact ⟨hseen, fun _ => id, fun _ => .inl, by simp⟩
  | cons v vs ih =>
    rw [List.foldl_cons, keepNew]
    split
    · rename_i hknown
      obtain ⟨hapart, hkept, hmem, hsame⟩ := ih hseen
      obtain ⟨w, hw, hvw⟩ := List.any_eq_true.mp hknown
      exact ⟨hapart, hkept, fun w hw => (hmem w hw).imp_right (.tail _),
        List.forall_mem_cons.mpr ⟨.inr ⟨w, hkept w hw, hvw⟩, hsame⟩⟩
    · rename_i hnew
      obtain ⟨hapart, hkept, hmem, hsame⟩ := ih (apart_concat.mpr ⟨hseen, by simpa using hnew⟩)
      refine ⟨hapart, fun w hw => hkept w (List.mem_append_left _ hw), fun w hw => ?_,
        List.forall_mem_cons.mpr ⟨.inl (hkept v (by simp)), hsame⟩⟩
      simpa [or_assoc] using hmem w hw

/-- Of the values of a list, those stay that are not the same as one before. -/
theorem distinct_spec (h : distinct vs = some ws) :
    Apart ws ∧ (∀ v ∈ vs, isScalar v = true) ∧ (∀ w ∈ ws, w ∈ vs) ∧
      ∀ v ∈ vs, v ∈ ws ∨ ∃ w ∈ ws, same v w = true := by
  obtain ⟨hscalar, rfl⟩ := distinct_eq_some.mp h
  obtain ⟨hapart, -, hmem, hsame⟩ := foldl_keepNew_spec .nil vs
  exact ⟨hapart, hscalar, fun w hw => (hmem w hw).resolve_left List.not_mem_nil, hsame⟩

theorem foldl_keepNew_eq_append {seen : List Value} (h : Apart (seen ++ vs)) :
    vs.foldl keepNew seen = seen ++ vs := by
  induction vs generalizing seen with
  | nil => rw [List.foldl_nil, List.append_nil]
  | cons v vs ih =>
    rw [List.append_cons] at h ⊢
    have hnew := (apart_concat.mp (List.pairwise_append.mp h).1).2
    rw [List.foldl_cons, keepNew, hnew, if_neg Bool.false_ne_true, ih h]

/-- Where no two values are the same, all of them stay. -/
theorem distinct_eq_self (h : Apart vs) (hscalar : ∀ v ∈ vs, isScalar v = true) :
    distinct vs = some vs :=
  distinct_eq_some.mpr ⟨hscalar, foldl_keepNew_eq_append h⟩

/-! ## Sorting -/

theorem isSome_less? (v w : Value) : (less? v w).isSome ↔
    (∃ t u, v = .string t ∧ w = .string u) ∨ ∃ m n, v.number? = some m ∧ w.number? = some n := by
  cases v <;> cases w <;> simp [less?, Value.number?]

/-- Values that all compare are all texts, or all numbers. -/
theorem comparable_cases (h : ∀ v ∈ vs, ∀ w ∈ vs, (less? v w).isSome) :
    (∀ v ∈ vs, ∃ t, v = .string t) ∨ ∀ v ∈ vs, ∃ n, v.number? = some n := by
  cases vs with
  | nil => exact .inl (by simp)
  | cons u vs =>
    -- the first value tells what the others are
    have hfirst := fun w hw => (isSome_less? u w).mp (h u (.head _) w hw)
    obtain ⟨t, u', rfl, -⟩ | ⟨m, n, hm, -⟩ := hfirst u (.head _)
    · refine .inl fun w hw => ?_
      obtain ⟨t₁, t', -, hw⟩ | ⟨m, n, ht, -⟩ := hfirst w hw
      · exact ⟨t', hw⟩
      · cases ht
    · refine .inr fun w hw => ?_
      obtain ⟨t, t', rfl, -⟩ | ⟨m', n, -, hn⟩ := hfirst w hw
      · cases hm
      · exact ⟨n, hn⟩

theorem less?_texts {text : Value → Text} (htext : ∀ v ∈ vs, v = .string (text v)) :
    ∀ v ∈ vs, ∀ w ∈ vs, (!(less? w v).getD false) = decide (text v ≤ text w) := by
  intro v hv w hw
  have hless : less? w v = some (textLess (text w) (text v)) :=
    congrArg₂ less? (htext w hw) (htext v hv)
  rw [hless, Bool.eq_iff_iff]
  simp [← Bool.not_eq_true, textLess_iff]

/-- Texts stand in the order of their code points. -/
theorem mergeSort_texts (htexts : ∀ v ∈ vs, ∃ t, v = .string t) (h : vs.Perm ws) :
    (vs.mergeSort fun v w => !(less? w v).getD false) =
      ws.mergeSort fun v w => !(less? w v).getD false := by
  choose! text htext using htexts
  refine mergeSort_eq_of_perm text (less?_texts htext) (fun v hv w hw hsame => ?_) h
  rw [htext v hv, htext w hw, hsame]

/-- Numbers at one place are the same. -/
theorem mergeSort_numbers (hapart : Apart vs)
    (hnumbers : ∀ v ∈ vs, ∃ n, v.number? = some n ∧ n ≠ .nan) (h : vs.Perm ws) :
    (vs.mergeSort fun v w => !(less? w v).getD false) =
      ws.mergeSort fun v w => !(less? w v).getD false := by
  have : Nonempty Number := ⟨.nan⟩
  choose! number hnumber hnan using hnumbers
  refine mergeSort_eq_of_perm (fun v => (number v).position) (fun v hv w hw => ?_)
    (fun v hv w hw hsame => ?_) h
  · rw [less?_numbers (hnumber w hw) (hnumber v hv), Bool.eq_iff_iff]
    simp [← Bool.not_eq_true, Number.less_iff (hnan w hw) (hnan v hv)]
  · refine hapart.eq_of_same hv hw ?_
    rw [same_numbers (hnumber v hv) (hnumber w hw), Number.equal_iff, hsame]

theorem isBlank_iff : v.isBlank = true ↔ v = .number .nan := by
  unfold Value.isBlank
  split <;> simp_all

/-- What sorting makes of some values, of which there are two or more. -/
theorem sorted?_of_two (h : 2 ≤ vs.length) :
    sorted? a vs = if vs.all fun v => vs.all fun w => (less? v w).isSome then
      some (if vs.any Value.isBlank then a.arrange vs
        else vs.mergeSort fun v w => !(less? w v).getD false) else none := by
  match vs, h with
  | _ :: _ :: _, _ => rfl

/-- A list can be sorted when it has one value at most, or all of them compare. -/
theorem exists_sorted? :
    (∃ ws, sorted? a vs = some ws) ↔
      vs.length ≤ 1 ∨ ∀ v ∈ vs, ∀ w ∈ vs, (less? v w).isSome := by
  match vs with
  | [] => simp [sorted?]
  | [v] => simp [sorted?]
  | u :: v :: vs =>
    rw [sorted?_of_two (by simp)]
    split
    · rename_i hall
      exact iff_of_true ⟨_, rfl⟩ (.inr (by simpa using hall))
    · rename_i hall
      refine iff_of_false (by simp) (not_or.mpr ⟨by simp, fun h => hall (by simpa using h)⟩)

/-- Sorting loses no value. -/
theorem perm_of_sorted? (h : sorted? a vs = some ws) : ws.Perm vs := by
  unfold sorted? at h
  split at h
  · cases h
    exact .refl _
  · cases h
    exact .refl _
  · split at h
    · cases h
      split
      · exact a.perm _
      · exact List.mergeSort_perm _ _
    · cases h

/-- No text is NaN. -/
theorem any_isBlank_texts (htexts : ∀ v ∈ vs, ∃ t, v = .string t) :
    vs.any Value.isBlank = false := by
  refine List.any_eq_false.mpr fun v hv => ?_
  obtain ⟨t, rfl⟩ := htexts v hv
  exact Bool.false_ne_true

/-- Of texts of which no two are the same, the sorted list ascends by code points. -/
theorem sorted?_texts (htexts : ∀ v ∈ vs, ∃ t, v = .string t) (hapart : Apart vs)
    (h : sorted? a vs = some ws) :
    ∃ texts : List Text, ws = texts.map .string ∧ texts.Pairwise (· < ·) := by
  have hperm := perm_of_sorted? h
  have hblank := any_isBlank_texts htexts
  choose! text htext using htexts
  have hws : ∀ v ∈ ws, v = .string (text v) := fun v hv => htext v (hperm.mem_iff.mp hv)
  have hle : ws.Pairwise fun v w => text v ≤ text w := by
    match vs, h with
    | [], h =>
      cases h
      exact .nil
    | [v], h =>
      cases h
      exact List.pairwise_singleton _ _
    | u :: v :: vs, h =>
      rw [sorted?_of_two (by simp), hblank, if_neg Bool.false_ne_true] at h
      split at h
      · cases h
        exact pairwise_mergeSort_key text (less?_texts htext)
      · cases h
  refine ⟨ws.map text, ?_, List.pairwise_map.mpr ?_⟩
  · rw [List.map_map]
    exact (List.map_id ws).symm.trans (List.map_congr_left hws)
  · refine List.Pairwise.imp_of_mem (fun {v w} hv hw hvw => ?_) (hle.and (hapart.perm hperm.symm))
    refine lt_of_le_of_ne hvw.1 fun heq => ?_
    rw [hws v hv, hws w hw, heq, same_string.mpr rfl] at hvw
    cases hvw.2

theorem eq_nan_of_number? (h : v.number? = some .nan) : v = .number .nan := by
  cases v with
  | number n => exact congrArg _ (Option.some.inj h)
  | boolean b => cases Option.some.inj h
  | null | string | array | object => cases h

/-- NaN does not stand beside another number. -/
def Settled (vs : List Value) : Prop :=
  .number .nan ∈ vs → ∀ v ∈ vs, v.number?.isSome → v = .number .nan

/-- Another string leaves a list settled. -/
theorem Settled.concat (h : Settled vs) (t : Text) : Settled (vs ++ [.string t]) := by
  intro hmem v hv hnumber
  obtain hv | hv := List.mem_append.mp hv
  · exact h (by simpa using hmem) v hv hnumber
  · rw [List.mem_singleton.mp hv] at hnumber
    cases hnumber

/-- Numbers among which nothing stands that is none. -/
theorem Settled.not_mem (h : Settled vs) (hapart : Apart vs) (hlength : 2 ≤ vs.length)
    (hnumbers : ∀ v ∈ vs, ∃ n, v.number? = some n) : .number .nan ∉ vs := by
  intro hmem
  have hall : ∀ v ∈ vs, v = .number .nan := fun v hv => by
    obtain ⟨n, hn⟩ := hnumbers v hv
    exact h hmem v hv (by simp [hn])
  -- two of them would be the same
  match vs, hlength with
  | u :: v :: vs, _ =>
    have hfalse := (List.pairwise_cons.mp hapart).1 v (by simp)
    rw [hall u (by simp), hall v (by simp)] at hfalse
    exact absurd hfalse (by decide)

/-- **Of values that are not the same, the sorted list does not depend on the
order in which they came**, unless NaN stands beside another number. -/
theorem sorted?_perm (hapart : Apart vs) (hsettled : Settled vs) (h : vs.Perm ws) :
    sorted? a vs = sorted? a ws := by
  match vs, h.length_eq with
  | [], _ => rw [h.nil_eq]
  | [v], _ => rw [h.symm.eq_singleton]
  | u :: v :: vs, hlength =>
    rw [sorted?_of_two (by simp), sorted?_of_two (by rw [← hlength]; simp)]
    have hall : ((u :: v :: vs).all fun a => (u :: v :: vs).all fun b => (less? a b).isSome) =
        ws.all fun a => ws.all fun b => (less? a b).isSome := by
      rw [h.all_eq]
      exact congrArg _ (funext fun a => h.all_eq)
    have hany : (u :: v :: vs).any Value.isBlank = ws.any Value.isBlank := h.any_eq
    rw [← hall, ← hany]
    split
    · rename_i hcomparable
      have hless : ∀ a ∈ u :: v :: vs, ∀ b ∈ u :: v :: vs, (less? a b).isSome := by
        simpa using hcomparable
      obtain htexts | hnumbers := comparable_cases hless
      · rw [any_isBlank_texts htexts, if_neg Bool.false_ne_true, if_neg Bool.false_ne_true,
          mergeSort_texts htexts h]
      · have hnan := hsettled.not_mem hapart (by simp) hnumbers
        have hblank : (u :: v :: vs).any Value.isBlank = false :=
          List.any_eq_false.mpr fun w hw hb => hnan (isBlank_iff.mp hb ▸ hw)
        rw [hblank, if_neg Bool.false_ne_true, if_neg Bool.false_ne_true]
        refine congrArg some (mergeSort_numbers hapart (fun w hw => ?_) h)
        obtain ⟨n, hn⟩ := hnumbers w hw
        refine ⟨n, hn, ?_⟩
        rintro rfl
        exact hnan (eq_nan_of_number? hn ▸ hw)
    · rfl

end Ratchet.Json
