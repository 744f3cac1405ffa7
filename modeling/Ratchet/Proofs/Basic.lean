import Mathlib.Data.List.Forall2
import Mathlib.Data.List.Nodup
import Mathlib.Data.List.Sort
import Ratchet.Ascending

/-!
# Outcomes and tables

What the other modules use of computations that may fail and of lists of pairs.

* `bind_eq_ok`, `map_eq_ok`, `mapM_eq_ok`: a computation has a result when each
  of its steps has one.
* `Brings`: a search that brings all that another one brings, in any order.
* `lookup_eq_some_iff_mem`, `lookup_perm`: looking up a key that stands once.
* `ascending_congr`: a set of names is one list, however its members are listed.
* `pairwise_mergeSort_key`, `mergeSort_eq_of_perm`: sorting by a key.
-/

namespace Ratchet

section

variable {α β : Type} [BEq α] [LawfulBEq α] {l : List (α × β)} {k : α} {b : β}

theorem lookup_cons_eq [DecidableEq α] (key k : α) (b : β) (l : List (α × β)) :
    ((k, b) :: l).lookup key = if key = k then some b else l.lookup key := by
  rw [List.lookup_cons]
  by_cases hkey : key = k
  · rw [if_pos hkey, beq_iff_eq.mpr hkey]
  · rw [if_neg hkey, beq_false_of_ne hkey]

/-- In a table without repeated keys, to look up a key is to find its entry. -/
theorem lookup_eq_some_iff_mem
    (h : (l.map (·.1)).Nodup) : l.lookup k = some b ↔ (k, b) ∈ l := by
  induction l with
  | nil => simp
  | cons e l ih =>
    obtain ⟨a, b'⟩ := e
    obtain ⟨ha, hl⟩ := List.nodup_cons.mp h
    by_cases hka : k = a
    · subst hka
      have hnot : (k, b) ∉ l := fun hmem =>
        ha (List.mem_map_of_mem (f := (·.1)) hmem)
      simp [hnot, eq_comm]
    · rw [List.lookup_cons, beq_false_of_ne hka]
      simpa [hka] using ih hl

/-- The entry of a key that stands once, and the other entries. -/
theorem perm_cons_filter_ne [DecidableEq α] (h : (l.map (·.1)).Nodup) (hk : l.lookup k = some b) :
    l.Perm ((k, b) :: l.filter (·.1 ≠ k)) := by
  induction l with
  | nil => simp at hk
  | cons e l ih =>
    obtain ⟨a, b'⟩ := e
    obtain ⟨ha, hl⟩ := List.nodup_cons.mp h
    rw [lookup_cons_eq] at hk
    by_cases hka : k = a
    · subst hka
      rw [if_pos rfl] at hk
      cases hk
      have hrest : l.filter (·.1 ≠ k) = l := List.filter_eq_self.mpr fun e he => by
        have hne : e.1 ≠ k := fun heq => ha (List.mem_map.mpr ⟨e, he, heq⟩)
        simp [hne]
      rw [List.filter_cons_of_neg (by simp), hrest]
    · rw [if_neg hka] at hk
      rw [List.filter_cons_of_pos (by simpa using Ne.symm hka)]
      exact ((ih hl hk).cons _).trans (.swap _ _ _)

/-- A table that is made from a function has its values. -/
theorem lookup_map_self [DecidableEq α] (f : α → β) {keys : List α} (h : k ∈ keys) :
    (keys.map fun key => (key, f key)).lookup k = some (f k) := by
  induction keys with
  | nil => cases h
  | cons a keys ih =>
    rw [List.map_cons, lookup_cons_eq]
    split
    · rename_i heq
      rw [heq]
    · rename_i hne
      exact ih ((List.mem_cons.mp h).resolve_left hne)

/-- Where keys stand once, looking up does not depend on the order. -/
theorem lookup_perm {l' : List (α × β)} (h : (l.map (·.1)).Nodup) (hperm : l.Perm l') (k : α) :
    l.lookup k = l'.lookup k := by
  have h' : (l'.map (·.1)).Nodup := (hperm.map (·.1)).nodup_iff.mp h
  exact Option.ext fun b => by
    rw [lookup_eq_some_iff_mem h, lookup_eq_some_iff_mem h', hperm.mem_iff]

end

theorem ascending_congr {xs ys : List String} (h : ∀ x, x ∈ xs ↔ x ∈ ys) :
    ascending xs = ascending ys :=
  (pairwise_ascending xs).eq_of_mem_iff (pairwise_ascending ys) fun x => by simp [h]

/-! ## Sorting by a key -/

section

variable {α κ : Type*} [LinearOrder κ] {vs ws : List α} (key : α → κ) {le : α → α → Bool}
  (hle : ∀ v ∈ vs, ∀ w ∈ vs, le v w = decide (key v ≤ key w))

include hle

theorem pairwise_mergeSort_key : (vs.mergeSort le).Pairwise fun v w => key v ≤ key w := by
  have hmap := List.map_mergeSort (f := id) (s := fun v w => decide (key v ≤ key w)) hle
  rw [List.map_id, List.map_id] at hmap
  rw [hmap]
  refine List.Pairwise.imp of_decide_eq_true (List.pairwise_mergeSort ?_ ?_ vs)
  · exact fun u v w huv hvw => decide_eq_true
      ((of_decide_eq_true huv).trans (of_decide_eq_true hvw))
  · exact fun v w => by simpa using le_total (key v) (key w)

/-- Sorting by a key that tells the members apart does not depend on the order in
which they came. -/
theorem mergeSort_eq_of_perm (hinj : ∀ v ∈ vs, ∀ w ∈ vs, key v = key w → v = w)
    (h : vs.Perm ws) : vs.mergeSort le = ws.mergeSort le := by
  refine List.Perm.eq_of_pairwise (fun v w hv hw hvw hwv => ?_) (pairwise_mergeSort_key key hle)
    (pairwise_mergeSort_key key fun v hv w hw =>
      hle v (h.mem_iff.mpr hv) w (h.mem_iff.mpr hw))
    (((List.mergeSort_perm vs le).trans h).trans (List.mergeSort_perm ws le).symm)
  exact hinj v (List.mem_mergeSort.mp hv) w (h.mem_iff.mpr (List.mem_mergeSort.mp hw))
    (le_antisymm hvw hwv)

end

namespace Outcome

variable {ε α β γ : Type}

theorem bind_eq_ok {x : Except ε α} {f : α → Except ε β} {b : β} :
    (x >>= f) = .ok b ↔ ∃ a, x = .ok a ∧ f a = .ok b := by
  cases x <;> simp [bind, Except.bind]

theorem map_eq_ok {x : Except ε α} {f : α → β} {b : β} :
    (f <$> x) = .ok b ↔ ∃ a, x = .ok a ∧ f a = b := by
  cases x <;> simp [Functor.map, Except.map]

theorem toOption_eq_some {x : Except ε α} {a : α} : x.toOption = some a ↔ x = .ok a := by
  cases x <;> simp [Except.toOption]

theorem eq_of_toOption {x y : Except ε α} {a : α} (hx : x.toOption = some a)
    (hy : y.toOption = some a) : x = y :=
  (toOption_eq_some.mp hx).trans (toOption_eq_some.mp hy).symm

/-- A step on every item of a list has a result when it has one on each. -/
theorem mapM_eq_ok {f : α → Except ε β} {xs : List α} {ys : List β} :
    xs.mapM f = .ok ys ↔ List.Forall₂ (fun x y => f x = .ok y) xs ys := by
  induction xs generalizing ys with
  | nil =>
    rw [List.mapM_nil, List.forall₂_nil_left_iff]
    exact ⟨fun h => (Except.ok.inj h).symm, fun h => congrArg Except.ok h.symm⟩
  | cons x xs ih =>
    simp only [List.mapM_cons, bind_eq_ok, ih, List.forall₂_cons_left_iff]
    constructor
    · rintro ⟨y, hy, ys, hys, h⟩
      exact ⟨y, ys, hy, hys, (Except.ok.inj h).symm⟩
    · rintro ⟨y, ys, hy, hys, rfl⟩
      exact ⟨y, hy, ys, hys, rfl⟩

/-- A step that succeeds on every item of a list. -/
theorem mapM_eq_map {f : α → Except ε β} {g : α → β} {xs : List α}
    (h : ∀ x ∈ xs, f x = .ok (g x)) : xs.mapM f = .ok (xs.map g) :=
  mapM_eq_ok.mpr (List.forall₂_map_right_iff.mpr (List.forall₂_same.mpr h))

/-- What all the results are, when each has been computed. -/
theorem mem_mapM {f : α → Except ε β} {xs : List α} {ys : List β} {y : β}
    (h : xs.mapM f = .ok ys) : y ∈ ys ↔ ∃ x ∈ xs, f x = .ok y := by
  have hall := mapM_eq_ok.mp h
  clear h
  induction hall with
  | nil => simp
  | @cons x y' xs ys hx _ ih => simp [ih, hx, eq_comm]

/-- All results can be computed when each can. -/
theorem exists_mapM {f : α → Except ε β} {xs : List α} :
    (∃ ys, xs.mapM f = .ok ys) ↔ ∀ x ∈ xs, ∃ y, f x = .ok y := by
  induction xs with
  | nil => simp [pure, Except.pure]
  | cons x xs ih =>
    simp only [List.mapM_cons, bind_eq_ok, List.forall_mem_cons, ← ih]
    constructor
    · rintro ⟨_, y, hy, ys, hys, -⟩
      exact ⟨⟨y, hy⟩, ys, hys⟩
    · rintro ⟨⟨y, hy⟩, ys, hys⟩
      exact ⟨y :: ys, y, hy, ys, hys, rfl⟩

theorem filterAuxM_eq_ok {p : α → Except ε Bool} {xs kept ys : List α} :
    List.filterAuxM p xs kept = .ok ys ↔ (∀ x ∈ xs, ∃ b, p x = .ok b) ∧
      (xs.filter fun x => (p x).toOption = some true).reverse ++ kept = ys := by
  induction xs generalizing kept with
  | nil => simp [List.filterAuxM, pure, Except.pure]
  | cons x xs ih =>
    simp only [List.filterAuxM, bind_eq_ok, ih, List.forall_mem_cons, List.filter_cons]
    cases p x with
    | error e => simp
    | ok b => cases b <;> simp [toOption_eq_some]

/-- Filtering by a question has a result when each item has an answer. -/
theorem filterM_eq_ok {p : α → Except ε Bool} {xs ys : List α} :
    xs.filterM p = .ok ys ↔
      (∀ x ∈ xs, ∃ b, p x = .ok b) ∧ xs.filter (fun x => (p x).toOption = some true) = ys := by
  simp only [List.filterM, bind_eq_ok, filterAuxM_eq_ok, List.append_nil]
  constructor
  · rintro ⟨_, ⟨hall, rfl⟩, h⟩
    exact ⟨hall, by simpa [pure, Except.pure] using h⟩
  · rintro ⟨hall, rfl⟩
    exact ⟨_, ⟨hall, rfl⟩, by simp [pure, Except.pure]⟩

/-! ## Searches -/

/-- A search brings all that another one brings, and nothing else, in any
order. -/
def Brings (x y : Except ε (List α)) : Prop :=
  ∀ xs, x = .ok xs → ∃ ys, y = .ok ys ∧ ∀ z, z ∈ ys ↔ z ∈ xs

theorem Brings.refl (x : Except ε (List α)) : Brings x x :=
  fun xs hx => ⟨xs, hx, fun _ => Iff.rfl⟩

/-- A search goes on from all that has been brought. -/
theorem Brings.bind {x y : Except ε (List α)} {f g : List α → Except ε (List β)} (h : Brings x y)
    (hfg : ∀ xs ys, (∀ z, z ∈ ys ↔ z ∈ xs) → Brings (f xs) (g ys)) :
    Brings (x >>= f) (y >>= g) := by
  intro zs hzs
  obtain ⟨xs, hx, hzs⟩ := bind_eq_ok.mp hzs
  obtain ⟨ys, hy, hmem⟩ := h xs hx
  obtain ⟨zs', hzs', hmem'⟩ := hfg xs ys hmem zs hzs
  exact ⟨zs', bind_eq_ok.mpr ⟨ys, hy, hzs'⟩, hmem'⟩

section

variable {xs ys : List α} (hmem : ∀ z, z ∈ ys ↔ z ∈ xs)

include hmem

theorem Brings.pure : Brings (.ok xs : Except ε (List α)) (.ok ys) :=
  fun _ h => ⟨ys, rfl, Except.ok.inj h ▸ hmem⟩

/-- The same function brings alike results from lists that are alike. -/
theorem Brings.mapM (f : α → Except ε β) : Brings (xs.mapM f) (ys.mapM f) := by
  intro zs hzs
  obtain ⟨zs', hzs'⟩ := exists_mapM.mpr fun y hy => exists_mapM.mp ⟨zs, hzs⟩ y ((hmem y).mp hy)
  exact ⟨zs', hzs', fun z => by simp only [mem_mapM hzs, mem_mapM hzs', hmem]⟩

/-- The same test keeps alike results of lists that are alike. -/
theorem Brings.filterM (p : α → Except ε Bool) : Brings (xs.filterM p) (ys.filterM p) := by
  intro zs hzs
  obtain ⟨hall, rfl⟩ := filterM_eq_ok.mp hzs
  exact ⟨_, filterM_eq_ok.mpr ⟨fun y hy => hall y ((hmem y).mp hy), rfl⟩, fun z => by
    simp only [List.mem_filter, hmem]⟩

/-- Searches from each of some places bring together all that they bring. -/
theorem Brings.flatMapM {f g : α → Except ε (List β)} (hfg : ∀ x ∈ xs, Brings (f x) (g x)) :
    Brings (List.flatten <$> xs.mapM f) (List.flatten <$> ys.mapM g) := by
  intro zs hzs
  obtain ⟨found, hfound, rfl⟩ := map_eq_ok.mp hzs
  have hok := exists_mapM.mp ⟨found, hfound⟩
  obtain ⟨found', hfound'⟩ := exists_mapM.mpr fun y hy => by
    obtain ⟨bs, hbs⟩ := hok y ((hmem y).mp hy)
    obtain ⟨bs', hbs', -⟩ := hfg y ((hmem y).mp hy) bs hbs
    exact ⟨bs', hbs'⟩
  refine ⟨_, map_eq_ok.mpr ⟨found', hfound', rfl⟩, fun z => ?_⟩
  simp only [List.mem_flatten, mem_mapM hfound, mem_mapM hfound']
  constructor
  · rintro ⟨bs', ⟨y, hy, hbs'⟩, hz⟩
    have hx := (hmem y).mp hy
    obtain ⟨bs, hbs⟩ := hok y hx
    obtain ⟨bs'', hbs'', hiff⟩ := hfg y hx bs hbs
    cases hbs'.symm.trans hbs''
    exact ⟨bs, ⟨y, hx, hbs⟩, (hiff z).mp hz⟩
  · rintro ⟨bs, ⟨x, hx, hbs⟩, hz⟩
    obtain ⟨bs', hbs', hiff⟩ := hfg x hx bs hbs
    exact ⟨bs', ⟨x, (hmem x).mpr hx, hbs'⟩, (hiff z).mpr hz⟩

end

end Outcome

end Ratchet
