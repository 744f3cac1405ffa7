import Ratchet.Proofs.Json.RoundTrip
import Ratchet.Proofs.Basic

/-!
# What is read reads back

Every value that is read from a text could be written and read again: its
texts hold no surrogate pair in two halves, its whole numbers have few enough
digits, and no object holds a key twice.
-/

namespace Ratchet.Json

variable {depth budget place place' : Nat} {cs rest : List Char} {v : Value}

/-- A scalar that is read is legible. -/
theorem legible_of_readScalar (h : readScalar place cs = .ok (v, place', rest)) : v.Legible := by
  unfold readScalar at h
  split at h
  · rename_i word value hfind
    have hmem := List.mem_of_find?_eq_some hfind
    cases h
    simp only [wordValues, List.mem_cons, Prod.mk.injEq, List.not_mem_nil, or_false] at hmem
    obtain ⟨-, rfl⟩ | ⟨-, rfl⟩ | ⟨-, rfl⟩ | ⟨-, rfl⟩ | ⟨-, rfl⟩ | ⟨-, rfl⟩ := hmem <;> trivial
  · split at h
    rename_i negative digits _
    split at h
    · cases h
    · cases h
    · rename_i n rest' hn
      cases h
      exact legible_of_readNumber hn

/-! ## Members -/

/-- Setting a key adds it at the end, if it is missing. -/
theorem keys_set (key : Text) (v : Value) (members : Members) :
    (Members.set key v members).map Prod.fst =
      if key ∈ members.map Prod.fst then members.map Prod.fst
      else members.map Prod.fst ++ [key] := by
  have hiff : members.any (·.1 = key) = true ↔ key ∈ members.map Prod.fst := by simp
  unfold Members.set
  by_cases hkey : key ∈ members.map Prod.fst
  · rw [if_pos (hiff.mpr hkey), if_pos hkey, List.map_map]
    refine List.map_congr_left fun m _ => ?_
    simp only [Function.comp]
    split
    · exact Eq.symm ‹_›
    · rfl
  · rw [if_neg (mt hiff.mp hkey), if_neg hkey, List.map_append, List.map_singleton]

theorem mem_set {key : Text} {members : Members} {m : Text × Value}
    (h : m ∈ Members.set key v members) : m = (key, v) ∨ m ∈ members := by
  unfold Members.set at h
  split at h
  · obtain ⟨m', hm', rfl⟩ := List.mem_map.mp h
    split
    · exact .inl rfl
    · exact .inr hm'
  · exact (List.mem_append.mp h).symm.imp List.mem_singleton.mp id

theorem legible_object_nil : (Value.object []).Legible :=
  ⟨.nil, trivial⟩

/-- Setting a member of an object leaves it one that reads back. -/
theorem legible_set {key : Text} {members : Members} (hkey : Json.Legible key) (hv : v.Legible)
    (h : (Value.object members).Legible) : (Value.object (Members.set key v members)).Legible := by
  obtain ⟨hkeys, hmembers⟩ := h
  refine ⟨?_, legibleMembers_iff.mpr fun m hm => ?_⟩
  · rw [keys_set]
    split
    · exact hkeys
    · rename_i hnew
      exact List.nodup_append.mpr ⟨hkeys, by simp, by
        rintro a ha b hb rfl
        exact hnew (List.mem_singleton.mp hb ▸ ha)⟩
  · obtain rfl | hm := mem_set hm
    · exact ⟨hkey, hv⟩
    · exact legibleMembers_iff.mp hmembers m hm

/-! ## Values -/

section

variable {value : Nat → List Char → Except Fault (Value × Nat × List Char)}
  (hvalue : ∀ {place cs v place' rest}, value place cs = .ok (v, place', rest) → v.Legible)

include hvalue

/-- Items that are read are legible. -/
theorem legible_of_readItems {items : List Value}
    (h : readItems value budget place cs = .ok (items, place', rest)) : LegibleItems items := by
  induction budget generalizing place cs items with
  | zero => cases h
  | succ budget ih =>
    rw [readItems] at h
    obtain ⟨⟨item, place₁, cs₁⟩, hitem, h⟩ := Outcome.bind_eq_ok.mp h
    dsimp only at h
    split at h
    · cases h
      exact ⟨hvalue hitem, trivial⟩
    · obtain ⟨⟨items, place₂, cs₂⟩, hitems, h⟩ := Outcome.bind_eq_ok.mp h
      cases h
      exact ⟨hvalue hitem, ih hitems⟩
    · cases h

/-- Members that are read are legible. -/
theorem legible_of_readMembers {read members : Members} (hread : (Value.object read).Legible)
    (h : readMembers value budget read place cs = .ok (members, place', rest)) :
    (Value.object members).Legible := by
  induction budget generalizing place cs read with
  | zero => cases h
  | succ budget ih =>
    unfold readMembers at h
    split at h
    · obtain ⟨⟨key, place₁, cs₁⟩, hkey, h⟩ := Outcome.bind_eq_ok.mp h
      dsimp only at h
      split at h
      · obtain ⟨⟨v, place₂, cs₂⟩, hv, h⟩ := Outcome.bind_eq_ok.mp h
        dsimp only at h
        have hlegible := legible_of_readString hkey legible_nil (by simp)
        have hset := legible_set hlegible (hvalue hv) hread
        split at h
        · cases h
          exact hset
        · exact ih hset h
        · cases h
      · cases h
    · cases h

end

/-- **A value that was read reads back.** -/
theorem legible_of_readValue (h : readValue depth place cs = .ok (v, place', rest)) :
    v.Legible := by
  induction depth generalizing place cs v place' rest with
  | zero => cases h
  | succ depth ih =>
    unfold readValue at h
    split at h
    · obtain ⟨⟨text, place₁, cs₁⟩, htext, h⟩ := Outcome.bind_eq_ok.mp h
      cases h
      exact legible_of_readString htext legible_nil (by simp)
    · split at h
      · cases h
        trivial
      · obtain ⟨⟨items, place₁, cs₁⟩, hitems, h⟩ := Outcome.bind_eq_ok.mp h
        cases h
        exact legible_of_readItems ih hitems
    · split at h
      · cases h
        exact legible_object_nil
      · obtain ⟨⟨members, place₁, cs₁⟩, hmembers, h⟩ := Outcome.bind_eq_ok.mp h
        cases h
        exact legible_of_readMembers ih legible_object_nil hmembers
    · exact legible_of_readScalar h

/-- **A document that was read reads back.** -/
theorem legible_of_read {source : List Char} (h : read source = .ok v) : v.Legible := by
  unfold read at h
  split at h
  · cases h
  · obtain ⟨⟨v', place₁, cs₁⟩, hv, h⟩ := Outcome.bind_eq_ok.mp h
    dsimp only at h
    split at h
    · cases h
      exact legible_of_readValue hv
    · cases h

end Ratchet.Json
