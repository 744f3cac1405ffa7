import Ratchet.AllowList
import Ratchet.Proofs.FileSystem.Write
import Ratchet.Proofs.Json.Reading

/-!
# The document of an allow-list

What is read as the document of an allow-list can be written and is read again
as it was.

* `Sound`: documents that hold their three lists and read back.
* `sound_of_read`: what is read is sound.
* `read_writeText`: what is written of a sound document is read again.
-/

namespace Ratchet

/-! ## Members -/

namespace Json.Members

variable {key k : Text} {v : Value} {members : Members}

/-- Replacing the value of a key changes what is found there and nowhere else. -/
theorem lookup_replace (key k : Text) (v : Value) (members : Members) :
    (members.map fun m => if m.1 = key then (key, v) else m).lookup k =
      if k = key then (members.lookup key).map fun _ => v else members.lookup k := by
  induction members with
  | nil => simp
  | cons m members ih =>
    obtain ⟨key', v'⟩ := m
    rw [List.map_cons, lookup_cons_eq, lookup_cons_eq]
    by_cases hkey : key' = key
    · rw [if_pos hkey, lookup_cons_eq, ih, hkey, if_pos rfl]
      split <;> rfl
    · rw [if_neg hkey, lookup_cons_eq, ih, if_neg (Ne.symm hkey)]
      by_cases hk : k = key'
      · rw [if_pos hk, if_neg fun h => hkey (hk.symm.trans h), if_pos hk]
      · rw [if_neg hk, if_neg hk]

/-- Setting a key changes what is found there and nowhere else. -/
theorem lookup_set (key k : Text) (v : Value) (members : Members) :
    (set key v members).lookup k = if k = key then some v else members.lookup k := by
  unfold set
  split
  · rename_i hkey
    obtain ⟨m, hm, hkey⟩ := List.any_eq_true.mp hkey
    have hsome : (members.lookup key).map (fun _ => v) = some v := by
      cases hlookup : members.lookup key with
      | some v' => rfl
      | none =>
        have hne := bne_iff_ne.mp (List.lookup_eq_none_iff.mp hlookup m hm)
        exact absurd (of_decide_eq_true hkey).symm hne
    rw [lookup_replace, hsome]
  · rename_i hkey
    have hnone : members.lookup key = none :=
      List.lookup_eq_none_iff.mpr fun m hm => bne_iff_ne.mpr fun h =>
        hkey (List.any_eq_true.mpr ⟨m, hm, decide_eq_true h.symm⟩)
    rw [List.lookup_append, lookup_cons_eq, List.lookup_nil]
    by_cases hk : k = key
    · rw [if_pos hk, if_pos hk, hk, hnone, Option.none_or]
    · rw [if_neg hk, if_neg hk, Option.or_none]

/-- A default is set where the key is missing. -/
theorem setDefault_eq (key : Text) (v : Value) (members : Members) :
    setDefault key v members =
      if key ∈ members.map Prod.fst then members else set key v members := by
  have hiff : members.any (·.1 = key) = true ↔ key ∈ members.map Prod.fst := by simp
  unfold setDefault set
  by_cases hkey : key ∈ members.map Prod.fst
  · rw [if_pos (hiff.mpr hkey), if_pos hkey]
  · rw [if_neg (mt hiff.mp hkey), if_neg (mt hiff.mp hkey), if_neg hkey]

theorem set_of_mem (h : key ∈ members.map Prod.fst) (v : Value) :
    set key v members = members.map fun m => if m.1 = key then (key, v) else m := by
  rw [set, if_pos (by simpa using h)]

/-- Of two values for one key the later one counts. -/
theorem set_set (h : key ∈ members.map Prod.fst) (v w : Value) :
    set key v (set key w members) = set key v members := by
  have hset : key ∈ (set key w members).map Prod.fst := by rwa [keys_set, if_pos h]
  rw [set_of_mem hset, set_of_mem h, set_of_mem h, List.map_map]
  refine List.map_congr_left fun m _ => ?_
  by_cases hm : m.1 = key <;> simp [hm]

/-- Members that are there are set in either order. -/
theorem set_comm (hne : key ≠ k) (hkey : key ∈ members.map Prod.fst)
    (hk : k ∈ members.map Prod.fst) (v w : Value) :
    set key v (set k w members) = set k w (set key v members) := by
  have hkey' : key ∈ (set k w members).map Prod.fst := by rwa [keys_set, if_pos hk]
  have hk' : k ∈ (set key v members).map Prod.fst := by rwa [keys_set, if_pos hkey]
  rw [set_of_mem hkey', set_of_mem hk', set_of_mem hk, set_of_mem hkey, List.map_map,
    List.map_map]
  refine List.map_congr_left fun m _ => ?_
  by_cases hm : m.1 = key <;> by_cases hm' : m.1 = k <;> simp_all [Ne.symm]

end Json.Members

namespace AllowList

open Json (Value Members)

variable {fs fs' : FileSystem} {a : AllowList} {m m' : Members} {k : Key} {vs : List Value}

theorem Key.text_injective : Function.Injective Key.text := by
  intro k k' h
  cases k <;> cases k' <;> first | rfl | exact absurd h (by decide)

theorem legible_text (k : Key) : Json.Legible k.text := by
  cases k <;> exact Json.legible_textOf _

/-! ## Documents that read back -/

/-- A document that reads back and holds its three lists. -/
structure Sound (m : Members) : Prop where
  legible : (Value.object m).Legible
  keys : ∀ k : Key, k.text ∈ m.map Prod.fst

theorem complete_eq_self (h : ∀ k : Key, k.text ∈ m.map Prod.fst) : complete m = m := by
  unfold complete
  simp only [List.foldl_cons, List.foldl_nil, Members.setDefault_eq, h, if_true]

/-- Completing a document that can be read makes a sound one. -/
theorem sound_complete (h : (Value.object m).Legible) : Sound (complete m) := by
  have hstep : ∀ (k : Key) {m : Members}, (Value.object m).Legible →
      (Value.object (Members.setDefault k.text (.array []) m)).Legible ∧
        k.text ∈ (Members.setDefault k.text (.array []) m).map Prod.fst ∧
        m.map Prod.fst ⊆ (Members.setDefault k.text (.array []) m).map Prod.fst := by
    intro k m h
    rw [Members.setDefault_eq]
    split
    · exact ⟨h, ‹_›, fun _ => id⟩
    · refine ⟨Json.legible_set (legible_text k) trivial h, ?_⟩
      rw [Json.keys_set, if_neg ‹_›]
      exact ⟨by simp, List.subset_append_left _ _⟩
  obtain ⟨h₁, hkey₁, -⟩ := hstep .included h
  obtain ⟨h₂, hkey₂, hsub₂⟩ := hstep .excluded h₁
  obtain ⟨h₃, hkey₃, hsub₃⟩ := hstep .files h₂
  refine ⟨h₃, fun k => ?_⟩
  cases k with
  | included => exact hsub₃ (hsub₂ hkey₁)
  | excluded => exact hsub₃ hkey₂
  | files => exact hkey₃

/-- **What is read is sound**: it could be written and read again. -/
theorem sound_of_read (h : a.read fs = .ok m) : Sound m := by
  obtain ⟨b, -, h⟩ := Outcome.bind_eq_ok.mp h
  cases b with
  | false =>
    cases h
    exact sound_complete Json.legible_object_nil
  | true =>
    obtain ⟨source, -, h⟩ := Outcome.bind_eq_ok.mp h
    split at h
    · cases h
    · cases h
    · rename_i members hread
      cases h
      exact sound_complete (Json.legible_of_read hread)
    · cases h

/-- A document is read where there is a file, or it is empty. -/
theorem read_cases (h : a.read fs = .ok m) :
    m = complete [] ∨ ∃ content executable, fs.find a.path = .ok (.file content executable) := by
  obtain ⟨b, -, h⟩ := Outcome.bind_eq_ok.mp h
  cases b with
  | false =>
    cases h
    exact .inl rfl
  | true =>
    obtain ⟨source, hsource, -⟩ := Outcome.bind_eq_ok.mp h
    obtain ⟨bytes, hbytes, -⟩ := Outcome.bind_eq_ok.mp hsource
    unfold FileSystem.read at hbytes
    split at hbytes
    · cases hbytes
    split at hbytes
    · exact .inr ⟨_, _, ‹_›⟩
    · cases hbytes
    · cases hbytes

theorem isPlain_textOf (m : Members) : ∀ c ∈ (textOf m).toList, Text.IsPlain c := by
  intro c hc
  rw [textOf, String.toList_append, Json.write, String.toList_ofList] at hc
  obtain hc | hc := List.mem_append.mp hc
  · exact Json.isPlain_writeAt _ _ _ c hc
  · exact Text.isPlain_word "\n" (by decide) hc

/-- What is written of a sound document spells it. -/
theorem read_textOf (hm : Sound m) : Json.read (textOf m).toList = .ok (.object m) := by
  have hsource : (textOf m).toList = Json.writeAt .indented 0 (.object m) ++ ['\n'] := by
    rw [textOf, String.toList_append, Json.write, String.toList_ofList]
    rfl
  rw [hsource]
  exact Json.read_writeAt hm.legible .indented (List.forall_mem_singleton.mpr rfl)

/-- **A sound document reads back.** -/
theorem read_writeText {parts : List String} (hm : Sound m) (ha : a.path = .ofParts parts)
    (hup : ".." ∉ parts) (h : fs.writeText a.path (textOf m) = .ok fs') : a.read fs' = .ok m := by
  rw [ha] at h
  obtain ⟨hoccurs, htext⟩ := FileSystem.readText_writeText hup (isPlain_textOf m) h
  rw [read, ha, hoccurs, htext]
  simp only [bind, Except.bind, Bool.not_true, Bool.false_eq_true, if_false, read_textOf hm]
  rw [complete_eq_self hm.keys]
  rfl

/-! ## Its lists -/

/-- Whether a value is a text. -/
def IsString (v : Value) : Prop := ∃ t, v = .string t

/-- Setting one list leaves the others. -/
theorem listed_set (key : Key) (items : List Value) (m : Members) :
    listed (Members.set key.text (.array items) m) k =
      if k = key then .ok items else listed m k := by
  unfold listed
  rw [Members.lookup_set]
  by_cases hk : k = key
  · rw [if_pos hk, hk, if_pos rfl]
  · rw [if_neg hk, if_neg fun h => hk (Key.text_injective h)]

/-- What is listed in a legible document is legible. -/
theorem legible_of_listed (hm : (Value.object m).Legible) (h : listed m k = .ok vs) :
    ∀ v ∈ vs, v.Legible := by
  unfold listed at h
  cases hv : m.lookup k.text with
  | none =>
    rw [hv] at h
    cases h
  | some v =>
    have hlegible := (Json.legibleMembers_iff.mp hm.2 _ ((lookup_eq_some_iff_mem hm.1).mp hv)).2
    rw [hv] at h
    cases v
    case array items =>
      cases h
      exact Json.legibleItems_iff.mp hlegible
    case string t =>
      cases h
      intro v hv
      obtain ⟨c, hc, rfl⟩ := List.mem_map.mp hv
      exact ⟨fun d hd => List.mem_singleton.mp hd ▸ hlegible.bounded c hc, .singleton c⟩
    case object members =>
      cases h
      intro v hv
      obtain ⟨e, he, rfl⟩ := List.mem_map.mp hv
      exact (Json.legibleMembers_iff.mp hlegible.2 e he).1
    all_goals cases h

/-- Setting a list of legible values leaves a sound document. -/
theorem sound_set {items : List Value} (hm : Sound m) (hitems : ∀ v ∈ items, v.Legible) :
    Sound (Members.set k.text (.array items) m) := by
  refine ⟨Json.legible_set (legible_text k) (Json.legibleItems_iff.mpr hitems) hm.legible,
    fun key => ?_⟩
  rw [Json.keys_set, if_pos (hm.keys k)]
  exact hm.keys key

end AllowList

end Ratchet
