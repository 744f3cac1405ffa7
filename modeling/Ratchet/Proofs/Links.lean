import Ratchet.Links

/-!
# Resolved places

To follow links ends at a place that has no link on the way to it, and such a place
is resolved to itself. So what has been resolved once stays as it is, as long as no
link is put on the way.

* `IsClear`: no link is on the way to a place.
* `isClear_resolve?`: a resolved place has no link on the way.
* `resolve?_ofParts`: a place with no link on the way is resolved to itself.
-/

namespace Ratchet.Links

variable {links : Links} {at_ place : List String} {name : String} {p q : Path} {depth : Nat}

/-- **No link is on the way** to a place, nor at the place itself. -/
def IsClear (links : Links) (place : List String) : Prop :=
  ∀ before name, before ++ [name] <+: place → links.lookup (before ++ [name]) = none

theorem isClear_nil : links.IsClear [] := fun before name h => by
  simp at h

theorem IsClear.of_prefix {before : List String} (h : links.IsClear place)
    (hpre : before <+: place) :
    links.IsClear before :=
  fun _ _ hbefore => h _ _ (hbefore.trans hpre)

/-- Where no link stands, the way goes on. -/
theorem isClear_concat (h : links.IsClear at_) (hname : links.lookup (at_ ++ [name]) = none) :
    links.IsClear (at_ ++ [name]) := by
  intro before last hpre
  obtain heq | hpre := List.prefix_concat_iff.mp hpre
  · rwa [heq]
  · exact h before last hpre

/-- A way without links, and without going back, is gone name by name. -/
structure Plain (links : Links) (place : List String) : Prop where
  /-- There is no link on it. -/
  clear : links.IsClear place
  /-- It does not go back. -/
  up : ".." ∉ place

theorem Plain.dropLast (h : links.Plain at_) : links.Plain at_.dropLast where
  clear := h.clear.of_prefix (List.dropLast_prefix at_)
  up hmem := h.up (List.dropLast_subset _ hmem)

/-! ## What following leads to -/

/-- A step leads from a plain way to a plain one, if what a link holds does. -/
theorem plain_step {through : List String → Path → Option (List String)}
    (hthrough : ∀ {at_ p end_}, links.Plain at_ → through at_ p = some end_ → links.Plain end_)
    (hat : links.Plain at_) {end_ : List String} (h : links.step through at_ name = some end_) :
    links.Plain end_ := by
  unfold step at h
  split at h
  · cases h
    exact hat.dropLast
  · rename_i hup
    split at h
    · rename_i hnone
      cases h
      exact ⟨isClear_concat hat.clear hnone, by simpa [Ne.symm hup] using hat.up⟩
    · exact hthrough hat h

/-- **Following a path leads to a place with no link on the way.** -/
theorem plain_follow (hat : links.Plain at_) {end_ : List String}
    (h : links.follow depth at_ p = some end_) : links.Plain end_ := by
  induction depth generalizing at_ p end_ with
  | zero => cases h
  | succ depth ih =>
    rw [follow] at h
    have hstart : links.Plain (if p.isAbsolute then [] else at_) := by
      split
      · exact ⟨isClear_nil, List.not_mem_nil⟩
      · exact hat
    generalize (if p.isAbsolute then [] else at_) = start at h hstart
    generalize p.parts = names at h
    induction names generalizing start with
    | nil =>
      cases h
      exact hstart
    | cons name names ihnames =>
      rw [List.foldlM_cons] at h
      obtain ⟨next, hnext, hrest⟩ := Option.bind_eq_some_iff.mp h
      exact ihnames next (plain_step (fun hat h => ih hat h) hstart hnext) hrest

/-- A way without links leads where its names say. -/
theorem foldlM_step {through : List String → Path → Option (List String)}
    (h : links.Plain (at_ ++ place)) :
    place.foldlM (links.step through) at_ = some (at_ ++ place) := by
  induction place generalizing at_ with
  | nil => rw [List.append_nil]; rfl
  | cons name names ih =>
    rw [List.append_cons] at h ⊢
    have hname : name ≠ ".." := fun heq => h.up (by simp [heq])
    have hnone : links.lookup (at_ ++ [name]) = none := h.clear _ _ (List.prefix_append _ names)
    have hstep : links.step through at_ name = some (at_ ++ [name]) := by
      rw [step, if_neg hname, hnone]
    rw [List.foldlM_cons, hstep]
    exact ih h

/-! ## Resolving -/

/-- **A resolved place has no link on the way.** -/
theorem plain_of_resolve? {cwd : List String} (h : links.resolve? cwd p = some q) :
    ∃ place, q = .ofParts place ∧ links.Plain place := by
  obtain ⟨-, h⟩ := Option.ite_none_left_eq_some.mp h
  obtain ⟨place, hplace, rfl⟩ := Option.map_eq_some_iff.mp h
  exact ⟨place, rfl, plain_follow ⟨isClear_nil, List.not_mem_nil⟩ hplace⟩

/-- **A place with no link on the way is resolved to itself.** -/
theorem resolve?_ofParts (h : links.Plain place) (hnull : (Path.ofParts place).hasNull = false)
    (cwd : List String) : links.resolve? cwd (.ofParts place) = some (.ofParts place) := by
  refine Option.ite_none_left_eq_some.mpr ⟨by simp [hnull], Option.map_eq_some_iff.mpr ?_⟩
  have hway : links.Plain ([] ++ place) := h
  exact ⟨place, foldlM_step hway, rfl⟩

end Ratchet.Links
