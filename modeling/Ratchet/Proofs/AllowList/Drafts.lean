import Mathlib.Data.List.Find
import Ratchet.Proofs.AllowList.Entries

/-!
# Recording in any order

Recording one file takes a name of it off the excluded patterns or adds its
entry to the single files, and no name of it is a name of another file. So
recording two files comes to the same in either order, and recording some files
does not depend on their order at all.

* `Draft.Like`: drafts that hold the same.
* `Draft.record_comm`: two files in either order.
* `Draft.recordAll_perm`: some files in any order.
* `foldlM_addOne`: adding files records all of them.
-/

namespace Ratchet.AllowList

open Json (Value)

variable {fs : FileSystem} {a : AllowList} {files files' : List String}
  {file entry entry' : String} {t u : Json.Text} {vs : List Value} {d d' : Draft}

/-! ## Taking off -/

/-- Two texts can be taken off in either order. -/
theorem takeOff_comm (t u : Json.Text) (vs : List Value) :
    takeOff t (takeOff u vs) = takeOff u (takeOff t vs) := by
  induction vs with
  | nil => rfl
  | cons v vs ih =>
    by_cases ht : isText t v <;> by_cases hu : isText u v <;> simp [takeOff, ht, hu, ih]
    -- a value that is both texts makes them one
    rw [isText_iff] at ht hu
    cases ht.symm.trans hu
    rfl

/-- Whether another text stands in a list does not change. -/
theorem any_takeOff (hne : u ≠ t) (vs : List Value) :
    (takeOff t vs).any (isText u) = vs.any (isText u) := by
  rw [Bool.eq_iff_iff, List.any_eq_true, List.any_eq_true]
  constructor
  · rintro ⟨v, hv, hu⟩
    exact ⟨v, (takeOff_sublist t vs).subset hv, hu⟩
  · rintro ⟨v, hv, hu⟩
    refine ⟨v, mem_takeOff hv fun ht => hne ?_, hu⟩
    rw [isText_iff.mp hu] at ht
    exact Value.string.inj ht

/-- An entry is among its own aliases. -/
theorem mem_aliases_self (entry : String) : Json.textOf entry ∈ aliases entry := by
  unfold aliases
  dsimp only
  split
  · exact .head _
  · exact .head _

namespace Draft

/-! ## One file -/

/-- Drafts that hold the same: the excluded patterns in one order, the single
files and the written entries in any. -/
structure Like (d d' : Draft) : Prop where
  excluded : d.excluded = d'.excluded
  files : d.files.Perm d'.files
  written : d.written.Perm d'.written

theorem Like.refl (d : Draft) : d.Like d :=
  ⟨rfl, .refl _, .refl _⟩

theorem Like.symm (h : d.Like d') : d'.Like d :=
  ⟨h.excluded.symm, h.files.symm, h.written.symm⟩

theorem Like.trans {d'' : Draft} (h : d.Like d') (h' : d'.Like d'') : d.Like d'' :=
  ⟨h.excluded.trans h'.excluded, h.files.trans h'.files, h.written.trans h'.written⟩

/-- The name of a file that recording takes off, if any. -/
def released? (d : Draft) (entry : String) (included : Bool) : Option Json.Text :=
  if included then (aliases entry).find? fun t => d.excluded.any (isText t) else none

/-- Take a name off the excluded patterns, and write an entry for it. -/
def release (d : Draft) (t : Json.Text) (entry : String) : Draft :=
  { d with excluded := takeOff t d.excluded, written := entry :: d.written }

/-- **Recording takes a name off, or adds an entry.** -/
theorem record_eq (d : Draft) (entry : String) (included : Bool) :
    d.record entry included = match d.released? entry included with
      | some t => d.release t entry
      | none => d.join entry := by
  rw [record, released?]
  cases included with
  | true => rfl
  | false =>
    simp only [Bool.false_eq_true, if_false]
    split <;> rfl

/-- What is released for an entry is one of its aliases. -/
theorem mem_aliases_of_released? {b : Bool} (h : d.released? entry b = some t) :
    t ∈ aliases entry := by
  unfold released? at h
  split at h
  · exact List.mem_of_find?_eq_some h
  · cases h

theorem Like.join (h : d.Like d') (entry : String) : (d.join entry).Like (d'.join entry) := by
  unfold Draft.join
  rw [h.files.any_eq]
  split
  · exact h
  · exact ⟨h.excluded, h.files.append_right _, h.written.cons _⟩

/-- Recording does the same in drafts that hold the same. -/
theorem Like.record (h : d.Like d') (entry : String) (b : Bool) :
    (d.record entry b).Like (d'.record entry b) := by
  have hreleased : d.released? entry b = d'.released? entry b := by
    rw [released?, released?, h.excluded]
  rw [record_eq, record_eq, hreleased]
  split
  · exact ⟨congrArg (takeOff _) h.excluded, h.files, h.written.cons _⟩
  · exact h.join entry

/-! ## Two files -/

/-- Releasing one entry and joining another can be done in either order. -/
theorem release_join (d : Draft) (t : Json.Text) (entry entry' : String) :
    ((d.release t entry).join entry').Like ((d.join entry').release t entry) := by
  by_cases h : d.files.any (isText (Json.textOf entry'))
  · simpa [release, join, h] using Like.refl _
  · simp only [release, join, h, Bool.false_eq_true, if_false]
    exact ⟨rfl, .refl _, .swap _ _ _⟩

section

variable (hapart : ∀ t ∈ aliases entry, t ∉ aliases entry')

include hapart

theorem textOf_ne_of_apart : Json.textOf entry ≠ Json.textOf entry' := fun h =>
  hapart _ (mem_aliases_self entry) (h ▸ mem_aliases_self entry')

/-- Which name of a file is taken off does not depend on another file. -/
theorem released?_record (d : Draft) (b b' : Bool) :
    (d.record entry b).released? entry' b' = d.released? entry' b' := by
  rw [released?, released?]
  refine congrArg (if b' = true then · else none) (List.find?_congr fun t' ht' => ?_)
  rw [record_eq]
  split
  · rename_i t ht
    have hne : t' ≠ t := fun heq => hapart t (mem_aliases_of_released? ht) (heq ▸ ht')
    exact any_takeOff hne _
  · rw [excluded_join]

/-- Two entries can be joined in either order. -/
theorem join_comm (d : Draft) :
    ((d.join entry).join entry').Like ((d.join entry').join entry) := by
  have hne := textOf_ne_of_apart hapart
  have hadded : ∀ {e e' : String}, Json.textOf e ≠ Json.textOf e' →
      (d.files ++ [Value.ofString e]).any (isText (Json.textOf e')) =
        d.files.any (isText (Json.textOf e')) := by
    intro e e' hne
    simp [Value.ofString, isText, hne.symm]
  by_cases h : d.files.any (isText (Json.textOf entry)) <;>
    by_cases h' : d.files.any (isText (Json.textOf entry'))
  · simpa [join, h, h'] using Like.refl d
  · simpa [join, h, h'] using Like.refl _
  · simpa [join, h, h'] using Like.refl _
  · -- both entries are new, so they only change places
    have hjoin : d.join entry =
        { d with files := d.files ++ [.ofString entry], written := entry :: d.written } := by
      rw [join, if_neg h]
    have hjoin' : d.join entry' =
        { d with files := d.files ++ [.ofString entry'], written := entry' :: d.written } := by
      rw [join, if_neg h']
    rw [hjoin, hjoin', join, join, hadded hne, hadded hne.symm, if_neg h, if_neg h']
    refine ⟨rfl, ?_, .swap _ _ _⟩
    simpa using List.Perm.append_left d.files (.swap _ _ [])

/-- **Two files come to the same in either order.** -/
theorem record_comm (d : Draft) (b b' : Bool) :
    ((d.record entry b).record entry' b').Like ((d.record entry' b').record entry b) := by
  have hreleased' := released?_record hapart d b b'
  have hreleased := released?_record (fun t ht ht' => hapart t ht' ht) d b' b
  rw [record_eq (d.record entry b), record_eq (d.record entry' b'), hreleased, hreleased',
    record_eq d entry, record_eq d entry']
  cases d.released? entry b with
  | some t =>
    cases d.released? entry' b' with
    | some t' => exact ⟨takeOff_comm t' t _, .refl _, .swap _ _ _⟩
    | none => exact release_join d t entry entry'
  | none =>
    cases d.released? entry' b' with
    | some t' => exact (release_join d t' entry' entry).symm
    | none => exact join_comm hapart d

end

/-! ## Some files -/

/-- Record some files. -/
def recordAll (entry : String → String) (included : String → Bool) (d : Draft)
    (files : List String) : Draft :=
  files.foldl (fun d f => d.record (entry f) (included f)) d

variable {entryOf : String → String} {isIncluded : String → Bool}

theorem recordAll_cons (d : Draft) (file : String) (files : List String) :
    d.recordAll entryOf isIncluded (file :: files) =
      (d.record (entryOf file) (isIncluded file)).recordAll entryOf isIncluded files := rfl

theorem recordAll_append (d : Draft) (files more : List String) :
    d.recordAll entryOf isIncluded (files ++ more) =
      (d.recordAll entryOf isIncluded files).recordAll entryOf isIncluded more :=
  List.foldl_append

theorem Like.recordAll (h : d.Like d') (files : List String) :
    (d.recordAll entryOf isIncluded files).Like (d'.recordAll entryOf isIncluded files) := by
  induction files generalizing d d' with
  | nil => exact h
  | cons f files ih => exact ih (h.record _ _)

/-- **Some files come to the same in any order.** -/
theorem recordAll_perm (hperm : files.Perm files')
    (hapart : ∀ f ∈ files, ∀ g ∈ files, f ≠ g →
      ∀ t ∈ aliases (entryOf f), t ∉ aliases (entryOf g)) (h : d.Like d') :
    (d.recordAll entryOf isIncluded files).Like (d'.recordAll entryOf isIncluded files') := by
  induction hperm generalizing d d' with
  | nil => exact h
  | cons f _ ih =>
    exact ih (fun g hg g' hg' => hapart g (.tail _ hg) g' (.tail _ hg')) (h.record _ _)
  | @swap f g files =>
    refine Like.recordAll ?_ files
    by_cases hfg : f = g
    · subst hfg
      exact (h.record _ _).record _ _
    · refine (record_comm ?_ d _ _).trans ((h.record _ _).record _ _)
      exact hapart g (by simp) f (by simp) (Ne.symm hfg)
  | trans hperm _ ih ih' =>
    refine (ih hapart (.refl d)).trans (ih' (fun f hf g hg => ?_) h)
    exact hapart f (hperm.mem_iff.mpr hf) g (hperm.mem_iff.mpr hg)

/-- A draft after the entries that have been written before. -/
def after (d : Draft) (before : List String) : Draft :=
  { d with written := d.written ++ before }

/-- What has been written before does not change what is recorded. -/
theorem record_after (d : Draft) (before : List String) (entry : String) (b : Bool) :
    (d.after before).record entry b = (d.record entry b).after before := by
  rw [record_eq, record_eq]
  -- which name is taken off does not depend on what has been written
  change (match d.released? entry b with | some t => _ | none => _) = _
  cases d.released? entry b with
  | some t => rfl
  | none =>
    by_cases h : d.files.any (isText (Json.textOf entry)) <;> simp [join, after, h]

/-- What was written before plays no part. -/
theorem recordAll_after (d : Draft) (before files : List String) :
    (d.after before).recordAll entryOf isIncluded files =
      (d.recordAll entryOf isIncluded files).after before := by
  induction files generalizing d with
  | nil => rfl
  | cons f files ih =>
    rw [recordAll_cons, record_after]
    exact ih _

/-! ### The single files -/

/-- A list of which the single files of a draft can be made: none of its values
has parts, and no two are the same. -/
structure IsDistinct (vs : List Value) : Prop where
  apart : Json.Apart vs
  scalar : ∀ v ∈ vs, Json.isScalar v = true

/-- Joining an entry leaves distinct single files. -/
theorem isDistinct_join (h : IsDistinct d.files) (entry : String) :
    IsDistinct (d.join entry).files := by
  unfold join
  split
  · exact h
  · rename_i hnew
    refine ⟨Json.apart_concat.mpr ⟨h.apart, ?_⟩, fun v hv => ?_⟩
    · rw [Bool.not_eq_true, List.any_eq_false] at hnew
      rw [List.any_eq_false]
      exact fun v hv hsame => hnew v hv (isText_iff.mpr (Json.same_string.mp hsame))
    · obtain hv | hv := List.mem_append.mp hv
      · exact h.scalar v hv
      · rw [List.mem_singleton.mp hv]
        rfl

/-- Joining an entry takes no single file away. -/
theorem sublist_join (d : Draft) (entry : String) : d.files.Sublist (d.join entry).files := by
  unfold join
  split
  · exact .refl _
  · exact List.sublist_append_left _ _

/-- What every new single file keeps is kept. -/
theorem files_recordAll {P : List Value → Prop}
    (hjoin : ∀ (d : Draft) entry, P d.files → P (d.join entry).files) (h : P d.files)
    (files : List String) : P (d.recordAll entryOf isIncluded files).files := by
  induction files generalizing d with
  | nil => exact h
  | cons f files ih =>
    rw [recordAll_cons]
    refine ih ?_
    rw [record_eq]
    split
    · exact h
    · exact hjoin d _ h

theorem isDistinct_recordAll (h : IsDistinct d.files) (files : List String) :
    IsDistinct (d.recordAll entryOf isIncluded files).files :=
  files_recordAll (fun _ entry h => isDistinct_join h entry) h files

/-- No single file is lost. -/
theorem sublist_recordAll (d : Draft) (files : List String) :
    d.files.Sublist (d.recordAll entryOf isIncluded files).files :=
  files_recordAll (fun d' entry h => h.trans (sublist_join d' entry)) (.refl _) files

/-- What joins the single files is a text, and not among numbers. -/
theorem settled_recordAll (h : Json.Settled d.files) (files : List String) :
    Json.Settled (d.recordAll entryOf isIncluded files).files := by
  refine files_recordAll (fun d entry h => ?_) h files
  unfold join
  split
  · exact h
  · exact h.concat _

end Draft

/-! ## Adding files -/

/-- The entry of a file. -/
def entryOf (a : AllowList) (fs : FileSystem) (file : String) : String :=
  (a.entryFor fs file).toOption.getD file

theorem entryFor_eq (h : fs.IsPlace file) : a.entryFor fs file = .ok (a.entryOf fs file) := by
  obtain ⟨p, hp, -⟩ := h
  rw [entryOf, entryFor, hp]
  rfl

/-- No two files can be written alike. -/
theorem aliases_apart {f g : String} (hf : fs.IsPlace f) (hg : fs.IsPlace g) (hne : f ≠ g) :
    ∀ t ∈ aliases (a.entryOf fs f), t ∉ aliases (a.entryOf fs g) := fun _ ht ht' =>
  hne (eq_of_mem_aliases hf hg (entryFor_eq hf) (entryFor_eq hg) ht ht')

theorem addOne_eq (h : fs.IsPlace file) (included : List String) (d : Draft) :
    a.addOne fs included d file = .ok (d.record (a.entryOf fs file) (included.contains file)) := by
  have hentry := entryFor_eq (a := a) h
  obtain ⟨p, hp, rfl⟩ := h
  rw [addOne, hentry, hp]
  rfl

/-- **Adding files records each under its entry.** -/
theorem foldlM_addOne (hfiles : ∀ f ∈ files, fs.IsPlace f) (included : List String) (d : Draft) :
    files.foldlM (a.addOne fs included) d =
      .ok (d.recordAll (a.entryOf fs) included.contains files) := by
  induction files generalizing d with
  | nil => rfl
  | cons f files ih =>
    rw [List.foldlM_cons, addOne_eq (hfiles f (.head _)), Draft.recordAll_cons]
    exact ih (fun g hg => hfiles g (.tail _ hg)) _

end Ratchet.AllowList
