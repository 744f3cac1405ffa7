import Ratchet.FileSystem
import Ratchet.Proofs.Basic

/-!
# Trees of one shape

Two trees are of one shape if the same names lead to something in both, to a
directory in both or to a file in both. Trees of one shape give the same
answers to every question about a path but what a file holds. Putting a file
in the place of another one keeps the shape.

* `get?`: what names lead to, without going back.
* `Goes`, `Stuck`: one name that leads on, and why one does not.
* `Alike`: trees of one shape.
* `Proper`: trees in which no directory holds a name twice.
-/

namespace Ratchet

namespace Node

variable {n n' c new : Node} {name part : String} {names parts place : List String}
  {up up' : List Node}

/-! ## What names lead to -/

/-- What names lead to from a node. -/
def get? (n : Node) : List String → Option Node
  | [] => some n
  | name :: names => (n.entries.lookup name).bind (·.get? names)

theorem get?_cons (n : Node) (name : String) (names : List String) :
    n.get? (name :: names) = (n.entries.lookup name).bind (·.get? names) := rfl

theorem isDirectory_of_lookup (h : n.entries.lookup name = some c) : n.isDirectory = true := by
  cases n with
  | file => cases h
  | directory => rfl

/-! ## One name at a time -/

/-- **One name leads on** from a node to another one. With both stand the directories
passed, the latest first. -/
inductive Goes (part : String) : List Node → Node → List Node → Node → Prop where
  /-- At the root, `..` leads nowhere. -/
  | top {n : Node} (hn : n.isDirectory = true) (hpart : part = "..") : Goes part [] n [] n
  /-- Elsewhere it leads to the directory passed last. -/
  | back {above n : Node} {up : List Node} (hn : n.isDirectory = true) (hpart : part = "..") :
    Goes part (above :: up) n up above
  /-- Any other name leads to what a directory holds. -/
  | on {n c : Node} {up : List Node} (hpart : part ≠ "..") (hsize : part.utf8ByteSize ≤ 255)
    (hc : n.entries.lookup part = some c) : Goes part up n (n :: up) c

/-- Why a name does not lead on from a node. -/
inductive Stuck (part : String) (n : Node) : FileFault → Prop where
  /-- There is no name below a file. -/
  | notDirectory (hn : n.isDirectory = false) : Stuck part n .notDirectory
  /-- No name may be that long. -/
  | nameTooLong (hn : n.isDirectory = true) (hpart : part ≠ "..")
      (hsize : 255 < part.utf8ByteSize) :
    Stuck part n .nameTooLong
  /-- The directory does not hold the name. -/
  | missing (hn : n.isDirectory = true) (hpart : part ≠ "..") (hsize : part.utf8ByteSize ≤ 255)
    (hnone : n.entries.lookup part = none) : Stuck part n .missing

theorem Goes.isDirectory (h : Goes part up n up' c) : n.isDirectory = true := by
  cases h with
  | top hn => exact hn
  | back hn => exact hn
  | on _ _ hc => exact isDirectory_of_lookup hc

/-- Following a path goes on where the first part goes. -/
theorem Goes.follow_eq (h : Goes part up n up' c) (parts : List String) :
    follow up n (part :: parts) = follow up' c parts := by
  have hn : ¬ (!n.isDirectory) = true := by simp [h.isDirectory]
  cases h with
  | top _ hpart => rw [follow, if_neg hn, if_pos hpart]
  | back _ hpart => rw [follow, if_neg hn, if_pos hpart]
  | on hpart hsize hc =>
    rw [follow.eq_def]
    dsimp only
    rw [if_neg hn, if_neg hpart, if_neg (Nat.not_lt.mpr hsize), hc]

/-- Following a path ends where the first part is stuck. -/
theorem Stuck.follow_eq {fault : FileFault} (h : Stuck part n fault) (up : List Node)
    (parts : List String) : follow up n (part :: parts) = .error fault := by
  rw [follow.eq_def]
  dsimp only
  cases h with
  | notDirectory hn => rw [if_pos (by simp [hn])]
  | nameTooLong hn hpart hsize => rw [if_neg (by simp [hn]), if_neg hpart, if_pos hsize]
  | missing hn hpart hsize hnone =>
    rw [if_neg (by simp [hn]), if_neg hpart, if_neg (Nat.not_lt.mpr hsize), hnone]

/-- **A name leads on or it does not**, and there is nothing else. -/
theorem goes_or_stuck (part : String) (up : List Node) (n : Node) :
    (∃ up' c, Goes part up n up' c) ∨ ∃ fault, Stuck part n fault := by
  by_cases hn : n.isDirectory = true
  · by_cases hpart : part = ".."
    · cases up with
      | nil => exact .inl ⟨_, _, .top hn hpart⟩
      | cons => exact .inl ⟨_, _, .back hn hpart⟩
    by_cases hsize : part.utf8ByteSize ≤ 255
    · cases hc : n.entries.lookup part with
      | none => exact .inr ⟨_, .missing hn hpart hsize hc⟩
      | some => exact .inl ⟨_, _, .on hpart hsize hc⟩
    · exact .inr ⟨_, .nameTooLong hn hpart (Nat.not_le.mp hsize)⟩
  · exact .inr ⟨_, .notDirectory (Bool.eq_false_of_not_eq_true hn)⟩

/-- A path that is followed to its end goes on at its first part. -/
theorem goes_of_follow (h : follow up n (part :: parts) = .ok c) :
    ∃ up' m, Goes part up n up' m ∧ follow up' m parts = .ok c := by
  obtain ⟨up', m, hgoes⟩ | ⟨fault, hstuck⟩ := goes_or_stuck part up n
  · exact ⟨up', m, hgoes, hgoes.follow_eq parts ▸ h⟩
  · rw [hstuck.follow_eq] at h
    cases h

/-- **Names that lead nowhere** are stuck at one of them. -/
theorem exists_stuck {fault : FileFault} (h : follow up n parts = .error fault) :
    ∃ part ∈ parts, ∃ m, Stuck part m fault := by
  induction parts generalizing up n with
  | nil => cases h
  | cons part parts ih =>
    obtain ⟨up', m, hgoes⟩ | ⟨fault', hstuck⟩ := goes_or_stuck part up n
    · rw [hgoes.follow_eq] at h
      obtain ⟨part', hmem, hstuck⟩ := ih h
      exact ⟨part', .tail _ hmem, hstuck⟩
    · rw [hstuck.follow_eq] at h
      cases h
      exact ⟨part, .head _, n, hstuck⟩

/-- What stands at the end of names other than `..`. -/
theorem get?_of_follow (hup : ".." ∉ parts) (h : follow up n parts = .ok c) :
    n.get? parts = some c ∧ ∀ part ∈ parts, part.utf8ByteSize ≤ 255 := by
  induction parts generalizing up n with
  | nil =>
    cases h
    exact ⟨rfl, by simp⟩
  | cons part parts ih =>
    have hpart : part ≠ ".." := fun hpart => hup (hpart ▸ .head _)
    obtain ⟨up', m, hgoes, hrest⟩ := goes_of_follow h
    cases hgoes with
    | top _ hup => exact absurd hup hpart
    | back _ hup => exact absurd hup hpart
    | on _ hsize hchild =>
      obtain ⟨hget, hsizes⟩ := ih (fun hmem => hup (.tail _ hmem)) hrest
      exact ⟨by rw [get?_cons, hchild]; exact hget, List.forall_mem_cons.mpr ⟨hsize, hsizes⟩⟩

/-- Names that are short enough and do not go back are followed down the tree. -/
theorem follow_of_get? (up : List Node) (hup : ".." ∉ parts) (h : n.get? parts = some c)
    (hsizes : ∀ part ∈ parts, part.utf8ByteSize ≤ 255) : follow up n parts = .ok c := by
  induction parts generalizing up n with
  | nil => exact congrArg Except.ok (Option.some.inj h)
  | cons part parts ih =>
    have hpart : part ≠ ".." := fun hpart => hup (hpart ▸ .head _)
    obtain ⟨child, hchild, hget⟩ := Option.bind_eq_some_iff.mp h
    have hgoes : Goes part up n (n :: up) child := .on hpart (hsizes part (.head _)) hchild
    rw [hgoes.follow_eq]
    exact ih (n :: up) (fun hmem => hup (.tail _ hmem)) hget fun p hp => hsizes p (.tail _ hp)

/-- What leads further leads to a directory first. -/
theorem follow_append (h : follow up n (parts ++ [part]) = .ok c) :
    ∃ m, follow up n parts = .ok m ∧ m.isDirectory = true := by
  induction parts generalizing up n with
  | nil =>
    obtain ⟨up', m, hgoes, -⟩ := goes_of_follow h
    exact ⟨n, rfl, hgoes.isDirectory⟩
  | cons p parts ih =>
    obtain ⟨up', m, hgoes, hrest⟩ := goes_of_follow h
    rw [hgoes.follow_eq]
    exact ih hrest

/-! ## Putting -/

/-- Leaving one name out leaves the other entries. -/
theorem lookup_filter_ne (es : List (String × Node)) (name key : String) :
    (es.filter (·.1 ≠ name)).lookup key = if key = name then none else es.lookup key := by
  induction es with
  | nil => simp
  | cons e es ih =>
    obtain ⟨k, c⟩ := e
    by_cases hk : k = name
    · rw [List.filter_cons_of_neg (by simp [hk]), ih, lookup_cons_eq, hk]
      split <;> rfl
    · rw [List.filter_cons_of_pos (by simp [hk]), lookup_cons_eq, lookup_cons_eq, ih]
      by_cases hkey : key = k
      · rw [if_pos hkey, if_pos hkey, if_neg (hkey ▸ hk)]
      · rw [if_neg hkey, if_neg hkey]

/-- Putting something below one entry leaves the others. -/
theorem lookup_put (n new : Node) (name key : String) (names : List String) :
    (n.put (name :: names) new).entries.lookup key =
      if key = name then some (((n.entries.lookup name).getD empty).put names new)
      else n.entries.lookup key := by
  rw [put, entries, List.lookup_append, lookup_filter_ne, lookup_cons_eq]
  split
  · rfl
  · rw [List.lookup_nil, Option.or_none]

/-- What is put at a place is there. -/
theorem get?_put (n : Node) (place : List String) (new : Node) :
    (n.put place new).get? place = some new := by
  induction place generalizing n with
  | nil => rfl
  | cons name names ih => rw [get?_cons, lookup_put, if_pos rfl, Option.bind_some, ih]

/-! ## Trees of one shape -/

/-- Trees of one shape: the same names lead to a directory in both, to a file
in both, or to nothing. -/
def Alike (n n' : Node) : Prop :=
  ∀ names, (n.get? names).map isDirectory = (n'.get? names).map isDirectory

theorem Alike.isDirectory_eq (h : n.Alike n') : n.isDirectory = n'.isDirectory :=
  Option.some.inj (h [])

/-- Nodes that are alike have the same names, with entries that are alike. -/
theorem Alike.lookup (h : n.Alike n') (name : String) :
    Option.Rel Alike (n.entries.lookup name) (n'.entries.lookup name) := by
  have hnames : ∀ names, ((n.entries.lookup name).bind (·.get? names)).map isDirectory =
      ((n'.entries.lookup name).bind (·.get? names)).map isDirectory :=
    fun names => h (name :: names)
  cases hc : n.entries.lookup name with
  | none =>
    cases hc' : n'.entries.lookup name with
    | none => exact .none
    | some c' =>
      have h' := hnames []
      rw [hc, hc'] at h'
      cases h'
  | some c =>
    cases hc' : n'.entries.lookup name with
    | none =>
      have h' := hnames []
      rw [hc, hc'] at h'
      cases h'
    | some c' =>
      refine .some fun names => ?_
      have h' := hnames names
      rwa [hc, hc'] at h'

/-- Nodes that are alike have directories and files at the same places. -/
theorem Alike.exists_get? (h : n.Alike n') (names : List String) (q : Bool → Prop) :
    (∃ c, n'.get? names = some c ∧ q c.isDirectory) ↔
      ∃ c, n.get? names = some c ∧ q c.isDirectory := by
  have hmap : ∀ m : Node, (∃ c, m.get? names = some c ∧ q c.isDirectory) ↔
      ∃ b, (m.get? names).map isDirectory = some b ∧ q b := by simp
  rw [hmap, hmap, h names]

/-- What is found in trees of one shape: the same fault, or nodes of one shape. -/
inductive SameFind : Except FileFault Node → Except FileFault Node → Prop where
  /-- The same fault. -/
  | error (fault : FileFault) : SameFind (.error fault) (.error fault)
  /-- Nodes of one shape. -/
  | ok {m m' : Node} (h : m.Alike m') : SameFind (.ok m) (.ok m')

/-- Following a path ends alike in nodes that are alike. -/
theorem follow_alike (hup : List.Forall₂ Alike up up') (h : n.Alike n') (parts : List String) :
    SameFind (follow up n parts) (follow up' n' parts) := by
  induction parts generalizing up up' n n' with
  | nil => exact .ok h
  | cons part parts ih =>
    have hlookup := h.lookup part
    rw [follow.eq_def, follow.eq_def]
    dsimp only
    rw [← h.isDirectory_eq]
    split
    · exact .error _
    split
    · cases hup with
      | nil => exact ih .nil h
      | cons habove hup => exact ih hup habove
    split
    · exact .error _
    generalize n.entries.lookup part = found at hlookup ⊢
    generalize n'.entries.lookup part = found' at hlookup ⊢
    cases hlookup with
    | none => exact .error _
    | some hchild => exact ih (.cons h hup) hchild

/-- **Putting a file in the place of another one keeps the shape.** -/
theorem alike_put {content content' : ByteArray} {executable executable' : Bool}
    (h : n.get? place = some (file content executable)) :
    n.Alike (n.put place (file content' executable')) := by
  induction place generalizing n with
  | nil =>
    cases Option.some.inj h
    intro names
    cases names with
    | nil => rfl
    | cons name names => rfl
  | cons name place ih =>
    obtain ⟨c, hc, hget⟩ := Option.bind_eq_some_iff.mp h
    intro names
    cases names with
    | nil => exact congrArg some (isDirectory_of_lookup hc)
    | cons key names =>
      rw [get?_cons, get?_cons, lookup_put, hc]
      split
      · rename_i hkey
        rw [hkey, hc]
        exact ih hget names
      · rfl

/-! ## Trees in which a name stands once -/

/-- No directory of a tree holds a name twice. -/
def Proper (n : Node) : Prop :=
  ∀ names es, n.get? names = some (directory es) → (es.map (·.1)).Nodup

theorem Proper.lookup (h : n.Proper) (hc : n.entries.lookup name = some c) : c.Proper :=
  fun names es hes => h (name :: names) es (by rw [get?_cons, hc]; exact hes)

/-- What is below a proper node is proper. -/
theorem Proper.get? (h : n.Proper) (hc : n.get? names = some c) : c.Proper := by
  induction names generalizing n with
  | nil => exact Option.some.inj hc ▸ h
  | cons name names ih =>
    obtain ⟨child, hchild, hget⟩ := Option.bind_eq_some_iff.mp hc
    exact ih (h.lookup hchild) hget

theorem Proper.nodup (h : n.Proper) : (n.entries.map (·.1)).Nodup := by
  cases n with
  | file => exact .nil
  | directory es => exact h [] es rfl

theorem Proper.mem_entries (h : n.Proper) :
    (name, c) ∈ n.entries ↔ n.entries.lookup name = some c :=
  (lookup_eq_some_iff_mem h.nodup).symm

theorem get?_singleton (n : Node) (name : String) : n.get? [name] = n.entries.lookup name := by
  rw [get?_cons]
  cases n.entries.lookup name <;> rfl

theorem proper_file (content : ByteArray) (executable : Bool) :
    (file content executable).Proper := by
  intro names es h
  cases names <;> cases h

/-- Different names for proper nodes make a proper directory. -/
theorem proper_directory {es : List (String × Node)} (hnames : (es.map (·.1)).Nodup)
    (hes : ∀ e ∈ es, e.2.Proper) : (directory es).Proper := by
  intro names es' h
  cases names with
  | nil =>
    cases h
    exact hnames
  | cons name names =>
    obtain ⟨c, hc, hget⟩ := Option.bind_eq_some_iff.mp h
    exact hes (name, c) ((lookup_eq_some_iff_mem hnames).mp hc) names es' hget

theorem proper_empty : empty.Proper :=
  proper_directory (by simp) (by simp)

/-- A step from a proper node leads to one. -/
theorem Goes.proper (h : Goes part up n up' c) (hup : ∀ m ∈ up, m.Proper) (hn : n.Proper) :
    (∀ m ∈ up', m.Proper) ∧ c.Proper := by
  cases h with
  | top => exact ⟨hup, hn⟩
  | back => exact (List.forall_mem_cons.mp hup).symm
  | on _ _ hc => exact ⟨List.forall_mem_cons.mpr ⟨hn, hup⟩, hn.lookup hc⟩

theorem proper_follow (hup : ∀ m ∈ up, m.Proper) (h : n.Proper)
    (hc : follow up n parts = .ok c) : c.Proper := by
  induction parts generalizing up n with
  | nil =>
    cases hc
    exact h
  | cons part parts ih =>
    obtain ⟨up', m, hgoes, hrest⟩ := goes_of_follow hc
    obtain ⟨hup', hm⟩ := hgoes.proper hup h
    exact ih hup' hm hrest

/-- Putting a node at a place leaves no name twice. -/
theorem proper_put (h : n.Proper) (hnew : new.Proper) (place : List String) :
    (n.put place new).Proper := by
  induction place generalizing n with
  | nil => exact hnew
  | cons name place ih =>
    have hchild : ((n.entries.lookup name).getD empty).Proper := by
      cases hc : n.entries.lookup name with
      | none => exact proper_empty
      | some c => exact h.lookup hc
    have hsub : ((n.entries.filter (·.1 ≠ name)).map (·.1)).Sublist (n.entries.map (·.1)) :=
      List.filter_sublist.map _
    refine proper_directory ?_ fun e he => ?_
    · rw [List.map_append, List.map_singleton]
      refine List.nodup_append.mpr ⟨h.nodup.sublist hsub, by simp, ?_⟩
      rintro a ha b hb rfl
      obtain ⟨e, he, rfl⟩ := List.mem_map.mp ha
      exact absurd (List.mem_singleton.mp hb) (by simpa using (List.mem_filter.mp he).2)
    · obtain he | he := List.mem_append.mp he
      · exact h.lookup (h.mem_entries.mp (List.mem_of_mem_filter he))
      · rw [List.mem_singleton.mp he]
        exact ih hchild

/-! ## What is below -/

/-- What is below some entries is one of them, or below one. -/
theorem mem_descendantsOfAll {es : List (String × Node)} :
    (names, c) ∈ descendantsOfAll es ↔
      ∃ name m, (name, m) ∈ es ∧
        (names = [name] ∧ c = m ∨ ∃ more, (more, c) ∈ m.descendants ∧ names = name :: more) := by
  induction es with
  | nil => simp [descendantsOfAll]
  | cons e es ih =>
    obtain ⟨k, m⟩ := e
    simp only [descendantsOfAll, List.cons_append, List.mem_cons, List.mem_append, List.mem_map,
      Prod.mk.injEq, Prod.exists, ih]
    constructor
    · rintro (⟨rfl, rfl⟩ | ⟨more, d, hmem, rfl, rfl⟩ | ⟨name, d, hmem, h⟩)
      · exact ⟨k, c, .inl ⟨rfl, rfl⟩, .inl ⟨rfl, rfl⟩⟩
      · exact ⟨k, m, .inl ⟨rfl, rfl⟩, .inr ⟨more, hmem, rfl⟩⟩
      · exact ⟨name, d, .inr hmem, h⟩
    · rintro ⟨name, d, ⟨rfl, rfl⟩ | hmem, h⟩
      · obtain ⟨rfl, rfl⟩ | ⟨more, hmore, rfl⟩ := h
        · exact .inl ⟨rfl, rfl⟩
        · exact .inr (.inl ⟨more, c, hmore, rfl, rfl⟩)
      · exact .inr (.inr ⟨name, d, hmem, h⟩)

/-- What is below a node: what some names lead to from it. -/
theorem Proper.mem_descendants (h : n.Proper) :
    (names, c) ∈ n.descendants ↔ names ≠ [] ∧ n.get? names = some c := by
  have hentries : n.descendants = descendantsOfAll n.entries := by
    cases n <;> rw [descendants] <;> rfl
  induction names generalizing n with
  | nil =>
    rw [hentries, mem_descendantsOfAll]
    constructor
    · rintro ⟨name, m, -, ⟨h, -⟩ | ⟨more, -, h⟩⟩ <;> cases h
    · exact fun h => absurd rfl h.1
  | cons name names ih =>
    rw [hentries, mem_descendantsOfAll, get?_cons]
    constructor
    · rintro ⟨k, m, hmem, h'⟩
      have hm := h.mem_entries.mp hmem
      obtain ⟨heq, rfl⟩ | ⟨more, hmore, heq⟩ := h'
      · cases heq
        exact ⟨by simp, by rw [hm]; rfl⟩
      · cases heq
        refine ⟨by simp, ?_⟩
        rw [hm]
        exact ((ih (h.lookup hm) (by cases m <;> rw [descendants] <;> rfl)).mp hmore).2
    · rintro ⟨-, hget⟩
      obtain ⟨m, hm, hget⟩ := Option.bind_eq_some_iff.mp hget
      refine ⟨name, m, h.mem_entries.mpr hm, ?_⟩
      cases names with
      | nil => exact .inl ⟨rfl, (Option.some.inj hget).symm⟩
      | cons next names =>
        refine .inr ⟨next :: names, ?_, rfl⟩
        exact (ih (h.lookup hm) (by cases m <;> rw [descendants] <;> rfl)).mpr ⟨by simp, hget⟩

end Node

end Ratchet
