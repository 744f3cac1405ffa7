import Mathlib.Data.List.TakeWhile
import Ratchet.Path

/-!
# Paths as text and as places

The names of a path are never empty, never `.` and hold no slash. From the
text of a path its names are read back, and the way from one place to another
leads there.

* `ofString_relative`, `ofString_ofParts`: a relative path and a place are read back
  from their texts.
* `followAll_route`: the way from one place to another leads there.
-/

namespace Ratchet.Text

variable {sep : Char} {pieces : List (List Char)}

/-- The piece before a separator is split off. -/
theorem split_append {piece : List Char} (h : sep ∉ piece) (cs : List Char) :
    split sep (piece ++ sep :: cs) = piece :: split sep cs := by
  induction piece with
  | nil => simp [split]
  | cons c piece ih =>
    have hc : c ≠ sep := fun hc => h (hc ▸ .head _)
    rw [List.cons_append, split, if_neg hc, ih fun hmem => h (.tail _ hmem)]

theorem split_eq_singleton {piece : List Char} (h : sep ∉ piece) : split sep piece = [piece] := by
  induction piece with
  | nil => rfl
  | cons c piece ih =>
    have hc : c ≠ sep := fun hc => h (hc ▸ .head _)
    rw [split, if_neg hc, ih fun hmem => h (.tail _ hmem)]

/-- Splitting undoes joining, when no piece holds the separator. -/
theorem split_join (h : ∀ p ∈ pieces, sep ∉ p) (hne : pieces ≠ []) :
    split sep (join sep pieces) = pieces := by
  induction pieces with
  | nil => exact absurd rfl hne
  | cons p ps ih =>
    cases ps with
    | nil => exact split_eq_singleton (h p (.head _))
    | cons q qs =>
      rw [join, split_append (h p (.head _)), ih (fun r hr => h r (.tail _ hr)) (by simp)]
      simp

/-- The pieces of a text hold no separator. -/
theorem notMem_of_mem_split {cs piece : List Char} (h : piece ∈ split sep cs) : sep ∉ piece := by
  induction cs generalizing piece with
  | nil =>
    rw [List.mem_singleton.mp h]
    simp
  | cons c cs ih =>
    rw [split] at h
    split at h
    · obtain rfl | h := List.mem_cons.mp h
      · simp
      · exact ih h
    · rename_i hc
      split at h
      · rename_i hnil
        exact absurd hnil (split_ne_nil sep cs)
      · rename_i p ps hps
        obtain rfl | h := List.mem_cons.mp h
        · have hp : sep ∉ p := ih (hps ▸ .head _)
          simp [Ne.symm hc, hp]
        · exact ih (hps ▸ .tail _ h)

/-- The characters of a piece are in the joined text. -/
theorem mem_join_of_mem {piece : List Char} {c : Char} (h : piece ∈ pieces) (hc : c ∈ piece) :
    c ∈ join sep pieces := by
  induction pieces with
  | nil => cases h
  | cons p ps ih =>
    cases ps with
    | nil => rwa [List.mem_singleton.mp h] at hc
    | cons q qs =>
      rw [join]
      · obtain rfl | h := List.mem_cons.mp h
        · exact List.mem_append_left _ hc
        · exact List.mem_append_right _ (.tail _ (ih h))
      · simp

/-- A joined text has the characters of its pieces and the separator. -/
theorem eq_or_exists_of_mem_join {c : Char} (h : c ∈ join sep pieces) :
    c = sep ∨ ∃ piece ∈ pieces, c ∈ piece := by
  induction pieces with
  | nil => cases h
  | cons p ps ih =>
    cases ps with
    | nil => exact .inr ⟨p, .head _, h⟩
    | cons q qs =>
      rw [join] at h
      · obtain h | h := List.mem_append.mp h
        · exact .inr ⟨p, .head _, h⟩
        · obtain rfl | h := List.mem_cons.mp h
          · exact .inl rfl
          · obtain heq | ⟨piece, hpiece, hc⟩ := ih h
            · exact .inl heq
            · exact .inr ⟨piece, .tail _ hpiece, hc⟩
      · simp

end Ratchet.Text

namespace Ratchet.Path

/-- A name that a path may pass. -/
structure IsName (s : String) : Prop where
  /-- It is not empty. -/
  ne_empty : s ≠ ""
  /-- It is not the name of the directory itself. -/
  ne_here : s ≠ "."
  /-- It holds no slash. -/
  slash : '/' ∉ s.toList

instance (s : String) : Decidable (IsName s) :=
  decidable_of_iff (s ≠ "" ∧ s ≠ "." ∧ '/' ∉ s.toList)
    ⟨fun ⟨ne_empty, ne_here, slash⟩ => ⟨ne_empty, ne_here, slash⟩,
      fun h => ⟨h.ne_empty, h.ne_here, h.slash⟩⟩

variable {p : Path} {parts start goal : List String} {s text : String}

/-! ## Text -/

/-- The parts of a path that is read are names. -/
theorem isName_of_mem_ofString (h : s ∈ (ofString text).parts) : IsName s := by
  obtain ⟨hmem, hne⟩ := List.mem_filter.mp h
  obtain ⟨piece, hpiece, rfl⟩ := List.mem_map.mp hmem
  simp only [ne_eq, decide_eq_true_eq] at hne
  exact ⟨hne.1, hne.2, by simpa using Text.notMem_of_mem_split hpiece⟩

theorem toList_slashed (parts : List String) :
    (slashed parts).toList = Text.join '/' (parts.map String.toList) := by
  induction parts with
  | nil => rfl
  | cons part parts ih =>
    cases parts with
    | nil => simp [slashed, Text.join]
    | cons next parts =>
      rw [slashed, String.intercalate_cons_cons, String.toList_append, String.toList_append,
        ← slashed, ih]
      simp [Text.join]

/-- What the names of a path hold, its text holds. -/
theorem mem_toList_of_mem_ofString {c : Char} (h : s ∈ (ofString text).parts) (hc : c ∈ s.toList) :
    c ∈ text.toList := by
  obtain ⟨piece, hpiece, rfl⟩ := List.mem_map.mp (List.mem_filter.mp h).1
  rw [String.toList_ofList] at hc
  rw [← Text.join_split '/' text.toList]
  exact Text.mem_join_of_mem hpiece hc

/-- A text of names and slashes holds nothing but what they hold. -/
theorem eq_slash_or_exists_of_mem_slashed {c : Char} (h : c ∈ (slashed parts).toList) :
    c = '/' ∨ ∃ part ∈ parts, c ∈ part.toList := by
  rw [toList_slashed] at h
  refine (Text.eq_or_exists_of_mem_join h).imp_right ?_
  rintro ⟨piece, hpiece, hc⟩
  obtain ⟨part, hpart, rfl⟩ := List.mem_map.mp hpiece
  exact ⟨part, hpart, hc⟩

/-- Names that are joined by slashes can be told apart again. -/
theorem splitString_slashed (h : ∀ part ∈ parts, IsName part) (hne : parts ≠ []) :
    Text.splitString '/' (slashed parts) = parts := by
  rw [Text.splitString, toList_slashed, Text.split_join ?_ (by simpa using hne), List.map_map]
  · simp [Function.comp_def]
  · exact List.forall_mem_map.mpr fun part hpart => (h part hpart).slash

/-- Names are not dropped when a path is read. -/
theorem filter_names (h : ∀ part ∈ parts, IsName part) :
    (parts.filter fun part => part ≠ "" ∧ part ≠ ".") = parts :=
  List.filter_eq_self.mpr fun part hpart => by
    simp [(h part hpart).ne_empty, (h part hpart).ne_here]

/-- A text of names and slashes does not start with a slash. -/
theorem anchorOf_slashed (h : ∀ part ∈ parts, IsName part) :
    anchorOf (slashed parts).toList = "" := by
  cases parts with
  | nil => rfl
  | cons part parts =>
    obtain ⟨hne, -, hslash⟩ := h part (.head _)
    obtain ⟨c, cs, hcs⟩ : ∃ c cs, part.toList = c :: cs :=
      List.exists_cons_of_ne_nil fun hnil => hne (String.toList_eq_nil_iff.mp hnil)
    rw [hcs] at hslash
    have hc : c ≠ '/' := fun hc => hslash (hc ▸ .head _)
    obtain ⟨rest, hrest⟩ : ∃ rest, (slashed (part :: parts)).toList = c :: rest := by
      rw [toList_slashed, List.map_cons, hcs]
      cases parts <;> exact ⟨_, rfl⟩
    rw [hrest]
    unfold anchorOf
    split <;> simp_all

/-- **A relative path is read back from its text.** -/
theorem ofString_slashed (h : ∀ part ∈ parts, IsName part) (hne : parts ≠ []) :
    ofString (slashed parts) = { parts } := by
  rw [ofString, anchorOf_slashed h, splitString_slashed h hne, filter_names h]

/-- A relative path is read back from its text, also the one without a name. -/
theorem ofString_relative (h : ∀ part ∈ parts, IsName part) :
    ofString ({ parts } : Path).toString = { parts } := by
  by_cases hne : parts = []
  · subst hne
    decide +kernel
  · have htext : ({ parts } : Path).toString = slashed parts := by
      rw [toString, if_neg fun hnil => hne hnil.2]
      exact String.empty_append
    rw [htext, ofString_slashed h hne]

/-- A dot and a slash at the start of a text name nothing. -/
theorem ofString_here (s : String) : ofString ("./" ++ s) = { parts := (ofString s).parts } := by
  have htext : ("./" ++ s).toList = ['.'] ++ '/' :: s.toList := by
    rw [String.toList_append]
    rfl
  have hsplit : Text.splitString '/' ("./" ++ s) = "." :: Text.splitString '/' s := by
    rw [Text.splitString, htext, Text.split_append (by decide), List.map_cons, Text.splitString]
  rw [ofString, htext, hsplit, List.filter_cons_of_neg (by simp)]
  rfl

/-- A relative path may be written with a dot and a slash at the start. -/
theorem ofString_here_slashed (h : ∀ part ∈ parts, IsName part) :
    ofString ("./" ++ slashed parts) = { parts } := by
  rw [ofString_here]
  by_cases hne : parts = []
  · subst hne
    rfl
  · rw [ofString_slashed h hne]

/-- **A place is read back from its text.** -/
theorem ofString_ofParts (h : ∀ part ∈ parts, IsName part) :
    ofString (ofParts parts).toString = ofParts parts := by
  have htext : (ofParts parts).toString.toList = [] ++ '/' :: (slashed parts).toList := by
    rw [toString, if_neg (by simp [ofParts]), String.toList_append, ofParts,
      show "/".toList = ['/'] by decide]
    rfl
  have hanchor : anchorOf ('/' :: (slashed parts).toList) = "/" := by
    have hslashed := anchorOf_slashed h
    unfold anchorOf at hslashed ⊢
    split at hslashed <;> simp_all
  have hparts : (Text.splitString '/' (slashed parts)).filter (fun part => part ≠ "" ∧ part ≠ ".") =
      parts := by
    by_cases hne : parts = []
    · subst hne
      rfl
    · rw [splitString_slashed h hne, filter_names h]
  have hsplit : Text.splitString '/' (ofParts parts).toString =
      "" :: Text.splitString '/' (slashed parts) := by
    rw [Text.splitString, htext, Text.split_append (by simp), List.map_cons, Text.splitString]
  rw [ofString, hsplit, htext, List.nil_append, hanchor, List.filter_cons_of_neg (by simp), hparts]
  rfl

/-! ## Places -/

theorem followAll_append (at_ parts more : List String) :
    followAll at_ (parts ++ more) = followAll (followAll at_ parts) more :=
  List.foldl_append

/-- Names other than `..` go on from a place. -/
theorem followAll_eq_append (at_ : List String) (h : ".." ∉ parts) :
    followAll at_ parts = at_ ++ parts := by
  induction parts generalizing at_ with
  | nil => simp [followAll]
  | cons part parts ih =>
    have hpart : part ≠ ".." := fun hpart => h (hpart ▸ .head _)
    have hstep : followAll at_ (part :: parts) = followAll (at_ ++ [part]) parts := by
      rw [followAll, List.foldl_cons, follow, if_neg hpart]
      rfl
    rw [hstep, ih _ fun hmem => h (.tail _ hmem), List.append_assoc]
    rfl

/-- Steps back take as many names off. -/
theorem followAll_replicate (at_ : List String) (k : Nat) :
    followAll at_ (List.replicate k "..") = at_.take (at_.length - k) := by
  induction k generalizing at_ with
  | zero => simp [followAll]
  | succ k ih =>
    have hstep : followAll at_ (List.replicate (k + 1) "..") =
        followAll at_.dropLast (List.replicate k "..") := rfl
    rw [hstep, ih, List.dropLast_eq_take, List.length_take, List.take_take]
    congr 1
    omega

/-- Following names never leaves a `..` behind. -/
theorem notMem_followAll {at_ : List String} (h : ".." ∉ at_) (parts : List String) :
    ".." ∉ followAll at_ parts := by
  induction parts generalizing at_ with
  | nil => exact h
  | cons part parts ih =>
    have hstep : ".." ∉ follow at_ part := by
      unfold follow
      split
      · exact fun hmem => h (List.dropLast_subset _ hmem)
      · rename_i hpart
        simp [h, Ne.symm hpart]
    exact ih hstep

/-- Following names leads by names from the start and those followed. -/
theorem mem_of_mem_followAll {at_ : List String} (h : s ∈ followAll at_ parts) :
    s ∈ at_ ∨ s ∈ parts := by
  induction parts generalizing at_ with
  | nil => exact .inl h
  | cons part parts ih =>
    obtain h | h := ih (show s ∈ followAll (follow at_ part) parts from h)
    · unfold follow at h
      split at h
      · exact .inl (List.dropLast_subset _ h)
      · obtain h | h := List.mem_append.mp h
        · exact .inl h
        · exact .inr (List.mem_singleton.mp h ▸ .head _)
    · exact .inr (.tail _ h)

theorem commonLength_le (start goal : List String) : commonLength start goal ≤ start.length := by
  fun_induction commonLength start goal with
  | case1 as b bs ih => simpa using ih
  | case2 => simp
  | case3 => simp

/-- What two lists have in common at the start is the same in both. -/
theorem take_commonLength (start goal : List String) :
    start.take (commonLength start goal) = goal.take (commonLength start goal) := by
  fun_induction commonLength start goal with
  | case1 as b bs ih => simp [ih]
  | case2 => simp
  | case3 => simp

/-- **The way from one place to another leads there.** -/
theorem followAll_route (start : List String) (h : ".." ∉ goal) :
    followAll start (route start goal) = goal := by
  have hle := commonLength_le start goal
  have hdrop : ".." ∉ goal.drop (commonLength start goal) :=
    fun hmem => h (List.mem_of_mem_drop hmem)
  rw [route, followAll_append, followAll_replicate, followAll_eq_append _ hdrop,
    Nat.sub_sub_self hle, take_commonLength, List.take_append_drop]

theorem mem_of_mem_route (h : s ∈ route start goal) : s = ".." ∨ s ∈ goal := by
  obtain h | h := List.mem_append.mp h
  · exact .inl (List.eq_of_mem_replicate h)
  · exact .inr (List.mem_of_mem_drop h)

/-! ## Null characters -/

/-- A path can be asked for when no name in it has a null character. -/
theorem hasNull_eq_false : p.hasNull = false ↔ ∀ part ∈ p.parts, '\x00' ∉ part.toList := by
  rw [hasNull, List.any_eq_false]
  refine forall₂_congr fun part _ => ?_
  by_cases hup : part = ".."
  · rw [hup]
    decide
  · simp [hup]

/-- A place that a path leads to holds no null character. -/
theorem notMem_null_resolve {cwd : List String} (h : p.hasNull = false)
    (hcwd : ∀ part ∈ cwd, '\x00' ∉ part.toList) :
    ∀ part ∈ (p.resolve cwd).parts, '\x00' ∉ part.toList := by
  intro part hpart
  obtain hpart | hpart := mem_of_mem_followAll hpart
  · split at hpart
    · cases hpart
    · exact hcwd part hpart
  · exact hasNull_eq_false.mp h part hpart

end Ratchet.Path
