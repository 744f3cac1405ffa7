import Ratchet.Glob.Select
import Ratchet.Proofs.FileSystem.Length

/-!
# What a pattern selects

A pattern selects by names and by what is a directory, so in file systems that
give the same answers about every path it selects the same paths. A pattern
without wildcards selects one path at most, the one it spells.

* `select_alike`: a pattern selects the same paths.
* `eq_of_mem_select`: what a pattern without wildcards selects.
-/

namespace Ratchet

namespace Glob

open Outcome (Brings)

variable {fs fs' : FileSystem}

/-! ## Literal patterns -/

/-- Whether a text holds no wildcard. -/
def IsLiteral (s : String) : Prop :=
  ∀ c ∈ "*?[".toList, c ∉ s.toList

/-- What a part without wildcards selects: the entry of its name, unless it goes
back. -/
def Selector.literal (part : String) : Selector :=
  if part = ".." then .up else .named part

/-- A part without wildcards stands for itself. -/
theorem ofPart_literal {part : String} (hpart : IsLiteral part) :
    Selector.ofPart part = .ok (.literal part) := by
  have hstar : '*' ∉ part.toList := hpart '*' (by decide)
  have hboth : part ≠ "**" := by
    rintro rfl
    exact hstar (by decide)
  have hdouble : ∀ cs : List Char, '*' ∉ cs → hasDoubleStar cs = false := by
    intro cs hcs
    fun_induction hasDoubleStar cs with
    | case1 => exact absurd (.head _) hcs
    | case2 c cs _ ih => exact ih fun hmem => hcs (.tail _ hmem)
    | case3 => rfl
  have hwild : part.toList.any "*?[".toList.contains = false := by
    rw [List.any_eq_false]
    exact fun c hc hmem => hpart c (List.contains_iff_mem.mp hmem) hc
  rw [Selector.ofPart, if_neg hboth, hdouble _ hstar, hwild, Selector.literal]
  by_cases hup : part = ".."
  · rw [if_pos hup, if_pos hup]
  · rw [if_neg hup, if_neg hup]
    rfl

/-- A pattern without wildcards stands for its parts. -/
theorem selectors_of_literal {s : String} {pattern : Pattern} (hs : IsLiteral s)
    (h : Pattern.ofString s = .ok pattern) :
    (Path.ofString s).isAbsolute = false ∧
      pattern.selectors = (Path.ofString s).parts.map .literal := by
  unfold Pattern.ofString at h
  dsimp only at h
  split at h
  · cases h
  rename_i habs
  split at h
  · cases h
  obtain ⟨selectors, hselectors, h⟩ := Outcome.bind_eq_ok.mp h
  cases h
  have hparts : ∀ part ∈ (Path.ofString s).parts, Selector.ofPart part = .ok (.literal part) :=
    fun part hpart => ofPart_literal fun c hc hmem =>
      hs c hc (Path.mem_toList_of_mem_ofString hpart hmem)
  refine ⟨by simpa using habs, ?_⟩
  rw [Outcome.mapM_eq_map hparts] at hselectors
  exact (Except.ok.inj hselectors).symm

theorem eq_of_mem_selectFrom {directoriesOnly : Bool} {parts : List String} {p q : Path}
    {ps : List Path} (h : selectFrom fs directoriesOnly (parts.map .literal) p = .ok ps)
    (hq : q ∈ ps) : q = { p with parts := p.parts ++ parts } := by
  induction parts generalizing p ps with
  | nil =>
    cases h
    rw [List.mem_singleton.mp hq, List.append_nil]
  | cons part parts ih =>
    -- the first part leads to one path at most
    obtain ⟨next, found, hnext, hfound, rfl⟩ : ∃ (next : List Path) (found : List (List Path)),
        (∀ r ∈ next, r = p.child part) ∧
          next.mapM (selectFrom fs directoriesOnly (parts.map .literal)) = .ok found ∧
            found.flatten = ps := by
      by_cases hup : part = ".."
      · subst hup
        obtain ⟨next, hnext, h⟩ := Outcome.bind_eq_ok.mp h
        cases hnext
        obtain ⟨found, hfound, h⟩ := Outcome.bind_eq_ok.mp h
        exact ⟨[p.child ".."], found, by simp, hfound, Except.ok.inj h⟩
      · rw [List.map_cons, Selector.literal, if_neg hup] at h
        simp only [selectFrom] at h
        obtain ⟨b, -, h⟩ := Outcome.bind_eq_ok.mp h
        cases b with
        | false =>
          cases h
          exact ⟨[], [], by simp, rfl, rfl⟩
        | true =>
          obtain ⟨next, hnext, h⟩ := Outcome.bind_eq_ok.mp h
          cases hnext
          obtain ⟨found, hfound, h⟩ := Outcome.bind_eq_ok.mp h
          exact ⟨[p.child part], found, by simp, hfound, Except.ok.inj h⟩
    obtain ⟨rs, hrs, hq⟩ := List.mem_flatten.mp hq
    obtain ⟨r, hr, hrs'⟩ := (Outcome.mem_mapM hfound).mp hrs
    rw [hnext r hr] at hrs'
    rw [ih hrs' hq, Path.child, List.append_assoc]
    rfl

/-- **A pattern without wildcards selects the path it spells**, or none. -/
theorem eq_of_mem_select {s : String} {pattern : Pattern} {p q : Path} {ps : List Path}
    (hs : IsLiteral s) (hpattern : Pattern.ofString s = .ok pattern)
    (h : select fs p pattern = .ok ps) (hq : q ∈ ps) : q = p ++ Path.ofString s := by
  obtain ⟨hrelative, hselectors⟩ := selectors_of_literal hs hpattern
  obtain ⟨b, -, h⟩ := Outcome.bind_eq_ok.mp h
  cases b with
  | false =>
    cases h
    cases hq
  | true =>
    obtain ⟨found, hfound, h⟩ := Outcome.bind_eq_ok.mp h
    cases h
    rw [List.mem_eraseDups] at hq
    rw [hselectors] at hfound
    rw [eq_of_mem_selectFrom hfound hq]
    exact (if_neg (by simp [hrelative])).symm

/-! ## Trees of one shape -/

section

variable (h : fs.Alike fs') (hfs : fs.Proper) (hfs' : fs'.Proper)

include h

theorem stands_alike (directory : Bool) (p : Path) :
    stands fs directory p = stands fs' directory p := by
  unfold stands
  rw [h.isDirectory, h.occurs]

include hfs hfs'

/-- Files that are alike have the same entries for a pattern. -/
theorem entries_alike (directory : Bool) (p : Path) (pattern : String) :
    Brings (entries fs directory p pattern) (entries fs' directory p pattern) := by
  unfold entries FileSystem.entriesAt
  obtain ⟨fault, hn, hn'⟩ | ⟨n, n', hn, hn', halike, hproper, hproper'⟩ := h.find_cases hfs hfs' p
  · rw [hn, hn']
    exact .refl _
  · rw [hn, hn']
    refine .pure fun q => ?_
    simp only [List.mem_map, List.mem_filter, Prod.exists, hproper.mem_entries,
      hproper'.mem_entries, ← Node.get?_singleton, and_assoc]
    exact exists_congr fun name => halike.exists_get? [name] fun b =>
      ((!directory || b) && Text.fits pattern name) = true ∧ p.child name = q

/-- The directories below a path: those that names lead to from it. -/
theorem mem_directories_alike (p q : Path) :
    q ∈ p :: (((fs'.find p).toOption.getD .empty).descendants.filter (·.2.isDirectory)).map
        (fun e => { p with parts := p.parts ++ e.1 }) ↔
      q ∈ p :: (((fs.find p).toOption.getD .empty).descendants.filter (·.2.isDirectory)).map
        (fun e => { p with parts := p.parts ++ e.1 }) := by
  obtain ⟨fault, hn, hn'⟩ | ⟨n, n', hn, hn', halike, hproper, hproper'⟩ := h.find_cases hfs hfs' p
  · rw [hn, hn']
  · simp only [hn, hn', Except.toOption, Option.getD_some, List.mem_cons, List.mem_map,
      List.mem_filter, Prod.exists, hproper.mem_descendants, hproper'.mem_descendants, and_assoc]
    refine or_congr_right (exists_congr fun names => ?_)
    simp only [exists_and_left]
    exact and_congr_right fun _ => halike.exists_get? names fun b =>
      b = true ∧ { p with parts := p.parts ++ names } = q

/-- Files that are alike have the same directories below a path. -/
theorem directories_alike (p : Path) : Brings (directories fs p) (directories fs' p) := by
  intro found hfound
  obtain ⟨u, hall, hfound⟩ := Outcome.bind_eq_ok.mp hfound
  cases hfound
  have hmem := mem_directories_alike h hfs hfs' p
  refine ⟨_, Outcome.bind_eq_ok.mpr ⟨(), FileSystem.askAll_eq_ok.mpr fun q hq => ?_, rfl⟩, hmem⟩
  rw [← h.occurs]
  exact FileSystem.askAll_eq_ok.mp hall q ((hmem q).mp hq)

/-- **A pattern selects the same paths**, in one order or another. -/
theorem selectFrom_alike (directoriesOnly : Bool) (ss : List Selector) (p : Path) :
    Brings (selectFrom fs directoriesOnly ss p) (selectFrom fs' directoriesOnly ss p) := by
  induction ss generalizing p with
  | nil => exact .refl _
  | cons s ss ih =>
    have hgo : ∀ next next' : List Path, (∀ q, q ∈ next' ↔ q ∈ next) →
        Brings (List.flatten <$> next.mapM (selectFrom fs directoriesOnly ss))
          (List.flatten <$> next'.mapM (selectFrom fs' directoriesOnly ss)) :=
      fun next next' hmem => .flatMapM hmem fun q _ => ih q
    cases s with
    | up => exact hgo _ _ fun _ => Iff.rfl
    | anywhere => exact (directories_alike h hfs hfs' p).bind hgo
    | fitting pattern => exact (entries_alike h hfs hfs' _ p pattern).bind hgo
    | named name =>
      simp only [selectFrom, stands_alike h]
      cases stands fs' (directoriesOnly || !ss.isEmpty) (p.child name) with
      | error cause => exact .refl _
      | ok b =>
        cases b with
        | false => exact hgo [] [] fun _ => Iff.rfl
        | true => exact hgo [p.child name] [p.child name] fun _ => Iff.rfl

/-- Files that are alike bring the same for a pattern. -/
theorem select_alike (p : Path) (pattern : Pattern) :
    Brings (select fs p pattern) (select fs' p pattern) := by
  unfold select
  rw [h.isDirectory]
  cases fs'.isDirectory p with
  | error cause => exact .refl _
  | ok b =>
    cases b with
    | false => exact .refl _
    | true =>
      exact Brings.bind (selectFrom_alike h hfs hfs' _ _ p) fun _ _ hmem =>
        .pure fun q => by simp only [List.mem_eraseDups, hmem]

end

end Glob

end Ratchet
