import Ratchet.Proofs.AllowList.Drafts
import Ratchet.Proofs.AllowList.Durability

/-!
# Recording in batches

It makes no difference whether some files are recorded at once or in two
batches, nor which batch comes first: the same calls succeed, they leave the
same document byte for byte, and they write the same entries. The document is
written and read again in between, which changes nothing, unless NaN
stands beside another number: where sorting leaves it depends on where it was.

* `first_revision`, `second_revision`: what two batches make of the document.
* `Agree`: calls that come to the same.
* `add_in_batches`: recording files in two batches, in either order.
* `batches_rearrange_numbers`: what becomes of numbers with NaN among them.
-/

namespace Ratchet.AllowList

open Json (Value Members)
open Outcome (Brings)

variable {fs fs' fs₁ : FileSystem} {a : AllowList} {m m₁ after : Members}
  {us single us' single' ws : List Value} {included included' : List String}
  {xs ys files written first more parts : List String}

/-! ## Revisions -/

namespace StartsFrom

/-- What a call starts from is determined by the files. -/
theorem unique (h : a.StartsFrom fs m us single included)
    (h' : a.StartsFrom fs m us' single' included') :
    us = us' ∧ single = single' ∧ included = included' := by
  obtain ⟨hus, ⟨vs, hvs, hsingle⟩, patterns, hpatterns, hincluded⟩ := h
  obtain ⟨hus', ⟨vs', hvs', hsingle'⟩, patterns', hpatterns', hincluded'⟩ := h'
  cases hus.symm.trans hus'
  cases hvs.symm.trans hvs'
  cases hsingle.symm.trans hsingle'
  cases hpatterns.symm.trans hpatterns'
  cases hincluded.symm.trans hincluded'
  exact ⟨rfl, rfl, rfl⟩

/-- The single files at the start are distinct. -/
theorem isDistinct (h : a.StartsFrom fs m us single included) : Draft.IsDistinct single := by
  obtain ⟨vs, -, hsingle⟩ := h.files
  obtain ⟨hapart, hscalar, hmem, -⟩ := Json.distinct_spec (distinct_eq_ok.mp hsingle)
  exact ⟨hapart, fun v hv => hscalar v (hmem v hv)⟩

end StartsFrom

/-- The draft that recording some files comes to. -/
def draft (a : AllowList) (fs : FileSystem) (us single : List Value)
    (included files : List String) : Draft :=
  ({ excluded := us, files := single } : Draft).recordAll (a.entryOf fs) included.contains files

/-- A revision records each file under its entry. -/
theorem revise_iff (hread : a.read fs = .ok m) (hstart : a.StartsFrom fs m us single included)
    (hfiles : ∀ f ∈ files, fs.IsPlace f) :
    a.revise fs files = .ok (after, written) ↔
      ∃ ws, a.sorted (a.draft fs us single included files).files = .ok ws ∧
        after = update m (a.draft fs us single included files).excluded ws ∧
        written = (a.draft fs us single included files).written.reverse := by
  rw [revise_eq_ok hread]
  constructor
  · rintro ⟨us', single', included', d, ws, hstart', hd, h⟩
    obtain ⟨rfl, rfl, rfl⟩ := hstart.unique hstart'
    rw [foldlM_addOne hfiles] at hd
    cases hd
    exact ⟨ws, h⟩
  · rintro ⟨ws, h⟩
    exact ⟨us, single, included, _, ws, hstart, foldlM_addOne hfiles included _, h⟩

section

variable (hstart : a.StartsFrom fs m us single included)

include hstart

theorem isDistinct_draft (files : List String) :
    Draft.IsDistinct (a.draft fs us single included files).files :=
  Draft.isDistinct_recordAll hstart.isDistinct files

/-- Where NaN does not stand beside a number, it does not come to. -/
theorem settled_draft (hsettled : ∀ vs, listed m .files = .ok vs → Json.Settled vs)
    (files : List String) : Json.Settled (a.draft fs us single included files).files := by
  obtain ⟨vs, hvs, hsingle⟩ := hstart.files
  obtain ⟨-, -, hmem, -⟩ := Json.distinct_spec (distinct_eq_ok.mp hsingle)
  refine Draft.settled_recordAll ?_ files
  exact fun hnan v hv => hsettled vs hvs (hmem _ hnan) v (hmem v hv)

/-- What one batch leaves is what the next one starts from. -/
theorem StartsFrom.next (hws : a.sorted (a.draft fs us single included files).files = .ok ws)
    (hbrings : ∀ {vs v}, listed m .included = .ok vs → v ∈ vs →
      Brings (a.filesOf fs v) (a.filesOf fs' v)) (excluded : List Value) :
    ∃ included', a.StartsFrom fs' (update m excluded ws) excluded ws included' ∧
      ∀ f, f ∈ included' ↔ f ∈ included := by
  have hlisted := listed_update m excluded ws
  -- the sorted list holds no two values that are the same, so all of them stay
  have hperm := Json.perm_of_sorted? (sorted_eq_ok.mp hws)
  have hdistinct := isDistinct_draft hstart files
  have hself : distinct ws = .ok ws := distinct_eq_ok.mpr <|
    Json.distinct_eq_self (hdistinct.apart.perm hperm.symm) fun v hv =>
      hdistinct.scalar v (hperm.mem_iff.mp hv)
  obtain ⟨patterns, hpatterns, hincluded⟩ := hstart.included
  obtain ⟨found, hfound, hflatten⟩ := Outcome.bind_eq_ok.mp hincluded
  cases hflatten
  have hall : ∀ v ∈ patterns, Brings (a.filesOf fs v) (a.filesOf fs' v) :=
    fun v hv => hbrings hpatterns hv
  obtain ⟨_, hmap, hmem⟩ := Brings.flatMapM (fun _ => Iff.rfl) hall found.flatten
    (Outcome.map_eq_ok.mpr ⟨found, hfound, rfl⟩)
  obtain ⟨found', hfound', rfl⟩ := Outcome.map_eq_ok.mp hmap
  exact ⟨found'.flatten, ⟨hlisted .excluded, ⟨ws, hlisted .files, hself⟩, patterns,
    (hlisted .included).trans hpatterns, Outcome.bind_eq_ok.mpr ⟨found', hfound', rfl⟩⟩, hmem⟩

end

theorem entryOf_congr (hcwd : fs'.cwd = fs.cwd) : a.entryOf fs' = a.entryOf fs := by
  funext f
  simp only [entryOf, entryFor, FileSystem.resolve_congr hcwd]

/-- **A draft that goes on from the lists of another one** comes to what a
single draft of all the files comes to, but for the order of its single files
and for what the other one has written. -/
theorem draft_next (hfiles : ∀ f ∈ xs ++ ys, fs.IsPlace f) (hperm : files.Perm (xs ++ ys))
    (hcwd : fs'.cwd = fs.cwd) {d d' : Draft} (hd : d = a.draft fs us single included xs)
    (hws : ws.Perm d.files) (hincluded : ∀ f, f ∈ included' ↔ f ∈ included)
    (hd' : d' = a.draft fs' d.excluded ws included' ys) :
    (a.draft fs us single included files).excluded = d'.excluded ∧
      (a.draft fs us single included files).files.Perm d'.files ∧
      (a.draft fs us single included files).written.Perm (d'.written ++ d.written) := by
  have hcontains : included'.contains = included.contains := funext fun f => by
    rw [Bool.eq_iff_iff, List.contains_iff_mem, List.contains_iff_mem, hincluded]
  have hall : ∀ f ∈ files, fs.IsPlace f := fun f hf => hfiles f (hperm.mem_iff.mp hf)
  -- all the files, the first batch before the second
  have happend : (a.draft fs us single included files).Like
      (d.recordAll (a.entryOf fs) included.contains ys) := by
    rw [hd, draft, draft, ← Draft.recordAll_append]
    exact Draft.recordAll_perm hperm (fun f hf g hg => aliases_apart (hall f hf) (hall g hg))
      (.refl _)
  -- the second batch, in a draft in which nothing has been written
  have hlike : (({ d with written := [] } : Draft).recordAll (a.entryOf fs) included.contains
      ys).Like d' := by
    rw [hd', draft, entryOf_congr hcwd, hcontains]
    refine Draft.Like.recordAll ?_ ys
    exact ⟨rfl, hws.symm, .refl _⟩
  have hafter : d = Draft.after { d with written := [] } d.written := rfl
  rw [hafter, Draft.recordAll_after] at happend
  exact ⟨happend.excluded.trans hlike.excluded, happend.files.trans hlike.files,
    happend.written.trans (hlike.written.append_right _)⟩

section

variable (hread : a.read fs = .ok m) (hfiles : ∀ f ∈ xs ++ ys, fs.IsPlace f)
  (hperm : files.Perm (xs ++ ys))

include hread hfiles hperm

/-- **Where all files can be recorded, the first batch can.** -/
theorem first_revision (h : a.revise fs files = .ok (after, written)) :
    ∃ m₁ first, a.revise fs xs = .ok (m₁, first) := by
  obtain ⟨us, single, included, -, -, hstart, -⟩ := (revise_eq_ok hread).mp h
  have hall : ∀ f ∈ files, fs.IsPlace f := fun f hf => hfiles f (hperm.mem_iff.mp hf)
  obtain ⟨ws, hws, -⟩ := (revise_iff hread hstart hall).mp h
  -- the single files of the first batch are among those of both
  have hsub : (a.draft fs us single included xs).files.Subperm
      (a.draft fs us single included files).files := by
    have happend : (a.draft fs us single included files).Like
        (a.draft fs us single included (xs ++ ys)) :=
      Draft.recordAll_perm hperm (fun f hf g hg => aliases_apart (hall f hf) (hall g hg)) (.refl _)
    rw [draft, draft, Draft.recordAll_append] at happend
    exact (Draft.sublist_recordAll _ _).subperm.trans happend.files.symm.subperm
  obtain ⟨ws₁, hws₁⟩ : ∃ ws₁,
      Json.sorted? a.arrangement (a.draft fs us single included xs).files = some ws₁ := by
    refine Json.exists_sorted?.mpr ((Json.exists_sorted?.mp ⟨ws, sorted_eq_ok.mp hws⟩).imp
      hsub.length_le.trans fun hless v hv w hw => ?_)
    exact hless v (hsub.subset hv) w (hsub.subset hw)
  exact ⟨_, _, (revise_iff hread hstart fun f hf => hfiles f (List.mem_append_left _ hf)).mpr
    ⟨ws₁, sorted_eq_ok.mpr hws₁, rfl, rfl⟩⟩

/-- **The second batch makes of the document what all files at once make of
it**, and together with the first it writes the same entries. -/
theorem second_revision (hsettled : ∀ vs, listed m .files = .ok vs → Json.Settled vs)
    (hfirst : a.revise fs xs = .ok (m₁, first)) (hread' : a.read fs' = .ok m₁)
    (hcwd : fs'.cwd = fs.cwd)
    (hbrings : ∀ {vs v}, listed m .included = .ok vs → v ∈ vs →
      Brings (a.filesOf fs v) (a.filesOf fs' v)) (after : Members) :
    (∀ more, a.revise fs' ys = .ok (after, more) →
      ∃ written, a.revise fs files = .ok (after, written) ∧ written.Perm (first ++ more)) ∧
    ∀ written, a.revise fs files = .ok (after, written) →
      ∃ more, a.revise fs' ys = .ok (after, more) ∧ written.Perm (first ++ more) := by
  obtain ⟨us, single, included, -, -, hstart, -⟩ := (revise_eq_ok hread).mp hfirst
  have hall : ∀ f ∈ files, fs.IsPlace f := fun f hf => hfiles f (hperm.mem_iff.mp hf)
  obtain ⟨ws₁, hws₁, rfl, rfl⟩ := (revise_iff hread hstart fun f hf =>
    hfiles f (List.mem_append_left _ hf)).mp hfirst
  obtain ⟨included', hstart', hincluded⟩ := hstart.next hws₁ hbrings
    (a.draft fs us single included xs).excluded
  obtain ⟨hexcluded, hsame, hwritten⟩ := draft_next hfiles hperm hcwd rfl
    (Json.perm_of_sorted? (sorted_eq_ok.mp hws₁)) hincluded rfl
  have hlater : ∀ f ∈ ys, fs'.IsPlace f := fun f hf =>
    (hfiles f (List.mem_append_right _ hf)).congr hcwd
  have hsorted : a.sorted (a.draft fs us single included files).files = a.sorted _ :=
    congrArg (Option.elim · _ _) (Json.sorted?_perm (isDistinct_draft hstart files).apart
      (settled_draft hstart hsettled files) hsame)
  have hupdate := update_update (sound_of_read hread)
  have hentries := (List.reverse_perm _).trans (hwritten.trans (List.perm_append_comm.trans
    ((List.reverse_perm _).symm.append (List.reverse_perm _).symm)))
  simp only [revise_iff hread hstart hall, revise_iff hread' hstart' hlater, hsorted, hexcluded,
    hupdate]
  constructor
  · rintro _ ⟨ws, hws, rfl, rfl⟩
    exact ⟨_, ⟨ws, hws, rfl, rfl⟩, hentries⟩
  · rintro _ ⟨ws, hws, rfl, rfl⟩
    exact ⟨_, ⟨ws, hws, rfl, rfl⟩, hentries⟩

end

/-! ## Calls -/

/-- NaN does not stand beside another number among the single files. -/
def IsSettled (a : AllowList) (fs : FileSystem) : Prop :=
  ∀ m vs, a.read fs = .ok m → listed m .files = .ok vs → Json.Settled vs

/-- **Two calls come to the same**: both fail, or both succeed with the same
document, byte for byte, and write the same entries. -/
structure Agree (a : AllowList) (call call' : Except Failure (List String × FileSystem)) :
    Prop where
  succeed : (∃ r, call = .ok r) ↔ ∃ r, call' = .ok r
  document : ∀ {r r'}, call = .ok r → call' = .ok r' → r.2.read a.path = r'.2.read a.path
  entries : ∀ {r r'}, call = .ok r → call' = .ok r' → ∀ entry, entry ∈ r.1 ↔ entry ∈ r'.1

/-- A call comes to the same as itself. -/
theorem Agree.refl (a : AllowList) (call : Except Failure (List String × FileSystem)) :
    Agree a call call where
  succeed := Iff.rfl
  document h h' := by cases h.symm.trans h'; rfl
  entries h h' := by cases h.symm.trans h'; simp

/-- Record some files and then others: the entries that both calls write, and
the file system afterwards. -/
def addBoth (a : AllowList) (fs : FileSystem) (xs ys : List String) :
    Except Failure (List String × FileSystem) := do
  let (first, fs) ← a.add fs xs
  let (more, fs) ← a.add fs ys
  return (first ++ more, fs)

/-- All the files of two batches, each once. -/
theorem ascending_append (hdisjoint : ∀ f ∈ xs, f ∉ ys) :
    (ascending (xs ++ ys)).Perm (ascending xs ++ ascending ys) := by
  refine (List.perm_ext_iff_of_nodup (nodup_ascending _) (List.nodup_append.mpr
    ⟨nodup_ascending xs, nodup_ascending ys, ?_⟩)).mpr fun f => ?_
  · rintro f hf _ hg rfl
    exact hdisjoint f (mem_ascending.mp hf) (mem_ascending.mp hg)
  · simp only [mem_ascending, List.mem_append]

theorem isPlace_ascending (hfiles : ∀ f ∈ xs ++ ys, fs.IsPlace f) :
    ∀ f ∈ ascending xs ++ ascending ys, fs.IsPlace f := fun f hf =>
  hfiles f (by simpa [mem_ascending] using hf)

section

variable (hfiles : ∀ f ∈ xs ++ ys, fs.IsPlace f) (hdisjoint : ∀ f ∈ xs, f ∉ ys) (hxs : xs ≠ [])

include hfiles hdisjoint hxs

/-- Where all files can be recorded at once, the first batch can. -/
theorem exists_add_first {r : List String × FileSystem} (h : a.add fs (xs ++ ys) = .ok r) :
    ∃ first fs₁, a.add fs xs = .ok (first, fs₁) := by
  obtain ⟨after, fs₀, hm, hfs₀, hwrite⟩ := add_eq_ok h (by simp [hxs])
  obtain ⟨m, hread, -⟩ := Outcome.bind_eq_ok.mp hm
  obtain ⟨m₁, first, hm₁⟩ :=
    first_revision hread (isPlace_ascending hfiles) (ascending_append hdisjoint) hm
  obtain ⟨fs₁, hwrite₁⟩ := FileSystem.exists_write hwrite (textOf m₁).toUTF8
  exact ⟨first, fs₁, add_of_revise hxs hm₁ hfs₀ hwrite₁⟩

/-- **After the first batch, the second comes to what all files at once come
to**, the entries of the first among theirs. -/
theorem add_second (hpath : a.path = .ofParts parts) (hup : ".." ∉ parts) (hfs : fs.Proper)
    (hsettled : a.IsSettled fs) (hys : ys ≠ []) (hfirst : a.add fs xs = .ok (first, fs₁)) :
    Agree a ((fun r => (first ++ r.1, r.2)) <$> a.add fs₁ ys) (a.add fs (xs ++ ys)) := by
  obtain ⟨m₁, fs₀, hm₁, hfs₀, hwrite₁⟩ := add_eq_ok hfirst hxs
  obtain ⟨m, hread, -⟩ := Outcome.bind_eq_ok.mp hm₁
  have hread₁ := read_writeText (sound_revise hread hm₁) hpath hup hwrite₁
  obtain ⟨-, hcwd⟩ := proper_add hpath hup hfs hfirst
  have hsecond := second_revision hread (isPlace_ascending hfiles) (ascending_append hdisjoint)
    (fun vs => hsettled m vs hread) hm₁ hread₁ hcwd fun hvs hv =>
      filesFor_add (k := .included) hpath hup hfs hread hfirst hxs hvs hv
  have hall : xs ++ ys ≠ [] := by simp [hxs]
  -- both documents are what one and the same revision makes
  have hsame : ∀ {r r'}, a.add fs₁ ys = .ok r → a.add fs (xs ++ ys) = .ok r' →
      r.2.read a.path = r'.2.read a.path ∧ r'.1.Perm (first ++ r.1) := by
    intro r r' h h'
    obtain ⟨after, fs₂, hm₂, -, hwrite₂⟩ := add_eq_ok h hys
    obtain ⟨after', fs₃, hm, -, hwrite⟩ := add_eq_ok h' hall
    obtain ⟨written, hm', hperm⟩ := (hsecond after).1 _ hm₂
    cases hm.symm.trans hm'
    rw [hpath] at hwrite₂ hwrite ⊢
    exact ⟨(FileSystem.read_write hup hwrite₂).trans (FileSystem.read_write hup hwrite).symm, hperm⟩
  refine ⟨⟨?_, ?_⟩, fun h h' => ?_, fun h h' entry => ?_⟩
  · rintro ⟨_, h⟩
    obtain ⟨r, h, -⟩ := Outcome.map_eq_ok.mp h
    obtain ⟨after, fs₂, hm₂, -, -⟩ := add_eq_ok h hys
    obtain ⟨written, hm, -⟩ := (hsecond after).1 _ hm₂
    obtain ⟨fs', hwrite⟩ := FileSystem.exists_write hwrite₁ (textOf after).toUTF8
    exact ⟨_, add_of_revise hall hm hfs₀ hwrite⟩
  · rintro ⟨r', h'⟩
    obtain ⟨after, fs₂, hm, -, -⟩ := add_eq_ok h' hall
    obtain ⟨more, hm₂, -⟩ := (hsecond after).2 _ hm
    have hdirectory := isDirectory_root_add hpath hup hfirst hxs
    obtain ⟨-, es, hes⟩ := FileSystem.isDirectory_eq_true.mp hdirectory
    have hmake := (FileSystem.makeDirectory_of_find hes).mpr ⟨rfl, hdirectory⟩
    have hover := FileSystem.exists_write_over hup (hpath ▸ hwrite₁) (textOf after).toUTF8
    rw [← hpath] at hover
    obtain ⟨fs', hwrite⟩ := hover
    exact ⟨_, Outcome.map_eq_ok.mpr ⟨_, add_of_revise hys hm₂ hmake hwrite, rfl⟩⟩
  · obtain ⟨r, hr, rfl⟩ := Outcome.map_eq_ok.mp h
    exact (hsame hr h').1
  · obtain ⟨r, hr, rfl⟩ := Outcome.map_eq_ok.mp h
    exact (hsame hr h').2.mem_iff.symm

end

/-- Two batches come to what all the files at once come to. -/
theorem addBoth_agree (hpath : a.path = .ofParts parts) (hup : ".." ∉ parts) (hfs : fs.Proper)
    (hsettled : a.IsSettled fs) (hfiles : ∀ f ∈ xs ++ ys, fs.IsPlace f)
    (hdisjoint : ∀ f ∈ xs, f ∉ ys) : Agree a (a.addBoth fs xs ys) (a.add fs (xs ++ ys)) := by
  by_cases hxs : xs = []
  · subst hxs
    have hsecond : a.addBoth fs [] ys = a.add fs ys := by
      change (a.add fs ys >>= fun r => pure ([] ++ r.1, r.2)) = _
      cases a.add fs ys <;> rfl
    rw [hsecond]
    exact .refl a _
  by_cases hys : ys = []
  · subst hys
    have hfirst : a.addBoth fs xs [] = a.add fs xs := by
      change (a.add fs xs >>= fun r => pure (r.1 ++ [], r.2)) = _
      cases a.add fs xs <;> simp [bind, Except.bind, pure, Except.pure]
    rw [hfirst, List.append_nil]
    exact .refl a _
  cases hfirst : a.add fs xs with
  | error cause =>
    have hboth : ¬ ∃ r, a.addBoth fs xs ys = .ok r := by
      rw [addBoth, hfirst]
      exact fun ⟨_, h⟩ => nomatch h
    have hall : ¬ ∃ r, a.add fs (xs ++ ys) = .ok r := by
      rintro ⟨r, h⟩
      obtain ⟨first, fs₁, h⟩ := exists_add_first hfiles hdisjoint hxs h
      cases hfirst.symm.trans h
    exact ⟨iff_of_false hboth hall, fun h => absurd ⟨_, h⟩ hboth, fun h => absurd ⟨_, h⟩ hboth⟩
  | ok r =>
    have hboth : a.addBoth fs xs ys = (fun r' => (r.1 ++ r'.1, r'.2)) <$> a.add r.2 ys := by
      rw [addBoth, hfirst]
      cases h : a.add r.2 ys <;> simp [bind, Except.bind, h, pure, Except.pure, Functor.map,
        Except.map]
    rw [hboth]
    exact add_second hfiles hdisjoint hxs hpath hup hfs hsettled hys hfirst

/-- **Batching and order do not matter.** To record some files and then others,
in either order, comes to what recording all of them at once comes to, unless
NaN stands beside another number in the document. -/
theorem add_in_batches {path : Path} {languages : List Language}
    {arrangement : Json.Arrangement}
    (hpath : atPath fs path languages arrangement = .ok a) (hfs : fs.Proper)
    (hsettled : a.IsSettled fs)
    (hfiles : ∀ f ∈ xs ++ ys, fs.IsPlace f) (hdisjoint : ∀ f ∈ xs, f ∉ ys) :
    Agree a (a.addBoth fs xs ys) (a.add fs (xs ++ ys)) ∧
      Agree a (a.addBoth fs ys xs) (a.add fs (xs ++ ys)) := by
  obtain ⟨parts, hparts, hup⟩ := atPath_eq_ok hpath hfs.cwd
  refine ⟨addBoth_agree hparts hup hfs hsettled hfiles hdisjoint, ?_⟩
  -- the same files are recorded, whichever batch is named first
  have hmem : ∀ f, f ∈ xs ++ ys ↔ f ∈ ys ++ xs := fun f => List.perm_append_comm.mem_iff
  have hsame : a.add fs (xs ++ ys) = a.add fs (ys ++ xs) := by
    rw [add, add, ascending_congr hmem]
  rw [hsame]
  exact addBoth_agree hparts hup hfs hsettled (fun f hf => hfiles f ((hmem f).mpr hf))
    fun f hf hf' => hdisjoint f hf' hf

/-! ### Two batches on a shelf -/

/-- A directory with a document that holds more than its lists. -/
def weighted : FileSystem :=
  shelf "\x7b\"include\": [\"*.py\"], \"weight\": 1e-1, \"exclude\": [\"./a.py\", \"b.py\"]\x7d"

/-- What it holds when two files have been recorded. -/
def weightedAfter : String :=
  "\x7b\n  \"include\": [\n    \"*.py\"\n  ],\n  \"weight\": 0.1,\n  \"exclude\": [\n    " ++
    "\"b.py\"\n  ],\n  \"files\": [\n    \"./b.py\"\n  ]\n\x7d\n"

theorem isPlace_weighted : ∀ f ∈ ["/w/b.py"] ++ ["/w/a.py"], weighted.IsPlace f := by
  simp only [List.cons_append, List.nil_append, List.forall_mem_cons]
  refine ⟨⟨.ofParts ["w", "b.py"], FileSystem.resolve_eq_ok.mpr
    ⟨by decide +kernel, show (Path.ofString "/w/b.py").resolve [] = _ by decide +kernel⟩,
    by decide +kernel⟩, (isCanonical_shelf _).isPlace, by simp⟩

/-- The document lists no single files, so nothing stands among numbers. -/
theorem isSettled_weighted : shelfList.IsSettled weighted := by
  intro m vs hread hlisted
  have hempty : ((do listed (← shelfList.read weighted) .files).map List.isEmpty).toOption =
      some true := by
    decide +kernel
  have hnil : vs.isEmpty = true := by
    rw [hread] at hempty
    exact Option.some.inj ((congrArg (fun x => (x.map List.isEmpty).toOption) hlisted).symm.trans
      hempty)
  rw [List.isEmpty_iff.mp hnil]
  exact fun hmem => absurd hmem List.not_mem_nil

/-- One file is taken off the excluded ones and the other, which is not there,
joins the single files. The number is written in another way, and everything
else as it was. -/
theorem weighted_in_batches :
    ∃ written fs' r r', shelfList.add weighted ["/w/b.py", "/w/a.py"] = .ok (written, fs') ∧
      fs'.readText shelfList.path = .ok weightedAfter.toList ∧
      shelfList.addBoth weighted ["/w/b.py"] ["/w/a.py"] = .ok r ∧
      shelfList.addBoth weighted ["/w/a.py"] ["/w/b.py"] = .ok r' ∧
      r.2.read shelfList.path = fs'.read shelfList.path ∧
      r'.2.read shelfList.path = fs'.read shelfList.path ∧
      (∀ entry, entry ∈ r.1 ↔ entry ∈ written) ∧ ∀ entry, entry ∈ r'.1 ↔ entry ∈ written := by
  obtain ⟨⟨written, fs'⟩, hadd, htext⟩ := Outcome.map_eq_ok.mp <| Outcome.toOption_eq_some.mp <|
    show ((fun r => (r.2.readText shelfList.path).toOption) <$> shelfList.add weighted
      ["/w/b.py", "/w/a.py"]).toOption = some (some weightedAfter.toList) by decide +kernel
  have hpath : atPath weighted (.ofParts ["w", "strict-files.json"]) [] (.ofMark 1) =
      .ok shelfList := rfl
  obtain ⟨hforth, hback⟩ :=
    add_in_batches hpath (proper_shelf _) isSettled_weighted isPlace_weighted (by decide)
  obtain ⟨r, hr⟩ := hforth.succeed.mpr ⟨_, hadd⟩
  obtain ⟨r', hr'⟩ := hback.succeed.mpr ⟨_, hadd⟩
  exact ⟨written, fs', r, r', hadd, Outcome.toOption_eq_some.mp htext, hr, hr',
    hforth.document hr hadd, hback.document hr' hadd, hforth.entries hr hadd,
    hback.entries hr' hadd⟩

/-! ### Two batches among numbers -/

/-- A directory with two files, both excluded, and four single files of which three
are numbers and one is none. -/
def numbered : FileSystem where
  root := .directory [("w", .directory
    [("a.py", .file .empty false), ("b.py", .file .empty false),
      ("strict-files.json", .file ("\x7b\"include\": [\"*.py\"], " ++
        "\"exclude\": [\"./a.py\", \"./b.py\"], \"files\": [7, 8, 0, NaN]\x7d").toUTF8 false)])]

/-- The document when both files have been recorded, with the single files in an
order. -/
def numberedAfter (first second third fourth : String) : String :=
  s!"\x7b\n  \"include\": [\n    \"*.py\"\n  ],\n  \"exclude\": [],\n  \"files\": [\n    {first}" ++
    s!",\n    {second},\n    {third},\n    {fourth}\n  ]\n\x7d\n"

theorem isPlace_numbered : ∀ f ∈ ["/w/a.py", "/w/b.py"], numbered.IsPlace f := by
  have hplace : ∀ f, (Path.ofString f).hasNull = false →
      ((Path.ofString f).resolve []).toString = f → numbered.IsPlace f :=
    fun _ hnull htext => ⟨_, FileSystem.resolve_eq_ok.mpr ⟨hnull, rfl⟩, htext⟩
  simp only [List.forall_mem_cons]
  exact ⟨hplace _ (by decide +kernel) (by decide +kernel),
    hplace _ (by decide +kernel) (by decide +kernel), by simp⟩

/-- Recorded at once, two files leave the numbers in one order, and in two batches in
another one: what comes out of the first batch is sorted again. -/
theorem batches_rearrange_numbers :
    atPath numbered (.ofParts ["w", "strict-files.json"]) [] (.ofMark 1) = .ok shelfList ∧
      (∀ f ∈ ["/w/a.py", "/w/b.py"], numbered.IsPlace f) ∧
      (∃ r, shelfList.addBoth numbered ["/w/a.py"] ["/w/b.py"] = .ok r ∧
        r.2.readText shelfList.path = .ok (numberedAfter "0" "8" "NaN" "7").toList) ∧
      ∃ r, shelfList.add numbered ["/w/a.py", "/w/b.py"] = .ok r ∧
        r.2.readText shelfList.path = .ok (numberedAfter "0" "7" "8" "NaN").toList := by
  have hends : ∀ {call : Except Failure (List String × FileSystem)} {text : String},
      ((fun r => (r.2.readText shelfList.path).toOption) <$> call).toOption =
        some (some text.toList) →
      ∃ r, call = .ok r ∧ r.2.readText shelfList.path = .ok text.toList := fun h => by
    obtain ⟨r, hr, htext⟩ := Outcome.map_eq_ok.mp (Outcome.toOption_eq_some.mp h)
    exact ⟨r, hr, Outcome.toOption_eq_some.mp htext⟩
  exact ⟨rfl, isPlace_numbered, hends (by decide +kernel), hends (by decide +kernel)⟩

end Ratchet.AllowList
