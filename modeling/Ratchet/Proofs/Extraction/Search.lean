import Mathlib.Data.List.ReduceOption
import Ratchet.Extraction
import Ratchet.Proofs.FileSystem.Length

/-!
# Searching for files

A search goes through some paths in order and ends at the first one at which
there is a file. It fails at a path that cannot be asked about, which is one
that is too long. Searches one after another find together what each of them
finds, unless one of them fails.

* `FileSystem.first`: the first file at some paths.
* `FileSystem.Finds`: what a search comes to.
* `Outcome.collect`: what the items of a list lead to.
* `Finding.result_all`: what searches one after another come to.
* `Extractor.result_extract`: the files that a file imports.
-/

namespace Ratchet

namespace Outcome

variable {ε α β γ : Type} {f : α → Except ε (Option β)} {xs : List α} {ys : List β}

/-- A computation fails in its first step or goes on to fail. -/
theorem bind_eq_error {x : Except ε α} {g : α → Except ε γ} {cause : ε} :
    (x >>= g) = .error cause ↔ x = .error cause ∨ ∃ a, x = .ok a ∧ g a = .error cause := by
  cases x <;> simp [bind, Except.bind]

/-- What the items of a list lead to, each to one thing at most, unless one of
them fails. -/
def collect (f : α → Except ε (Option β)) (xs : List α) : Except ε (List β) :=
  List.reduceOption <$> xs.mapM f

/-- What is collected from two lists is collected from each. -/
theorem collect_append (f : α → Except ε (Option β)) (xs xs' : List α) :
    collect f (xs ++ xs') = do
      let ys ← collect f xs
      let ys' ← collect f xs'
      return ys ++ ys' := by
  rw [collect, collect, collect, List.mapM_append]
  cases xs.mapM f with
  | error cause => rfl
  | ok found =>
    cases xs'.mapM f with
    | error cause => rfl
    | ok found' => exact congrArg Except.ok (List.reduceOption_append found found')

theorem collect_cons (f : α → Except ε (Option β)) (x : α) (xs : List α) :
    collect f (x :: xs) = do
      let y ← f x
      let ys ← collect f xs
      return y.toList ++ ys := by
  have happend := collect_append f [x] xs
  have hsingle : collect f [x] = Option.toList <$> f x := by
    rw [collect, List.mapM_cons]
    cases f x with
    | error cause => rfl
    | ok found => cases found <;> rfl
  rw [← List.singleton_append, happend, hsingle]
  cases f x <;> rfl

/-- Items of several lists lead together to what those of each list lead to. -/
theorem collect_flatMap (f : α → Except ε (Option β)) (g : γ → List α) (zs : List γ) :
    collect f (zs.flatMap g) = List.flatten <$> zs.mapM fun z => collect f (g z) := by
  induction zs with
  | nil => rfl
  | cons z zs ih =>
    rw [List.flatMap_cons, collect_append, ih, List.mapM_cons]
    cases collect f (g z) with
    | error cause => rfl
    | ok ys => cases zs.mapM (fun z => collect f (g z)) <;> rfl

theorem mem_collect (h : collect f xs = .ok ys) {y : β} :
    y ∈ ys ↔ ∃ x ∈ xs, f x = .ok (some y) := by
  obtain ⟨found, hfound, rfl⟩ := map_eq_ok.mp h
  rw [List.reduceOption_mem_iff, mem_mapM hfound]

/-- Nothing is collected where an item fails. -/
theorem collect_eq_error {cause : ε} (h : collect f xs = .error cause) :
    ∃ x ∈ xs, f x = .error cause := by
  induction xs with
  | nil => cases h
  | cons x xs ih =>
    rw [collect_cons] at h
    obtain hx | ⟨y, -, h⟩ := bind_eq_error.mp h
    · exact ⟨x, .head _, hx⟩
    obtain hrest | ⟨ys, -, h⟩ := bind_eq_error.mp h
    · obtain ⟨x', hx', hcause⟩ := ih hrest
      exact ⟨x', .tail _ hx', hcause⟩
    · cases h

/-- Something is collected where no item fails. -/
theorem exists_collect (h : ∀ x ∈ xs, ∃ y, f x = .ok y) : ∃ ys, collect f xs = .ok ys := by
  obtain ⟨found, hfound⟩ := exists_mapM.mpr h
  exact ⟨_, map_eq_ok.mpr ⟨found, hfound, rfl⟩⟩

/-- An item that leads nowhere may be left out. -/
theorem collect_remove {x : α} {xs' : List α} (h : f x = .ok none) :
    collect f (xs ++ x :: xs') = collect f (xs ++ xs') := by
  rw [collect_append, collect_append, collect_cons, h]
  cases collect f xs with
  | error cause => rfl
  | ok ys => cases collect f xs' <;> rfl

end Outcome

namespace FileSystem

variable {fs : FileSystem} {p : Path} {paths paths' : List Path}

/-! ## Why a search fails -/

/-- Why no file is found at some paths: one of them is too long, or there is a
path without a name. -/
def IsCause (fs : FileSystem) (places : List Path) (cause : Failure) : Prop :=
  (cause = .file .nameTooLong ∧ ∃ path ∈ places, fs.IsTooLong path) ∨
    ∃ text, cause = .emptyName text

/-- A cause among some paths is one among more. -/
theorem IsCause.mono {cause : Failure} (h : fs.IsCause paths cause) (hsub : paths ⊆ paths') :
    fs.IsCause paths' cause := by
  obtain ⟨rfl, path, hpath, hlong⟩ | htext := h
  · exact .inl ⟨rfl, path, hsub hpath, hlong⟩
  · exact .inr htext

theorem cause_of_ask {question : Node → Bool} {cause : Failure} (hp : p ∈ paths)
    (h : fs.ask p question = .error cause) : fs.IsCause paths cause := by
  obtain ⟨rfl, hlong⟩ := isTooLong_of_ask h
  exact .inl ⟨rfl, p, hp, hlong⟩

/-! ## The first file -/

/-- The first of some paths at which there is a file, as the text of its place. -/
def first (fs : FileSystem) (paths : List Path) : Option String :=
  (paths.find? fun path => (fs.isFile path).toOption = some true).map
    fun path => (path.resolve fs.cwd).toString

@[simp] theorem first_nil (fs : FileSystem) : fs.first [] = none := rfl

theorem first_append (fs : FileSystem) (paths paths' : List Path) :
    fs.first (paths ++ paths') = (fs.first paths).or (fs.first paths') := by
  rw [first, List.find?_append, Option.map_or]
  rfl

/-- There is no first file where no group has one. -/
theorem first_flatMap_eq_none {α : Type} {roots : List α} {places : α → List Path}
    (h : ∀ root ∈ roots, fs.first (places root) = none) :
    fs.first (roots.flatMap places) = none := by
  induction roots with
  | nil => rfl
  | cons root roots ih =>
    have hroot := h root (.head _)
    have hrest := ih fun r hr => h r (.tail _ hr)
    rw [List.flatMap_cons, first_append, hroot, hrest, Option.or_none]

/-- What a search at some paths in order comes to: the first file there is, or
a failure for a known reason. -/
structure Finds (fs : FileSystem) (Fault : Failure → Prop) (paths : List Path)
    (search : Except Failure (Option String)) : Prop where
  /-- The first file is found. -/
  found : ∀ {r}, search = .ok r → r = fs.first paths
  /-- The search fails for a reason only. -/
  failed : ∀ {cause}, search = .error cause → Fault cause

namespace Finds

variable {Fault : Failure → Prop} {search search' : Except Failure (Option String)}

theorem nil : fs.Finds Fault [] (.ok none) where
  found h := (Except.ok.inj h).symm
  failed h := nomatch h

theorem error {cause : Failure} (h : Fault cause) : fs.Finds Fault paths (.error cause) where
  found h := nomatch h
  failed h' := Except.error.inj h' ▸ h

/-- A search at one path. -/
theorem path {path : Path} (h : ∀ cause, fs.isFile path = .error cause → Fault cause) :
    fs.Finds Fault [path] (do
      if ← fs.isFile path then return some (← fs.resolve path).toString else return none) := by
  cases hfile : fs.isFile path with
  | error cause => exact error (h cause hfile)
  | ok b =>
    cases b with
    | false =>
      have hfirst : fs.first [path] = none := by simp [first, hfile, Except.toOption]
      refine ⟨fun hr => ?_, fun hr => by cases hr⟩
      rw [hfirst]
      exact (Except.ok.inj hr).symm
    | true =>
      have hnull := (ask_eq_true.mp hfile).1
      have hresolve : fs.resolve path = .ok (path.resolve fs.cwd) := resolve_eq_ok.mpr ⟨hnull, rfl⟩
      have hfirst : fs.first [path] = some (path.resolve fs.cwd).toString := by
        simp [first, hfile, Except.toOption]
      rw [hresolve]
      refine ⟨fun hr => ?_, fun hr => by cases hr⟩
      rw [hfirst]
      exact (Except.ok.inj hr).symm

/-- One search, and another one where it finds nothing. -/
theorem orElse (h : fs.Finds Fault paths search) (h' : fs.Finds Fault paths' search') :
    fs.Finds Fault (paths ++ paths') (do
      match ← search with
      | some file => return some file
      | none => search') := by
  cases search with
  | error cause => exact error (h.failed rfl)
  | ok found =>
    have hfound := h.found rfl
    cases found with
    | some file =>
      refine ⟨fun hr => ?_, fun hr => nomatch hr⟩
      rw [first_append, ← hfound, Option.some_or]
      exact (Except.ok.inj hr).symm
    | none =>
      refine ⟨fun {r} hr => ?_, h'.failed⟩
      rw [first_append, ← hfound, Option.none_or]
      exact h'.found hr

end Finds

end FileSystem

/-! ## Searches one after another -/

namespace Finding

variable {a b : Finding} {α : Type}

/-- What two findings bring is what the first and then the second brings. -/
theorem result_andThen :
    (a.andThen b).result = do
      let xs ← a.result
      let ys ← b.result
      return xs ++ ys := by
  unfold andThen result
  cases ha : a.failure with
  | some cause => simp [ha, bind, Except.bind]
  | none => cases hb : b.failure <;> simp [bind, Except.bind, pure, Except.pure]

theorem result_ofResult (found : Except Failure (Option String)) (ws : List Warning) :
    (ofResult found ws).result = Option.toList <$> found := by
  cases found with
  | error cause => rfl
  | ok target => cases target <;> rfl

/-- **Searches one after another** find together what each of them finds. -/
theorem result_all {f : α → Finding} {xs : List α} :
    (all (xs.map f)).result = List.flatten <$> xs.mapM fun x => (f x).result := by
  induction xs with
  | nil => rfl
  | cons x xs ih =>
    have hstep : (all ((x :: xs).map f)).result = ((f x).andThen (all (xs.map f))).result := rfl
    rw [hstep, result_andThen, ih, List.mapM_cons]
    cases (f x).result with
    | error cause => rfl
    | ok ys => cases (xs.mapM fun x => (f x).result) <;> rfl

/-- Searches for one file each find together the files that there are. -/
theorem result_all_of {f : α → Finding} {g : α → Except Failure (Option String)} {xs : List α}
    (h : ∀ x ∈ xs, (f x).result = Option.toList <$> g x) :
    (all (xs.map f)).result = Outcome.collect g xs := by
  induction xs with
  | nil => rfl
  | cons x xs ih =>
    have hstep : (all ((x :: xs).map f)).result = ((f x).andThen (all (xs.map f))).result := rfl
    have hrest := ih fun y hy => h y (.tail _ hy)
    rw [hstep, result_andThen, h x (.head _), hrest, Outcome.collect_cons]
    cases g x <;> rfl

/-- What all findings bring is collected one by one. -/
theorem result_all_ofResult {f : α → Except Failure (Option String)} {ws : α → List Warning}
    {xs : List α} :
    (all (xs.map fun x => ofResult (f x) (ws x))).result = Outcome.collect f xs :=
  result_all_of fun x _ => result_ofResult (f x) (ws x)

end Finding

/-- **The files that a file imports** are what has been found, as a set without
the file itself. -/
theorem Extractor.result_extract {es : List Extractor} {e : Extractor} {fs : FileSystem}
    {file : String} (h : es.find? (·.handles file) = some e) :
    (extract es fs file).result =
      (fun targets => ascending
        (targets.filter (· ≠ ((Path.ofString file).resolve fs.cwd).toString))) <$>
      (e.find fs file).result := by
  rw [extract, h]
  unfold Finding.result
  cases (e.find fs file).failure <;> rfl

end Ratchet
