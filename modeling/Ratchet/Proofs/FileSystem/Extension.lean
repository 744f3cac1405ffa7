import Ratchet.Proofs.FileSystem.Write

/-!
# Adding a file

Where a file is written, the directories that lead there are made if need be.
No other file comes, goes or changes, no directory goes, and nothing comes but on
the way to the file.

* `ExtendsAt`: what adding a file at a place leaves alone.
* `extendsAt_makeDirectory`, `extendsAt_write`: making directories and writing a
  file are such changes.
-/

namespace Ratchet

namespace Node

variable {n new : Node} {names place more : List String} {content : ByteArray}
  {executable : Bool}

/-- Following names is following the first, then the others. -/
theorem get?_append (n : Node) (names more : List String) :
    n.get? (names ++ more) = (n.get? names).bind (·.get? more) := by
  induction names generalizing n with
  | nil => rfl
  | cons name names ih =>
    rw [List.cons_append, get?_cons, get?_cons]
    cases n.entries.lookup name with
    | none => rfl
    | some c => exact ih c

theorem get?_of_lookup {name : String} {child : Node} (h : n.entries.lookup name = some child)
    (names : List String) : child.get? names = n.get? (name :: names) := by
  rw [get?_cons, h]
  rfl

/-- What leads to something leads through directories. -/
theorem exists_directory_of_prefix {c : Node} (h : n.get? place = some c) (hinit : names <+: place)
    (hne : names ≠ place) : ∃ es, n.get? names = some (directory es) := by
  obtain ⟨more, rfl⟩ := hinit
  rw [get?_append] at h
  obtain ⟨m, hm, hmore⟩ := Option.bind_eq_some_iff.mp h
  cases more with
  | nil => simp at hne
  | cons name more =>
    obtain ⟨child, hchild, -⟩ := Option.bind_eq_some_iff.mp hmore
    cases m with
    | file => cases hchild
    | directory es => exact ⟨es, hm⟩

/-- Where something with nothing below it was put in a place, what is there now is on
the way to the place, or was there before. -/
theorem get?_of_put {c : Node} (hleaf : ∀ more, more ≠ [] → new.get? more = none)
    (h : (n.put place new).get? names = some c) : names <+: place ∨ n.get? names = some c := by
  induction place generalizing n names with
  | nil =>
    cases names with
    | nil => exact .inl (List.prefix_refl [])
    | cons name names => exact nomatch (hleaf (name :: names) (by simp)).symm.trans h
  | cons name place ih =>
    cases names with
    | nil => exact .inl List.nil_prefix
    | cons key names =>
      rw [get?_cons, lookup_put] at h
      split at h
      · rename_i hkey
        subst hkey
        obtain hinit | hold := ih h
        · exact .inl (List.cons_prefix_cons.mpr ⟨rfl, hinit⟩)
        cases hchild : n.entries.lookup key with
        | some child =>
          rw [hchild, Option.getD_some] at hold
          exact .inr (by rw [get?_cons, hchild]; exact hold)
        | none =>
          -- nothing was there, so there is nothing further down either
          rw [hchild, Option.getD_none] at hold
          cases names with
          | nil => exact .inl (List.cons_prefix_cons.mpr ⟨rfl, List.nil_prefix⟩)
          | cons next names => cases hold
      · exact .inr h

section

variable (hleaf : ∀ more, more ≠ [] → new.get? more = none)
  (hway : ∀ names, names <+: place → names ≠ place → ∃ es, n.get? names = some (directory es))

include hleaf hway

/-- Of the files elsewhere none comes, goes or changes when something with
nothing below it is put in a place that has nothing below it. -/
theorem get?_put_eq_file (hbelow : ∀ more, more ≠ [] → n.get? (place ++ more) = none)
    (hne : names ≠ place) :
    (n.put place new).get? names = some (file content executable) ↔
      n.get? names = some (file content executable) := by
  -- the way to the place is followed as far as the names go along with it
  induction place generalizing n names with
  | nil =>
    have hold : n.get? names = none := hbelow names hne
    rw [put, hleaf names hne, hold]
  | cons name place ih =>
    cases names with
    | nil =>
      obtain ⟨es, hes⟩ := hway [] List.nil_prefix (by simp)
      rw [hes]
      exact iff_of_false (by simp [get?, put]) (by simp)
    | cons key names =>
      rw [get?_cons, get?_cons, lookup_put]
      split
      · rename_i hkey
        subst hkey
        have hne' : names ≠ place := fun h => hne (h ▸ rfl)
        cases hchild : n.entries.lookup key with
        | none =>
          -- nothing was there, so the place is the very next one
          have hplace : place = [] := by
            by_contra hplace
            obtain ⟨es, hes⟩ := hway [key] ⟨place, rfl⟩ fun h => hplace (by simpa using h.symm)
            rw [get?_singleton, hchild] at hes
            cases hes
          subst hplace
          have hnew : new.get? names = none := hleaf names hne'
          exact iff_of_false (by simp [put, hnew]) (by simp)
        | some child =>
          refine ih (fun names hinit hne => ?_) (fun more hmore => ?_) hne'
          · rw [Option.getD_some, get?_of_lookup hchild]
            exact hway (key :: names) (List.cons_prefix_cons.mpr ⟨rfl, hinit⟩) (by simpa using hne)
          · rw [Option.getD_some, get?_of_lookup hchild]
            exact hbelow more hmore
      · exact Iff.rfl

omit hleaf in
/-- A directory stays one when something is put in a place that is none. -/
theorem exists_directory_of_put (hfree : ∀ es, n.get? place ≠ some (directory es))
    (hbelow : ∀ more, more ≠ [] → n.get? (place ++ more) = none) {es : List (String × Node)}
    (h : n.get? names = some (directory es)) :
    ∃ es', (n.put place new).get? names = some (directory es') := by
  induction place generalizing n names with
  | nil =>
    cases names with
    | nil => exact absurd h (hfree es)
    | cons name names => exact nomatch (hbelow (name :: names) (by simp)).symm.trans h
  | cons name place ih =>
    cases names with
    | nil => exact ⟨_, rfl⟩
    | cons key names =>
      obtain ⟨child, hchild, hdirectory⟩ := Option.bind_eq_some_iff.mp h
      rw [get?_cons, lookup_put]
      split
      · rename_i hkey
        subst hkey
        rw [hchild, Option.getD_some]
        refine ih (fun names hinit hne => ?_) (fun es => ?_) (fun more hmore => ?_) hdirectory
        · rw [get?_of_lookup hchild]
          exact hway (key :: names) (List.cons_prefix_cons.mpr ⟨rfl, hinit⟩) (by simpa using hne)
        · rw [get?_of_lookup hchild]
          exact hfree es
        · rw [get?_of_lookup hchild]
          exact hbelow more hmore
      · exact ⟨es, h⟩

end

end Node

namespace FileSystem

variable {fs fs' fs₁ : FileSystem} {place parts : List String} {p : Path}

/-- **What adding a file at a place leaves alone**: the working directory, every
other file, and every directory as one. What is new is on the way to the place. -/
structure ExtendsAt (place : List String) (fs fs' : FileSystem) : Prop where
  cwd : fs'.cwd = fs.cwd
  files {names : List String} (h : names ≠ place) (content : ByteArray) (executable : Bool) :
    fs'.root.get? names = some (.file content executable) ↔
      fs.root.get? names = some (.file content executable)
  directories {names : List String} {es : List (String × Node)}
    (h : fs.root.get? names = some (.directory es)) :
    ∃ es', fs'.root.get? names = some (.directory es')
  new {names : List String} {c : Node} (h : fs'.root.get? names = some c) :
    names <+: place ∨ ∃ c, fs.root.get? names = some c

namespace ExtendsAt

theorem refl (place : List String) (fs : FileSystem) : fs.ExtendsAt place fs :=
  ⟨rfl, fun _ _ _ => Iff.rfl, fun h => ⟨_, h⟩, fun h => .inr ⟨_, h⟩⟩

theorem trans (h : fs.ExtendsAt place fs₁) (h' : fs₁.ExtendsAt place fs') :
    fs.ExtendsAt place fs' where
  cwd := h'.cwd.trans h.cwd
  files hne content executable := (h'.files hne content executable).trans (h.files hne _ _)
  directories hes := by
    obtain ⟨es, hes⟩ := h.directories hes
    exact h'.directories hes
  new hc := (h'.new hc).elim .inl fun ⟨_, hc⟩ => h.new hc

end ExtendsAt

/-- What lies in a place where something may be put, lies in a directory. -/
theorem parent_of_placeFor (h : fs.placeFor p = .ok place) (hne : p.parts ≠ []) :
    ∃ es, fs.find p.parent = .ok (.directory es) := by
  unfold placeFor at h
  split at h
  · cases h
  split at h
  · cases h
  · cases h
  · rename_i es hes
    exact ⟨es, hes⟩

section

variable (hup : ".." ∉ parts)

include hup

/-- What is put in a place that holds no directory adds to the files at that
place only. -/
theorem put_elsewhere (hplace : fs.placeFor (.ofParts parts) = .ok place) {new : Node}
    (hleaf : ∀ more, more ≠ [] → new.get? more = none)
    (hfree : ∀ es, fs.root.get? parts ≠ some (.directory es)) :
    fs.ExtendsAt parts (fs.put parts new) := by
  have hway : ∀ names, names <+: parts → names ≠ parts →
      ∃ es, fs.root.get? names = some (.directory es) := by
    intro names hinit hne
    have hparts : parts ≠ [] := by
      rintro rfl
      exact hne (List.prefix_nil.mp hinit)
    -- the directory above the place is there, so those on the way to it are
    obtain ⟨es, hes⟩ := parent_of_placeFor hplace hparts
    have hparent : fs.root.get? parts.dropLast = some (.directory es) :=
      (Node.get?_of_follow (fun hmem => hup (List.dropLast_subset _ hmem)) (find_eq_ok.mp hes).2).1
    by_cases heq : names = parts.dropLast
    · exact ⟨es, heq ▸ hparent⟩
    · refine Node.exists_directory_of_prefix hparent ?_ heq
      rw [← List.dropLast_append_getLast hparts, List.prefix_concat_iff,
        List.dropLast_append_getLast hparts] at hinit
      exact hinit.resolve_left hne
  have hbelow : ∀ more, more ≠ [] → fs.root.get? (parts ++ more) = none := by
    intro more hmore
    rw [Node.get?_append]
    cases hold : fs.root.get? parts with
    | none => rfl
    | some c =>
      cases c with
      | directory es => exact absurd hold (hfree es)
      | file content executable =>
        cases more with
        | nil => exact absurd rfl hmore
        | cons name more => rfl
  exact ⟨rfl, fun hne _ _ => Node.get?_put_eq_file hleaf hway hbelow hne,
    fun h => Node.exists_directory_of_put hway hfree hbelow h,
    fun h => (Node.get?_of_put hleaf h).imp_right fun h => ⟨_, h⟩⟩

/-- Nothing leads to a place at which nothing is found. -/
theorem get?_of_find_error {fault : FileFault} (hplace : fs.placeFor (.ofParts parts) = .ok place)
    (h : fs.find (.ofParts parts) = .error fault) : fs.root.get? parts = none := by
  obtain ⟨-, -, hsize, hsizes⟩ := placeFor_ok hup hplace
  rw [Option.eq_none_iff_forall_ne_some]
  intro c hc
  have hfound : fs.find (.ofParts parts) = .ok c :=
    find_eq_ok.mpr ⟨hsize, Node.follow_of_get? [] hup hc hsizes⟩
  exact nomatch h.symm.trans hfound

/-- **Making a directory on the way to a place changes no file.** -/
theorem extendsAt_makeOne (h : fs.makeOne (.ofParts parts) = .ok fs') {place : List String}
    (hinit : parts <+: place) : fs.ExtendsAt place fs' := by
  obtain ⟨at_, hplace, h⟩ := Outcome.bind_eq_ok.mp h
  split at h
  · cases h
  rename_i fault hfind
  cases h
  obtain ⟨-, rfl, -, -⟩ := placeFor_ok hup hplace
  have hnone : fs.root.get? at_ = none := get?_of_find_error hup hplace hfind
  have hleaf : ∀ more, more ≠ [] → Node.empty.get? more = none := by
    intro more hmore
    cases more with
    | nil => exact absurd rfl hmore
    | cons name more => rfl
  have hextends := put_elsewhere hup hplace hleaf (by simp [hnone])
  refine ⟨rfl, fun {names} _ content executable => ?_, hextends.directories,
    fun h => (hextends.new h).imp_left (·.trans hinit)⟩
  by_cases hnames : names = at_
  · -- at the place itself there was nothing, and now there is a directory
    subst hnames
    have hnew : (fs.put names .empty).root.get? names = some .empty := Node.get?_put ..
    rw [hnew, hnone]
    exact iff_of_false (fun h => nomatch h) (fun h => nomatch h)
  · exact hextends.files hnames content executable

/-- Making a directory changes nothing but on the way to it. -/
theorem extendsAt_makeDirectory (h : fs.makeDirectory (.ofParts parts) = .ok fs')
    {place : List String} (hinit : parts <+: place) : fs.ExtendsAt place fs' :=
  makeAll_keeps (P := fs.ExtendsAt place)
    (Q := fun p => ∃ parts, p = .ofParts parts ∧ ".." ∉ parts ∧ parts <+: place)
    (fun ⟨parts, hp, hup, hinit⟩ =>
      ⟨parts.dropLast, hp ▸ rfl, fun hmem => hup (List.dropLast_subset _ hmem),
        (List.dropLast_prefix parts).trans hinit⟩)
    (fun hfs ⟨_, hp, hup, hinit⟩ hone => hfs.trans (extendsAt_makeOne hup (hp ▸ hone) hinit))
    ⟨parts, rfl, hup, hinit⟩ (.refl place fs) h

/-- **Writing a file changes no other one.** -/
theorem extendsAt_write {content : ByteArray}
    (h : fs.write (.ofParts parts) content = .ok fs') : fs.ExtendsAt parts fs' := by
  obtain ⟨-, executable, rfl, -⟩ := write_ok hup h
  obtain ⟨place, hplace, h⟩ := Outcome.bind_eq_ok.mp h
  obtain ⟨-, -, hsize, hsizes⟩ := placeFor_ok hup hplace
  refine put_elsewhere hup hplace (fun more hmore => ?_) fun es hes => ?_
  · cases more with
    | nil => exact absurd rfl hmore
    | cons name more => rfl
  · -- over a directory nothing is written
    have hfound : fs.find (.ofParts parts) = .ok (.directory es) :=
      find_eq_ok.mpr ⟨hsize, Node.follow_of_get? [] hup hes hsizes⟩
    rw [hfound] at h
    cases h

end

end FileSystem

end Ratchet
