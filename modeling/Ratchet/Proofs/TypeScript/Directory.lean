import Ratchet.Proofs.Extraction.Search
import Ratchet.Proofs.FileSystem.Place
import Ratchet.Proofs.TypeScript.Reference

/-!
# Specifiers of directories

A specifier whose last segment is empty, one dot or two dots names a directory, and
leads to the first index file in it. This is seen in the specifier only if it ends
with a slash or has no slash at all: of another one the dots at the end are dropped
with the slash in front of them, or taken for the name of a file, and then a file
beside the directory is found first.

* `denoted`: the directory that a specifier names, segment by segment.
* `indexAt_cases`: what the search for an index file comes to.
* `fileAt_finds`: the files beside a directory are searched in order.
* `directory_specifiers_lead_to_index`: where such a specifier leads.
-/

namespace Ratchet

/-! ## Segments -/

namespace Text

variable {sep : Char} {cs l : List Char}

/-- What a text ends with, its last piece ends with, if no separator is in it. -/
theorem suffix_getLast_split (h : l <:+ cs) (hsep : sep ∉ l) :
    l <:+ (split sep cs).getLast (split_ne_nil sep cs) := by
  induction cs with
  | nil => simpa [split] using h
  | cons c cs ih =>
    obtain rfl | h := List.suffix_cons_iff.mp h
    · simp [split_eq_singleton hsep]
    · have hlast := ih h
      by_cases hc : c = sep
      · simpa [split, hc, List.getLast_cons (split_ne_nil sep cs)] using hlast
      · obtain ⟨piece, pieces, hpieces⟩ := List.exists_cons_of_ne_nil (split_ne_nil sep cs)
        have hsplit : split sep (c :: cs) = (c :: piece) :: pieces := by
          rw [split, if_neg hc, hpieces]
        simp only [hpieces, hsplit] at hlast ⊢
        cases pieces with
        | nil => exact hlast.trans (List.suffix_cons c piece)
        | cons next pieces => simpa using hlast

end Text

namespace TypeScript

variable {fs : FileSystem} {root importer base : Path} {specifier : String}
  {cause : Failure} {names : List String}

/-- Go on by one segment: an empty one and a dot lead nowhere. -/
def enter (at_ : List String) (segment : String) : List String :=
  if segment = "" ∨ segment = "." then at_ else Path.follow at_ segment

/-- **The directory that a specifier names**, from that of the importing file on. -/
def denoted (fs : FileSystem) (importer : Path) (specifier : String) : List String :=
  (Text.splitString '/' specifier).foldl enter (importer.parent.resolve fs.cwd).parts

/-- The last segment of a specifier. -/
def lastSegment (specifier : String) : String :=
  (Text.splitString '/' specifier).getLastD ""

theorem foldl_enter (at_ segments : List String) :
    segments.foldl enter at_ =
      Path.followAll at_ (segments.filter fun part => part ≠ "" ∧ part ≠ ".") := by
  induction segments generalizing at_ with
  | nil => rfl
  | cons segment segments ih =>
    by_cases hempty : segment = "" ∨ segment = "."
    · rw [List.foldl_cons, enter, if_pos hempty, ih, List.filter_cons_of_neg]
      simpa [imp_iff_not_or] using hempty
    · rw [List.foldl_cons, enter, if_neg hempty, ih, List.filter_cons_of_pos]
      · rfl
      · simpa [not_or] using hempty

/-- A relative specifier does not start with a slash. -/
theorem isAbsolute_of_isRelative (h : isRelative specifier = true) :
    (Path.ofString specifier).isAbsolute = false := by
  obtain ⟨rest, hrest⟩ : ∃ rest, specifier.toList = '.' :: rest := by
    simp only [isRelative, startsWith, Bool.or_eq_true, List.isPrefixOf_iff_prefix,
      decide_eq_true_eq] at h
    obtain ((⟨rest, hrest⟩ | ⟨rest, hrest⟩) | rfl) | rfl := h
    · exact ⟨_, hrest.symm⟩
    · exact ⟨_, hrest.symm⟩
    · exact ⟨_, rfl⟩
    · exact ⟨_, rfl⟩
  have hanchor : Path.anchorOf specifier.toList = "" := by
    rw [hrest]
    rfl
  simp [Path.isAbsolute, Path.ofString, hanchor]

/-- A relative specifier resolves to what it denotes. -/
theorem resolve_base (h : isRelative specifier = true) :
    ((importer.parent ++ Path.ofString specifier).resolve fs.cwd).parts =
      denoted fs importer specifier := by
  have happend : importer.parent ++ Path.ofString specifier =
      { importer.parent with
        parts := importer.parent.parts ++ (Path.ofString specifier).parts } := by
    change Path.append _ _ = _
    rw [Path.append, isAbsolute_of_isRelative h, if_neg (by simp)]
  rw [happend, denoted, foldl_enter]
  exact Path.followAll_append _ _ _

/-- What such a specifier names is looked up: it does not end like a foreign file. -/
theorem basePath_of_lastSegment (hrelative : isRelative specifier = true)
    (hlast : lastSegment specifier ∈ ["", ".", ".."]) :
    basePath root importer specifier = some (importer.parent ++ Path.ofString specifier) := by
  have hplain : ∀ extension ∈ foreignExtensions, '/' ∉ extension.toList ∧
      ∀ last ∈ ["", ".", ".."], ¬ extension.toList <:+ last.toList := by decide
  have hnone : foreignExtensions.any (endsWith specifier) = false := by
    refine List.any_eq_false.mpr fun extension hextension hends => ?_
    obtain ⟨hslash, hshort⟩ := hplain extension hextension
    refine hshort _ hlast ?_
    have hsegment : lastSegment specifier =
        .ofList ((Text.split '/' specifier.toList).getLast (Text.split_ne_nil _ _)) := by
      rw [lastSegment, Text.splitString, List.getLastD_eq_getLast?, List.getLast?_map,
        List.getLast?_eq_some_getLast (Text.split_ne_nil _ _)]
      rfl
    rw [hsegment, String.toList_ofList]
    exact Text.suffix_getLast_split (List.isSuffixOf_iff_suffix.mp hends) hslash
  rw [basePath, hnone, if_neg (by simp), if_pos hrelative]

/-! ## Index files -/

/-- **The first index file in a directory.** -/
def firstIndex (fs : FileSystem) (place : List String) : Option String :=
  (indexFiles.find? fun name => fs.hasFile (place ++ [name])).map
    fun name => (Path.ofParts (place ++ [name])).toString

/-- The first index file in the directory at a path, if there is a directory. -/
def indexIn (fs : FileSystem) (base : Path) (place : List String) : Option String :=
  if (fs.isDirectory base).toOption = some true then firstIndex fs place else none

/-- Look whether there is a file of a name in a directory. -/
def look (fs : FileSystem) (base : Path) (name : String) : Except Failure (Option String) := do
  if ← fs.isFile (base.child name) then return some (← fs.resolve (base.child name)).toString
  else return none

theorem resolve_child {name : String} (hup : name ≠ "..") (p : Path) (cwd : List String) :
    (p.child name).resolve cwd = .ofParts ((p.resolve cwd).parts ++ [name]) := by
  change Path.ofParts (Path.followAll (if p.isAbsolute then [] else cwd) (p.parts ++ [name])) = _
  rw [Path.followAll_append]
  change Path.ofParts (Path.follow _ name) = _
  rw [Path.follow, if_neg hup]
  rfl

section

variable (hcwd : ".." ∉ fs.cwd)

include hcwd

/-- One look into a directory. -/
theorem look_cases {name : String} (hbase : fs.isDirectory base = .ok true) (hup : name ≠ "..")
    (hnull : '\x00' ∉ name.toList) (hsize : name.utf8ByteSize ≤ 255) :
    look fs base name = .error (.file .nameTooLong) ∧ fs.IsTooLong (base.child name) ∨
      look fs base name = .ok (if fs.hasFile ((base.resolve fs.cwd).parts ++ [name]) then
        some (Path.ofParts ((base.resolve fs.cwd).parts ++ [name])).toString else none) := by
  have hfile := FileSystem.isFile_child hcwd hbase hup hnull hsize
  rw [look]
  by_cases hlong : 4096 ≤ (base.child name).toString.utf8ByteSize
  · rw [if_pos hlong] at hfile
    rw [hfile]
    exact .inl ⟨rfl, .inl hlong⟩
  rw [if_neg hlong] at hfile
  refine .inr ?_
  rw [hfile]
  cases hthere : fs.hasFile ((base.resolve fs.cwd).parts ++ [name]) with
  | false => rfl
  | true =>
    rw [hthere] at hfile
    have hresolve : fs.resolve (base.child name) =
        .ok (.ofParts ((base.resolve fs.cwd).parts ++ [name])) :=
      FileSystem.resolve_eq_ok.mpr
        ⟨(FileSystem.ask_eq_true.mp hfile).1, resolve_child hup base fs.cwd⟩
    rw [hresolve]
    rfl

/-- Looks one after another, up to the first file or to a path that is too long. -/
theorem findSomeM?_look_cases (hbase : fs.isDirectory base = .ok true)
    (hnames : ∀ name ∈ names, name ≠ ".." ∧ '\x00' ∉ name.toList ∧ name.utf8ByteSize ≤ 255) :
    names.findSomeM? (look fs base) = .ok ((names.find? fun name =>
        fs.hasFile ((base.resolve fs.cwd).parts ++ [name])).map fun name =>
          (Path.ofParts ((base.resolve fs.cwd).parts ++ [name])).toString) ∨
      names.findSomeM? (look fs base) = .error (.file .nameTooLong) ∧
        ∃ name ∈ names, fs.IsTooLong (base.child name) := by
  induction names with
  | nil => exact .inl rfl
  | cons name names ih =>
    obtain ⟨hup, hnull, hsize⟩ := hnames name (.head _)
    rw [List.findSomeM?_cons]
    obtain ⟨hlook, hlong⟩ | hlook := look_cases hcwd hbase hup hnull hsize
    · rw [hlook]
      exact .inr ⟨rfl, name, .head _, hlong⟩
    rw [hlook, List.find?_cons]
    cases fs.hasFile ((base.resolve fs.cwd).parts ++ [name]) with
    | true => exact .inl rfl
    | false =>
      refine (ih fun n hn => hnames n (.tail _ hn)).imp_right ?_
      rintro ⟨herror, n, hn, hlong⟩
      exact ⟨herror, n, .tail _ hn, hlong⟩

/-- **What the search for an index file comes to**: the first one in the directory, or
none, unless a path is too long. -/
theorem indexAt_cases (base : Path) :
    indexAt fs base = .ok (indexIn fs base (base.resolve fs.cwd).parts) ∨
      indexAt fs base = .error (.file .nameTooLong) ∧
        ∃ path ∈ base :: indexFiles.map base.child, fs.IsTooLong path := by
  cases hbase : fs.isDirectory base with
  | error cause =>
    obtain ⟨rfl, hlong⟩ := FileSystem.isTooLong_of_ask hbase
    refine .inr ⟨?_, base, .head _, hlong⟩
    rw [indexAt, hbase]
    rfl
  | ok directory =>
    cases directory with
    | false =>
      refine .inl ?_
      rw [indexAt, indexIn, hbase]
      rfl
    | true =>
      have hindex : indexIn fs base (base.resolve fs.cwd).parts =
          firstIndex fs (base.resolve fs.cwd).parts := by
        rw [indexIn, hbase]
        rfl
      have hat : indexAt fs base = indexFiles.findSomeM? (look fs base) := by
        rw [indexAt, hbase]
        rfl
      rw [hat, hindex]
      refine (findSomeM?_look_cases hcwd hbase (by decide)).imp_right ?_
      rintro ⟨herror, name, hname, hlong⟩
      exact ⟨herror, _, .tail _ (List.mem_map_of_mem hname), hlong⟩

end

/-! ## Files beside a directory -/

/-- **The paths beside a directory** at which a file is searched first: its own with each
implied extension, and as it is. -/
def besides (base : Path) : List Path :=
  impliedExtensions.filterMap (fun extension => base.withName? (base.name ++ extension)) ++ [base]

/-- Why no file beside a directory can be told: a path is too long, or has no name. -/
def IsMissed (fs : FileSystem) (base : Path) (cause : Failure) : Prop :=
  cause = .file .nameTooLong ∧ (∃ path ∈ besides base, fs.IsTooLong path) ∨
    cause = .emptyName base.toString ∧ base.parts = []

theorem isMissed_of_isFile {path : Path} (hpath : path ∈ besides base)
    (h : fs.isFile path = .error cause) : IsMissed fs base cause := by
  obtain ⟨rfl, hlong⟩ := FileSystem.isTooLong_of_ask h
  exact .inl ⟨rfl, path, hpath, hlong⟩

theorem withExtension_finds {extensions : List String}
    (hsub : extensions.filterMap (fun extension => base.withName? (base.name ++ extension)) ⊆
      besides base) :
    fs.Finds (IsMissed fs base)
      (extensions.filterMap fun extension => base.withName? (base.name ++ extension))
      (withExtension fs base extensions) := by
  induction extensions with
  | nil => exact .nil
  | cons extension extensions ih =>
    rw [withExtension]
    cases hname : base.withName? (base.name ++ extension) with
    | none =>
      refine .error (.inr ⟨rfl, ?_⟩)
      rw [Path.withName?] at hname
      split at hname
      · assumption
      · cases hname
    | some path =>
      have hplaces := List.filterMap_cons_some
        (f := fun extension => base.withName? (base.name ++ extension)) (l := extensions) hname
      rw [hplaces] at hsub ⊢
      dsimp only
      have hrest := ih (List.subset_of_cons_subset hsub)
      have hlook : fs.Finds (IsMissed fs base) [path] _ :=
        FileSystem.Finds.path fun cause => isMissed_of_isFile (hsub (.head _))
      -- one look and the search among the rest are one search after another
      refine (congrArg (fs.Finds (IsMissed fs base) _) ?_).mp (hlook.orElse hrest)
      cases fs.isFile path with
      | error cause => rfl
      | ok b =>
        cases b with
        | false => rfl
        | true =>
          dsimp only [bind, Except.bind]
          cases fs.resolve path <;> rfl

/-- A file is found beside a base, unless one is missed. -/
theorem fileAt_finds (fs : FileSystem) (base : Path) :
    fs.Finds (IsMissed fs base) (besides base) (fileAt fs base) :=
  (withExtension_finds (List.subset_append_left _ _)).orElse
    (.path fun _ => isMissed_of_isFile (List.mem_append_right _ (.head _)))

/-! ## Where a specifier of a directory leads -/

section

variable (hbase : basePath root importer specifier = some base)

include hbase

/-- A specifier that names a directory is looked up in it. -/
theorem outcome_of_namesDirectory (hnames : namesDirectory specifier = true) :
    outcome fs root importer specifier = indexAt fs base := by
  rw [outcome, hbase, hnames]
  change Option.map Prod.fst <$> (indexAt fs base >>= _) = _
  cases indexAt fs base with
  | error cause => rfl
  | ok found => cases found <;> rfl

/-- Any other specifier is looked up as a file first. -/
theorem outcome_of_not_namesDirectory (hnames : namesDirectory specifier = false) :
    outcome fs root importer specifier = (do
      match ← fileAt fs base with
      | some file => return some file
      | none => indexAt fs base) := by
  rw [outcome, hbase, hnames]
  change Option.map Prod.fst <$> (fileAt fs base >>= _) = _
  cases fileAt fs base with
  | error cause => rfl
  | ok file =>
    cases file with
    | some file => rfl
    | none =>
      change Option.map Prod.fst <$> (indexAt fs base >>= _) = indexAt fs base
      cases indexAt fs base with
      | error cause => rfl
      | ok found => cases found <;> rfl

end

/-- **Where a specifier of a directory leads.** Let the last segment of a relative
specifier be empty, one dot or two dots. If the specifier ends with a slash or is nothing
but dots, it leads to the first index file in the directory that it names, or nowhere; and
only where a path is too long this cannot be told. If it ends with a slash and dots, the
same holds but for the files beside that directory: the first of these, if there is one,
is found before any index file. -/
theorem directory_specifiers_lead_to_index (hcwd : ".." ∉ fs.cwd)
    (hrelative : isRelative specifier = true) (hlast : lastSegment specifier ∈ ["", ".", ".."])
    (root importer : Path) :
    let base := importer.parent ++ Path.ofString specifier
    let index := indexIn fs base (denoted fs importer specifier)
    (namesDirectory specifier = true →
      outcome fs root importer specifier = .ok index ∨
      outcome fs root importer specifier = .error (.file .nameTooLong) ∧
        ∃ path ∈ base :: indexFiles.map base.child, fs.IsTooLong path) ∧
    (namesDirectory specifier = false →
      outcome fs root importer specifier = .ok ((fs.first (besides base)).or index) ∨
      ∃ cause, outcome fs root importer specifier = .error cause ∧
        (cause = .file .nameTooLong ∧
            (∃ path ∈ besides base ++ indexFiles.map base.child, fs.IsTooLong path) ∨
          cause = .emptyName base.toString ∧ base.parts = [])) := by
  intro base index
  have hbase : basePath root importer specifier = some base :=
    basePath_of_lastSegment hrelative hlast
  have hindex := indexAt_cases hcwd base
  rw [resolve_base hrelative] at hindex
  constructor
  · intro hnames
    rw [outcome_of_namesDirectory hbase hnames]
    exact hindex
  · intro hnames
    rw [outcome_of_not_namesDirectory hbase hnames]
    have hbeside := fileAt_finds fs base
    cases hfile : fileAt fs base with
    | error cause =>
      refine .inr ⟨cause, rfl, (hbeside.failed hfile).imp_left ?_⟩
      rintro ⟨rfl, path, hpath, hlong⟩
      exact ⟨rfl, path, List.mem_append_left _ hpath, hlong⟩
    | ok file =>
      rw [← hbeside.found hfile]
      cases file with
      | some file => exact .inl rfl
      | none =>
        refine hindex.imp_right ?_
        rintro ⟨herror, path, hpath, hlong⟩
        refine ⟨_, herror, .inl ⟨rfl, path, ?_, hlong⟩⟩
        obtain rfl | hpath := List.mem_cons.mp hpath
        · exact List.mem_append_left _ (List.mem_append_right _ (.head _))
        · exact List.mem_append_right _ hpath

/-- A directory with an index file, and a file beside it. -/
def annex : FileSystem where
  root := .directory [("w", .directory [("lib.ts", .file .empty false),
    ("lib", .directory [("index.tsx", .file .empty false)])])]
  cwd := ["w"]

/-- With a slash at the end, a specifier leads to the index file of the directory. -/
theorem annex_leads_to_index :
    ".." ∉ annex.cwd ∧ isRelative "./lib/" = true ∧ lastSegment "./lib/" ∈ ["", ".", ".."] ∧
      namesDirectory "./lib/" = true ∧
      outcome annex (.ofParts ["w"]) (Path.ofString "/w/a.ts") "./lib/" =
        .ok (some "/w/lib/index.tsx") := by
  have hcwd : ".." ∉ annex.cwd := by decide
  have hrelative : isRelative "./lib/" = true := by decide +kernel
  have hlast : lastSegment "./lib/" ∈ ["", ".", ".."] := by decide +kernel
  have hnames : namesDirectory "./lib/" = true := by decide +kernel
  have hindex : indexIn annex ((Path.ofString "/w/a.ts").parent ++ Path.ofString "./lib/")
      (denoted annex (Path.ofString "/w/a.ts") "./lib/") = some "/w/lib/index.tsx" := by
    decide +kernel
  have hshort : ∀ path ∈ ((Path.ofString "/w/a.ts").parent ++ Path.ofString "./lib/") ::
      indexFiles.map ((Path.ofString "/w/a.ts").parent ++ Path.ofString "./lib/").child,
      ¬ annex.IsTooLong path := by
    unfold FileSystem.IsTooLong
    decide +kernel
  refine ⟨hcwd, hrelative, hlast, hnames, ?_⟩
  obtain hok | ⟨-, path, hpath, hlong⟩ := (directory_specifiers_lead_to_index hcwd hrelative hlast
    (.ofParts ["w"]) (Path.ofString "/w/a.ts")).1 hnames
  · rwa [hindex] at hok
  · exact absurd hlong (hshort path hpath)

/-- **With a slash and a dot at the end it leads to the file beside the directory**, though
the directory that it names has an index file. -/
theorem dot_leads_beside :
    isRelative "./lib/." = true ∧ lastSegment "./lib/." = "." ∧
      denoted annex (Path.ofString "/w/a.ts") "./lib/." = ["w", "lib"] ∧
      firstIndex annex ["w", "lib"] = some "/w/lib/index.tsx" ∧
      outcome annex (.ofParts ["w"]) (Path.ofString "/w/a.ts") "./lib/." =
        .ok (some "/w/lib.ts") := by
  refine ⟨by decide +kernel, by decide +kernel, by decide +kernel, by decide +kernel, ?_⟩
  exact Outcome.toOption_eq_some.mp (by decide +kernel)

end TypeScript

end Ratchet
