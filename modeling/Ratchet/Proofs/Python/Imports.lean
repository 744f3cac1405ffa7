import Ratchet.Proofs.Python.Reference

/-!
# The imports of a Python file

What a Python file imports is what its import statements lead to, wherever
they stand in the program and whatever the others lead to. There is one way
out: a path that is too long cannot be asked about, and then nothing is known
of any import of the file.

* `imports_are_union`: the files that a file imports.
* `deep_imports_fail`: a file whose imports are lost.
-/

namespace Ratchet

namespace Python

open Ratchet.Python.Tree

variable {es : List Extractor} {fs : FileSystem} {file : String} {p : Project}
  {source : List Char} {program : Program}

/-- What a program refers to is what its statements refer to, wherever they
stand. -/
theorem mem_references {r : Reference} :
    r ∈ program.references ↔ ∃ s ∈ statementsOfAll program.statements, r ∈ s.references := by
  rw [Program.references, List.mem_flatMap]
  simp only [(Program.imports_perm program).mem_iff]

/-- **What a file imports is what its import statements lead to**, each by
itself, at any depth of the program, without the file itself. Otherwise one of
them cannot be looked up, and the imports of the file are not known at all. -/
theorem imports_are_union (hfind : es.find? (·.handles file) = some (.python p))
    (htext : fs.readTextLossy (Path.ofString file) = .ok source)
    (hnull : source.contains '\x00' = false) (hparse : Program.parse? source = some program) :
    ∃ package, p.packageOf fs (Path.ofString file) = .ok package ∧
      ((∃ files, (Extractor.extract es fs file).result = .ok files ∧ files.Pairwise (· < ·) ∧
          ∀ t, t ∈ files ↔ t ≠ ((Path.ofString file).resolve fs.cwd).toString ∧
            ∃ s ∈ statementsOfAll program.statements, ∃ r ∈ s.references,
              p.LeadsTo fs package r t) ∨
        ∃ cause, (Extractor.extract es fs file).result = .error cause ∧
          ∃ s ∈ statementsOfAll program.statements, ∃ r ∈ s.references,
            p.Refusal fs package r cause) := by
  obtain ⟨package, hpackage⟩ := Project.exists_packageOf (p := p) htext
  have hanswers : ∀ r ∈ program.references, Project.Answers (p.Refusal fs package r)
      (p.LeadsTo fs package r) (p.outcome fs package r) := by
    intro r hr
    obtain ⟨s, hs, hr⟩ := List.mem_flatMap.mp hr
    exact Project.outcome_answers (Program.isProper_of_parse hparse s hs) hr
  have hresult : (Extractor.extract es fs file).result = _ := Extractor.result_extract hfind
  have himports := Project.result_findImports htext hnull hparse hpackage
  rw [Extractor.find, himports] at hresult
  refine ⟨package, hpackage, ?_⟩
  cases hcollect : Outcome.collect (p.outcome fs package) program.references with
  | error cause =>
    obtain ⟨r, hr, hcause⟩ := Outcome.collect_eq_error hcollect
    obtain ⟨s, hs, hrs⟩ := mem_references.mp hr
    rw [hcollect] at hresult
    exact .inr ⟨cause, hresult, s, hs, r, hrs, (hanswers r hr).failed hcause⟩
  | ok targets =>
    rw [hcollect] at hresult
    refine .inl ⟨_, hresult, pairwise_ascending _, fun t => ?_⟩
    have htargets : t ∈ targets ↔ ∃ r ∈ program.references, p.LeadsTo fs package r t :=
      Project.mem_collect_of_answers hanswers hcollect
    have hstatements : (∃ r ∈ program.references, p.LeadsTo fs package r t) ↔
        ∃ s ∈ statementsOfAll program.statements, ∃ r ∈ s.references, p.LeadsTo fs package r t := by
      simp only [mem_references]
      constructor
      · rintro ⟨r, ⟨s, hs, hr⟩, hleads⟩
        exact ⟨s, hs, r, hr, hleads⟩
      · rintro ⟨s, hs, r, hr, hleads⟩
        exact ⟨r, ⟨s, hs, hr⟩, hleads⟩
    rw [mem_ascending, List.mem_filter, htargets, hstatements, and_comm]
    simp

/-- A file whose import statements stand within one another. -/
def nestedText : String :=
  "def f():\n  try:\n    import b.x\n  except:\n    from c import d, e\n  import gone, a\n"

/-- A tree with that file. -/
def nested : FileSystem where
  root := .directory [("w", .directory [
    ("a.py", .file nestedText.toUTF8 false), ("b.py", .file .empty false),
    ("c", .directory [("__init__.py", .file .empty false), ("d.py", .file .empty false)])])]
  cwd := ["w"]

/-- The project of the files in `/w`. -/
def nestedProject : Project where
  sourceRoot := .ofParts ["w"]
  searchRoots := [.ofParts ["w"]]
  firstParty := ["a", "b", "c"]

/-- A module stands for a longer name, a package for a name that is no module
of its own; a missing module and the file itself bring nothing. -/
theorem nested_imports_are_union :
    [Extractor.python nestedProject].find? (·.handles "/w/a.py") = some (.python nestedProject) ∧
      nested.readTextLossy (Path.ofString "/w/a.py") = .ok nestedText.toList ∧
      nestedText.toList.contains '\x00' = false ∧
      ∃ program package, Program.parse? nestedText.toList = some program ∧
        nestedProject.packageOf nested (Path.ofString "/w/a.py") = .ok package ∧
        ∀ t, t ∈ ["/w/b.py", "/w/c/__init__.py", "/w/c/d.py"] ↔ t ≠ "/w/a.py" ∧
          ∃ s ∈ statementsOfAll program.statements, ∃ r ∈ s.references,
            nestedProject.LeadsTo nested package r t := by
  have hfind : [Extractor.python nestedProject].find? (·.handles "/w/a.py") =
      some (.python nestedProject) := by
    have hhandles : (Extractor.python nestedProject).handles "/w/a.py" = true := by decide +kernel
    rw [List.find?_cons, hhandles]
  have hchars : nestedText.toList = _ := String.toList_ofList
  have hnull : nestedText.toList.contains '\x00' = false := by
    rw [hchars]
    decide
  have hplain : nestedText.toList.all (decide <| Text.IsPlain ·) = true := by
    rw [hchars]
    decide
  have htext : nested.readTextLossy (Path.ofString "/w/a.py") = .ok nestedText.toList :=
    FileSystem.readTextLossy_of_find (fun c hc => Text.isPlain_word _ hplain hc) (by decide) rfl
  obtain ⟨program, hparse, hreferences⟩ := Option.map_eq_some_iff.mp <|
    show (Program.parse? nestedText.toList).map (·.references) = some [.whole "gone",
        .whole "a", .whole "b.x", .member 0 (some "c") "d", .member 0 (some "c") "e"] by
      rw [hchars]
      decide +kernel
  have hpackage : nestedProject.packageOf nested (Path.ofString "/w/a.py") = .ok (some []) :=
    Outcome.toOption_eq_some.mp (by decide +kernel)
  have hfiles : (Extractor.extract [.python nestedProject] nested "/w/a.py").result =
      .ok ["/w/b.py", "/w/c/__init__.py", "/w/c/d.py"] := by
    rw [Extractor.result_extract hfind, Extractor.find,
      Project.result_findImports htext hnull hparse hpackage, hreferences]
    exact Outcome.toOption_eq_some.mp (by decide +kernel)
  obtain ⟨package, hpackage, ⟨files, hresult, -, hmem⟩ | ⟨cause, hresult, -⟩⟩ :=
    imports_are_union hfind htext hnull hparse
  · cases hfiles.symm.trans hresult
    have hself : ((Path.ofString "/w/a.py").resolve nested.cwd).toString = "/w/a.py" := by
      decide +kernel
    rw [hself] at hmem
    exact ⟨hfind, htext, hnull, program, package, hparse, hpackage, hmem⟩
  · cases hfiles.symm.trans hresult

/-! ## A tree that is too deep -/

/-- A tree with one file in that directory. -/
def deep : FileSystem where
  root := Node.empty.put (deepPlace ++ ["a.py"]) (.file "import configuration".toUTF8 false)

/-- The project of the files in that directory. -/
def deepProject : Project where
  sourceRoot := .ofParts deepPlace
  searchRoots := [.ofParts deepPlace]
  firstParty := ["a"]

/-- The file of that tree. -/
def deepFile : String :=
  (Path.ofParts (deepPlace ++ ["a.py"])).toString

theorem ofString_deepFile : Path.ofString deepFile = .ofParts (deepPlace ++ ["a.py"]) := by
  have hlong : Path.IsName longName :=
    ⟨longName_ne (by decide), longName_ne (by decide), notMem_longName (by decide)⟩
  exact Path.ofString_ofParts (forall_mem_deepPlace hlong (by decide))

theorem readTextLossy_deepFile :
    deep.readTextLossy (Path.ofString deepFile) = .ok "import configuration".toList := by
  have hup : ".." ∉ deepPlace ++ ["a.py"] := fun hmem =>
    forall_mem_deepPlace (q := (· ≠ "..")) (longName_ne (by decide)) (by decide) _ hmem rfl
  have hsize : (Path.ofParts (deepPlace ++ ["a.py"])).toString.utf8ByteSize < 4096 := by
    rw [size_deepPlace]
    decide
  have hfind : deep.find (.ofParts (deepPlace ++ ["a.py"])) =
      .ok (.file "import configuration".toUTF8 false) :=
    FileSystem.find_eq_ok.mpr ⟨hsize, Node.follow_of_get? [] hup (Node.get?_put ..)
      (forall_mem_deepPlace (q := (·.utf8ByteSize ≤ 255)) (by rw [size_longName]; decide)
        (by decide))⟩
  rw [ofString_deepFile]
  exact FileSystem.readTextLossy_of_find (fun c hc => Text.isPlain_word _ (by decide) hc)
    (hasNull_deepPlace (by decide)) hfind

theorem handles_deepFile : (Extractor.python deepProject).handles deepFile = true := by
  have hne : deepPlace ≠ [] := by simp [deepPlace]
  have hslashed : Path.slashed (deepPlace ++ ["a.py"]) =
      "/".intercalate deepPlace ++ "/" ++ "a.py" := intercalate_concat hne "/" "a.py"
  have hfile : deepFile = "/" ++ Path.slashed (deepPlace ++ ["a.py"]) := by
    rw [deepFile, Path.toString, if_neg (by simp [Path.ofParts])]
    rfl
  have hsuffix : ".py".toList <:+ deepFile.toList := by
    rw [hfile, hslashed, String.toList_append, String.toList_append]
    have hname : ".py".toList <:+ "a.py".toList := by decide
    exact (hname.trans (List.suffix_append _ _)).trans (List.suffix_append _ _)
  exact List.any_eq_true.mpr ⟨".py", .head _, List.isSuffixOf_iff_suffix.mpr hsuffix⟩

/-- The first path at which the module may be is too long. -/
theorem isFile_deep :
    deep.isFile (.ofParts (deepPlace ++ ["configuration.py"])) = .error (.file .nameTooLong) := by
  refine FileSystem.ask_eq_error.mpr ⟨rfl, hasNull_deepPlace (by decide), ?_⟩
  rw [FileSystem.find, if_pos]
  rw [size_deepPlace]
  decide

/-- Where the module is looked up in the deep place. -/
theorem moduleFiles_deep : (Path.ofParts deepPlace).moduleFiles ["configuration"] =
    [.ofParts (deepPlace ++ ["configuration.py"]),
      .ofParts (deepPlace ++ ["configuration", "__init__.py"])] := by
  simp [Path.moduleFiles, Path.ofParts]

/-- Where the module is looked up from the deep file. -/
theorem places_deep : deepProject.places ["configuration"] =
    [.ofParts (deepPlace ++ ["configuration.py"]),
      .ofParts (deepPlace ++ ["configuration", "__init__.py"])] := by
  have hplaces : deepProject.places ["configuration"] =
      (Path.ofParts deepPlace).moduleFiles ["configuration"] := List.append_nil _
  rw [hplaces, moduleFiles_deep]

/-- The search for the module ends there. -/
theorem outcome_deep (package : Option (List String)) :
    deepProject.outcome deep package (.whole "configuration") = .error (.file .nameTooLong) := by
  have hsplit : Text.splitString '.' "configuration" = ["configuration"] := by decide
  have hname : ∀ part ∈ ["configuration"], Path.IsName part := by decide
  have hpaths := Project.modulePaths_eq hname (by simp) (.ofParts deepPlace)
  rw [moduleFiles_deep] at hpaths
  have hfirst : Project.firstFile deep [.ofParts (deepPlace ++ ["configuration.py"]),
      .ofParts (deepPlace ++ ["configuration", "__init__.py"])] = .error (.file .nameTooLong) := by
    rw [Project.firstFile]
    exact Outcome.bind_eq_error.mpr (.inl isFile_deep)
  have hmodule : deepProject.moduleFile deep "configuration" = .error (.file .nameTooLong) := by
    have hroots : deepProject.searchRoots = [.ofParts deepPlace] := rfl
    rw [Project.moduleFile, if_neg (by decide), hsplit, hroots, Project.findModule]
    exact Outcome.bind_eq_error.mpr (.inr ⟨_, hpaths, Outcome.bind_eq_error.mpr (.inl hfirst)⟩)
  rw [Project.outcome, Project.importedFile, hsplit, Project.nearestModule,
    String.intercalate_singleton, hmodule]
  rfl

/-- No name on the way to the module is too long. -/
theorem size_part_deep : ∀ path ∈ deepProject.places ["configuration"], ∀ part ∈ path.parts,
    part.utf8ByteSize ≤ 255 := by
  have hsizes : ∀ {name : String}, name.utf8ByteSize ≤ 255 →
      ∀ part ∈ deepPlace ++ [name], part.utf8ByteSize ≤ 255 :=
    fun hname => forall_mem_deepPlace (q := (·.utf8ByteSize ≤ 255)) (by rw [size_longName]; decide)
      hname
  intro path hpath part hpart
  rw [places_deep] at hpath
  obtain rfl | hpath := List.mem_cons.mp hpath
  · exact hsizes (by decide) part hpart
  · rw [List.mem_singleton.mp hpath] at hpart
    have hparts : part ∈ deepPlace ++ ["configuration"] ∨ part = "__init__.py" := by
      simpa [Path.ofParts, or_assoc] using hpart
    obtain hpart | rfl := hparts
    · exact hsizes (by decide) part hpart
    · decide

/-- **Not every import counts**: below a directory that is deep enough, a module
that there is not keeps the imports of a file from being known, though no name
is too long. -/
theorem deep_imports_fail :
    [Extractor.python deepProject].find? (·.handles deepFile) = some (.python deepProject) ∧
      deep.readTextLossy (Path.ofString deepFile) = .ok "import configuration".toList ∧
      (∃ program, Program.parse? "import configuration".toList = some program ∧
        program.references = [.whole "configuration"]) ∧
      (∀ path ∈ deepProject.places ["configuration"], ∀ part ∈ path.parts,
        part.utf8ByteSize ≤ 255) ∧
      (Extractor.extract [.python deepProject] deep deepFile).result =
        .error (.file .nameTooLong) := by
  have hfind : [Extractor.python deepProject].find? (·.handles deepFile) =
      some (.python deepProject) := List.find?_cons_of_pos handles_deepFile
  obtain ⟨program, hparse, hreferences⟩ := Option.map_eq_some_iff.mp <|
    show (Program.parse? "import configuration".toList).map (·.references) =
      some [.whole "configuration"] by decide +kernel
  obtain ⟨package, hpackage⟩ := Project.exists_packageOf (p := deepProject) readTextLossy_deepFile
  have hresult : (Extractor.extract _ deep deepFile).result = _ := Extractor.result_extract hfind
  rw [Extractor.find, Project.result_findImports readTextLossy_deepFile (by decide +kernel) hparse
    hpackage, hreferences, Outcome.collect_cons, outcome_deep] at hresult
  exact ⟨hfind, readTextLossy_deepFile, ⟨program, hparse, hreferences⟩, size_part_deep, hresult⟩

end Python

end Ratchet
