import Ratchet.Proofs.Python.Reference
import Ratchet.Proofs.TypeScript.Reference

/-!
# One bad import

An import that leads nowhere brings nothing and costs nothing: without it the
file imports the same files. An import that cannot be looked up costs all: the
imports of the file are not known then. Only a path that is too long, or one
without a name, cannot be looked up.

* `Extractor.references`, `Extractor.outcome`: what a file refers to in its
  language, and where each reference leads.
* `lost_import_costs_nothing`: what one import does to the others.
* `nameless_import_costs_all`: an import that cannot be looked up.
-/

namespace Ratchet

namespace Extractor

open Python (Program)

variable {es : List Extractor} {e : Extractor} {fs fs' : FileSystem} {file : String}
  {source : List Char}

/-- What the files of an extractor refer to. -/
def Reference : Extractor → Type
  | python _ => Python.Reference
  | typescript _ => String

/-- Whether a text can be read for its imports; a Python text has to be a
program. -/
def Reads : Extractor → List Char → Prop
  | python _, source =>
    source.contains '\x00' = false ∧ ∃ program, Program.parse? source = some program
  | typescript _, _ => True

/-- **What a text refers to**, in order. -/
def references : (e : Extractor) → List Char → List e.Reference
  | python _, source => (Program.parse? source).elim [] (·.references)
  | typescript _, source => TypeScript.specifiers (TypeScript.withoutComments source)

/-- **Where a reference leads**, seen from a file. -/
def outcome : (e : Extractor) → FileSystem → String → e.Reference →
    Except Failure (Option String)
  | python p, fs, file, r => do p.outcome fs (← p.packageOf fs (Path.ofString file)) r
  | typescript root, fs, file, specifier =>
    TypeScript.outcome fs root (Path.ofString file) specifier

/-- The paths at which a reference may lead. -/
def places : (e : Extractor) → FileSystem → String → e.Reference → List Path
  | python p, fs, file, r =>
    p.referencePlaces (p.packageOf fs (Path.ofString file)).toOption.join r
  | typescript root, _, file, specifier =>
    TypeScript.specifierPlaces root (Path.ofString file) specifier

/-- **The files that a file imports**, reference by reference. -/
theorem result_extract_references (hfind : es.find? (·.handles file) = some e)
    (htext : fs.readTextLossy (Path.ofString file) = .ok source) (hreads : e.Reads source) :
    (extract es fs file).result =
      (fun targets => ascending
        (targets.filter (· ≠ ((Path.ofString file).resolve fs.cwd).toString))) <$>
      Outcome.collect (e.outcome fs file) (e.references source) := by
  rw [result_extract hfind]
  cases e with
  | python p =>
    obtain ⟨hnull, program, hparse⟩ := hreads
    obtain ⟨package, hpackage⟩ := Python.Project.exists_packageOf htext
    have houtcome : (python p).outcome fs file = p.outcome fs package := by
      funext r
      rw [outcome, hpackage]
      rfl
    rw [find, Python.Project.result_findImports htext hnull hparse hpackage, houtcome, references,
      hparse]
    rfl
  | typescript root =>
    rw [find, TypeScript.result_findImports htext]
    rfl

/-- Trees of one shape lead a reference to the same file. -/
theorem outcome_alike (h : fs.Alike fs') (e : Extractor) (file : String) (r : e.Reference) :
    e.outcome fs file r = e.outcome fs' file r := by
  have hagree : ∀ path, fs.AgreeAt fs' path := fun path => ⟨h.isFile path, h.isDirectory path⟩
  cases e with
  | typescript root => exact TypeScript.outcome_alike h root _ r
  | python p =>
    have hname : ∀ module name, p.importedName fs module name = p.importedName fs' module name :=
      fun module name => Python.Project.importedName_congr h.cwd rfl fun path _ => hagree path
    rw [outcome, outcome, Python.Project.packageOf_congr h.cwd rfl]
    congr 1
    funext package
    match r with
    | .whole dotted =>
      exact Python.Project.importedFile_congr h.cwd rfl fun path _ => hagree path
    | .member 0 module name => exact hname _ _
    | .member (level + 1) module name =>
      rw [Python.Project.outcome, Python.Project.outcome]
      split
      · rfl
      · exact hname _ _

/-- Why a reference cannot be looked up. -/
theorem isCause_of_outcome (htext : fs.readTextLossy (Path.ofString file) = .ok source)
    (hreads : e.Reads source) {r : e.Reference} (hr : r ∈ e.references source) {cause : Failure}
    (h : e.outcome fs file r = .error cause) : fs.IsCause (e.places fs file r) cause := by
  cases e with
  | typescript root => exact TypeScript.cause_of_outcome h
  | python p =>
    obtain ⟨-, program, hparse⟩ := hreads
    obtain ⟨package, hpackage⟩ := Python.Project.exists_packageOf htext
    rw [references, hparse] at hr
    obtain ⟨s, hs, hr⟩ := List.mem_flatMap.mp hr
    rw [outcome, hpackage] at h
    have hanswers : Python.Project.Answers (p.Refusal fs package r) _ (p.outcome fs package r) :=
      Python.Project.outcome_answers (Program.isProper_of_parse hparse s hs) hr
    have hplaces : (python p).places fs file r = p.referencePlaces package r := by
      rw [places, hpackage]
      rfl
    rw [hplaces]
    cases hanswers.failed h with
    | tooLong hpath hlong => exact .inl ⟨rfl, _, hpath, hlong⟩
    | nameless htarget hroot hname => exact .inr (Python.Project.exists_emptyName hname)

/-- **An import that leads nowhere costs nothing**, and is like one that is not
there. All that can go wrong is that an import cannot be looked up; then the
imports of the file are not known. -/
theorem lost_import_costs_nothing (hfind : es.find? (·.handles file) = some e)
    (htext : fs.readTextLossy (Path.ofString file) = .ok source) (hreads : e.Reads source) :
    ((∃ files, (extract es fs file).result = .ok files) ↔
        ∀ r ∈ e.references source, ∃ found, e.outcome fs file r = .ok found) ∧
      (∀ files, (extract es fs file).result = .ok files → files.Pairwise (· < ·) ∧
        ∀ t, t ∈ files ↔ t ≠ ((Path.ofString file).resolve fs.cwd).toString ∧
          ∃ r ∈ e.references source, e.outcome fs file r = .ok (some t)) ∧
      (∀ r ∈ e.references source, ∀ cause, e.outcome fs file r = .error cause →
        fs.IsCause (e.places fs file r) cause) ∧
      ∀ fs' source' before r after, fs.Alike fs' →
        fs'.readTextLossy (Path.ofString file) = .ok source' → e.Reads source' →
        e.references source = before ++ r :: after → e.references source' = before ++ after →
        e.outcome fs file r = .ok none →
        (extract es fs' file).result = (extract es fs file).result := by
  have hresult := result_extract_references hfind htext hreads
  refine ⟨?_, ?_, fun r hr cause => isCause_of_outcome htext hreads hr, ?_⟩
  · constructor
    · rintro ⟨files, hfiles⟩
      rw [hresult] at hfiles
      obtain ⟨targets, htargets, -⟩ := Outcome.map_eq_ok.mp hfiles
      obtain ⟨found, hfound, -⟩ := Outcome.map_eq_ok.mp htargets
      exact Outcome.exists_mapM.mp ⟨found, hfound⟩
    · intro hall
      obtain ⟨targets, htargets⟩ := Outcome.exists_collect hall
      rw [hresult, htargets]
      exact ⟨_, rfl⟩
  · intro files hfiles
    rw [hresult] at hfiles
    obtain ⟨targets, htargets, rfl⟩ := Outcome.map_eq_ok.mp hfiles
    refine ⟨pairwise_ascending _, fun t => ?_⟩
    rw [mem_ascending, List.mem_filter, Outcome.mem_collect htargets, and_comm]
    simp
  · intro fs' source' before r after halike htext' hreads' hreferences hreferences' hlost
    have hresult' := result_extract_references hfind htext' hreads'
    have houtcome : e.outcome fs' file = e.outcome fs file :=
      funext fun r => (outcome_alike halike e file r).symm
    rw [hresult, hresult', hreferences, hreferences', houtcome, Outcome.collect_remove hlost,
      halike.cwd]

/-- A text with an import that leads nowhere. -/
def strayText : String := "import b\nimport gone\n"

/-- A tree with a file of that text. -/
def stray : FileSystem where
  root := .directory [("w", .directory [
    ("a.py", .file strayText.toUTF8 false), ("b.py", .file .empty false)])]
  cwd := ["w"]

/-- The extractor of the files in `/w`. -/
def strayExtractor : Extractor :=
  .python { sourceRoot := .ofParts ["w"], searchRoots := [.ofParts ["w"]]
            firstParty := ["a", "b"] }

/-- The text without that import. -/
def tidyText : String := "import b\n"

/-- The tree in which the file has that text. -/
def tidy : FileSystem :=
  stray.put ["w", "a.py"] (.file tidyText.toUTF8 false)

/-- An import that leads nowhere, and the same file without it. -/
theorem gone_import_costs_nothing :
    [strayExtractor].find? (·.handles "/w/a.py") = some strayExtractor ∧
      stray.readTextLossy (Path.ofString "/w/a.py") = .ok strayText.toList ∧
      strayExtractor.Reads strayText.toList ∧ stray.Alike tidy ∧
      tidy.readTextLossy (Path.ofString "/w/a.py") = .ok tidyText.toList ∧
      strayExtractor.Reads tidyText.toList ∧
      strayExtractor.references strayText.toList =
        [Python.Reference.whole "b", Python.Reference.whole "gone"] ∧
      strayExtractor.references tidyText.toList = [Python.Reference.whole "b"] ∧
      strayExtractor.outcome stray "/w/a.py" (Python.Reference.whole "gone") = .ok none ∧
      (extract [strayExtractor] tidy "/w/a.py").result =
        (extract [strayExtractor] stray "/w/a.py").result ∧
      (extract [strayExtractor] stray "/w/a.py").result = .ok ["/w/b.py"] := by
  have hhandles : strayExtractor.handles "/w/a.py" = true := by decide +kernel
  have hfind : [strayExtractor].find? (·.handles "/w/a.py") = some strayExtractor :=
    List.find?_cons_of_pos hhandles
  have hreads : ∀ text : String, text.toList.contains '\x00' = false →
      (Program.parse? text.toList).isSome = true → strayExtractor.Reads text.toList :=
    fun text hnull hparse => ⟨hnull, Option.isSome_iff_exists.mp hparse⟩
  have hreads₁ := hreads strayText (by decide +kernel) (by decide +kernel)
  have hreads₂ := hreads tidyText (by decide +kernel) (by decide +kernel)
  have htext : stray.readTextLossy (Path.ofString "/w/a.py") = .ok strayText.toList :=
    Outcome.toOption_eq_some.mp (by decide +kernel)
  have htext' : tidy.readTextLossy (Path.ofString "/w/a.py") = .ok tidyText.toList :=
    Outcome.toOption_eq_some.mp (by decide +kernel)
  have halike : stray.Alike tidy := ⟨Node.alike_put rfl, rfl⟩
  have hreferences : ((Program.parse? strayText.toList).elim [] (·.references)) =
      [.whole "b", .whole "gone"] := by decide +kernel
  have hreferences' : ((Program.parse? tidyText.toList).elim [] (·.references)) =
      [.whole "b"] := by decide +kernel
  have hlost : strayExtractor.outcome stray "/w/a.py" (Python.Reference.whole "gone") =
      .ok none := Outcome.toOption_eq_some.mp (by decide +kernel)
  have hfiles : (extract [strayExtractor] stray "/w/a.py").result = .ok ["/w/b.py"] :=
    Outcome.toOption_eq_some.mp (by decide +kernel)
  obtain ⟨-, -, -, hsame⟩ := lost_import_costs_nothing hfind htext hreads₁
  exact ⟨hfind, htext, hreads₁, halike, htext', hreads₂, hreferences, hreferences', hlost,
    hsame tidy _ [Python.Reference.whole "b"] _ [] halike htext' hreads₂ hreferences hreferences'
      hlost, hfiles⟩

/-- A text with an import of the root of the file system. -/
def rootedText : String := "import './b';\nimport '/.';\n"

/-- A tree with a file of that text. -/
def rooted : FileSystem where
  root := .directory [("w", .directory [
    ("a.ts", .file rootedText.toUTF8 false), ("b.ts", .file .empty false)])]
  cwd := ["w"]

/-- **An import that cannot be looked up costs all**: the other import of the
file leads to a file, and the imports are not known. -/
theorem nameless_import_costs_all :
    (typescript (.ofParts ["w"])).handles "/w/a.ts" = true ∧
      rooted.readTextLossy (Path.ofString "/w/a.ts") = .ok rootedText.toList ∧
      TypeScript.specifiers rootedText.toList = ["./b", "/."] ∧
      TypeScript.outcome rooted (.ofParts ["w"]) (Path.ofString "/w/a.ts") "./b" =
        .ok (some "/w/b.ts") ∧
      ∀ files, (extract [typescript (.ofParts ["w"])] rooted "/w/a.ts").result ≠ .ok files := by
  have hnone : (extract [typescript (.ofParts ["w"])] rooted "/w/a.ts").result.toOption = none := by
    decide +kernel
  refine ⟨by decide +kernel, Outcome.toOption_eq_some.mp (by decide +kernel), by decide +kernel,
    Outcome.toOption_eq_some.mp (by decide +kernel), fun files hfiles => ?_⟩
  rw [hfiles] at hnone
  cases hnone

end Extractor

end Ratchet
