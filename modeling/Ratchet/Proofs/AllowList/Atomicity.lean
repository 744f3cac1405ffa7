import Ratchet.Proofs.AllowList.Durability
import Ratchet.Proofs.FileSystem.Unfinished

/-!
# Recording that fails

Recording files can fail at many points: the document cannot be read or does not hold
what it should, a pattern selects nothing that can be listed, entries cannot be put in
order, a directory cannot be made. All of these come before the document is touched,
so that it is as it was, or still not there. Only a host that gives up while the new
document is being written leaves a part of it.

* `addOn`: recording, with what is left when it fails.
* `add_eq_addOn`: on a host that refuses nothing, this is recording.
* `document_stays`: what a failure leaves of the document.
-/

namespace Ratchet.AllowList

open Json (Members)

variable {fs fs' : FileSystem} {a : AllowList} {host : Host} {files parts : List String}
  {render : Members → Except Failure String} {cause : Failure} {path : Path}
  {languages : List Language} {arrangement : Json.Arrangement}

/-! ## What is left -/

/-- Record files as checked on a host that may refuse to. `render` puts a document
into words, if it can be. -/
def addOn (host : Host) (render : Members → Except Failure String) (a : AllowList)
    (fs : FileSystem) (files : List String) : Except Failure (List String) × FileSystem :=
  let files := ascending files
  if files = [] then (.ok [], fs)
  else
    match a.revise fs files with
    | .error cause => (.error cause, fs)
    | .ok (document, written) =>
      match fs.makeDirectoryOn host a.root with
      | (.error cause, fs) => (.error cause, fs)
      | (.ok (), fs) =>
        match render document with
        | .error cause => (.error cause, fs)
        | .ok text =>
          match fs.writeOn host a.path text.toUTF8 with
          | (.error cause, fs) => (.error cause, fs)
          | (.ok (), fs) => (.ok written, fs)

/-- On a host that refuses nothing, files are recorded as ever. -/
theorem add_eq_addOn (a : AllowList) (fs : FileSystem) (files : List String) :
    a.add fs files = (a.addOn {} (fun m => .ok (textOf m)) fs files).1.map
      (·, (a.addOn {} (fun m => .ok (textOf m)) fs files).2) := by
  rw [add, addOn]
  dsimp only
  split
  · rfl
  cases a.revise fs (ascending files) with
  | error => rfl
  | ok revised =>
    obtain ⟨document, written⟩ := revised
    dsimp only [bind, Except.bind]
    rw [FileSystem.makeDirectory_eq]
    obtain ⟨outcome, fs⟩ := fs.makeDirectoryOn {} a.root
    cases outcome with
    | error => rfl
    | ok =>
      dsimp only [Except.map]
      rw [FileSystem.writeText, FileSystem.write_eq]
      obtain ⟨outcome, fs⟩ := fs.writeOn {} a.path (textOf document).toUTF8
      cases outcome <;> rfl

/-- **What a failure can be**: everything up to the writing was refused, and the
document has not been touched, or a part of it has been written. -/
theorem addOn_error (h : a.addOn host render fs files = (.error cause, fs')) :
    fs' = fs ∨ fs' = (fs.makeDirectoryOn host a.root).2 ∨
    ∃ document written fs₁ text count fault,
      a.revise fs (ascending files) = .ok (document, written) ∧
      fs.makeDirectoryOn host a.root = (.ok (), fs₁) ∧ render document = .ok text ∧
      host.givesUp = some (count, fault) ∧ cause = .file fault ∧
      fs₁.write a.path (text.toUTF8.extract 0 count) = .ok fs' := by
  unfold addOn at h
  dsimp only at h
  split at h
  · cases h
  split at h
  · cases h
    exact .inl rfl
  rename_i document written hrevise
  split at h
  · rename_i hmake
    cases h
    rw [hmake]
    exact .inr (.inl rfl)
  rename_i fs₁ hmake
  split at h
  · cases h
    rw [hmake]
    exact .inr (.inl rfl)
  rename_i text htext
  obtain ⟨fs₂, hwrite, -⟩ | ⟨cause', hwrite⟩ | ⟨fs₂, count, fault, hwrite, hgives, hpart⟩ :=
    FileSystem.writeOn_cases host fs₁ a.path text.toUTF8
  · rw [hwrite] at h
    cases h
  · rw [hwrite] at h
    cases h
    rw [hmake]
    exact .inr (.inl rfl)
  · rw [hwrite] at h
    cases h
    exact .inr (.inr ⟨document, written, fs₁, text, count, fault, hrevise, hmake, htext, hgives,
      rfl, hpart⟩)

/-- The host gave up when a part of the new document was written. -/
def IsCutOff (a : AllowList) (host : Host) (render : Members → Except Failure String)
    (fs : FileSystem) (files : List String) (cause : Failure) (fs' : FileSystem) : Prop :=
  ∃ document written text count fault executable,
    a.revise fs (ascending files) = .ok (document, written) ∧ render document = .ok text ∧
    host.givesUp = some (count, fault) ∧ cause = .file fault ∧
    fs'.find a.path = .ok (.file (text.toUTF8.extract 0 count) executable)

/-- Making the directory of the document leaves the document as it is. -/
theorem find_makeDirectoryOn (hparts : a.path = .ofParts parts) (hup : ".." ∉ parts) (n : Node) :
    (fs.makeDirectoryOn host a.root).2.find a.path = .ok n ↔ fs.find a.path = .ok n := by
  have hroot : a.root = .ofParts parts.dropLast := by
    rw [root, hparts]
    rfl
  have hapart : parts <+: parts.dropLast → parts.dropLast = [] := by
    intro hle
    have hlength := hle.length_le
    rw [List.length_dropLast] at hlength
    exact List.eq_nil_of_length_eq_zero (by rw [List.length_dropLast]; omega)
  have hget : (fs.makeDirectoryOn host (.ofParts parts.dropLast)).2.root.get? parts =
      fs.root.get? parts :=
    FileSystem.get?_makeDirectoryOn (fun hmem => hup (List.dropLast_subset _ hmem)) hapart
  rw [hparts, FileSystem.find_ofParts hup, FileSystem.find_ofParts hup, hroot, hget]

/-- **A failure leaves the document as it was**, or still not there, unless the host
gave up when a part of it was written. Where there is nothing to record, nothing fails
and nothing changes, whatever the document is. -/
theorem document_stays (hpath : atPath fs path languages arrangement = .ok a) (hup : ".." ∉ fs.cwd)
    (host : Host) (render : Members → Except Failure String) (files : List String) :
    (∀ cause fs', a.addOn host render fs files = (.error cause, fs') →
      (∀ n, fs'.find a.path = .ok n ↔ fs.find a.path = .ok n) ∨
        a.IsCutOff host render fs files cause fs') ∧
    a.addOn host render fs [] = (.ok [], fs) ∧
    a.add fs files = (a.addOn {} (fun m => .ok (textOf m)) fs files).1.map
      (·, (a.addOn {} (fun m => .ok (textOf m)) fs files).2) := by
  obtain ⟨parts, hparts, hback⟩ := atPath_eq_ok hpath hup
  refine ⟨fun cause fs' h => ?_, rfl, add_eq_addOn a fs files⟩
  obtain rfl | rfl | ⟨document, written, fs₁, text, count, fault, hrevise, -, htext, hgives, hcause,
    hwrite⟩ := addOn_error h
  · exact .inl fun _ => Iff.rfl
  · exact .inl (find_makeDirectoryOn hparts hback)
  · rw [hparts] at hwrite
    obtain ⟨-, executable, -, hfind⟩ := FileSystem.write_ok hback hwrite
    exact .inr ⟨document, written, text, count, fault, executable, hrevise, htext, hgives, hcause,
      hparts ▸ hfind⟩

/-! ### Entries that cannot be put in order -/

/-- A document whose entries are a number and a text. -/
def mixed : String :=
  "\x7b\"files\": [1, \"./b.py\"]\x7d"

/-- The entry of a file is added to them before they are put in order, which fails. The
document is as it was, and so it is when there is nothing to record. -/
theorem mixed_document_stays :
    ∃ fs', shelfList.addOn {} (fun m => .ok (textOf m)) (shelf mixed) ["/w/a.py"] =
        (.error (.shape .unordered), fs') ∧
      fs'.find shelfList.path = .ok (.file mixed.toUTF8 false) ∧
      shelfList.addOn {} (fun m => .ok (textOf m)) (shelf mixed) [] = (.ok [], shelf mixed) := by
  have hpath : atPath (shelf mixed) (.ofParts ["w", "strict-files.json"]) [] (.ofMark 1) =
      .ok shelfList := rfl
  obtain ⟨hstays, hnone, -⟩ := document_stays hpath (proper_shelf mixed).cwd {}
    (fun m => .ok (textOf m)) ["/w/a.py"]
  have hfind : (shelf mixed).find shelfList.path = .ok (.file mixed.toUTF8 false) := rfl
  have hfails :
      (match (shelfList.addOn {} (fun m => .ok (textOf m)) (shelf mixed) ["/w/a.py"]).1 with
      | .error (.shape .unordered) => true
      | _ => false) = true := by decide +kernel
  split at hfails
  · rename_i heq
    refine ⟨_, Prod.ext heq rfl, ?_, hnone⟩
    obtain hsame | ⟨_, _, _, _, _, _, -, -, hgives, -⟩ := hstays _ _ (Prod.ext heq rfl)
    · exact (hsame _).mpr hfind
    · cases hgives
  · cases hfails

end Ratchet.AllowList
