import Ratchet.Proofs.Basic
import Ratchet.Proofs.FileSystem.Write
import Ratchet.Proofs.Links
import Ratchet.Proofs.Survey.Settled
import Ratchet.Proofs.Web.Sending

/-!
# One request

What a request does to the scans that are kept: a request for a scan may add one,
a request to delete one takes it away, and nothing else changes them. A scan that
is kept answers questions in the same way whatever has become of the files, because
the directory it is about is a place, and a place resolves to itself unless a link
has been put on the way.

* `Scan.Placed`, `Scan.answer_eq`: what a scan is about, and what it tells of that.
* `post_cases`: what a request for a scan does.
* `Effect`, `effect_of_visit`: what any request does.
-/

namespace Ratchet.Web

open Json (Value)

variable {server : Server} {s : Surroundings} {r : Request} {name : String} {q : Question}
  {scan : Scan} {response : Response} {v : Value}

/-! ## Kinds of requests -/

namespace Request

/-- A request for a scan. -/
def Posts (r : Request) : Prop :=
  r.method = "POST" ∧ Route.ofPath? r.path = some .scans

/-- A request to delete the scan of a name. -/
def Deletes (r : Request) (name : String) : Prop :=
  r.method = "DELETE" ∧ Route.ofPath? r.path = some (.scan name)

end Request

namespace Server

theorem respond_of_posts (h : r.Posts) : server.respond s r = server.post s r.body := by
  obtain ⟨hmethod, hroute⟩ := h
  simp [respond, hmethod, hroute, Route.methods]

theorem respond_of_deletes (h : r.Deletes name) : server.respond s r = server.remove name := by
  obtain ⟨hmethod, hroute⟩ := h
  simp [respond, hmethod, hroute, Route.methods]

/-- A request that neither is for a scan nor deletes one changes nothing. -/
theorem respond_of_other (hposts : ¬ r.Posts) (hdeletes : ∀ name, ¬ r.Deletes name) :
    (server.respond s r).2 = server := by
  cases hroute : Route.ofPath? r.path with
  | none => simp only [respond, hroute]
  | some route =>
    by_cases hget : r.method = "GET"
    · cases route with
      | scans | scan | components | candidates => simp [respond, hroute, Route.methods, hget]
    · cases route with
      | scans =>
        have hpost : r.method ≠ "POST" := fun h => hposts ⟨h, hroute⟩
        simp [respond, hroute, Route.methods, hpost]
      | scan name =>
        have hdelete : r.method ≠ "DELETE" := fun h => hdeletes name ⟨h, hroute⟩
        simp [respond, hroute, Route.methods, hget, hdelete]
      | components | candidates => simp [respond, hroute, Route.methods, hget]

end Server

/-! ## Responses that are sent -/

/-- A document that can be sent is sent as it is. -/
theorem Response.sent_document (status : Nat) (h : isSendable v = true) :
    (Response.mk status (.document v)).sent = ⟨status, .document v⟩ :=
  if_pos h

theorem Response.sent_ok (h : isSendable v = true) : (Response.ok v).sent = .ok v :=
  sent_document 200 h

/-- What fails is not sent as a success. -/
theorem Response.sent_status (h : response.status ≠ 200) : response.sent.status ≠ 200 := by
  unfold sent
  split
  · split
    · exact h
    · exact (by decide : (500 : Nat) ≠ 200)
  · exact h
  · exact h

/-- What went wrong is told if it is a text. -/
theorem Response.sent_detail (status : Nat) {text : String} (h : Json.hasByte text = false) :
    (Response.detail status text).sent = .detail status text := by
  refine sent_document status ((isSendable_ofMembers ["detail"] (by decide) rfl).trans ?_)
  rw [List.map_singleton, List.all_cons, isSendable_ofString, h]
  rfl

theorem Server.sent_unknown : unknown.sent = unknown :=
  Response.sent_detail 404 (by decide)

/-! ## Scans that are about a place -/

/-- The directory of a scan is a place: it starts at the root and does not go back. -/
structure Scan.Placed (s : Scan) : Prop where
  eq : s.sourceDir = .ofParts s.sourceDir.parts
  up : ".." ∉ s.sourceDir.parts
  hasNull : s.sourceDir.hasNull = false

/-- What is said of a scan when it is made. -/
def Scan.summary (s : Scan) : List (String × Value) :=
  (s.report s.sourceDir).summary

/-- What a scan tells of itself, whatever the files. -/
def Scan.view (s : Scan) : Question → Value
  | .overview => s.overview s.sourceDir
  | .components eligibleOnly => s.components s.sourceDir eligibleOnly
  | .candidates limit => s.candidates limit

/-- Whether a question is answered by what the report on a scan tells. -/
def Question.isReported : Question → Bool
  | .overview => true
  | .components _ => true
  | .candidates _ => false

/-- The directory of a scan resolves to itself, if no link is on the way to it. -/
theorem Scan.Placed.resolve? (h : scan.Placed) (hclear : s.links.IsClear scan.sourceDir.parts) :
    s.resolve? scan.sourceDir = some scan.sourceDir := by
  rw [Surroundings.resolve?, h.eq]
  exact Links.resolve?_ofParts ⟨hclear, h.up⟩ (h.eq ▸ h.hasNull) _

/-- What only fails with an answer that tells so. -/
def Fails {α : Type} (x : Except Response α) : Prop :=
  ∀ response, x = .error response → response.status ≠ 200

/-- Steps that fail with answers that tell so do so one after another. -/
theorem Fails.bind {α β : Type} {x : Except Response α} {f : α → Except Response β} (hx : Fails x)
    (hf : ∀ a, Fails (f a)) : Fails (x >>= f) := by
  intro response h
  cases x with
  | error cause =>
    cases h
    exact hx response rfl
  | ok a => exact hf a response h

theorem fails_error {α : Type} (h : response.status ≠ 200) :
    Fails (.error response : Except Response α) := by
  rintro _ ⟨⟩
  exact h

theorem fails_detail {α : Type} {status : Nat} (h : status ≠ 200) (text : String) :
    Fails (.error (.detail status text) : Except Response α) :=
  fails_error h

theorem fails_broken {α : Type} : Fails (.error .broken : Except Response α) :=
  fails_error (by decide)

theorem fails_ok {α : Type} (a : α) : Fails (.ok a) :=
  fun _ h => nomatch h

/-- A directory that cannot be scanned is answered as a failure. -/
theorem fails_directoryOf (s : Surroundings) (path : String) : Fails (directoryOf s path) := by
  unfold directoryOf
  split
  · split
    · exact fails_broken
    · split
      · exact fails_ok _
      · exact fails_detail (by decide) _
      · exact fails_detail (by decide) _
      · exact fails_broken
  · exact fails_broken

/-- Languages that are not known are answered as a failure. -/
theorem fails_languagesOf (names : List String) : Fails (languagesOf names) := by
  unfold languagesOf
  split
  · exact fails_ok _
  · exact fails_detail (by decide) _

/-- A project that cannot be scanned is answered as a failure. -/
theorem fails_projectOf (s : Surroundings) (order : ScanOrder) : Fails (projectOf s order) := by
  refine (fails_directoryOf s _).bind fun sourceDir => ?_
  refine (fails_languagesOf _).bind fun languages => ?_
  split
  · exact fails_ok _
  · split
    · exact fails_broken
    · exact fails_ok _

/-- A failure is not answered as a success. -/
theorem answerTo_status (cause : Failure) : (answerTo cause).status ≠ 200 := by
  unfold answerTo
  split
  · exact (by decide : (400 : Nat) ≠ 200)
  · split
    · decide
    · exact (by decide : (500 : Nat) ≠ 200)
    · decide

/-- A scan that cannot be made is answered as a failure. -/
theorem fails_scanOf (s : Surroundings) (name : ScanName) (order : ScanOrder) :
    Fails (scanOf s name order) := by
  refine (fails_projectOf s order).bind fun p => ?_
  split
  · exact fails_error (answerTo_status _)
  · exact fails_ok _

/-- The directory of a scan is one that has been found. -/
theorem plain_of_directoryOf {path : String} {place : Path} (h : directoryOf s path = .ok place) :
    place = .ofParts place.parts ∧ s.links.Plain place.parts ∧ place.hasNull = false := by
  unfold directoryOf at h
  split at h
  · split at h
    · cases h
    · rename_i p hresolve
      obtain ⟨parts, rfl, hplain⟩ := Links.plain_of_resolve? hresolve
      split at h
      · rename_i hoccurs _
        cases h
        exact ⟨rfl, hplain, (FileSystem.ask_eq_true.mp hoccurs).1⟩
      · cases h
      · cases h
      · cases h
  · cases h

/-- A scan goes by the name that is given to it, and is about a place to which no link
is on the way. -/
theorem placed_of_scanOf {given : ScanName} {order : ScanOrder}
    (h : scanOf s given order = .ok scan) :
    scan.Placed ∧ s.links.IsClear scan.sourceDir.parts ∧ scan.name = given := by
  obtain ⟨p, hp, hscan⟩ := Outcome.bind_eq_ok.mp h
  obtain ⟨sourceDir, hsource, hrest⟩ := Outcome.bind_eq_ok.mp hp
  obtain ⟨languages, -, hproject⟩ := Outcome.bind_eq_ok.mp hrest
  obtain ⟨heq, hplain, hnull⟩ := plain_of_directoryOf hsource
  have hdirectory : p.sourceDir = sourceDir := by
    split at hproject
    · cases hproject
      rfl
    · split at hproject
      · cases hproject
      · cases hproject
        rfl
  subst hdirectory
  split at hscan
  · cases hscan
  · cases hscan
    exact ⟨⟨heq, hplain.up, hnull⟩, hplain.clear, rfl⟩

/-- What is told of a scan when it has been made. -/
def Scan.news (s : Scan) : Value :=
  .ofMembers (("scan_id", .ofString s.name.val) :: s.summary)

/-- What is told of a new scan can be sent. -/
theorem isSendable_news (scan : Scan) : isSendable scan.news = true := by
  refine (isSendable_ofMembers ["scan_id", "total_files", "checked_files", "eligible_files",
    "components", "cycles"] (by decide) rfl).trans ?_
  rw [List.map_cons, List.all_cons, isSendable_ofString, scan.name.2]
  rfl

/-- **What a request for a scan does**: it makes a scan and tells its name and
summary, or it fails and leaves everything as it was. -/
theorem post_cases (server : Server) (s : Surroundings) (body : Option Value) :
    (∃ scan : Scan, scan.Placed ∧ scan.name = s.nameOf server.made ∧
      server.post s body = (.ok scan.news, server.keep scan)) ∨
    ((server.post s body).2 = server ∧ (server.post s body).1.status ≠ 200) := by
  unfold Server.post
  split
  · exact .inr ⟨rfl, (by decide : (422 : Nat) ≠ 200)⟩
  · rename_i order _
    split
    · rename_i response hfails
      exact .inr ⟨rfl, fails_scanOf _ _ _ response hfails⟩
    · rename_i scan hscan
      obtain ⟨hplaced, hclear, hname⟩ := placed_of_scanOf hscan
      refine .inl ⟨scan, hplaced, hname, ?_⟩
      rw [Scan.reported, hplaced.resolve? hclear]
      rfl

/-! ## Visits -/

/-- A request, with the surroundings in which it comes. -/
structure Visit where
  /-- The surroundings. -/
  around : Surroundings
  /-- The request. -/
  request : Request

/-- What a visit brings: the answer, and the service afterwards. -/
def Server.visit (server : Server) (v : Visit) : Response × Server :=
  server.handle v.around v.request

theorem Server.visit_eq (server : Server) (v : Visit) : server.visit v =
    ((server.respond v.around v.request).1.sent, (server.respond v.around v.request).2) := rfl

/-- **What a visit does to the scans that are kept.** -/
inductive Effect (server : Server) (v : Visit) : Prop
  /-- A scan is made, and its name and summary told. -/
  | made (scan : Scan) (hposts : v.request.Posts) (hplaced : scan.Placed)
      (hname : scan.name = v.around.nameOf server.made)
      (heq : server.visit v = (.ok scan.news, server.keep scan))
  /-- A scan is deleted. -/
  | deleted (scan : Scan) (name : String) (hdeletes : v.request.Deletes name)
      (hfound : server.find? name = some scan)
      (heq : server.visit v = (.ok (.ofMembers [("deleted", .ofString name)]), server.delete name))
  /-- Nothing is changed: no request for a scan succeeds, and none to delete one. -/
  | none (heq : (server.visit v).2 = server)
      (hposts : v.request.Posts → (server.visit v).1.status ≠ 200)
      (hdeletes : ∀ name, v.request.Deletes name →
        server.find? name = .none ∧ (server.visit v).1 = Server.unknown)

theorem Request.not_deletes_of_posts (h : r.Posts) : ¬ r.Deletes name := fun hd =>
  absurd (h.1.symm.trans hd.1) (by decide)

theorem Request.deletes_unique {name' : String} (h : r.Deletes name) (h' : r.Deletes name') :
    name = name' :=
  Route.scan.inj (Option.some.inj (h.2.symm.trans h'.2))

theorem Server.name_of_find? (h : server.find? name = some scan) :
    scan ∈ server.scans ∧ scan.name.val = name :=
  ⟨List.mem_of_find?_eq_some h, by simpa using List.find?_some h⟩

/-- What is told of a scan that has been deleted can be sent. -/
theorem isSendable_deleted (h : server.find? name = some scan) :
    isSendable (.ofMembers [("deleted", .ofString name)]) = true := by
  obtain ⟨-, rfl⟩ := Server.name_of_find? h
  refine (isSendable_ofMembers ["deleted"] (by decide) rfl).trans ?_
  simp only [List.map_cons, List.map_nil, List.all_cons, List.all_nil, isSendable_ofString,
    scan.name.2, Bool.not_false, Bool.and_self]

/-- Every visit has one of these effects. -/
theorem effect_of_visit (server : Server) (v : Visit) : Effect server v := by
  have hvisit := server.visit_eq v
  by_cases hposts : v.request.Posts
  · rw [Server.respond_of_posts hposts] at hvisit
    rcases post_cases server v.around v.request.body with
      ⟨scan, hplaced, hname, hmade⟩ | ⟨hsame, hfails⟩
    · rw [hmade, Response.sent_ok (isSendable_news scan)] at hvisit
      exact .made scan hposts hplaced hname hvisit
    · refine .none (by rw [hvisit, hsame]) (fun _ => ?_) fun name hdeletes => ?_
      · rw [hvisit]
        exact Response.sent_status hfails
      · exact absurd hdeletes (Request.not_deletes_of_posts hposts)
  · by_cases hdeletes : ∃ name, v.request.Deletes name
    · obtain ⟨name, hdeletes⟩ := hdeletes
      rw [Server.respond_of_deletes hdeletes, Server.remove] at hvisit
      cases hfound : server.find? name with
      | some scan =>
        rw [hfound, Response.sent_ok (isSendable_deleted hfound)] at hvisit
        exact .deleted scan name hdeletes hfound hvisit
      | none =>
        simp only [hfound, Server.sent_unknown] at hvisit
        refine .none (by rw [hvisit]) (fun h => absurd h hposts) fun name' hdeletes' => ?_
        obtain rfl := Request.deletes_unique hdeletes' hdeletes
        exact ⟨hfound, by rw [hvisit]⟩
    · refine .none ?_ (fun h => absurd h hposts) fun name h => absurd ⟨name, h⟩ hdeletes
      rw [hvisit]
      exact Server.respond_of_other hposts fun name h => hdeletes ⟨name, h⟩

/-! ## Looking up a scan -/

namespace Server

theorem find?_eq_none :
    server.find? name = none ↔ ∀ scan ∈ server.scans, scan.name.val ≠ name := by
  simp [find?]

/-- Keeping a scan adds it after the others. -/
theorem find?_keep (server : Server) (scan : Scan) (name : String) : (server.keep scan).find? name =
    (server.find? name).or (if scan.name.val = name then some scan else none) := by
  rw [find?, keep, List.find?_append, find?, List.find?_singleton]
  simp

/-- Deleting a scan leaves the others. -/
theorem find?_delete (server : Server) (name' name : String) : (server.delete name').find? name =
    if name = name' then none else server.find? name := by
  rw [find?, delete, List.find?_filter]
  split
  · rename_i heq
    simp [heq]
  · rename_i hne
    rw [find?]
    congr 1
    funext scan
    by_cases h : scan.name.val = name
    · simp [h, hne]
    · simp [h]

end Server

end Ratchet.Web
