import Mathlib.Data.List.Perm.Basic
import Ratchet.Graph.Pool
import Ratchet.Proofs.Basic

/-!
# Files asked for at once

Whatever the order in which replies come and are noted, a pool loses no file and
asks for none twice: at any time each file of the build is in the queue, with a
worker, replied to or noted. Whatever is replied, a pool can be finished: the files
may be asked for, replied to and noted one by one.

* `Happens`: what can happen in a pool.
* `Reached.run`: what a pool has done after some events.
* `Reached.finished`: what a builder has noted when its pool is finished.
* `run_oneByOne`: a pool can be finished.
-/

namespace Ratchet.Graph.Pool

variable {ε : Type} {b : Builder} {p p' : Pool ε} {e : Event ε} {es es' : List (Event ε)}
  {files : List String} {workers : Nat} {f : String} {answer : Reply ε}

/-! ## What can happen -/

/-- **What can happen in a pool**, and what comes of it. -/
inductive Happens (workers : Nat) (p : Pool ε) : Event ε → Pool ε → Prop where
  /-- A free worker takes up the next file. -/
  | ask {f : String} {rest : List String} (hqueue : p.queue = f :: rest)
    (hfree : p.busy.length < workers) :
    Happens workers p (.ask f) { p with queue := rest, busy := f :: p.busy }
  /-- A worker replies. -/
  | reply {f : String} (answer : Reply ε) (hbusy : f ∈ p.busy) :
    Happens workers p (.reply f answer)
      { p with busy := p.busy.erase f, replied := (f, answer) :: p.replied }
  /-- A reply is noted. -/
  | note {f : String} {answer : Reply ε} (hreplied : p.replied.lookup f = some answer) :
    Happens workers p (.note f)
      { p with
        replied := p.replied.filter (·.1 ≠ f)
        builder := p.builder.remember f answer.imports }

/-- A step is what may happen. -/
theorem step_eq_some : p.step workers e = some p' ↔ p.Happens workers e p' := by
  constructor
  · intro hstep
    cases e with
    | ask f =>
      obtain ⟨⟨hhead, hfree⟩, heq⟩ := Option.ite_none_right_eq_some.mp hstep
      obtain ⟨rest, hqueue⟩ := List.head?_eq_some_iff.mp hhead
      cases heq
      rw [hqueue]
      exact .ask hqueue hfree
    | reply f answer =>
      obtain ⟨hbusy, heq⟩ := Option.ite_none_right_eq_some.mp hstep
      cases heq
      exact .reply answer hbusy
    | note f =>
      obtain ⟨answer, hreplied, rfl⟩ := Option.map_eq_some_iff.mp hstep
      exact .note hreplied
  · intro h
    cases h with
    | ask hqueue hfree => rw [step, hqueue, if_pos ⟨rfl, hfree⟩, List.tail_cons]
    | reply answer hbusy => rw [step, if_pos hbusy]
    | note hreplied => rw [step, hreplied, Option.map_some]

/-! ## What is on record -/

@[simp] theorem asked_append : asked (es ++ es') = asked es ++ asked es' :=
  List.filterMap_append

@[simp] theorem replies_append : replies (es ++ es') = replies es ++ replies es' :=
  List.filterMap_append

/-- What a builder writes down for a reply. -/
def entry (e : String × Reply ε) : String × List String :=
  (e.1, ascending e.2.imports)

theorem lookup_map_entry (l : List (String × Reply ε)) (f : String) :
    (l.map entry).lookup f = (l.lookup f).map fun reply => ascending reply.imports := by
  induction l with
  | nil => rfl
  | cons e l ih =>
    rw [List.map_cons, entry, lookup_cons_eq, ih, lookup_cons_eq]
    split <;> rfl

/-- **What a pool has done** after some events: the files are asked for in their
order, each of those is with a worker or replied to, and each reply is waiting
or noted. -/
structure Reached (b : Builder) (files : List String) (es : List (Event ε)) (p : Pool ε) :
    Prop where
  queue : asked es ++ p.queue = files
  busy : (p.busy ++ (replies es).map (·.1)).Perm (asked es)
  noted : ∃ noted, (replies es).Perm (p.replied ++ noted) ∧
    p.builder.known = b.known ++ noted.map entry

theorem reached_start : Reached b files ([] : List (Event ε)) { queue := files, builder := b } where
  queue := rfl
  busy := .rfl
  noted := ⟨[], .rfl, (List.append_nil _).symm⟩

namespace Reached

theorem nodup_asked (h : Reached b files es p) (hfiles : files.Nodup) : (asked es).Nodup :=
  (h.queue ▸ hfiles).of_append_left

theorem nodup_replies (h : Reached b files es p) (hfiles : files.Nodup) :
    ((replies es).map (·.1)).Nodup :=
  (h.busy.nodup_iff.mpr (h.nodup_asked hfiles)).of_append_right

theorem nodup_replied (h : Reached b files es p) (hfiles : files.Nodup) :
    (p.replied.map (·.1)).Nodup := by
  obtain ⟨noted, hnoted, -⟩ := h.noted
  have hperm := hnoted.map (·.1)
  rw [List.map_append] at hperm
  exact (hperm.nodup_iff.mp (h.nodup_replies hfiles)).of_append_left

/-- A worker takes up the next file. -/
theorem ask (h : Reached b files es p) {rest : List String} (hqueue : p.queue = f :: rest) :
    Reached b files (es ++ [.ask f]) { p with queue := rest, busy := f :: p.busy } := by
  have hasked : asked (es ++ [Event.ask f]) = asked es ++ [f] := asked_append
  have hreplies : replies (es ++ [Event.ask f]) = replies es := by
    rw [replies_append]
    exact List.append_nil _
  refine ⟨?_, ?_, by rw [hreplies]; exact h.noted⟩
  · rw [hasked, ← h.queue, hqueue, List.append_assoc]
    rfl
  · rw [hasked, hreplies]
    exact (h.busy.cons f).trans (List.perm_append_singleton f _).symm

/-- A reply comes from a worker. -/
theorem reply (h : Reached b files es p) (answer : Reply ε) (hbusy : f ∈ p.busy) :
    Reached b files (es ++ [.reply f answer])
      { p with busy := p.busy.erase f, replied := (f, answer) :: p.replied } := by
  have hasked : asked (es ++ [Event.reply f answer]) = asked es := by
    rw [asked_append]
    exact List.append_nil _
  have hreplies : replies (es ++ [Event.reply f answer]) = replies es ++ [(f, answer)] :=
    replies_append
  refine ⟨by rw [hasked]; exact h.queue, ?_, ?_⟩
  · rw [hasked, hreplies, List.map_append, List.map_singleton]
    -- the file goes over from those that a worker is busy with
    have hmoved : (p.busy.erase f ++ ((replies es).map (·.1) ++ [f])).Perm
        (f :: p.busy.erase f ++ (replies es).map (·.1)) := by
      rw [← List.append_assoc]
      exact List.perm_append_singleton f _
    exact hmoved.trans (((List.perm_cons_erase hbusy).symm.append_right _).trans h.busy)
  · obtain ⟨noted, hnoted, hknown⟩ := h.noted
    refine ⟨noted, ?_, hknown⟩
    rw [hreplies]
    exact (List.perm_append_singleton _ _).trans (hnoted.cons _)

/-- A reply is noted. -/
theorem note (h : Reached b files es p) (hfiles : files.Nodup)
    (hreplied : p.replied.lookup f = some answer) :
    Reached b files (es ++ [.note f])
      { p with
        replied := p.replied.filter (·.1 ≠ f)
        builder := p.builder.remember f answer.imports } := by
  have hasked : asked (es ++ [Event.note f]) = asked es := by
    rw [asked_append]
    exact List.append_nil _
  have hreplies : replies (es ++ [Event.note f]) = replies es := by
    rw [replies_append]
    exact List.append_nil _
  refine ⟨by rw [hasked]; exact h.queue, by rw [hasked, hreplies]; exact h.busy, ?_⟩
  obtain ⟨noted, hnoted, hknown⟩ := h.noted
  refine ⟨noted ++ [(f, answer)], ?_, ?_⟩
  · -- a file is asked for once, so its reply is the only one taken off
    have htaken := perm_cons_filter_ne (h.nodup_replied hfiles) hreplied
    rw [hreplies, ← List.append_assoc]
    refine hnoted.trans ((htaken.append_right noted).trans ?_)
    exact (List.perm_append_singleton _ _).symm
  · rw [Builder.remember, hknown, List.map_append, ← List.append_assoc]
    rfl

/-- A step leads from what is reached to what is reached. -/
theorem step (h : Reached b files es p) (hfiles : files.Nodup)
    (hstep : p.step workers e = some p') : Reached b files (es ++ [e]) p' := by
  cases step_eq_some.mp hstep with
  | ask hqueue => exact h.ask hqueue
  | reply answer hbusy => exact h.reply answer hbusy
  | note hreplied => exact h.note hfiles hreplied

/-- **What has been done stays done**, whatever else happens. -/
theorem run (h : Reached b files es p) (hfiles : files.Nodup)
    (hrun : p.run workers es' = some p') : Reached b files (es ++ es') p' := by
  induction es' generalizing es p with
  | nil =>
    cases hrun
    rwa [List.append_nil]
  | cons e es' ih =>
    obtain ⟨p₁, hstep, hrest⟩ := Option.bind_eq_some_iff.mp hrun
    rw [List.append_cons]
    exact ih (h.step hfiles hstep) hrest

/-- **A finished pool** has asked for every file once and noted every reply. -/
theorem finished (h : Reached b files es p) (hfiles : files.Nodup) (hfinished : p.isFinished) :
    asked es = files ∧ ((replies es).map (·.1)).Perm files ∧
      ∀ f, p.builder.known.lookup f = (b.known.lookup f).or
        (((replies es).lookup f).map fun answer => ascending answer.imports) := by
  obtain ⟨⟨hqueue, hbusy⟩, hreplied⟩ : (p.queue = [] ∧ p.busy = []) ∧ p.replied = [] := by
    simpa [isFinished] using hfinished
  have hasked : asked es = files := by
    rw [← h.queue, hqueue, List.append_nil]
  have hall : ((replies es).map (·.1)).Perm files := by
    have hperm := h.busy
    rwa [hbusy, List.nil_append, hasked] at hperm
  refine ⟨hasked, hall, fun f => ?_⟩
  obtain ⟨noted, hnoted, hknown⟩ := h.noted
  rw [hreplied, List.nil_append] at hnoted
  rw [hknown, List.lookup_append, lookup_map_entry,
    lookup_perm (h.nodup_replies hfiles) hnoted]

end Reached

/-! ## Going on -/

/-- The files of a queue asked for, replied to and noted one by one. -/
def oneByOne (extract : String → Reply ε) (files : List String) : List (Event ε) :=
  files.flatMap fun f => [.ask f, .reply f (extract f), .note f]

/-- Asking and waiting in turn is going one by one. -/
theorem isOneByOne_oneByOne (extract : String → Reply ε) (files : List String) :
    isOneByOne (oneByOne extract files) = true := by
  induction files with
  | nil => rfl
  | cons f files ih => exact ih

/-- One by one, the replies come in the order of the files. -/
theorem replies_oneByOne (extract : String → Reply ε) (files : List String) :
    replies (oneByOne extract files) = files.map fun f => (f, extract f) := by
  induction files with
  | nil => rfl
  | cons f files ih => exact congrArg _ ih

/-- Going through the files one by one is possible with any number of workers. -/
theorem run_oneByOne (hworkers : 0 < workers) (extract : String → Reply ε) (files : List String)
    (b : Builder) : run workers { queue := files, builder := b } (oneByOne extract files) =
      some { queue := [], builder := b.fill (fun f => (extract f).imports) files } := by
  induction files generalizing b with
  | nil => rfl
  | cons f files ih =>
    have hfirst : run workers { queue := f :: files, builder := b }
        (oneByOne extract (f :: files)) =
          run workers { queue := files, builder := b.remember f (extract f).imports }
            (oneByOne extract files) := by
      simp [oneByOne, run, step, hworkers, List.lookup_cons_self]
    rw [hfirst, ih]
    rfl

end Ratchet.Graph.Pool
