import Ratchet.Graph.Digraph

/-!
# Depth-first search

A `Walk` follows the edges of a graph depth first and closes the classes of
mutually reachable vertices one after the other. Every vertex gets a number
when it is met, and a low mark, which falls to the least number on the stack
that the walk has seen an edge lead back to.

* `Walk.step`: one step. It takes up a root, follows one edge, or leaves a
  vertex; leaving a vertex whose low mark is its own number pops its class
  off the stack.
* `Walk.run`: step after step. Each step meets a vertex, uses up a root, or
  shortens what the path has still to follow, so the walk ends.
* `Digraph.classes`: the classes in the order in which they are closed.

`Step.emptyStack` is the outcome of popping from an empty stack. The path
lies on the stack throughout (`PathOnStack`), so it never comes to that.
-/

namespace Ratchet.Graph

variable {α : Type}

/-- A walk under way. The lists have the latest entry first, `roots` apart. -/
structure Walk (α : Type) where
  /-- The vertices to start from, as far as not taken up. -/
  roots : List α
  /-- The path walked: each vertex on it with the successors not followed yet. -/
  path : List (α × List α) := []
  /-- The vertices met that are in no class yet. -/
  stack : List α := []
  /-- The numbers of the vertices met. -/
  index : List (α × Nat) := []
  /-- The low marks of the vertices met; the latest entry of a vertex counts. -/
  low : List (α × Nat) := []
  /-- The classes closed. -/
  closed : List (List α) := []

/-- What a step of a walk comes to. -/
inductive Step (α : Type) where
  /-- The walk goes on. -/
  | next (w : Walk α)
  /-- The walk has ended. -/
  | done (classes : List (List α))
  /-- A class could not be popped: the stack ran empty. -/
  | emptyStack

/-- Pop up to a vertex and with it: what was popped, and what is left. -/
def popTo [DecidableEq α] (v : α) : List α → Option (List α × List α)
  | [] => none
  | x :: stack =>
    if x = v then some ([x], stack)
    else (popTo v stack).map fun (members, rest) => (x :: members, rest)

namespace Walk

/-- A walk that has not begun. -/
def start (g : Digraph α) : Walk α where
  roots := g.vertices

variable [DecidableEq α]

/-- Whether a vertex has been met. -/
def isMet (w : Walk α) (v : α) : Bool :=
  (w.index.lookup v).isSome

/-- The number of a vertex met: how many were met before it. -/
def number (w : Walk α) (v : α) : Nat :=
  (w.index.lookup v).getD 0

/-- The low mark of a vertex met. -/
def lowMark (w : Walk α) (v : α) : Nat :=
  (w.low.lookup v).getD 0

/-- Meet a vertex: number it, and put it on the path and on the stack. -/
def enter (g : Digraph α) (v : α) (w : Walk α) : Walk α :=
  { w with
    path := (v, g.succ v) :: w.path
    stack := v :: w.stack
    index := (v, w.index.length) :: w.index
    low := (v, w.index.length) :: w.low }

/-- Let the low mark of a vertex fall to a number, if that is less. -/
def lower (v : α) (n : Nat) (w : Walk α) : Walk α :=
  { w with low := (v, min (w.lowMark v) n) :: w.low }

/-- Follow an edge to a successor. -/
def follow (g : Digraph α) (v t : α) (w : Walk α) : Walk α :=
  if t ∉ g.vertices then w
  else if !w.isMet t then w.enter g t
  else if t ∈ w.stack then w.lower v (w.number t)
  else w

/-- Hand the low mark of a vertex just left to the vertex before it. -/
def handDown (v : α) (w : Walk α) : Walk α :=
  match w.path with
  | [] => w
  | (parent, _) :: _ => w.lower parent (w.lowMark v)

/-- Close the class of a vertex: all that lies on the stack down to it. -/
def close (v : α) (w : Walk α) : Step α :=
  match popTo v w.stack with
  | none => .emptyStack
  | some (members, rest) => .next { w with stack := rest, closed := members :: w.closed }

/-- Close the class of a vertex that was the first met of it. -/
def closeFrom (v : α) (w : Walk α) : Step α :=
  if w.lowMark v = w.number v then w.close v else .next w

/-- Leave a vertex just taken off the path. -/
def leave (v : α) (w : Walk α) : Step α :=
  (w.handDown v).closeFrom v

/-- Take up a root; one already met changes nothing. -/
def takeUp (g : Digraph α) (root : α) (w : Walk α) : Walk α :=
  if w.isMet root then w else w.enter g root

/-- **One step of a walk.** -/
def step (g : Digraph α) (w : Walk α) : Step α :=
  match w.path with
  | (v, t :: ts) :: path => .next ({ w with path := (v, ts) :: path }.follow g v t)
  | (v, []) :: path => { w with path }.leave v
  | [] =>
    match w.roots with
    | root :: roots => .next ({ w with roots }.takeUp g root)
    | [] => .done w.closed.reverse

/-! ## The numbers and the marks after each operation -/

section

variable {g : Digraph α} {w : Walk α} {v x : α} {n : Nat}

@[simp] theorem isMet_enter : (w.enter g v).isMet x = (decide (x = v) || w.isMet x) := by
  by_cases h : x = v
  · simp [isMet, enter, h]
  · simp [isMet, enter, List.lookup_cons, beq_false_of_ne h, h]

theorem number_enter_self : (w.enter g v).number v = w.index.length := by
  simp [number, enter]

theorem number_enter_of_ne (h : x ≠ v) : (w.enter g v).number x = w.number x := by
  simp [number, enter, List.lookup_cons, beq_false_of_ne h]

theorem lowMark_enter_self : (w.enter g v).lowMark v = w.index.length := by
  simp [lowMark, enter]

theorem lowMark_enter_of_ne (h : x ≠ v) : (w.enter g v).lowMark x = w.lowMark x := by
  simp [lowMark, enter, List.lookup_cons, beq_false_of_ne h]

@[simp] theorem isMet_lower : (w.lower v n).isMet x = w.isMet x := rfl

@[simp] theorem number_lower : (w.lower v n).number x = w.number x := rfl

theorem lowMark_lower_self : (w.lower v n).lowMark v = min (w.lowMark v) n := by
  simp [lowMark, lower]

theorem lowMark_lower_of_ne (h : x ≠ v) : (w.lower v n).lowMark x = w.lowMark x := by
  simp [lowMark, lower, List.lookup_cons, beq_false_of_ne h]

@[simp] theorem isMet_handDown : (w.handDown v).isMet x = w.isMet x := by
  unfold handDown; split <;> simp

@[simp] theorem number_handDown : (w.handDown v).number x = w.number x := by
  unfold handDown; split <;> simp

/-- Handing a mark down changes that of the parent alone, and only if it was
greater. -/
theorem lowMark_handDown (h : ∀ f ∈ w.path.head?, x = f.1 → w.lowMark x ≤ w.lowMark v) :
    (w.handDown v).lowMark x = w.lowMark x := by
  unfold handDown
  split
  · rfl
  · rename_i p ps path hp
    by_cases hx : x = p
    · have hle := h (p, ps) (by simp [hp]) hx
      subst hx
      rw [lowMark_lower_self, Nat.min_eq_left hle]
    · exact lowMark_lower_of_ne hx

theorem lowMark_handDown_self : (w.handDown v).lowMark v = w.lowMark v :=
  lowMark_handDown fun _ _ _ => Nat.le_refl _

@[simp] theorem path_handDown : (w.handDown v).path = w.path := by
  unfold handDown; split <;> rfl

@[simp] theorem stack_handDown : (w.handDown v).stack = w.stack := by
  unfold handDown; split <;> rfl

@[simp] theorem roots_handDown : (w.handDown v).roots = w.roots := by
  unfold handDown; split <;> rfl

@[simp] theorem index_handDown : (w.handDown v).index = w.index := by
  unfold handDown; split <;> rfl

@[simp] theorem closed_handDown : (w.handDown v).closed = w.closed := by
  unfold handDown; split <;> rfl

end

/-! ## The walk ends -/

/-- How many vertices have not been met. -/
def unmet (g : Digraph α) (w : Walk α) : Nat :=
  g.vertices.countP fun v => !w.isMet v

/-- The edges that the path has still to follow, and its vertices, which it
has still to leave. -/
def remaining (w : Walk α) : Nat :=
  (w.path.flatMap (·.2)).length + w.path.length

/-- What a step makes less, the first difference deciding: the vertices not
met, the roots not taken up, and what remains of the path. -/
def rank (g : Digraph α) (w : Walk α) : Nat × Nat × Nat :=
  (w.unmet g, w.roots.length, w.remaining)

theorem unmet_enter_le {g : Digraph α} {w : Walk α} {v : α} :
    (w.enter g v).unmet g ≤ w.unmet g := by
  refine List.countP_mono_left fun x _ hx => ?_
  simp_all

theorem unmet_enter_lt {g : Digraph α} {w : Walk α} {v : α} (hv : v ∈ g.vertices)
    (hm : w.isMet v = false) : (w.enter g v).unmet g < w.unmet g := by
  obtain ⟨before, after, h⟩ := List.append_of_mem hv
  have hle (l : List α) : l.countP (fun x => !(w.enter g v).isMet x) ≤
      l.countP fun x => !w.isMet x := by
    refine List.countP_mono_left fun x _ hx => ?_
    simp_all
  have hb := hle before
  have ha := hle after
  simp only [unmet, h, List.countP_append, List.countP_cons, isMet_enter, decide_true,
    Bool.true_or, hm] at ha hb ⊢
  simp only [Bool.not_true, Bool.not_false, Bool.false_eq_true, if_true, if_false]
  omega

theorem rank_takeUp_lt {g : Digraph α} {w : Walk α} {root : α} {roots : List α}
    (h : w.roots = root :: roots) :
    Prod.Lex (· < ·) (Prod.Lex (· < ·) (· < ·))
      (({ w with roots }.takeUp g root).rank g) (w.rank g) := by
  have hroots : ({ w with roots }.takeUp g root).roots.length < w.roots.length := by
    unfold takeUp
    split <;> simp [enter, h]
  have hunmet : ({ w with roots }.takeUp g root).unmet g ≤ w.unmet g := by
    unfold takeUp
    split
    · exact Nat.le_refl _
    · exact unmet_enter_le (w := { w with roots })
  rcases Nat.lt_or_eq_of_le hunmet with hlt | heq
  · exact .left _ _ hlt
  · rw [rank, heq]
    exact .right _ (.left _ _ hroots)

theorem rank_follow_lt {g : Digraph α} {w : Walk α} {v t : α} {ts : List α}
    {path : List (α × List α)} (h : w.path = (v, t :: ts) :: path) :
    Prod.Lex (· < ·) (Prod.Lex (· < ·) (· < ·))
      (({ w with path := (v, ts) :: path }.follow g v t).rank g) (w.rank g) := by
  have hsize : { w with path := (v, ts) :: path }.remaining < w.remaining := by
    simp [remaining, h]
  unfold follow
  split
  · exact .right _ (.right _ hsize)
  · rename_i ht
    split
    · rename_i hm
      exact .left _ _ (unmet_enter_lt (w := { w with path := (v, ts) :: path })
        (by simpa using ht) (by simpa using hm))
    · split <;> exact .right _ (.right _ hsize)

/-- What leaving a vertex can come to, when the walk goes on. -/
theorem leave_cases {w w' : Walk α} {v : α} (h : w.leave v = .next w') :
    ((w.handDown v).lowMark v ≠ w.number v ∧ w' = w.handDown v) ∨
    ((w.handDown v).lowMark v = w.number v ∧ ∃ members rest,
      popTo v w.stack = some (members, rest) ∧
      w' = { w.handDown v with stack := rest, closed := members :: w.closed }) := by
  simp only [leave, closeFrom, close, number_handDown, stack_handDown, closed_handDown] at h
  by_cases hlow : (w.handDown v).lowMark v = w.number v
  · rw [if_pos hlow] at h
    cases hp : popTo v w.stack with
    | none => rw [hp] at h; cases h
    | some popped =>
      rw [hp] at h
      cases h
      exact .inr ⟨hlow, _, _, rfl, rfl⟩
  · rw [if_neg hlow] at h
    cases h
    exact .inl ⟨hlow, rfl⟩

theorem rank_leave_lt {g : Digraph α} {w w' : Walk α} {v : α} {path : List (α × List α)}
    (h : w.path = (v, []) :: path) (hl : { w with path }.leave v = .next w') :
    Prod.Lex (· < ·) (Prod.Lex (· < ·) (· < ·)) (w'.rank g) (w.rank g) := by
  have hkept : w'.path = path ∧ w'.roots = w.roots ∧ w'.index = w.index := by
    obtain ⟨-, rfl⟩ | ⟨-, members, rest, -, rfl⟩ := leave_cases hl <;> simp
  obtain ⟨hpath, hroots, hindex⟩ := hkept
  have hunmet : w'.unmet g = w.unmet g := by
    simp only [unmet, isMet, hindex]
  have hsize : w'.remaining < w.remaining := by
    simp [remaining, h, hpath]
  rw [rank, hunmet, hroots]
  exact .right _ (.right _ hsize)

/-- What a step can be, when the walk goes on. -/
theorem step_cases {g : Digraph α} {w w' : Walk α} (h : w.step g = .next w') :
    (∃ v t ts path, w.path = (v, t :: ts) :: path ∧
      w' = { w with path := (v, ts) :: path }.follow g v t) ∨
    (∃ v path, w.path = (v, []) :: path ∧ { w with path }.leave v = .next w') ∨
    (∃ root roots, w.path = [] ∧ w.roots = root :: roots ∧
      w' = { w with roots }.takeUp g root) := by
  unfold step at h
  split at h
  · cases h; exact .inl ⟨_, _, _, _, ‹_›, rfl⟩
  · exact .inr (.inl ⟨_, _, ‹_›, h⟩)
  · split at h
    · cases h; exact .inr (.inr ⟨_, _, ‹_›, ‹_›, rfl⟩)
    · cases h

/-- **Every step that goes on makes the rank less.** -/
theorem rank_lt_of_step {g : Digraph α} {w w' : Walk α} (h : w.step g = .next w') :
    Prod.Lex (· < ·) (Prod.Lex (· < ·) (· < ·)) (w'.rank g) (w.rank g) := by
  obtain ⟨v, t, ts, path, hp, rfl⟩ | ⟨v, path, hp, hl⟩ | ⟨root, roots, -, hr, rfl⟩ :=
    step_cases h
  · exact rank_follow_lt hp
  · exact rank_leave_lt hp hl
  · exact rank_takeUp_lt hr

/-- **Step after step, up to the end**: the classes closed, or `none` if a
class could not be popped. -/
def run (g : Digraph α) (w : Walk α) : Option (List (List α)) :=
  match _hs : w.step g with
  | .next w' => w'.run g
  | .done classes => some classes
  | .emptyStack => none
termination_by w.rank g
decreasing_by exact rank_lt_of_step _hs

/-! ## The stack never runs empty -/

/-- The vertices of the path lie on the stack, in the same order. -/
def PathOnStack (w : Walk α) : Prop :=
  (w.path.map (·.1)).Sublist w.stack

/-- Popping up to a vertex splits the stack below that vertex. -/
theorem popTo_eq_some {v : α} {stack members rest : List α}
    (h : popTo v stack = some (members, rest)) :
    ∃ above, members = above ++ [v] ∧ stack = above ++ v :: rest ∧ v ∉ above := by
  induction stack generalizing members with
  | nil => cases h
  | cons x stack ih =>
    unfold popTo at h
    split at h
    · rename_i hx
      cases h
      exact ⟨[], by simp [hx]⟩
    · rename_i hx
      obtain ⟨⟨ms, r⟩, hp, he⟩ := Option.map_eq_some_iff.mp h
      cases he
      obtain ⟨above, rfl, rfl, hv⟩ := ih hp
      exact ⟨x :: above, by simp [hv, Ne.symm hx]⟩

theorem popTo_append {v : α} {above rest : List α} (hv : v ∉ above) :
    popTo v (above ++ v :: rest) = some (above ++ [v], rest) := by
  induction above with
  | nil => simp [popTo]
  | cons x above ih =>
    rw [List.mem_cons, not_or] at hv
    simp [popTo, Ne.symm hv.1, ih hv.2]

theorem popTo_isSome {v : α} {stack : List α} (h : v ∈ stack) : (popTo v stack).isSome := by
  induction stack with
  | nil => cases h
  | cons x stack ih =>
    unfold popTo
    split
    · rfl
    · rename_i hx
      simpa using ih (by simpa [Ne.symm hx] using h)

omit [DecidableEq α] in
/-- What lies in order on a stack, a vertex first, lies in order on what
popping up to that vertex leaves. -/
theorem sublist_of_cons_sublist {v : α} {path above rest : List α} (hv : v ∉ above)
    (h : (v :: path).Sublist (above ++ v :: rest)) : path.Sublist rest := by
  induction above with
  | nil => simpa using h
  | cons x above ih =>
    rw [List.mem_cons, not_or] at hv
    cases h with
    | cons _ h => exact ih hv.2 h
    | cons_cons _ h => exact absurd rfl hv.1

theorem pathOnStack_follow {g : Digraph α} {w : Walk α} {v t : α} (h : w.PathOnStack) :
    (w.follow g v t).PathOnStack := by
  unfold follow
  split
  · exact h
  · split
    · exact h.cons_cons t
    · split <;> exact h

theorem pathOnStack_takeUp {g : Digraph α} {w : Walk α} {root : α} (h : w.PathOnStack) :
    (w.takeUp g root).PathOnStack := by
  unfold takeUp
  split
  · exact h
  · exact h.cons_cons root

/-- **The path lies on the stack throughout.** A class is popped down to the
vertex just left, and the rest of the path lies below that vertex. -/
theorem pathOnStack_step {g : Digraph α} {w w' : Walk α} (hw : w.PathOnStack)
    (h : w.step g = .next w') : w'.PathOnStack := by
  obtain ⟨v, t, ts, path, hp, rfl⟩ | ⟨v, path, hp, hl⟩ | ⟨root, roots, hp, -, rfl⟩ :=
    step_cases h
  · refine pathOnStack_follow ?_
    simpa [PathOnStack, hp] using hw
  · have hon : (v :: path.map (·.1)).Sublist w.stack := by
      simpa [PathOnStack, hp] using hw
    obtain ⟨-, rfl⟩ | ⟨-, members, rest, hpop, rfl⟩ := leave_cases hl
    · simpa [PathOnStack] using (List.sublist_cons_self v _).trans hon
    · obtain ⟨above, -, hstack, hv⟩ := popTo_eq_some hpop
      rw [show w.stack = above ++ v :: rest from hstack] at hon
      simpa [PathOnStack] using sublist_of_cons_sublist hv hon
  · refine pathOnStack_takeUp ?_
    simp [PathOnStack, hp]

/-- So a class can always be popped. -/
theorem step_ne_emptyStack {g : Digraph α} {w : Walk α} (hw : w.PathOnStack) :
    w.step g ≠ .emptyStack := by
  intro h
  unfold step at h
  split at h
  · cases h
  · rename_i v path hp
    have hv : v ∈ w.stack := hw.subset (by simp [hp])
    simp only [leave, closeFrom, close, stack_handDown] at h
    split at h
    · obtain ⟨popped, hpop⟩ := Option.isSome_iff_exists.mp (popTo_isSome hv)
      rw [hpop] at h
      cases h
    · cases h
  · split at h <;> cases h

/-- And the walk ends with classes. -/
theorem isSome_run {g : Digraph α} {w : Walk α} (hw : w.PathOnStack) : (w.run g).isSome := by
  fun_induction run g w with
  | case1 w w' h ih => exact ih (pathOnStack_step hw h)
  | case2 w classes h => rfl
  | case3 w h => exact absurd h (step_ne_emptyStack hw)

end Walk

namespace Digraph

variable [DecidableEq α]

/-- The classes that a walk through a graph closes, if it can pop them all. -/
def classes? (g : Digraph α) : Option (List (List α)) :=
  (Walk.start g).run g

theorem isSome_classes? (g : Digraph α) : g.classes?.isSome :=
  Walk.isSome_run (List.Sublist.refl [])

/-- **The classes of mutually reachable vertices**, in the order in which a
walk through the graph closes them. -/
def classes (g : Digraph α) : List (List α) :=
  g.classes?.get g.isSome_classes?

end Digraph

end Ratchet.Graph
