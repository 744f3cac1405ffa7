import Ratchet.Graph.Builder

/-!
# Asking for several files at once

A builder has a number of workers. The files of a build that it does not know
wait in a queue; each free worker takes up the next one and asks for its
imports. Replies come in any order, and each is noted some time after it came,
so a file can be noted before another one has been taken up. A failure is noted
as a file without imports.

What happened in a build is a list of `Event`s, which says everything that is
not fixed beforehand: the replies, and the order of things.

* `Pool.step`, `Pool.run`: what happens, if it can happen.
* `Builder.buildAlong`: a build in which this and that happened.
* `Builder.buildEach`: one build after another.
-/

namespace Ratchet.Graph

variable {ε : Type}

/-- What comes of asking for the imports of a file: a list, or a failure. -/
abbrev Reply (ε : Type) := Except ε (List String)

/-- The imports that a reply brings: none for a failure. -/
def Reply.imports (reply : Reply ε) : List String :=
  reply.toOption.getD []

/-- Something that happens in a build. -/
inductive Pool.Event (ε : Type) where
  /-- A worker takes a file up and asks for its imports. -/
  | ask (file : String)
  /-- The reply comes. -/
  | reply (file : String) (reply : Reply ε)
  /-- The builder notes the reply. -/
  | note (file : String)

/-- A builder at work on the files of a build. -/
structure Pool (ε : Type) where
  /-- The files that no worker has taken up, in order. -/
  queue : List String
  /-- The files that a worker is busy with. -/
  busy : List String := []
  /-- The files that a reply has come for and is not noted. -/
  replied : List (String × Reply ε) := []
  /-- What is noted. -/
  builder : Builder

namespace Pool

/-- No file is left to be noted. -/
def isFinished (p : Pool ε) : Bool :=
  p.queue.isEmpty && p.busy.isEmpty && p.replied.isEmpty

/-- **Something happens**, if it can. -/
def step (workers : Nat) (p : Pool ε) : Event ε → Option (Pool ε)
  | .ask file =>
    if p.queue.head? = some file ∧ p.busy.length < workers then
      some { p with queue := p.queue.tail, busy := file :: p.busy }
    else none
  | .reply file reply =>
    if file ∈ p.busy then
      some { p with busy := p.busy.erase file, replied := (file, reply) :: p.replied }
    else none
  | .note file =>
    (p.replied.lookup file).map fun reply =>
      { p with
        replied := p.replied.filter (·.1 ≠ file)
        builder := p.builder.remember file reply.imports }

/-- Several things happen, one after another. -/
def run (workers : Nat) (p : Pool ε) : List (Event ε) → Option (Pool ε)
  | [] => some p
  | e :: es => (p.step workers e).bind (run workers · es)

/-- The files that are asked for, in the order in which they are taken up. -/
def asked (events : List (Event ε)) : List String :=
  events.filterMap fun
    | .ask file => some file
    | _ => none

/-- The replies, in the order in which they come. -/
def replies (events : List (Event ε)) : List (String × Reply ε) :=
  events.filterMap fun
    | .reply file reply => some (file, reply)
    | _ => none

/-- Each file is asked for, replied to and noted before the next one is asked for. -/
def isOneByOne : List (Event ε) → Bool
  | [] => true
  | .ask _ :: .reply _ _ :: .note _ :: es => isOneByOne es
  | _ => false

end Pool

/-- A build: the files listed, and what happened. -/
structure Build (ε : Type) where
  /-- The files listed, in any order. -/
  files : List String
  /-- What happened, in order. -/
  events : List (Pool.Event ε)

namespace Builder

/-- **A build in which this and that happened**, if it can happen. With one
worker, or one file to ask for, there is no pool, and the files are gone through
one by one. -/
def buildAlong (workers : Int) (b : Builder) (c : Build ε) : Option (ImportGraph × Builder) :=
  let pending := b.pending c.files
  if (workers ≤ 1 ∨ pending.length = 1) ∧ !Pool.isOneByOne c.events then none
  else match Pool.run (max 1 workers).toNat { queue := pending, builder := b } c.events with
    | none => none
    | some p => if p.isFinished then some (p.builder.graph c.files, p.builder) else none

/-- One build after another, with the graphs that they bring. -/
def buildEach (workers : Int) (b : Builder) : List (Build ε) → Option (List ImportGraph × Builder)
  | [] => some ([], b)
  | c :: cs =>
    match b.buildAlong workers c with
    | none => none
    | some (g, b) => (b.buildEach workers cs).map fun (gs, b) => (g :: gs, b)

end Builder

end Ratchet.Graph
