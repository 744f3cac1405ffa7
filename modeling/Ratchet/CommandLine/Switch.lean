/-!
# Switches on a command line

The words of a command line are switches, their values, and other words. A
long switch takes its value behind an equals sign or from the next word. Short
switches may share one dash; what follows one that takes a value is its value.
Two dashes end the switches.
-/

namespace Ratchet.CommandLine

/-- A switch of a command: how it is spelled, and whether it takes a value. -/
structure Switch (κ : Type) where
  /-- What it sets. -/
  key : κ
  /-- How it is spelled. -/
  spellings : List String
  /-- Whether it takes a value. -/
  takesValue : Bool := false

/-- Why a command line cannot be understood. -/
inductive UsageFault where
  /-- There is no such switch. -/
  | unknownSwitch (word : String)
  /-- A switch without its value. -/
  | missingValue (word : String)
  /-- A value for a switch that takes none. -/
  | needlessValue (word : String)
  /-- There is no such command. -/
  | unknownCommand (word : String)
  /-- No command is given. -/
  | missingCommand
  /-- A value that the switch does not take. -/
  | badValue (word : String)
  /-- A word too many. -/
  | needlessWord (word : String)
  deriving Repr, DecidableEq

/-- The text of a fault. -/
def UsageFault.message : UsageFault → String
  | .unknownSwitch word => s!"No such option: {word}"
  | .missingValue word => s!"Option {word} requires an argument."
  | .needlessValue word => s!"Option {word} does not take a value."
  | .unknownCommand word => s!"No such command {word}."
  | .missingCommand => "Missing command."
  | .badValue word => s!"Invalid value: {word}"
  | .needlessWord word => s!"Got unexpected extra argument ({word})"

variable {κ : Type}

/-- The switch spelled like this. -/
def find? (switches : List (Switch κ)) (spelling : String) : Option (Switch κ) :=
  switches.find? (·.spellings.contains spelling)

/-- The switches that a word sets, with their values, and the one that takes
its value from the next word. -/
structure Reading (κ : Type) where
  /-- The switches set. -/
  set : List (κ × String) := []
  /-- The switch that waits for its value. -/
  waiting : Option (κ × String) := none

/-- Read the switches that share a dash. -/
def readShort (switches : List (Switch κ)) : List Char → Except UsageFault (Reading κ)
  | [] => .ok {}
  | c :: cs =>
    let spelling := String.ofList ['-', c]
    match find? switches spelling with
    | none => .error (.unknownSwitch spelling)
    | some s =>
      if s.takesValue then
        if cs = [] then .ok { waiting := some (s.key, spelling) }
        else .ok { set := [(s.key, .ofList cs)] }
      else do
        let more ← readShort switches cs
        return { more with set := (s.key, "") :: more.set }

/-- Read a word that starts with a dash. -/
def readWord (switches : List (Switch κ)) (word : String) : Except UsageFault (Reading κ) :=
  let cs := word.toList
  let name := cs.takeWhile (· ≠ '=')
  let value := if name.length = cs.length then none else some (cs.drop (name.length + 1))
  if "--".toList.isPrefixOf cs then
    match find? switches (.ofList name) with
    | none => .error (.unknownSwitch (.ofList name))
    | some s =>
      match s.takesValue, value with
      | true, some v => .ok { set := [(s.key, .ofList v)] }
      | true, none => .ok { waiting := some (s.key, .ofList name) }
      | false, some _ => .error (.needlessValue (.ofList name))
      | false, none => .ok { set := [(s.key, "")] }
  else readShort switches (cs.drop 1)

/-- Whether a word is read as a switch. -/
def isSwitch (word : String) : Bool :=
  word.startsWith "-" && word ≠ "-"

/-- What a command line holds: the switches set, in order, and other words. -/
structure Words (κ : Type) where
  /-- The switches set, with their values. -/
  set : List (κ × String) := []
  /-- The other words. -/
  others : List String := []

/-- **Read a command line.** Switches may stand behind other words only if
`mixed` says so. -/
def readWords (switches : List (Switch κ)) (mixed : Bool) :
    List String → Except UsageFault (Words κ)
  | [] => .ok {}
  | word :: words =>
    if word = "--" then .ok { others := words }
    else if isSwitch word then do
      let reading ← readWord switches word
      match reading.waiting, words with
      | none, words =>
        let more ← readWords switches mixed words
        return { more with set := reading.set ++ more.set }
      | some (_, spelling), [] => throw (.missingValue spelling)
      | some (key, _), value :: words =>
        let more ← readWords switches mixed words
        return { more with set := reading.set ++ (key, value) :: more.set }
    else if mixed then do
      let more ← readWords switches mixed words
      return { more with others := word :: more.others }
    else .ok { others := word :: words }

/-- The value a switch is set to last. -/
def Words.last? [BEq κ] (w : Words κ) (key : κ) : Option String :=
  w.set.reverse.lookup key

/-- Every value a switch is set to. -/
def Words.all [BEq κ] (w : Words κ) (key : κ) : List String :=
  (w.set.filter (·.1 == key)).map (·.2)

end Ratchet.CommandLine
