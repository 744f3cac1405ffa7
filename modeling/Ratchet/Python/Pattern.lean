import Ratchet.Python.Expression

/-!
# Python patterns

The grammar of the patterns of a `match` statement in Python 3.11.
-/

namespace Ratchet.Python.Grammar

open Ratchet.Python.Parser

/-- A number with its sign, or a sum of a real and an imaginary number. -/
def numberPattern : Parser Unit := do
  let _ ← acceptSign "-"
  match ← next with
  | .number imaginary =>
    if (← atSign "+") || (← atSign "-") then
      let _ ← next
      require (!imaginary && (← next) == .number true)
  | _ => failure

/-- Whether a pattern that is one value of its own is next. -/
def atValue : Parser Bool := do
  match ← peek with
  | some (.number _) => return true
  | some (.string _) => return true
  | some (.sign s) => return s == "-"
  | some (.word w) => return ["None", "True", "False"].contains w
  | _ => return false

/-- A number, a string or one of the constants. -/
def valuePattern : Parser Unit := do
  match ← peek with
  | some (.string _) => strings
  | some (.word _) =>
    let _ ← next
  | _ => numberPattern

/-- Attributes behind a name: whether there is any. -/
def attributes : Parser Bool := do
  let names ← whileNext (· == some (.sign ".")) (do sign "."; name)
  return !names.isEmpty

/-- Whether what follows keeps a name from being a pattern by itself. -/
def atNameEnd : Parser Bool := do
  return !((← atSign ".") || (← atSign "(") || (← atSign "="))

/-- A name that a value is given. -/
def capture : Parser Unit := do
  require ((← name) != "_")
  require (← atNameEnd)

section

variable (self : Parser Unit)

/-- A pattern, or a star with a name for the rest: whether it is the latter. -/
def starPattern : Parser Bool := do
  if ← acceptSign "*" then
    let _ ← name
    require (← atNameEnd)
    return true
  else
    self
    return false

/-- Patterns between brackets, up to the closing one. In parentheses a single
pattern is just that, and not a sequence. -/
def sequencePattern (close : String) : Parser Unit := do
  if ← acceptSign close then return ()
  else
    let (stars, trailing) ← commaList (starPattern self)
    require (close == "]" || trailing || stars != [true])
    sign close

/-- An entry of a mapping pattern: whether it takes the rest. -/
def entryPattern : Parser Bool := do
  if ← acceptSign "**" then
    capture
    return true
  else
    if ← atValue then valuePattern
    else
      let _ ← name
      require (← attributes)
    sign ":"
    self
    return false

/-- The entries of a mapping pattern, up to the closing brace. -/
def mappingPattern : Parser Unit := do
  if ← acceptSign "\x7d" then return ()
  else
    let (rests, _) ← commaList (entryPattern self)
    require (rests.dropLast.all (!·))
    sign "\x7d"

/-- An argument of a class pattern: whether it is by name. -/
def argumentPattern : Parser Bool := do
  let byName ← atByName
  if byName then
    let _ ← next
    sign "="
  self
  return byName

/-- The arguments of a class pattern, up to the closing parenthesis. -/
def classPattern : Parser Unit := do
  if ← acceptSign ")" then return ()
  else
    let (byName, _) ← commaList (argumentPattern self)
    require ((byName.dropWhile (!·)).all id)
    sign ")"

/-- A pattern without alternatives. -/
def closedPattern : Parser Unit := do
  if ← atValue then valuePattern
  else if ← acceptSign "(" then sequencePattern self ")"
  else if ← acceptSign "[" then sequencePattern self "]"
  else if ← acceptSign "\x7b" then mappingPattern self
  else
    let first ← name
    if first != "_" then
      let _ ← attributes
      if ← acceptSign "(" then classPattern self
      else require (← atNameEnd)

/-- Alternatives, which may be given a name. -/
def patternBody : Parser Unit := do
  closedPattern self
  let _ ← whileNext (· == some (.sign "|")) (do sign "|"; closedPattern self)
  if ← acceptWord "as" then capture

end

/-- A pattern, so many levels deep. -/
def pattern : Nat → Parser Unit
  | 0 => failure
  | n + 1 => patternBody (pattern n)

/-- The patterns of a case; several make a sequence. -/
def casePatterns (depth : Nat) : Parser Unit := do
  let (stars, trailing) ← commaList (starPattern (pattern depth))
  require (trailing || stars != [true])

end Ratchet.Python.Grammar
