import Ratchet.Python.Parser

/-!
# Python expressions

The grammar of expressions and patterns of Python 3.11. Nothing is kept of an
expression but its `Shape`, which tells whether it may be assigned to.

The rules use each other in circles, so each is given the rules it uses, and
`Grammar.rule` ties them together as deep as a number says. Operators of all
precedences are read alike, because no precedence decides whether a text is
an expression.
-/

namespace Ratchet.Python

/-- What an expression may be used for. -/
inductive Shape where
  /-- An identifier. -/
  | name
  /-- An attribute or an item of something. -/
  | access
  /-- An expression in parentheses. -/
  | group (inner : Shape)
  /-- A list, or a tuple with or without parentheses. -/
  | sequence (items : List Shape)
  /-- An expression behind a star. -/
  | starred (inner : Shape)
  /-- Anything else. -/
  | other
  deriving Repr

namespace Shape

mutual

/-- Whether something may be assigned to it. -/
def isTarget : Shape → Bool
  | name => true
  | access => true
  | group s => isTarget s
  | sequence items => areTargets items
  | starred s => isTarget s
  | other => false

/-- Whether something may be assigned to each. -/
def areTargets : List Shape → Bool
  | [] => true
  | s :: ss => isTarget s && areTargets ss

end

mutual

/-- Whether it may be deleted. -/
def isDeletable : Shape → Bool
  | name => true
  | access => true
  | group s => isDeletable s
  | sequence items => areDeletable items
  | starred _ => false
  | other => false

/-- Whether each may be deleted. -/
def areDeletable : List Shape → Bool
  | [] => true
  | s :: ss => isDeletable s && areDeletable ss

end

/-- Whether it is one target, which may be annotated or updated in place. -/
def isSingle : Shape → Bool
  | name => true
  | access => true
  | group s => isSingle s
  | _ => false

/-- Whether it is starred. -/
def isStarred : Shape → Bool
  | starred _ => true
  | _ => false

end Shape

namespace Grammar

open Ratchet.Python.Parser

/-- The rules that are used in circles. -/
inductive Rule where
  /-- Any expression. -/
  | expression
  /-- A condition: an expression without a choice or a function on top. -/
  | disjunction
  /-- A computation: a condition without comparisons or connectives on top. -/
  | bitwise
  /-- An atom with attributes, calls and subscripts. -/
  | primary
  /-- A yield expression. -/
  | yielding
  deriving Repr, DecidableEq

section

variable (self : Rule → Parser Shape)

/-! ## Pieces -/

/-- Whether a name given on the spot is next. -/
def atNaming : Parser Bool := do
  return isName (← peek) && (← peekSecond) == some (.sign ":=")

/-- An expression that may be given a name on the spot. -/
def named : Parser Shape := do
  if ← atNaming then
    let _ ← next
    sign ":="
    let _ ← self .expression
    return .other
  else
    let s ← self .expression
    require !(← atSign ":=")
    return s

/-- An item of a list or tuple, starred or not. -/
def item : Parser Shape := do
  if ← acceptSign "*" then return .starred (← self .bitwise)
  else named self

/-- Further items behind commas. -/
def moreItems : Parser (List Shape) := do
  let items ← many (do sign ","; item self)
  let _ ← acceptSign ","
  return items

/-- Starred or plain expressions; several make a tuple. -/
def starExpressions : Parser Shape := do
  let one : Parser Shape := do
    if ← acceptSign "*" then return .starred (← self .bitwise)
    else self .expression
  match ← commaList one with
  | ([s], false) => return s
  | (items, _) => return .sequence items

/-! ## Comprehensions -/

/-- The targets of a loop. -/
def targets : Parser Shape := do
  let one : Parser Shape := do
    let starred ← acceptSign "*"
    let s ← self .primary
    require s.isTarget
    return if starred then .starred s else s
  match ← commaList one with
  | ([s], false) => return s
  | (items, _) => return .sequence items

/-- Whether a comprehension starts here. -/
def atClauses : Parser Bool := do
  return (← atWord "for") || ((← atWord "async") && (← peekSecond) == some (.word "for"))

/-- One clause of a comprehension. -/
def clause : Parser Unit := do
  let _ ← acceptWord "async"
  word "for"
  let _ ← targets self
  word "in"
  let _ ← self .disjunction
  let _ ← whileNext (· == some (.word "if")) (do word "if"; self .disjunction)

/-- The clauses of a comprehension, from the shape of what they range over. -/
def clauses (domain : Shape) : Parser Unit := do
  require !domain.isStarred
  require (← atClauses)
  let _ ← whileNext (fun l => l == some (.word "for") || l == some (.word "async"))
    (clause self)

/-! ## Calls and subscripts -/

/-- What the arguments of a call have come to. -/
inductive Stage where
  /-- Arguments by position. -/
  | positional
  /-- Arguments by name. -/
  | byName
  /-- Arguments from a mapping. -/
  | mapped
  deriving Repr, DecidableEq

/-- Whether an argument by name is next. -/
def atByName : Parser Bool := do
  return isName (← peek) && (← peekSecond) == some (.sign "=")

/-- One argument of a call. -/
def argument (stage : Stage) : Parser Stage := do
  if ← acceptSign "**" then
    let _ ← self .expression
    return .mapped
  else if ← acceptSign "*" then
    require (stage != .mapped)
    let _ ← self .expression
    return stage
  else if ← atByName then
    let _ ← next
    sign "="
    let _ ← self .expression
    return if stage = .mapped then .mapped else .byName
  else
    require (stage = .positional)
    let _ ← named self
    return stage

/-- The arguments of a call after the first, up to the closing parenthesis. -/
def argumentsFrom : Nat → Stage → Parser Unit
  | 0, _ => failure
  | n + 1, stage => do
    if ← acceptSign ")" then return ()
    else
      sign ","
      if ← acceptSign ")" then return ()
      else argumentsFrom n (← argument self stage)

/-- Arguments behind an opening parenthesis. -/
def arguments : Parser Unit := do
  if ← acceptSign ")" then return ()
  else
    let stage ← argument self .positional
    argumentsFrom self ((← remaining).length + 1) stage

/-- The arguments of a call behind its opening parenthesis; a comprehension
may be the only one. -/
def call : Parser Unit := do
  if (← atSign ")") || (← atSign "*") || (← atSign "**") || (← atByName) then
    arguments self
  else
    let first ← named self
    if ← atClauses then
      clauses self first
      sign ")"
    else argumentsFrom self ((← remaining).length + 1) .positional

/-- A bound of a slice, where there is one. -/
def bound : Parser Unit := do
  if (← atSign ":") || (← atSign ",") || (← atSign "]") then return ()
  else
    let _ ← self .expression

/-- One part of a subscript. -/
def slice : Parser Unit := do
  if ← acceptSign "*" then
    let _ ← self .expression
  else
    let naming ← atNaming
    if !(← atSign ":") then
      let _ ← named self
    if !naming then
      if ← acceptSign ":" then
        bound self
        if ← acceptSign ":" then bound self

/-- A subscript behind its opening bracket. -/
def subscript : Parser Unit := do
  let _ ← commaList (slice self)
  sign "]"

/-! ## Brackets -/

/-- What stands in parentheses, behind the opening one. -/
def parenthesised : Parser Shape := do
  if ← acceptSign ")" then return .sequence []
  else if ← atWord "yield" then
    let _ ← self .yielding
    sign ")"
    return .group .other
  else
    let first ← item self
    if ← atClauses then
      clauses self first
      sign ")"
      return .other
    else if ← acceptSign ")" then
      require !first.isStarred
      return .group first
    else
      sign ","
      if ← acceptSign ")" then return .sequence [first]
      else
        let second ← item self
        let more ← moreItems self
        sign ")"
        return .sequence (first :: second :: more)

/-- What stands in square brackets, behind the opening one. -/
def bracketed : Parser Shape := do
  if ← acceptSign "]" then return .sequence []
  else
    let first ← item self
    if ← atClauses then
      clauses self first
      sign "]"
      return .other
    else
      let more ← moreItems self
      sign "]"
      return .sequence (first :: more)

/-- A pair of a dictionary, or a mapping whose pairs are taken over. -/
def pair : Parser Unit := do
  if ← acceptSign "**" then
    let _ ← self .bitwise
  else
    let _ ← self .expression
    sign ":"
    let _ ← self .expression

/-- Further pairs behind commas, up to the closing brace. -/
def morePairs : Parser Unit := do
  let _ ← many (do sign ","; pair self)
  let _ ← acceptSign ","
  sign "\x7d"

/-- Further members of a set behind commas, up to the closing brace. -/
def moreMembers : Parser Unit := do
  let _ ← moreItems self
  sign "\x7d"

/-- What stands in braces, behind the opening one: a dictionary or a set. -/
def braced : Parser Unit := do
  if ← acceptSign "\x7d" then return ()
  else if ← atSign "**" then
    pair self
    morePairs self
  else if (← atSign "*") || (← atNaming) then
    let first ← item self
    if ← atClauses then
      clauses self first
      sign "\x7d"
    else moreMembers self
  else
    let first ← self .expression
    let isPair ← acceptSign ":"
    if isPair then
      let _ ← self .expression
    if ← atClauses then
      clauses self first
      sign "\x7d"
    else if isPair then morePairs self
    else moreMembers self

/-! ## Atoms -/

/-- Whether a token is a string literal. -/
def isString : Option Lexeme → Bool
  | some (.string _) => true
  | _ => false

/-- String literals next to each other. -/
def strings : Parser Unit := do
  require (isString (← peek))
  let _ ← whileNext isString next

/-- An expression that no operator can take apart. -/
def atom : Parser Shape := do
  match ← peek with
  | some (.string _) =>
    strings
    return .other
  | some (.number _) =>
    let _ ← next
    return .other
  | some (.sign "(") =>
    let _ ← next
    parenthesised self
  | some (.sign "[") =>
    let _ ← next
    bracketed self
  | some (.sign "\x7b") =>
    let _ ← next
    braced self
    return .other
  | some (.sign "...") =>
    let _ ← next
    return .other
  | some (.word w) =>
    if ["True", "False", "None"].contains w then
      let _ ← next
      return .other
    else
      let _ ← name
      return .name
  | _ => failure

/-- Attributes, calls and subscripts behind an atom, at most so many. -/
def trailers : Nat → Shape → Parser Shape
  | 0, s => pure s
  | n + 1, s => do
    if ← acceptSign "." then
      let _ ← name
      trailers n .access
    else if ← acceptSign "(" then
      call self
      trailers n .other
    else if ← acceptSign "[" then
      subscript self
      trailers n .access
    else return s

/-! ## Operators -/

/-- Whether a token is an operator before an operand. -/
def isUnary (l : Option Lexeme) : Bool :=
  l == some (.sign "+") || l == some (.sign "-") || l == some (.sign "~")

/-- Whether a token is an operator between two operands of a computation. -/
def isBinary : Option Lexeme → Bool
  | some (.sign s) =>
    ["|", "^", "&", "<<", ">>", "+", "-", "*", "/", "//", "%", "@"].contains s
  | _ => false

/-- Read an operator that compares, if one is next. -/
def comparison : Parser Bool := do
  match ← peek with
  | some (.sign s) =>
    if ["==", "!=", "<", "<=", ">", ">="].contains s then acceptSign s else return false
  | some (.word "in") => acceptWord "in"
  | some (.word "is") =>
    word "is"
    let _ ← acceptWord "not"
    return true
  | some (.word "not") =>
    if (← peekSecond) == some (.word "in") then
      word "not"
      acceptWord "in"
    else return false
  | _ => return false

/-- An operand with signs before it. -/
def signed : Parser Shape := do
  let signs ← whileNext isUnary next
  let s ← self .primary
  return if signs.isEmpty then s else .other

/-- Operands with powers. -/
def factor : Parser Shape := do
  let s ← signed self
  let powers ← whileNext (· == some (.sign "**")) (do sign "**"; signed self)
  return if powers.isEmpty then s else .other

/-- Operands joined by operators. -/
def computation : Parser Shape := do
  let first ← factor self
  let more ← whileNext isBinary (do let _ ← next; factor self)
  return if more.isEmpty then first else .other

/-- Comparisons; `not` may stand before them. -/
def inversion : Parser Shape := do
  let nots ← whileNext (· == some (.word "not")) next
  let first ← self .bitwise
  let more ← many (do require (← comparison); self .bitwise)
  return if nots.isEmpty && more.isEmpty then first else .other

/-- Comparisons joined by `and` and `or`. -/
def condition : Parser Shape := do
  let first ← inversion self
  let more ← whileNext (fun l => l == some (.word "and") || l == some (.word "or"))
    (do let _ ← next; inversion self)
  return if more.isEmpty then first else .other

/-! ## Parameters -/

/-- What the parameters of a function have come to. -/
structure Signature where
  /-- Whether there has been a parameter by position. -/
  any : Bool := false
  /-- Whether there has been a slash. -/
  slash : Bool := false
  /-- Whether there has been a default. -/
  default : Bool := false
  /-- Whether there has been a star. -/
  star : Bool := false
  /-- Whether a named parameter has to follow. -/
  wanting : Bool := false
  /-- Whether nothing may follow. -/
  closed : Bool := false

/-- The annotation of a parameter, where there may be one. -/
def annotation (annotated starred : Bool) : Parser Unit := do
  if annotated then
    if ← acceptSign ":" then
      let star ← if starred then acceptSign "*" else pure false
      if star then
        let _ ← self .bitwise
      else
        let _ ← self .expression

/-- One parameter, or one of the marks between parameters. -/
def parameter (annotated : Bool) (s : Signature) : Parser Signature := do
  require !s.closed
  if ← acceptSign "/" then
    require (s.any && !s.slash && !s.star)
    return { s with slash := true }
  else if ← acceptSign "**" then
    require !s.wanting
    let _ ← name
    annotation self annotated false
    return { s with closed := true }
  else if ← acceptSign "*" then
    require !s.star
    if isName (← peek) then
      let _ ← name
      annotation self annotated true
      return { s with star := true }
    else return { s with star := true, wanting := true }
  else
    let _ ← name
    annotation self annotated false
    let default ← acceptSign "="
    if default then
      let _ ← self .expression
    require (default || s.star || !s.default)
    return { s with any := true, wanting := false, default := s.default || default }

/-- Parameters up to a closing sign. -/
def parametersFrom (annotated : Bool) (close : String) : Nat → Signature → Parser Unit
  | 0, _ => failure
  | n + 1, s => do
    if ← acceptSign close then require !s.wanting
    else
      let s ← parameter self annotated s
      if ← acceptSign "," then parametersFrom annotated close n s
      else
        require !s.wanting
        sign close

/-- Parameters, annotated or not, up to a closing sign. -/
def parameters (annotated : Bool) (close : String) : Parser Unit := do
  parametersFrom self annotated close ((← remaining).length + 1) {}

/-! ## The rules -/

/-- What each rule says, from the rules it uses. -/
def body : Rule → Parser Shape
  | .expression => do
    if ← acceptWord "lambda" then
      parameters self false ":"
      let _ ← self .expression
      return .other
    else
      let s ← self .disjunction
      if ← acceptWord "if" then
        let _ ← self .disjunction
        word "else"
        let _ ← self .expression
        return .other
      else return s
  | .disjunction => condition self
  | .bitwise => computation self
  | .primary => do
    let waiting ← acceptWord "await"
    let s ← atom self
    let s ← trailers self (← remaining).length s
    return if waiting then .other else s
  | .yielding => do
    word "yield"
    if ← acceptWord "from" then
      let _ ← self .expression
    else
      let _ ← optional? (starExpressions self)
    return .other

end

/-- **The rules**, as many levels deep as the number says. -/
def rule : Nat → Rule → Parser Shape
  | 0, _ => failure
  | n + 1, r => body (rule n) r

/-- A depth that no list of tokens exceeds: between two tokens at most four
rules are entered. -/
def depthFor (tokens : List Token) : Nat :=
  5 * tokens.length + 5

/-- **Whether tokens start with a list of expressions**, starred or plain. -/
def isExpression (tokens : List Token) : Bool :=
  ((starExpressions (rule (depthFor tokens))).run tokens).isSome

end Grammar

end Ratchet.Python
