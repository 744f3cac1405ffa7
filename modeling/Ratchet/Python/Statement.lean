import Ratchet.Python.Pattern
import Ratchet.Text.Compatibility

/-!
# Python statements

The grammar of statements of Python 3.11. What is kept of a program is a
tree: its leaves are the import statements, its inner nodes the compound
statements. A branch of a `try` and a case of a `match` are nodes of their
own, and an `elif` is a statement inside the `if` before it.
-/

namespace Ratchet.Python

/-- An import statement. -/
inductive ImportStatement where
  /-- Whole modules, by their dotted names. -/
  | modules (names : List String)
  /-- Names from a module: how many dots stand before its name, the name if
  there is one, the imported names, and the line of the statement. -/
  | names (level : Nat) (module : Option String) (names : List String) (line : Nat)
  deriving Repr, DecidableEq

/-- The import statements of a program where they stand. -/
inductive Tree where
  /-- An import statement. -/
  | leaf (statement : ImportStatement)
  /-- A compound statement, or a branch of one. -/
  | node (children : List Tree)
  deriving Repr

namespace Grammar

open Ratchet.Python.Parser

/-- An identifier in its normal form. -/
def identifier : Parser String :=
  Text.Compatibility.normalize <$> name

/-! ## Imports -/

/-- A dotted name. -/
def dottedName : Parser String := do
  let first ← identifier
  let more ← many (do sign "."; identifier)
  return ".".intercalate (first :: more)

/-- The name that an import is given, if any. -/
def givenName : Parser Unit := do
  if ← acceptWord "as" then
    let _ ← name

/-- An import of whole modules. -/
def importModules : Parser ImportStatement := do
  word "import"
  let one := do
    let n ← dottedName
    givenName
    return n
  let first ← one
  let more ← whileNext (· == some (.sign ",")) (do sign ","; one)
  return .modules (first :: more)

/-- The dots before a module name. -/
def dots : Parser Nat := do
  let counts ← whileNext (fun l => l == some (.sign ".") || l == some (.sign "..."))
    (do return if (← next) == .sign "." then 1 else 3)
  return counts.foldl (· + ·) 0

/-- The module that names are imported from, where it is named. -/
def sourceModule : Parser (Option String) := do
  if ← atWord "import" then return none else some <$> dottedName

/-- An import of names from a module. -/
def importNames : Parser ImportStatement := do
  let line ← line
  word "from"
  let level ← dots
  let module ← sourceModule
  require (level ≠ 0 || module.isSome)
  word "import"
  let one := do
    let n ← identifier
    givenName
    return n
  if ← acceptSign "*" then return .names level module ["*"] line
  else if ← acceptSign "(" then
    let (names, _) ← commaList one
    sign ")"
    return .names level module names line
  else
    let first ← one
    let more ← whileNext (· == some (.sign ",")) (do sign ","; one)
    return .names level module (first :: more) line

/-! ## Simple statements -/

section

variable (depth : Nat)

/-- A yield expression or a list of expressions. -/
def value : Parser Shape := do
  if ← atWord "yield" then rule depth .yielding else starExpressions (rule depth)

/-- The operators that update a target. -/
def updates : List String :=
  ["+=", "-=", "*=", "@=", "/=", "%=", "&=", "|=", "^=", "<<=", ">>=", "**=", "//="]

/-- Read an operator that updates a target, if one is next. -/
def update : Parser Bool := do
  match ← peek with
  | some (.sign s) => if updates.contains s then acceptSign s else return false
  | _ => return false

/-- Further values behind equals signs; all but the last are targets too. -/
def assigned : Nat → Shape → Parser Unit
  | 0, _ => failure
  | n + 1, s => do
    if ← acceptSign "=" then
      require s.isTarget
      assigned n (← value depth)

/-- An expression, or an assignment of some kind. -/
def expressionStatement : Parser Unit := do
  let yields ← atWord "yield"
  let s ← value depth
  if yields then return ()
  else if ← acceptSign ":" then
    require s.isSingle
    let _ ← rule depth .expression
    if ← acceptSign "=" then
      let _ ← value depth
  else if ← update then
    require s.isSingle
    let _ ← value depth
  else assigned depth ((← remaining).length + 1) s

/-- Names between commas. -/
def nameList : Parser Unit := do
  let _ ← name
  let _ ← whileNext (· == some (.sign ",")) (do sign ","; name)

/-- An expression behind a word, where there is one. -/
def expressionAfter (w : String) : Parser Unit := do
  if ← acceptWord w then
    let _ ← rule depth .expression

/-- A statement on one line, with its import statement if it is one. -/
def simpleStatement : Parser (List Tree) := do
  match ← peek with
  | some (.word "import") => return [.leaf (← importModules)]
  | some (.word "from") => return [.leaf (← importNames)]
  | some (.word "return") =>
    word "return"
    let _ ← optional? (starExpressions (rule depth))
    return []
  | some (.word "raise") =>
    word "raise"
    if let some _ ← optional? (rule depth .expression) then expressionAfter depth "from"
    return []
  | some (.word "assert") =>
    word "assert"
    let _ ← rule depth .expression
    if ← acceptSign "," then
      let _ ← rule depth .expression
    return []
  | some (.word "del") =>
    word "del"
    require (← starExpressions (rule depth)).isDeletable
    return []
  | some (.word w) =>
    if ["global", "nonlocal"].contains w then
      word w
      nameList
    else if ["pass", "break", "continue"].contains w then word w
    else expressionStatement depth
    return []
  | _ =>
    expressionStatement depth
    return []

/-- The statements of one line. -/
def simpleStatements : Parser (List Tree) := do
  let first ← simpleStatement depth
  let more ← many (do sign ";"; simpleStatement depth)
  let _ ← acceptSign ";"
  expect .newline
  return first ++ more.flatten

/-! ## Compound statements -/

variable (self : Parser (List Tree))

/-- The statements of a compound statement, behind its colon. -/
def block : Parser (List Tree) := do
  sign ":"
  if ← accept .newline then
    expect .indent
    let first ← self
    let more ← whileNext (· != some .dedent) self
    expect .dedent
    return first ++ more.flatten
  else simpleStatements depth

/-- The statements behind `else`, where there are any. -/
def elseBlock : Parser (List Tree) := do
  if ← acceptWord "else" then block depth self else return []

/-- An `if` statement behind its first word. -/
def ifStatement : Parser (List Tree) := do
  let branch : Parser (List Tree) := do
    let _ ← named (rule depth)
    block depth self
  let first ← branch
  let more ← whileNext (· == some (.word "elif")) (do word "elif"; branch)
  let last ← elseBlock depth self
  let rest := more.foldr (fun body rest => [Tree.node (body ++ rest)]) last
  return [.node (first ++ rest)]

/-- A `while` statement behind its first word. -/
def whileStatement : Parser (List Tree) := do
  let _ ← named (rule depth)
  let body ← block depth self
  return [.node (body ++ (← elseBlock depth self))]

/-- A `for` statement behind its first word. -/
def forStatement : Parser (List Tree) := do
  let _ ← targets (rule depth)
  word "in"
  let _ ← starExpressions (rule depth)
  let body ← block depth self
  return [.node (body ++ (← elseBlock depth self))]

/-- A context manager, with the target it is bound to if there is one. -/
def contextManager : Parser Unit := do
  let _ ← rule depth .expression
  if ← acceptWord "as" then
    let _ ← acceptSign "*"
    let s ← rule depth .primary
    require s.isTarget
    require ((← atSign ",") || (← atSign ")") || (← atSign ":"))

/-- A `with` statement behind its first word. The context managers may stand
in parentheses together. -/
def withStatement : Parser (List Tree) := do
  let together : Parser Unit := do
    sign "("
    let _ ← commaList (contextManager depth)
    sign ")"
    require (← atSign ":")
  let apart : Parser Unit := do
    let _ ← contextManager depth
    let _ ← whileNext (· == some (.sign ",")) (do sign ","; contextManager depth)
  together <|> apart
  return [.node (← block depth self)]

/-- A handler of a `try` statement: whether it handles groups, and its node. -/
def handler : Parser (Bool × Tree) := do
  word "except"
  let group ← acceptSign "*"
  if group || !(← atSign ":") then
    let _ ← rule depth .expression
    givenName
  return (group, .node (← block depth self))

/-- The statements behind `finally`, where there is one. -/
def finallyBlock : Parser (Option (List Tree)) := do
  if ← acceptWord "finally" then some <$> block depth self else return none

/-- A `try` statement behind its first word. -/
def tryStatement : Parser (List Tree) := do
  let body ← block depth self
  let handlers ← whileNext (· == some (.word "except")) (handler depth self)
  require (handlers.all (·.1) || handlers.all (!·.1))
  let other ← if handlers.isEmpty then pure [] else elseBlock depth self
  let cleanup ← finallyBlock depth self
  require (!handlers.isEmpty || cleanup.isSome)
  return [.node (body ++ handlers.map (·.2) ++ other ++ cleanup.getD [])]

/-- A case of a `match` statement. -/
def matchCase : Parser Tree := do
  word "case"
  casePatterns depth
  if ← acceptWord "if" then
    let _ ← named (rule depth)
  return .node (← block depth self)

/-- A `match` statement. Its first word may also be an identifier. -/
def matchStatement : Parser (List Tree) := do
  word "match"
  let (subjects, trailing) ← commaList (item (rule depth))
  require (trailing || 1 < subjects.length || subjects.all (!·.isStarred))
  sign ":"
  expect .newline
  expect .indent
  let first ← matchCase depth self
  let more ← whileNext (· != some .dedent) (matchCase depth self)
  expect .dedent
  return [.node (first :: more)]

/-- A function behind its first word. -/
def functionStatement : Parser (List Tree) := do
  let _ ← name
  sign "("
  parameters (rule depth) true ")"
  if ← acceptSign "->" then
    let _ ← rule depth .expression
  return [.node (← block depth self)]

/-- A class behind its first word. -/
def classStatement : Parser (List Tree) := do
  let _ ← name
  if ← acceptSign "(" then arguments (rule depth)
  return [.node (← block depth self)]

/-- A function or class behind its decorators. -/
def decorated : Parser (List Tree) := do
  let _ ← whileNext (· == some (.sign "@")) (do
    sign "@"
    let _ ← named (rule depth)
    expect .newline)
  if ← acceptWord "class" then classStatement depth self
  else
    let _ ← acceptWord "async"
    word "def"
    functionStatement depth self

/-- A statement behind the word `async`. -/
def asyncStatement : Parser (List Tree) := do
  if ← acceptWord "def" then functionStatement depth self
  else if ← acceptWord "with" then withStatement depth self
  else
    word "for"
    forStatement depth self

/-- Any statement. -/
def statementBody : Parser (List Tree) := do
  if ← atSign "@" then decorated depth self
  else if ← acceptWord "def" then functionStatement depth self
  else if ← acceptWord "class" then classStatement depth self
  else if ← acceptWord "async" then asyncStatement depth self
  else if ← acceptWord "if" then ifStatement depth self
  else if ← acceptWord "while" then whileStatement depth self
  else if ← acceptWord "for" then forStatement depth self
  else if ← acceptWord "with" then withStatement depth self
  else if ← acceptWord "try" then tryStatement depth self
  else if ← atWord "match" then matchStatement depth self <|> simpleStatements depth
  else simpleStatements depth

end

/-- A statement, with compound statements so many levels deep. -/
def statement (depth : Nat) : Nat → Parser (List Tree)
  | 0 => failure
  | n + 1 => statementBody depth (statement depth n)

/-- **The statements of a program**, up to its end. -/
def program? (tokens : List Token) : Option (List Tree) := do
  let depth := depthFor tokens
  let one := statement depth (tokens.length + 1)
  let ⟨(trees, rest), _⟩ ← (whileNext (·.isSome) one).run tokens
  if rest.isEmpty then some trees.flatten else none

end Grammar

end Ratchet.Python
