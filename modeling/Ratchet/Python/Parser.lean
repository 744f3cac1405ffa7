import Ratchet.Python.Token

/-!
# Parsers on tokens

A `Parser` reads tokens from the front of a list, or fails and reads none.
What it leaves is the end of the list it was given. The first of several
alternatives that succeeds is taken for good.
-/

namespace Ratchet.Python

/-- A reader of tokens: a value, and the tokens that it leaves. -/
structure Parser (α : Type) where
  /-- Read from the front of some tokens. -/
  run : (tokens : List Token) → Option { result : α × List Token // result.2 <:+ tokens }

namespace Parser

variable {α : Type}

instance : Monad Parser where
  pure a := ⟨fun tokens => some ⟨(a, tokens), List.suffix_rfl⟩⟩
  bind p f := ⟨fun tokens => do
    let ⟨(a, rest), h⟩ ← p.run tokens
    let ⟨result, h'⟩ ← (f a).run rest
    return ⟨result, h'.trans h⟩⟩

instance : Alternative Parser where
  failure := ⟨fun _ => none⟩
  orElse p q := ⟨fun tokens => (p.run tokens).or ((q ()).run tokens)⟩

/-- The tokens that are still to be read. -/
def remaining : Parser (List Token) :=
  ⟨fun tokens => some ⟨(tokens, tokens), List.suffix_rfl⟩⟩

/-- The words that are no identifiers. -/
def keywords : List String :=
  ["False", "None", "True", "and", "as", "assert", "async", "await", "break", "class",
   "continue", "def", "del", "elif", "else", "except", "finally", "for", "from", "global",
   "if", "import", "in", "is", "lambda", "nonlocal", "not", "or", "pass", "raise", "return",
   "try", "while", "with", "yield"]

/-- The next token, left in place. -/
def peek : Parser (Option Lexeme) := do
  return (← remaining).head?.map (·.lexeme)

/-- The token after the next, left in place. -/
def peekSecond : Parser (Option Lexeme) := do
  return ((← remaining).drop 1).head?.map (·.lexeme)

/-- The line of the next token. -/
def line : Parser Nat := do
  return ((← remaining).head?.map (·.line)).getD 0

/-- Read the next token. -/
def next : Parser Lexeme where
  run
    | [] => none
    | t :: ts => some ⟨(t.lexeme, ts), List.suffix_cons t ts⟩

/-- Whether the next token is this one. -/
def at? (l : Lexeme) : Parser Bool := do
  return (← peek) == some l

/-- Whether the next token is this sign. -/
def atSign (s : String) : Parser Bool := at? (.sign s)

/-- Whether the next token is this word. -/
def atWord (s : String) : Parser Bool := at? (.word s)

/-- Read a token if it is next. -/
def accept (l : Lexeme) : Parser Bool := do
  if ← at? l then
    let _ ← next
    return true
  else return false

/-- Read a sign if it is next. -/
def acceptSign (s : String) : Parser Bool := accept (.sign s)

/-- Read a word if it is next. -/
def acceptWord (s : String) : Parser Bool := accept (.word s)

/-- Read a token that has to be there. -/
def expect (l : Lexeme) : Parser Unit := do
  if !(← accept l) then failure

/-- Read a sign that has to be there. -/
def sign (s : String) : Parser Unit := expect (.sign s)

/-- Read a word that has to be there. -/
def word (s : String) : Parser Unit := expect (.word s)

/-- Go on only if something holds. -/
def require (b : Bool) : Parser Unit :=
  if b then pure () else failure

/-- Whether a token is an identifier. -/
def isName : Option Lexeme → Bool
  | some (.word w) => !keywords.contains w
  | _ => false

/-- Read an identifier. -/
def name : Parser String := do
  match ← next with
  | .word w => if keywords.contains w then failure else return w
  | _ => failure

/-- Read something if it is there. -/
def optional? (p : Parser α) : Parser (Option α) :=
  (some <$> p) <|> pure none

/-- Repeat a parser until it fails, at most so many times. -/
def repeatUpTo (p : Parser α) : Nat → Parser (List α)
  | 0 => pure []
  | n + 1 => do
    match ← optional? p with
    | none => return []
    | some a => return a :: (← repeatUpTo p n)

/-- Repeat a parser until it fails. -/
def many (p : Parser α) : Parser (List α) := do
  repeatUpTo p (← remaining).length

/-- Repeat a parser as long as the next token passes a test. A failure inside
is a failure of the whole. -/
def whileNext (test : Option Lexeme → Bool) (p : Parser α) : Parser (List α) := do
  loop (← remaining).length
where
  /-- At most so many rounds. -/
  loop : Nat → Parser (List α)
    | 0 => pure []
    | n + 1 => do
      if test (← peek) then
        let a ← p
        return a :: (← loop n)
      else return []

/-- Items between commas; a comma may follow the last, if `ends` does not hold
of it, and the flag tells whether one does. -/
def commaList (p : Parser α) : Parser (List α × Bool) := do
  let first ← p
  let more ← many (do sign ","; p)
  return (first :: more, ← acceptSign ",")

end Parser

end Ratchet.Python
