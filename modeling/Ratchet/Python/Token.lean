import Ratchet.Text.Identifier

/-!
# Python tokens

The lexical structure of Python 3.11. `Token.scan` turns source text, with
line feeds as line ends, into tokens, or refuses it. Lines are joined inside
brackets and after a backslash; the indentation of every other line that is
not blank is compared with those of the lines around it, in columns with tab
stops of eight and, to catch mixtures of tabs and spaces, of one.

String literals come out as they are written, without quotes; whether they
are well formed is decided elsewhere.
-/

namespace Ratchet.Python

/-- A string literal between its quotes. -/
structure StringLiteral where
  /-- Whether it stands for bytes. -/
  bytes : Bool
  /-- Whether backslashes stand for themselves. -/
  raw : Bool
  /-- Whether it holds replacement fields. -/
  formatted : Bool
  /-- The characters between the quotes. -/
  body : List Char
  deriving Repr, DecidableEq

/-- The kinds of tokens. -/
inductive Lexeme where
  /-- An identifier or a keyword. -/
  | word (text : String)
  /-- A number. -/
  | number (imaginary : Bool)
  /-- A string literal. -/
  | string (literal : StringLiteral)
  /-- An operator or a delimiter. -/
  | sign (text : String)
  /-- The end of a logical line. -/
  | newline
  /-- The indentation grows. -/
  | indent
  /-- The indentation shrinks by one level. -/
  | dedent
  deriving Repr, DecidableEq

/-- A token with the number of its line. -/
structure Token where
  /-- What it is. -/
  lexeme : Lexeme
  /-- The line on which it starts, counted from one. -/
  line : Nat
  deriving Repr

namespace Token

/-! ## Characters -/

/-- Whether a character may belong to an identifier, before a closer look. -/
def isNameChar (c : Char) : Bool :=
  c.isAlphanum || c = '_' || 0x80 ≤ c.toNat

/-- Whether a character may start an identifier, before a closer look. -/
def isNameStart (c : Char) : Bool :=
  c.isAlpha || c = '_' || 0x80 ≤ c.toNat

/-- Whether a character is a hexadecimal digit. -/
def isHexDigit (c : Char) : Bool :=
  c.isDigit || ('a' ≤ c && c ≤ 'f') || ('A' ≤ c && c ≤ 'F')

/-- Whether a character is a digit below eight. -/
def isOctalDigit (c : Char) : Bool :=
  '0' ≤ c && c < '8'

/-- Whether a character is nought or one. -/
def isBinaryDigit (c : Char) : Bool :=
  c = '0' || c = '1'

/-! ## Numbers -/

/-- Whether a text starts with a word that ends there. -/
def startsWithWord (word : String) (cs : List Char) : Bool :=
  word.toList.isPrefixOf cs && !((cs.drop word.length).head?.any isNameChar)

/-- Whether a number may end before this text. A few keywords may follow
without a blank. -/
def isNumberEnd (cs : List Char) : Bool :=
  ["and", "else", "for", "or", "not"].any (startsWithWord · cs)
    || ["if", "in", "is"].any (·.toList.isPrefixOf cs)
    || !(cs.head?.any isNameChar)

/-- The rest after a run of digits in which single underscores may stand
between two digits. -/
def dropDigits (digit : Char → Bool) : List Char → Option (List Char)
  | [] => some []
  | '_' :: [] => none
  | '_' :: d :: cs => if digit d then dropDigits digit cs else none
  | d :: cs => if digit d then dropDigits digit cs else some (d :: cs)

/-- The rest after a number with a base, of which the letter has been read. -/
def dropBased (digit : Char → Bool) (cs : List Char) : Option (List Char) :=
  let start := match cs with
    | '_' :: cs => cs
    | cs => cs
  if start.head?.any digit then dropDigits digit start else none

/-- The rest of a number after its fraction and exponent. -/
def numberSuffix (cs : List Char) : Option (Bool × List Char) :=
  match cs with
  | [] => some (false, [])
  | c :: rest =>
    if c = 'j' || c = 'J' then
      if isNumberEnd rest then some (true, rest) else none
    else if isNumberEnd cs then some (false, cs) else none

/-- The rest of a number from its exponent on. -/
def numberExponent (cs : List Char) : Option (Bool × List Char) :=
  match cs with
  | [] => some (false, [])
  | e :: rest =>
    if e = 'e' || e = 'E' then
      match rest with
      | c :: more =>
        if c = '+' || c = '-' then
          if more.head?.any Char.isDigit then
            (dropDigits Char.isDigit more).bind numberSuffix
          else none
        else if c.isDigit then (dropDigits Char.isDigit rest).bind numberSuffix
        else if isNumberEnd cs then some (false, cs) else none
      | [] => if isNumberEnd cs then some (false, cs) else none
    else numberSuffix cs

/-- The rest of a number after its decimal point. -/
def numberFraction (cs : List Char) : Option (Bool × List Char) :=
  if cs.head?.any Char.isDigit then (dropDigits Char.isDigit cs).bind numberExponent
  else numberExponent cs

/-- The rest of a decimal number after the digits before the point. -/
def numberRest (cs : List Char) : Option (Bool × List Char) :=
  match cs with
  | '.' :: cs => numberFraction cs
  | cs => numberExponent cs

/-- The most decimal digits an integer may have. -/
def maxDigits : Nat := 4300

/-- Whether what follows the digits makes a number more than an integer. -/
def isIntegerEnd (cs : List Char) : Bool :=
  !(cs.head?.any fun c => c = '.' || c = 'j' || c = 'J' || c = 'e' || c = 'E')
    || startsWithWord "else" cs

/-- Read a number that starts with a digit: whether it is imaginary, and the
rest. An integer other than nought has no leading noughts. -/
def number (cs : List Char) : Option (Bool × List Char) :=
  match cs with
  | '0' :: x :: rest =>
    if x = 'x' || x = 'X' then ended (dropBased isHexDigit rest)
    else if x = 'o' || x = 'O' then ended (dropBased isOctalDigit rest)
    else if x = 'b' || x = 'B' then ended (dropBased isBinaryDigit rest)
    else decimal cs
  | cs => decimal cs
where
  /-- A number with a base ends like any other. -/
  ended (rest : Option (List Char)) : Option (Bool × List Char) :=
    rest.bind fun rest => if isNumberEnd rest then some (false, rest) else none
  /-- A number without a base. -/
  decimal (cs : List Char) : Option (Bool × List Char) := do
    let rest ← dropDigits Char.isDigit cs
    let digits := (cs.take (cs.length - rest.length)).filter Char.isDigit
    if isIntegerEnd rest then
      if digits.head? = some '0' && digits.any (· ≠ '0') then none
      else if maxDigits < digits.length then none
      else if isNumberEnd rest then some (false, rest) else none
    else numberRest rest

/-! ## Strings -/

/-- Read a literal up to its closing quotes: the body and the rest. -/
def stringBody (quote : Char) (triple : Bool) (read : List Char) :
    List Char → Option (List Char × List Char)
  | [] => none
  | '\\' :: [] => none
  | '\\' :: c :: cs => stringBody quote triple (c :: '\\' :: read) cs
  | c :: cs =>
    if triple then
      if [quote, quote, quote].isPrefixOf (c :: cs) then some (read.reverse, cs.drop 2)
      else stringBody quote triple (c :: read) cs
    else if c = quote then some (read.reverse, cs)
    else if c = '\n' then none
    else stringBody quote triple (c :: read) cs

/-- Read a literal from its opening quotes on. -/
def stringRest (quote : Char) (cs : List Char) : Option (List Char × List Char) :=
  if [quote, quote].isPrefixOf cs then stringBody quote true [] (cs.drop 2)
  else stringBody quote false [] cs

/-- What the letters before a quote say about the literal, if they may stand
there. -/
def flavour? (letters : List Char) (body : List Char) : Option StringLiteral :=
  let literal bytes raw formatted : Option StringLiteral :=
    some { bytes, raw, formatted, body }
  match String.ofList (letters.map Char.toLower) with
  | "" | "u" => literal false false false
  | "r" => literal false true false
  | "b" => literal true false false
  | "f" => literal false false true
  | "br" | "rb" => literal true true false
  | "fr" | "rf" => literal false true true
  | _ => none

/-! ## Operators -/

/-- The operators of several characters, the longest first. -/
def longSigns : List String :=
  ["**=", "//=", ">>=", "<<=", "...", "!=", "%=", "&=", "**", "*=", "+=", "-=", "->",
   "//", "/=", ":=", "<<", "<=", "==", ">=", ">>", "@=", "^=", "|="]

/-- Read an operator or delimiter. Two unequal angle brackets are none. -/
def sign? (cs : List Char) : Option (String × List Char) :=
  if ['<', '>'].isPrefixOf cs then none
  else match longSigns.find? (·.toList.isPrefixOf cs) with
    | some s => some (s, cs.drop s.length)
    | none =>
      match cs with
      | c :: rest =>
        if "%&()*+,-./:;<=>@[]^\x7b|\x7d~".toList.contains c then
          some (String.singleton c, rest)
        else none
      | [] => none

/-- The bracket that closes a bracket. -/
def closing? : Char → Option Char
  | '(' => some ')'
  | '[' => some ']'
  | '\x7b' => some '\x7d'
  | _ => none

/-- The most brackets that may be open at once. -/
def maxBrackets : Nat := 200

/-- The brackets to be closed, after one more sign. -/
def nest (brackets : List Char) (s : String) : Option (List Char) :=
  match s.toList with
  | [c] =>
    match closing? c with
    | some close => if brackets.length < maxBrackets then some (close :: brackets) else none
    | none =>
      if c = ')' || c = ']' || c = '\x7d' then
        match brackets with
        | close :: brackets => if c = close then some brackets else none
        | [] => none
      else some brackets
  | _ => some brackets

/-! ## Indentation -/

/-- An indentation in columns: with tab stops of eight, and of one. -/
structure Indentation where
  /-- The column with tab stops of eight. -/
  wide : Nat := 0
  /-- The column with tab stops of one. -/
  narrow : Nat := 0
  deriving Repr, DecidableEq

/-- Measure the blanks at the start of a line. A line that goes on after a
backslash has the indentation before its first backslash, if that is any. -/
def measure (at_ : Indentation) (first : Nat) (line : Nat) :
    List Char → Option (Indentation × Nat × List Char)
  | ' ' :: cs => measure ⟨at_.wide + 1, at_.narrow + 1⟩ first line cs
  | '\t' :: cs => measure ⟨(at_.wide / 8 + 1) * 8, at_.narrow + 1⟩ first line cs
  | '\x0c' :: cs => measure {} first line cs
  | '\\' :: '\n' :: cs =>
    if cs.isEmpty then none
    else measure at_ (if first = 0 then at_.wide else first) (line + 1) cs
  | '\\' :: _ => none
  | cs => some (if first = 0 then at_ else ⟨first, first⟩, line, cs)

/-- The most levels of indentation. -/
def maxIndents : Nat := 100

/-- Compare an indentation with those of the enclosing blocks, the innermost
first: the tokens that it calls for, and the blocks that remain. -/
def compareIndent (now : Indentation) :
    List Indentation → Option (List Lexeme × List Indentation)
  | [] =>
    if now.wide = 0 then if now.narrow = 0 then some ([], []) else none
    else if now.narrow = 0 then none else some ([.indent], [now])
  | top :: outer =>
    if now.wide = top.wide then
      if now.narrow = top.narrow then some ([], top :: outer) else none
    else if top.wide < now.wide then
      if now.narrow ≤ top.narrow || maxIndents ≤ outer.length + 2 then none
      else some ([.indent], now :: top :: outer)
    else
      match compareIndent now outer with
      | some (.indent :: _, _) => none
      | some (tokens, blocks) => some (.dedent :: tokens, blocks)
      | none => none

/-! ## Scanning -/

/-- The state of a scan. -/
structure Scanner where
  /-- What is still to be read. -/
  rest : List Char
  /-- The number of the line reached. -/
  line : Nat := 1
  /-- The indentations of the open blocks, the innermost first. -/
  indents : List Indentation := []
  /-- The brackets that are to be closed, the innermost first. -/
  brackets : List Char := []
  /-- Whether a line starts here. -/
  fresh : Bool := true
  /-- The tokens read, the latest first. -/
  tokens : List Token := []

namespace Scanner

/-- Add a token and go on after it. -/
def push (s : Scanner) (lexeme : Lexeme) (rest : List Char) : Scanner :=
  { s with rest, tokens := ⟨lexeme, s.line⟩ :: s.tokens }

/-- Add a string literal, which may run over several lines. -/
def pushString (s : Scanner) (letters : List Char) (quote : Char) (cs : List Char) :
    Option Scanner := do
  let (body, rest) ← stringRest quote cs
  let literal ← flavour? letters body
  let next := s.push (.string literal) rest
  return { next with line := s.line + body.count '\n' }

/-- The start of a logical line: a blank line is skipped, any other is
compared with the lines before. -/
def startLine (s : Scanner) : Option Scanner := do
  let (now, line, rest) ← measure {} 0 s.line s.rest
  match rest with
  | '#' :: cs =>
    return { s with rest := (cs.dropWhile (· ≠ '\n')).drop 1, line := line + 1 }
  | '\n' :: cs => return { s with rest := cs, line := line + 1 }
  | _ =>
    let (lexemes, indents) ← compareIndent now s.indents
    return { s with
      rest, line, indents, fresh := false
      tokens := (lexemes.map (⟨·, line⟩)).reverse ++ s.tokens }

/-- One step within a line. -/
def step (s : Scanner) : Option Scanner :=
  match s.rest with
  | [] => none
  | c :: cs =>
    if c = ' ' || c = '\t' || c = '\x0c' then some { s with rest := cs }
    else if c = '#' then some { s with rest := cs.dropWhile (· ≠ '\n') }
    else if c = '\n' then
      let next := { s with rest := cs, line := s.line + 1 }
      if s.brackets.isEmpty then
        some { next with fresh := true, tokens := ⟨.newline, s.line⟩ :: s.tokens }
      else some next
    else if c = '\\' then
      match cs with
      | '\n' :: d :: rest => some { s with rest := d :: rest, line := s.line + 1 }
      | _ => none
    else if isNameStart c then
      let name := (c :: cs).takeWhile isNameChar
      let rest := (c :: cs).dropWhile isNameChar
      match rest with
      | q :: after =>
        if (q = '"' || q = '\'') && (flavour? name []).isSome then
          s.pushString name q after
        else if Text.isIdentifier name then some (s.push (.word (.ofList name)) rest)
        else none
      | [] =>
        if Text.isIdentifier name then some (s.push (.word (.ofList name)) rest) else none
    else if c.isDigit then
      (number (c :: cs)).map fun (imaginary, rest) => s.push (.number imaginary) rest
    else if c = '.' && cs.head?.any Char.isDigit then
      (numberFraction cs).map fun (imaginary, rest) => s.push (.number imaginary) rest
    else if c = '"' || c = '\'' then s.pushString [] c cs
    else do
      let (text, rest) ← sign? (c :: cs)
      let brackets ← nest s.brackets text
      return { s.push (.sign text) rest with brackets }

/-- Steps until the text is used up; `budget` bounds their number. -/
def run : Nat → Scanner → Option Scanner
  | 0, _ => none
  | budget + 1, s =>
    if s.rest.isEmpty then
      if s.fresh && s.brackets.isEmpty then some s else none
    else if s.fresh && s.brackets.isEmpty then s.startLine.bind (run budget)
    else s.step.bind (run budget)

end Scanner

/-- **The tokens of a source text**, if it has a lexical structure at all.
The last line need not be ended. -/
def scan (source : List Char) : Option (List Token) := do
  let text := if source.getLast? = some '\n' then source else source ++ ['\n']
  let s ← Scanner.run (2 * text.length + 2) { rest := text }
  let closers := s.indents.map fun _ => (⟨.dedent, s.line⟩ : Token)
  return s.tokens.reverse ++ closers

end Token

end Ratchet.Python
