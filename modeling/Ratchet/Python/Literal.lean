import Ratchet.Python.Token

/-!
# Python string literals

Which string literals are well formed. Escape sequences have to be complete,
literals for bytes hold ASCII characters only, and the replacement fields of a
formatted literal hold expressions. A field may have a format with fields of
its own, but no deeper; a field holds neither a backslash nor a comment.

What is an expression is decided by a function that is passed in.
-/

namespace Ratchet.Python.StringLiteral

open Token (isHexDigit)

/-- The value of a run of hexadecimal digits. -/
def hexValue (cs : List Char) : Nat :=
  cs.foldl (fun n c =>
    16 * n + (if c.isDigit then c.toNat - 48 else (c.toLower.toNat - 87))) 0

/-- How many hexadecimal digits an escape sequence needs after its letter. -/
def digitsNeeded (bytes : Bool) (c : Char) : Nat :=
  if c = 'x' then 2
  else if bytes then 0
  else if c = 'u' then 4
  else if c = 'U' then 8
  else 0

/-- Whether the escape sequences of a literal are complete. The number counts the
characters of a character name that has been opened; which names there are is left
open, so that every word of letters, digits, spaces and hyphens may be one. -/
def isWellEscaped (bytes : Bool) : Option Nat → List Char → Bool
  | some _, [] => false
  | some n, c :: cs =>
    if c = '\x7d' then 0 < n && isWellEscaped bytes none cs
    else (c.isAlphanum || c = ' ' || c = '-') && isWellEscaped bytes (some (n + 1)) cs
  | none, '\\' :: c :: cs =>
    if !bytes && c = 'N' then
      match cs with
      | '\x7b' :: more => isWellEscaped bytes (some 0) more
      | _ => false
    else
      let code := cs.take (digitsNeeded bytes c)
      code.length = digitsNeeded bytes c && code.all isHexDigit && hexValue code < 0x110000 &&
        isWellEscaped bytes none (cs.drop (digitsNeeded bytes c))
  | none, _ :: cs => isWellEscaped bytes none cs
  | none, [] => true
termination_by _ cs => cs.length
decreasing_by
  all_goals simp only [List.length_cons, List.length_drop]
  all_goals omega

/-! ## Replacement fields -/

/-- What stands before the next field of a formatted literal. -/
structure Plain where
  /-- The text. -/
  text : List Char
  /-- Whether it ends in a doubled brace, which stands for one. -/
  doubled : Bool
  /-- What follows; unless it is empty or the brace was doubled, a brace. -/
  rest : List Char

/-- Read up to the next brace. Outside a format a doubled brace stands for
itself, and a closing brace alone is refused. -/
def plain (raw inFormat : Bool) (read : List Char) : List Char → Option Plain
  | [] => some ⟨read.reverse, false, []⟩
  | '\\' :: 'N' :: cs =>
    if raw then plain raw inFormat ('N' :: '\\' :: read) cs
    else match cs with
      | '\x7b' :: more =>
        let name := more.takeWhile (· ≠ '\x7d')
        if name.length = more.length then none
        else plain raw inFormat ('\x7d' :: name.reverse ++ '\x7b' :: 'N' :: '\\' :: read)
          (more.drop (name.length + 1))
      | _ => none
  | c :: cs =>
    if c = '\\' && !raw && cs.head?.any (fun d => d ≠ '\x7b' && d ≠ '\x7d') then
      plain raw inFormat (cs.take 1 ++ c :: read) (cs.drop 1)
    else if c = '\x7b' || c = '\x7d' then
      if !inFormat && cs.head? = some c then some ⟨(c :: read).reverse, true, cs.drop 1⟩
      else if !inFormat && c = '\x7d' then none
      else some ⟨read.reverse, false, c :: cs⟩
    else plain raw inFormat (c :: read) cs
termination_by cs => cs.length
decreasing_by
  all_goals simp only [List.length_cons, List.length_drop]
  all_goals omega

/-- Read the expression of a field: the expression, and what follows from the
character on that ends it. `brackets` are to be closed first, and inside
quotes, single or triple, nothing counts but their end. -/
def fieldExpression (brackets : List Char) (quote : Option (Char × Bool)) (read : List Char) :
    List Char → Option (List Char × List Char)
  | [] => none
  | c :: cs =>
    let tripled := [c, c].isPrefixOf cs
    if c = '\\' then none
    else match quote with
    | some (q, triple) =>
      if c = q && triple && tripled then
        fieldExpression brackets none (c :: c :: c :: read) (cs.drop 2)
      else
        fieldExpression brackets (if c = q && !triple then none else quote) (c :: read) cs
    | none =>
      if c = '"' || c = '\'' then
        if tripled then fieldExpression brackets (some (c, true)) (c :: c :: c :: read) (cs.drop 2)
        else fieldExpression brackets (some (c, false)) (c :: read) cs
      else match Token.closing? c with
      | some close =>
        if brackets.length < Token.maxBrackets then
          fieldExpression (close :: brackets) none (c :: read) cs
        else none
      | none =>
        if c = '#' then none
        else if brackets.isEmpty && "!:\x7d=<>".toList.contains c then
          if cs.head? = some '=' && "!=<>".toList.contains c then
            fieldExpression brackets none ('=' :: c :: read) (cs.drop 1)
          else if c = '<' || c = '>' then fieldExpression brackets none (c :: read) cs
          else some (read.reverse, c :: cs)
        else if c = ')' || c = ']' || c = '\x7d' then
          match brackets with
          | close :: brackets =>
            if c = close then fieldExpression brackets none (c :: read) cs else none
          | [] => none
        else fieldExpression brackets none (c :: read) cs
termination_by cs => cs.length
decreasing_by
  all_goals simp only [List.length_cons, List.length_drop]
  all_goals omega

/-- What follows the equals sign that asks for the text of the expression. -/
def afterEquals : List Char → Option (List Char)
  | '=' :: cs =>
    let rest := cs.dropWhile (" \t\n\r\x0b\x0c".toList.contains ·)
    if rest.isEmpty then none else some rest
  | cs => some cs

/-- What follows the conversion of a field. -/
def afterConversion : List Char → Option (List Char)
  | '!' :: c :: cs => if c = 's' || c = 'r' || c = 'a' then some cs else none
  | '!' :: [] => none
  | cs => some cs

/-- Read a field from behind its opening brace: what follows the closing one. -/
def field (isExpression : List Char → Bool) (format : List Char → Option (List Char))
    (cs : List Char) : Option (List Char) := do
  let (expression, rest) ← fieldExpression [] none [] cs
  if expression.all (" \t\n\x0c".toList.contains ·) then none
  else if !isExpression expression then none
  else
    match ← afterConversion (← afterEquals rest) with
    | ':' :: spec =>
      if spec.isEmpty then none
      else match ← format spec with
        | '\x7d' :: rest => some rest
        | _ => none
    | '\x7d' :: rest => some rest
    | _ => none

/-- Read text and fields in turn: what follows. A format ends before a closing
brace, a whole literal at its end. `budget` bounds the number of fields. -/
def fields (raw inFormat : Bool) (field : List Char → Option (List Char)) :
    Nat → List Char → Option (List Char)
  | 0, _ => none
  | budget + 1, cs => do
    let p ← plain raw inFormat [] cs
    if !raw && !isWellEscaped false none p.text then none
    else if p.doubled then fields raw inFormat field budget p.rest
    else match p.rest with
      | '\x7b' :: more => fields raw inFormat field budget (← field more)
      | rest => some rest

/-- Whether the fields of a formatted literal are well formed. -/
def hasFields (isExpression : List Char → Bool) (raw : Bool) (body : List Char) : Bool :=
  let budget := body.length + 1
  let inner := fields raw true (fun _ => none) budget
  let format := fields raw true (field isExpression inner) budget
  (fields raw false (field isExpression format) budget body).any (·.isEmpty)

/-- **Whether a literal is well formed.** -/
def isWellFormed (isExpression : List Char → Bool) (l : StringLiteral) : Bool :=
  if l.formatted then hasFields isExpression l.raw l.body
  else (!l.bytes || l.body.all (·.toNat < 0x80)) && (l.raw || isWellEscaped l.bytes none l.body)

end Ratchet.Python.StringLiteral
