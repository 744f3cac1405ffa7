import Ratchet.Text.Blank
import Ratchet.Text.Word

/-!
# TypeScript import specifiers

The specifiers of a TypeScript file are found without a grammar, by three
forms of statements in a text from which the comments are taken out.

* `import … from '…'`, `export … from '…'`, with neither a quote nor a
  semicolon between the words;
* `import '…'` at the start of a line;
* `import('…')` and `require('…')`.

A `Form` tells whether a statement of that form starts at one place of a text.
The statements of one form are taken from left to right, each behind the last.
-/

namespace Ratchet.TypeScript

open Text (isBlank isWord isBoundary)

/-! ## Comments -/

/-- What follows the end of a block comment. -/
def afterBlock : List Char → Option (List Char)
  | [] => none
  | '*' :: '/' :: cs => some cs
  | _ :: cs => afterBlock cs

theorem length_afterBlock {cs rest : List Char} (h : afterBlock cs = some rest) :
    rest.length < cs.length := by
  fun_induction afterBlock cs with
  | case1 => simp at h
  | case2 cs =>
    obtain rfl := Option.some.inj h
    rw [List.length_cons, List.length_cons]
    omega
  | case3 c cs _ ih =>
    have shorter := ih h
    rw [List.length_cons]
    omega

/-- Take out the block comments. One that is not closed is no comment. -/
def dropBlocks : List Char → List Char
  | [] => []
  | '/' :: '*' :: cs =>
    match h : afterBlock cs with
    | some rest =>
      have := length_afterBlock h
      dropBlocks rest
    | none => '/' :: dropBlocks ('*' :: cs)
  | c :: cs => c :: dropBlocks cs
termination_by cs => cs.length
decreasing_by all_goals simp only [List.length_cons]; omega

/-- Where a place of a text lies with respect to the comments of lines. -/
inductive LinePlace where
  /-- At the start of a line. -/
  | fresh
  /-- Within a line. -/
  | inside
  /-- Among the blanks before a comment. -/
  | blanks
  /-- In a comment. -/
  | comment
  deriving Repr, DecidableEq

/-- Whether there is a comment behind any blanks. -/
def startsComment (cs : List Char) : Bool :=
  ['/', '/'].isPrefixOf (cs.dropWhile isBlank)

/-- Take out the comments that start as the first thing on a line, up to its
end, with the blanks before them; these may hold empty lines. -/
def dropLines : LinePlace → List Char → List Char
  | _, [] => []
  | .fresh, c :: cs =>
    if startsComment (c :: cs) then dropLines (if isBlank c then .blanks else .comment) cs
    else c :: dropLines (if c = '\n' then .fresh else .inside) cs
  | .inside, c :: cs => c :: dropLines (if c = '\n' then .fresh else .inside) cs
  | .blanks, c :: cs => dropLines (if isBlank c then .blanks else .comment) cs
  | .comment, c :: cs =>
    if c = '\n' then c :: dropLines .fresh cs else dropLines .comment cs

/-- **A text without its comments.** -/
def withoutComments (source : List Char) : List Char :=
  dropLines .fresh (dropBlocks source)

/-! ## Forms -/

/-- A form of statements: from the character before a place and the text from
there on, the specifier of the statement that starts there, and what follows
it. -/
abbrev Form := Option Char → List Char → Option (List Char × List Char)

/-- What follows a word. -/
def afterWord (word : String) (cs : List Char) : Option (List Char) :=
  if word.toList.isPrefixOf cs then some (cs.drop word.length) else none

/-- What follows the first of two words that is there. -/
def afterEither (first second : String) (cs : List Char) : Option (List Char) :=
  (afterWord first cs).or (afterWord second cs)

/-- Whether a character is a quote. -/
def isQuote (c : Char) : Bool :=
  c = '"' || c = '\''

/-- A specifier between quotes, and what follows; any two quotes will do. -/
def quoted : List Char → Option (List Char × List Char)
  | [] => none
  | q :: cs =>
    let specifier := cs.takeWhile (!isQuote ·)
    if !isQuote q || specifier = [] || specifier.length = cs.length then none
    else some (specifier, cs.drop (specifier.length + 1))

/-- A specifier behind the next `from`, before any quote or semicolon. -/
def fromClause (before : Option Char) : List Char → Option (List Char × List Char)
  | [] => none
  | c :: cs =>
    let here := if isBoundary before (some c) then
        (afterWord "from" (c :: cs)).bind fun rest => quoted (rest.dropWhile isBlank)
      else none
    here.or (if isQuote c || c = ';' then none else fromClause (some c) cs)

/-- `import … from '…'` or `export … from '…'`. -/
def fromForm : Form := fun before cs =>
  if isBoundary before cs.head? then
    (afterEither "import" "export" cs).bind fun rest =>
      if isBoundary (some 't') rest.head? then fromClause (some 't') rest else none
  else none

/-- `import '…'` at the start of a line. -/
def bareForm : Form := fun before cs =>
  if before = none || before = some '\n' then
    (afterWord "import" (cs.dropWhile isBlank)).bind fun rest => quoted (rest.dropWhile isBlank)
  else none

/-- What follows a closing parenthesis behind any blanks. -/
def closed (found : List Char × List Char) : Option (List Char × List Char) :=
  match found.2.dropWhile isBlank with
  | ')' :: rest => some (found.1, rest)
  | _ => none

/-- `import('…')` or `require('…')`. -/
def callForm : Form := fun before cs =>
  if isBoundary before cs.head? then
    (afterEither "import" "require" cs).bind fun rest =>
      match rest.dropWhile isBlank with
      | '(' :: rest => (quoted (rest.dropWhile isBlank)).bind closed
      | _ => none
  else none

/-! ## Specifiers -/

/-- The specifiers of the statements of a form, in at most so many steps. A
statement ends with a quote or a parenthesis. -/
def statements (form : Form) : Nat → Option Char → List Char → List (List Char)
  | 0, _, _ => []
  | _ + 1, _, [] => []
  | budget + 1, before, c :: cs =>
    match form before (c :: cs) with
    | some (specifier, rest) => specifier :: statements form budget (some ')') rest
    | none => statements form budget (some c) cs

/-- The specifiers of one form in a text. -/
def occurrences (form : Form) (source : List Char) : List (List Char) :=
  statements form source.length none source

/-- **The specifiers in a text**, form by form, each once. -/
def specifiers (source : List Char) : List String :=
  ([fromForm, bareForm, callForm].flatMap (occurrences · source)).eraseDups.map String.ofList

end Ratchet.TypeScript
