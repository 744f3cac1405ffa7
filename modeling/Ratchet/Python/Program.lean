import Ratchet.Python.Literal
import Ratchet.Python.Statement

/-!
# Python programs

`Program.parse?` reads a source text as a program of Python 3.11: it has to
have a lexical structure, well formed string literals, and the grammar of a
program. `Program.imports` lists its import statements level by level: those
that stand in no other statement, then those one level down, and so on.
-/

namespace Ratchet.Python

/-- The string literals among tokens, in groups that stand next to each other. -/
def literalGroups : List Token → List (List StringLiteral)
  | [] => []
  | t :: ts =>
    match t.lexeme with
    | .string l =>
      match ts.head?.map (·.lexeme), literalGroups ts with
      | some (Lexeme.string _), group :: groups => (l :: group) :: groups
      | _, groups => [l] :: groups
    | _ => literalGroups ts

/-- Whether the literals of a group are well formed and go together: they are
all for bytes or all for text. -/
def isGroup (isExpression : List Char → Bool) (group : List StringLiteral) : Bool :=
  group.all (·.isWellFormed isExpression) &&
    (group.all (·.bytes) || group.all (!·.bytes))

/-- Whether the string literals among tokens are well formed. -/
def hasLiterals (isExpression : List Char → Bool) (tokens : List Token) : Bool :=
  (literalGroups tokens).all (isGroup isExpression)

/-- Whether the text of a replacement field is an expression. Literals in it
may have fields of their own, nested no deeper than the number says. -/
def isFieldExpression : Nat → List Char → Bool
  | 0, _ => false
  | n + 1, text =>
    match Token.scan ('(' :: text ++ [')']) with
    | none => false
    | some tokens => hasLiterals (isFieldExpression n) tokens && Grammar.isExpression tokens

/-- A program, reduced to its import statements. -/
structure Program where
  /-- The statements of the program. -/
  statements : List Tree
  deriving Repr

namespace Program

/-- **Read a program**, if the text is one. -/
def parse? (source : List Char) : Option Program := do
  let tokens ← Token.scan source
  if hasLiterals (isFieldExpression source.length) tokens then
    return { statements := ← Grammar.program? tokens }
  else none

/-- The import statements at the top of some trees. -/
def leaves (trees : List Tree) : List ImportStatement :=
  trees.filterMap fun
    | .leaf s => some s
    | .node _ => none

/-- What stands one level down. -/
def inside (trees : List Tree) : List Tree :=
  trees.flatMap fun
    | .leaf _ => []
    | .node children => children

mutual

/-- How many levels a tree has. -/
def height : Tree → Nat
  | .leaf _ => 1
  | .node children => heightOfAll children + 1

/-- How many levels the highest of some trees has. -/
def heightOfAll : List Tree → Nat
  | [] => 0
  | t :: ts => max (height t) (heightOfAll ts)

end

/-- The import statements of so many levels. -/
def levels : Nat → List Tree → List ImportStatement
  | 0, _ => []
  | n + 1, trees => leaves trees ++ levels n (inside trees)

/-- **The import statements**, level by level. -/
def imports (p : Program) : List ImportStatement :=
  levels (heightOfAll p.statements) p.statements

end Program

end Ratchet.Python
