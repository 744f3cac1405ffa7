/-!
# Words of a command

A command is cut into words at blanks. Quotes of either kind keep blanks
together; a backslash keeps the next character, except that single quotes know
no backslash, and double quotes only one before a double quote or another
backslash. `quote` writes a word so that it is read back as one.
-/

namespace Ratchet.Shell

/-- What is missing at the end of a command. -/
inductive QuotingFault where
  /-- The closing quote. -/
  | noClosingQuote
  /-- The character that a backslash keeps. -/
  | noEscapedCharacter
  deriving Repr, DecidableEq

/-- The message of a fault. -/
def QuotingFault.message : QuotingFault → String
  | .noClosingQuote => "No closing quotation"
  | .noEscapedCharacter => "No escaped character"

/-- Where a place of a command lies. -/
inductive Place where
  /-- Between two words. -/
  | between
  /-- In a word, outside quotes. -/
  | word
  /-- Behind a backslash outside quotes. -/
  | escaped
  /-- In single quotes. -/
  | single
  /-- In double quotes. -/
  | double
  /-- Behind a backslash in double quotes. -/
  | doubleEscaped
  deriving Repr, DecidableEq

/-- Whether a character separates words. -/
def isSeparator (c : Char) : Bool :=
  c = ' ' || c = '\t' || c = '\r' || c = '\n'

/-- Where a character outside quotes leads, and whether it belongs to the word. -/
def enter (c : Char) : Place × List Char :=
  if c = '\\' then (.escaped, [])
  else if c = '\'' then (.single, [])
  else if c = '"' then (.double, [])
  else (.word, [c])

/-- The words from a place on; `current` is the word under way. -/
def wordsFrom : Place → List Char → List Char → Except QuotingFault (List (List Char))
  | .between, _, [] => .ok []
  | .word, current, [] => .ok [current]
  | .escaped, _, [] => .error .noEscapedCharacter
  | .single, _, [] => .error .noClosingQuote
  | .double, _, [] => .error .noClosingQuote
  | .doubleEscaped, _, [] => .error .noEscapedCharacter
  | .between, _, c :: cs =>
    if isSeparator c then wordsFrom .between [] cs
    else wordsFrom (enter c).1 (enter c).2 cs
  | .word, current, c :: cs =>
    if isSeparator c then (wordsFrom .between [] cs).map (current :: ·)
    else wordsFrom (enter c).1 (current ++ (enter c).2) cs
  | .escaped, current, c :: cs => wordsFrom .word (current ++ [c]) cs
  | .single, current, c :: cs =>
    if c = '\'' then wordsFrom .word current cs else wordsFrom .single (current ++ [c]) cs
  | .double, current, c :: cs =>
    if c = '"' then wordsFrom .word current cs
    else if c = '\\' then wordsFrom .doubleEscaped current cs
    else wordsFrom .double (current ++ [c]) cs
  | .doubleEscaped, current, c :: cs =>
    if c = '"' || c = '\\' then wordsFrom .double (current ++ [c]) cs
    else wordsFrom .double (current ++ ['\\', c]) cs

/-- **The words of a command.** -/
def words (command : List Char) : Except QuotingFault (List (List Char)) :=
  wordsFrom .between [] command

/-- Whether a character needs no quotes. -/
def isPlain (c : Char) : Bool :=
  c.isAlphanum || "_@%+=:,./-".toList.contains c

/-- A word in single quotes; a single quote in it is put in double ones. -/
def enquote (word : List Char) : List Char :=
  '\'' :: word.flatMap (fun c => if c = '\'' then "'\"'\"'".toList else [c]) ++ ['\'']

/-- **A word as it is written in a command.** -/
def quote (word : List Char) : List Char :=
  if word = [] then ['\'', '\'']
  else if word.all isPlain then word
  else enquote word

end Ratchet.Shell
