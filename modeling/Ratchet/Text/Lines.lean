/-!
# Lines

* `unifyNewlines` turns the line ends of other systems, a carriage return with
  or without a line feed, into line feeds.
* `lines` cuts a text at every character that ends a line in any script.
-/

namespace Ratchet.Text

/-- Each carriage return, with the line feed after it if there is one, becomes
a line feed. -/
def unifyNewlines : List Char → List Char
  | [] => []
  | '\r' :: '\n' :: cs => '\n' :: unifyNewlines cs
  | '\r' :: cs => '\n' :: unifyNewlines cs
  | c :: cs => c :: unifyNewlines cs

/-- Whether a character ends a line. -/
def isLineEnd (c : Char) : Bool :=
  ['\n', '\x0b', '\x0c', '\r', '\x1c', '\x1d', '\x1e', '\u0085', '\u2028', '\u2029'].contains c

/-- The pieces of a text between the line ends. A carriage return and a line
feed after it are one end. -/
def linePieces : List Char → List (List Char)
  | [] => [[]]
  | '\r' :: '\n' :: cs => [] :: linePieces cs
  | c :: cs =>
    if isLineEnd c then [] :: linePieces cs
    else match linePieces cs with
      | [] => [[c]]
      | piece :: pieces => (c :: piece) :: pieces

/-- The lines of a text; after the last line end there is no further line. -/
def lines (s : List Char) : List (List Char) :=
  let pieces := linePieces s
  if pieces.getLast? = some [] then pieces.dropLast else pieces

end Ratchet.Text
