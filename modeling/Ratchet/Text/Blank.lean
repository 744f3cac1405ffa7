import Ratchet.Text.Range

/-!
# White space

The characters that count as white space: those of Unicode with the
bidirectional type of a blank or a separator, and the four information
separators among the control characters.
-/

namespace Ratchet.Text

/-- The ranges of white space. -/
def blankRanges : List Range :=
  [(0x9, 0xD), (0x1C, 0x20), (0x85, 0x85), (0xA0, 0xA0), (0x1680, 0x1680),
   (0x2000, 0x200A), (0x2028, 0x2029), (0x202F, 0x202F), (0x205F, 0x205F), (0x3000, 0x3000)]

/-- Whether a character is white space. -/
def isBlank (c : Char) : Bool :=
  inRanges blankRanges c

/-- Text without the white space at both ends. -/
def trim (s : List Char) : List Char :=
  ((s.dropWhile isBlank).reverse.dropWhile isBlank).reverse

end Ratchet.Text
