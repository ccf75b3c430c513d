import Winnow.Text.CodeRange

/-! # Blanks

The blank characters are those with the Unicode property White_Space. Names, sort
entries and wildcard values lose the blanks at their ends, or are split at them.
-/

namespace Winnow

/-- The code points with the property White_Space. -/
def blankRanges : List CodeRange :=
  [(0x9, 0xD), (0x20, 0x20), (0x85, 0x85), (0xA0, 0xA0), (0x1680, 0x1680), (0x2000, 0x200A),
   (0x2028, 0x2029), (0x202F, 0x202F), (0x205F, 0x205F), (0x3000, 0x3000)]

def isBlank (c : Char) : Bool :=
  CodeRange.covers blankRanges c.toNat

namespace Text

/-- Drops the blanks at the end. -/
def trimEnd (s : List Char) : List Char :=
  (s.reverse.dropWhile isBlank).reverse

/-- Drops the blanks at both ends. -/
def trim (s : List Char) : List Char :=
  trimEnd (s.dropWhile isBlank)

end Text

end Winnow
