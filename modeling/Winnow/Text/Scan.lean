/-! # Scanning text

A scan reads something from the front of a text. It gives what it read and the rest of
the text, or nothing if no such thing stands there.
-/

namespace Winnow

/-- What reads something from the front of a text. -/
abbrev Scan (α : Type) := List Char → Option (α × List Char)

namespace Text

/-- Drops the characters of a fixed word. -/
def skipWord : List Char → List Char → Option (List Char)
  | [], s => some s
  | w :: word, c :: s => if w = c then skipWord word s else none
  | _ :: _, [] => none

/-- The value of a hexadecimal digit. -/
def hexDigit (c : Char) : Option Nat :=
  if '0' ≤ c ∧ c ≤ '9' then some (c.toNat - '0'.toNat)
  else if 'a' ≤ c ∧ c ≤ 'f' then some (c.toNat - 'a'.toNat + 10)
  else if 'A' ≤ c ∧ c ≤ 'F' then some (c.toNat - 'A'.toNat + 10)
  else none

end Text

end Winnow
