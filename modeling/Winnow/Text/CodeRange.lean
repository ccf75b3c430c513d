/-! # Ranges of code points

A character class is a sorted list of closed ranges of code points. Membership is a
scan that ends at the first range above the code point.
-/

namespace Winnow

/-- A closed range of code points, given by its first and last member. -/
abbrev CodeRange := Nat × Nat

/-- Whether a sorted list of ranges covers the code point `n`. -/
def CodeRange.covers : List CodeRange → Nat → Bool
  | [], _ => false
  | (first, last) :: rest, n => if n < first then false else n ≤ last || covers rest n

end Winnow
