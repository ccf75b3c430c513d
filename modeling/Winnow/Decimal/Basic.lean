/-! # Decimal numbers

Numbers as documents write them: digits, a sign and a power of ten. Nothing is rounded.
-/

namespace Winnow

/-- A decimal number: `mantissa` times ten to the power of `exponent`, with a sign. -/
structure Decimal where
  /-- Whether a minus sign stands in front. -/
  negative : Bool
  /-- The digits, read as one natural number. -/
  mantissa : Nat
  /-- The power of ten. -/
  exponent : Int
  deriving DecidableEq, Inhabited

/-- A natural number. -/
def Decimal.ofNat (n : Nat) : Decimal :=
  ⟨false, n, 0⟩

/-- The least natural number that does not fit into 64 bits. -/
def wordLimit : Nat :=
  0x10000000000000000

end Winnow
