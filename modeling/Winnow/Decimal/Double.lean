import Winnow.Decimal.Basic

/-! # The range of double precision

Numbers that do not fit into a double are refused when they are read. A significand is
rounded to 53 bits, ties going to the even neighbour, and everything from 2^1024 up is
out of range.
-/

namespace Winnow.Double

/-- A natural number rounded to 53 significant bits, ties to even. -/
def round (n : Nat) : Nat :=
  let bits := n.log2 + 1
  if bits ≤ 53 then n
  else
    let unit := Nat.pow 2 (bits - 53)
    let below := n / unit
    let excess := n % unit
    if unit < 2 * excess ∨ (unit = 2 * excess ∧ below % 2 = 1) then (below + 1) * unit
    else below * unit

/-- The least power of two out of range. -/
def limit : Nat :=
  Nat.pow 2 1024

/-- Whether the product of a significand and a power of ten, each rounded on its own, is
    out of range. -/
def productOverflows (significand : Nat) (exponent : Int) : Bool :=
  if significand = 0 ∨ exponent < 0 then false
  else if 308 < exponent then true
  else limit ≤ round (round significand * round (Nat.pow 10 exponent.toNat))

/-- Whether a decimal number rounds to a value out of range. -/
def overflows (n : Decimal) : Bool :=
  if n.mantissa = 0 then false
  else if 308 < n.exponent then true
  else if 0 ≤ n.exponent then limit ≤ round (n.mantissa * Nat.pow 10 n.exponent.toNat)
  else if n.mantissa.log2 < (-n.exponent).toNat then false
  else
    -- a fraction below 2^1024 - 2^970 rounds to a finite value
    (limit - Nat.pow 2 970) * Nat.pow 10 (-n.exponent).toNat ≤ n.mantissa

end Winnow.Double
