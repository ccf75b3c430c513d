import Winnow.Decimal.Digits
import Winnow.Decimal.Double
import Winnow.Json.Basic
import Winnow.Json.Scan

/-! # JSON number tokens

A number token is checked in two steps: its form, and whether its value fits into a
double. The value is computed from the leading digits below 2^64; later digits of the
whole part only raise the exponent, and later digits of the fraction are dropped.
-/

namespace Winnow.JsonText

/-- The parts of a number token. -/
structure NumberToken where
  /-- Whether a minus sign stands in front. -/
  negative : Bool
  /-- The digits before the point. -/
  whole : List Nat
  /-- The digits behind the point. -/
  fraction : List Nat
  /-- The written exponent, or 0. -/
  exponent : Int

namespace NumberToken

/-- The digits before the point: a zero alone, or digits that start with another one. -/
def scanWhole (s : List Char) : Option (List Nat × List Char) :=
  match Digits.span s with
  | ([], _) => none
  | (0 :: _ :: _, _) => none
  | (digits, rest) => some (digits, rest)

/-- The digits behind the point, if there is one. -/
def scanFraction (s : List Char) : Option (List Nat × List Char) :=
  match s with
  | '.' :: rest =>
      match Digits.span rest with
      | ([], _) => none
      | (digits, rest) => some (digits, rest)
  | _ => some ([], s)

/-- The sign of an exponent: 1 or -1. -/
def scanExponentSign : List Char → Int × List Char
  | '+' :: rest => (1, rest)
  | '-' :: rest => (-1, rest)
  | s => (1, s)

/-- The exponent, if there is one. -/
def scanExponent (s : List Char) : Option (Int × List Char) :=
  match s with
  | [] => some (0, [])
  | c :: rest =>
      if c = 'e' ∨ c = 'E' then
        let (sign, rest) := scanExponentSign rest
        match Digits.span rest with
        | ([], _) => none
        | (digits, rest) => some (sign * Digits.toNat digits, rest)
      else some (0, s)

/-- A number token, whatever its size. -/
def scan (s : List Char) : Option (NumberToken × List Char) := do
  let (negative, s) := match s with
    | '-' :: rest => (true, rest)
    | s => (false, s)
  let (whole, s) ← scanWhole s
  let (fraction, s) ← scanFraction s
  let (exponent, s) ← scanExponent s
  some (⟨negative, whole, fraction, exponent⟩, s)

/-- Digits written behind `acc` for as long as the number stays below 2^64, and the
    digits left over. -/
def takeBelowWord (acc : Nat) : List Nat → Nat × List Nat
  | [] => (acc, [])
  | d :: digits =>
      if acc * 10 + d < wordLimit then takeBelowWord (acc * 10 + d) digits else (acc, d :: digits)

/-- Whether the number fits into a double. -/
def fits (token : NumberToken) : Bool :=
  let (significand, raised) := takeBelowWord 0 token.whole
  let (significand, dropped) := takeBelowWord significand token.fraction
  let exponent : Int :=
    token.exponent + raised.length - (token.fraction.length - dropped.length)
  !Double.productOverflows significand exponent

/-- The number that the token stands for. -/
def value (token : NumberToken) : Decimal where
  negative := token.negative
  mantissa := Digits.toNat (token.whole ++ token.fraction)
  exponent := token.exponent - token.fraction.length

end NumberToken

/-- A number token that fits into a double. -/
def number : Scan Decimal := fun s =>
  match NumberToken.scan s with
  | some (token, rest) => if token.fits then some (token.value, rest) else none
  | none => none

end Winnow.JsonText
