import Winnow.Decimal.Basic

/-! # Decimal digits

Reading and writing runs of the digits 0 to 9.
-/

namespace Winnow.Digits

/-- Whether a character is one of the digits 0 to 9. -/
def isDigit (c : Char) : Bool :=
  '0' ≤ c && c ≤ '9'

/-- The value of a digit. -/
def value (c : Char) : Nat :=
  c.toNat - '0'.toNat

/-- The number that `acc` becomes when digits are written behind it. -/
def foldFrom (acc : Nat) (digits : List Nat) : Nat :=
  digits.foldl (fun n d => n * 10 + d) acc

/-- The number that a run of digits stands for. -/
def toNat (digits : List Nat) : Nat :=
  foldFrom 0 digits

/-- The run of digits at the front of a text, and the rest. -/
def span (s : List Char) : List Nat × List Char :=
  ((s.takeWhile isDigit).map value, s.dropWhile isDigit)

/-- The shortest decimal form of a natural number. -/
def text (n : Nat) : List Char :=
  Nat.toDigits 10 n

/-- The natural number below 2^64 that a text stands for: digits, with a plus sign in front
    at most. -/
def parseWord? (s : String) : Option Nat :=
  let digits := match s.toList with
    | '+' :: rest => rest
    | cs => cs
  let n := toNat (digits.map value)
  if digits ≠ [] ∧ digits.all isDigit ∧ n < wordLimit then some n else none

end Winnow.Digits
