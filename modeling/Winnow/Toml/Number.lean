import Winnow.Decimal.Digits
import Winnow.Text.Scan
import Winnow.Text.Split
import Winnow.Toml.Basic

/-! # TOML numbers

Integers in four bases and floating-point numbers. Single underscores may stand between
digits. Only decimal numbers have a sign, and none starts with a needless zero.

Two kinds of integers are numbers by their form alone, and it shows only when their value
is wanted whether they can be read: those with a mark of their base and nothing behind
it, and decimal ones with underscores, of which only the characters around the
underscores are looked at.
-/

namespace Winnow.TomlText

/-- The value of a digit in a base up to sixteen. -/
def digitIn (base : Nat) (c : Char) : Option Nat :=
  (Text.hexDigit c).filter (· < base)

/-- The digits of a run in which single underscores may stand between digits. -/
def separatedDigits (base : Nat) (s : List Char) : Option (List Nat) :=
  let groups := Text.pieces (· == '_') s
  if groups.any List.isEmpty then none else groups.flatten.mapM (digitIn base)

/-- The number that digits of a base stand for. -/
def valueIn (base : Nat) (digits : List Nat) : Nat :=
  digits.foldl (fun n d => n * base + d) 0

/-- Decimal digits without a needless zero in front. -/
def wholeDigits (s : List Char) : Option (List Nat) :=
  (separatedDigits 10 s).filter fun
    | 0 :: _ :: _ => false
    | _ => true

/-- Whether a minus sign stands in front, and what follows the sign. -/
def cutSign : List Char → Bool × List Char
  | '-' :: rest => (true, rest)
  | '+' :: rest => (false, rest)
  | s => (false, s)

/-- A natural number with a sign. -/
def withSign (negative : Bool) (n : Nat) : Int :=
  if negative then -(n : Int) else n

/-- The integer with the given digits. -/
def integerOf (base : Nat) (negative : Bool) (s : List Char) : Toml :=
  match s.mapM (digitIn base) with
  | some (first :: digits) => .integer (withSign negative (valueIn base (first :: digits)))
  | _ => .unreadable

/-- An integer in another base than ten, behind the mark of the base. -/
def basedInteger (base : Nat) (s : List Char) : Option Toml :=
  if s = [] then some .unreadable
  else (separatedDigits base s).map fun digits => .integer (valueIn base digits)

/-- Whether a character is a hexadecimal digit. -/
def isHexDigit (c : Char) : Bool :=
  (Text.hexDigit c).isSome

/-- Whether what follows an underscore has a digit, be it hexadecimal, on both sides of each
    further underscore and at its front. -/
def isSeparated : List (List Char) → Bool
  | [] => false
  | [part] => part.head?.any isHexDigit
  | part :: rest => part.head?.any isHexDigit && part.getLast?.any isHexDigit && isSeparated rest

/-- A decimal integer with underscores, the first of which stands in front of `rest`. -/
def separatedInteger (negative : Bool) (s rest : List Char) : Option Toml :=
  if s.head? = some '0' ∨ !isSeparated (Text.pieces (· == '_') rest) then none
  else some (integerOf 10 negative (s.filter (· != '_')))

/-- The exponent of a number: nothing, or digits behind an `e`. -/
def exponentOf : List Char → Option Int
  | [] => some 0
  | _ :: rest =>
      let (negative, digits) := cutSign rest
      (separatedDigits 10 digits).map fun digits => withSign negative (Digits.toNat digits)

/-- The digits behind the point: nothing, or digits behind a point. -/
def fractionOf : List Char → Option (List Nat)
  | [] => some []
  | _ :: digits => separatedDigits 10 digits

/-- The digits in front of a point or an exponent. An underscore may stand in front of them
    behind a sign, and then no zero is needless. -/
def mantissaDigits : List Char → Option (List Nat)
  | '_' :: s => separatedDigits 10 s
  | s => wholeDigits s

/-- A decimal number with a point or an exponent. -/
def decimalOf (negative : Bool) (s : List Char) : Option Decimal := do
  let isMark (c : Char) : Bool := c == 'e' || c == 'E'
  let significand := s.takeWhile (!isMark ·)
  let whole ← mantissaDigits (significand.takeWhile (· != '.'))
  let fraction ← fractionOf (significand.dropWhile (· != '.'))
  let exponent ← exponentOf (s.dropWhile (!isMark ·))
  return ⟨negative, Digits.toNat (whole ++ fraction), exponent - fraction.length⟩

/-- Whether a character tells a number with a point or an exponent from an integer. -/
def isFloatMark (c : Char) : Bool :=
  c == '.' || c == 'e' || c == 'E'

/-- A number behind its sign. -/
def unsignedNumber (negative : Bool) (s : List Char) : Option Toml :=
  if s = ['i', 'n', 'f'] then some (.float .infinite)
  else if s = ['n', 'a', 'n'] then some (.float .notANumber)
  else
    let rest := s.dropWhile Digits.isDigit
    if rest.any isFloatMark then (decimalOf negative s).map fun n => .float (.decimal n)
    else
      match rest with
      | [] =>
          (wholeDigits s).map fun digits => .integer (withSign negative (Digits.toNat digits))
      | '_' :: rest => separatedInteger negative s rest
      | _ => none

/-- The number that a token stands for. -/
def number : List Char → Option Toml
  | '0' :: 'x' :: s => basedInteger 16 s
  | '0' :: 'o' :: s => basedInteger 8 s
  | '0' :: 'b' :: s => basedInteger 2 s
  | '+' :: s => unsignedNumber false s
  | '-' :: s => unsignedNumber true s
  | '_' :: _ => none
  | s => unsignedNumber false s

end Winnow.TomlText
