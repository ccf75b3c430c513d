import Winnow.PatternSyntax.Mode
import Winnow.Text.Scan

/-! # Single positions of written patterns

An atom is what a character or an escape stands for. Which atoms are allowed depends on
the mode: bytes beyond ASCII match no text, properties are about characters, and edges of
words cannot be told from the next byte alone unless words are ASCII.
-/

namespace Winnow.PatternSyntax

/-- What a character or an escape stands for. -/
inductive Atom where
  /-- A single character, which may be written as the number of a byte. -/
  | single (c : Char) (isByte : Bool)
  /-- Digits, blanks or word characters, or all others. -/
  | shorthand (isNegated : Bool)
  /-- The characters of a general category, or all others. -/
  | category
  /-- An edge of the text. -/
  | edge
  /-- An edge of a word, or any other place. -/
  | wordEdge
  deriving DecidableEq, Inhabited

namespace Atom

/-- Whether an atom may stand outside of sets. -/
def mayStandAlone (mode : Mode) : Atom → Bool
  | single c isByte => mode.isUnicode || !isByte || c.toNat < 0x80
  | shorthand isNegated => mode.isUnicode || !isNegated
  | category => mode.isUnicode
  | edge => true
  | wordEdge => !mode.isUnicode

/-- Whether an atom may be a member of a set. -/
def mayBeMember (mode : Mode) : Atom → Bool
  | single c _ => mode.isUnicode || c.toNat < 0x80
  | shorthand isNegated => mode.isUnicode || !isNegated
  | category => mode.isUnicode
  | edge | wordEdge => false

/-- The character with a number of `count` further hexadecimal digits behind `acc`. -/
def ofNumber (mode : Mode) (isByte : Bool) (acc : Nat) : Nat → Scan Atom
  | 0, s => if acc.isValidChar then some (single (Char.ofNat acc) isByte, s) else none
  | count + 1, s =>
      match mode.skip s with
      | [] => none
      | c :: rest => do ofNumber mode isByte (acc * 16 + (← Text.hexDigit c)) count rest

/-- The letters of the general categories. -/
def categoryLetters : List Char :=
  ['c', 'l', 'm', 'n', 'p', 's', 'z']

/-- A general category, by its letter. -/
def ofCategory (mode : Mode) : Scan Atom := fun s =>
  match mode.skip s with
  | c :: rest => if categoryLetters.contains c.toLower then some (category, rest) else none
  | [] => none

/-- What a letter or a sign stands for behind a backslash. -/
def ofEscaped : Char → Option Atom
  | 'a' => some (single '\x07' false)
  | 'f' => some (single '\x0c' false)
  | 'n' => some (single '\n' false)
  | 'r' => some (single '\r' false)
  | 't' => some (single '\t' false)
  | 'v' => some (single '\x0b' false)
  | 'd' | 's' | 'w' => some (shorthand false)
  | 'D' | 'S' | 'W' => some (shorthand true)
  | 'A' | 'z' => some edge
  | 'b' | 'B' | '<' | '>' => some wordEdge
  | c => if c.toNat < 0x80 ∧ ¬c.isAlphanum then some (single c false) else none

/-- An escape, read behind its backslash. -/
def ofEscape (mode : Mode) : Scan Atom
  | 'x' :: rest => ofNumber mode true 0 2 rest
  | 'u' :: rest => ofNumber mode false 0 4 rest
  | 'U' :: rest => ofNumber mode false 0 8 rest
  | 'p' :: rest | 'P' :: rest => ofCategory mode rest
  | c :: rest => (ofEscaped c).map fun atom => (atom, rest)
  | [] => none

end Atom

end Winnow.PatternSyntax
