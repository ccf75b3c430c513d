import Winnow.Decimal.Digits
import Winnow.Json.Basic

/-! # Printing JSON

One printer with two layouts: everything on one line, or one item per line with two
spaces per level. Empty containers take no line break in either. Only quotes,
backslashes and control characters below U+0020 are escaped.
-/

namespace Winnow

/-- How containers are laid out. -/
structure JsonLayout where
  /-- The line break in front of an item at the given depth. -/
  lineBreak : Nat → List Char
  /-- What stands between a name and its value. -/
  colon : List Char

/-- Everything on one line. -/
def JsonLayout.compact : JsonLayout :=
  ⟨fun _ => [], [':']⟩

/-- One item per line, two spaces per level. -/
def JsonLayout.pretty : JsonLayout :=
  ⟨fun depth => '\n' :: List.replicate (2 * depth) ' ', [':', ' ']⟩

namespace JsonText

/-- A hexadecimal digit in lower case. -/
def hexChar (n : Nat) : Char :=
  Nat.digitChar n

/-- The form of a character inside a string. -/
def escaped (c : Char) : List Char :=
  match c with
  | '"' => ['\\', '"']
  | '\\' => ['\\', '\\']
  | '\x08' => ['\\', 'b']
  | '\x0c' => ['\\', 'f']
  | '\n' => ['\\', 'n']
  | '\r' => ['\\', 'r']
  | '\t' => ['\\', 't']
  | c =>
      if c.toNat < 0x20 then
        ['\\', 'u', '0', '0', hexChar (c.toNat / 16), hexChar (c.toNat % 16)]
      else [c]

/-- A string token. -/
def quoted (s : String) : List Char :=
  '"' :: s.toList.flatMap escaped ++ ['"']

/-- A number token: the digits, with an exponent unless it is zero. -/
def numeral (n : Decimal) : List Char :=
  let sign := if n.negative then ['-'] else []
  let power :=
    if n.exponent = 0 then []
    else if n.exponent < 0 then 'e' :: '-' :: Digits.text n.exponent.natAbs
    else 'e' :: Digits.text n.exponent.natAbs
  sign ++ Digits.text n.mantissa ++ power

end JsonText

mutual

/-- The text of a value that stands at a depth. -/
def Json.render (layout : JsonLayout) (depth : Nat) : Json → List Char
  | .null => ['n', 'u', 'l', 'l']
  | .bool true => ['t', 'r', 'u', 'e']
  | .bool false => ['f', 'a', 'l', 's', 'e']
  | .number n => JsonText.numeral n
  | .string s => JsonText.quoted s
  | .array [] => ['[', ']']
  | .array (item :: rest) =>
      '[' :: layout.lineBreak (depth + 1) ++ item.render layout (depth + 1)
        ++ Json.renderItems layout (depth + 1) rest ++ layout.lineBreak depth ++ [']']
  | .object [] => ['{', '}']
  | .object ((name, value) :: rest) =>
      '{' :: layout.lineBreak (depth + 1) ++ JsonText.quoted name ++ layout.colon
        ++ value.render layout (depth + 1)
        ++ Json.renderMembers layout (depth + 1) rest ++ layout.lineBreak depth ++ ['}']

/-- The text of the items behind the first. -/
def Json.renderItems (layout : JsonLayout) (depth : Nat) : List Json → List Char
  | [] => []
  | item :: rest =>
      ',' :: layout.lineBreak depth ++ item.render layout depth
        ++ Json.renderItems layout depth rest

/-- The text of the members behind the first. -/
def Json.renderMembers (layout : JsonLayout) (depth : Nat) : List (String × Json) → List Char
  | [] => []
  | (name, value) :: rest =>
      ',' :: layout.lineBreak depth ++ JsonText.quoted name ++ layout.colon
        ++ value.render layout depth ++ Json.renderMembers layout depth rest

end

namespace Json

/-- A value on one line. -/
def compact (value : Json) : String :=
  String.ofList (value.render .compact 0)

/-- A value with one item per line. -/
def pretty (value : Json) : String :=
  String.ofList (value.render .pretty 0)

end Json

end Winnow
