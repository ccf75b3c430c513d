import Winnow.Toml.Scan

/-! # Printing TOML

Strings are printed in the plainest form that can hold them. Basic strings are the rule.
Strings with line breaks stand in triple quotes, and quotes or backslashes are rather put
into another form than escaped, unless a control character needs an escape anyway.
-/

namespace Winnow.TomlText

/-- The form in which a string is printed. -/
inductive Quoting where
  /-- One double quote, with escapes. -/
  | basic
  /-- One single quote. -/
  | literal
  /-- Three double quotes, with escapes. -/
  | basicLines
  /-- Three single quotes. -/
  | literalLines
  deriving DecidableEq, Inhabited

/-- The length of the longest run of a character, if `run` of them stand in front. -/
def longestRun (c : Char) (run : Nat) : List Char → Nat
  | [] => run
  | x :: rest =>
      if x = c then longestRun c (run + 1) rest else max run (longestRun c 0 rest)

/-- The form for a string: a basic string if nothing in it asks for more, else the first
    form that holds the string without an escape, else a form with escapes. -/
def quoting (s : List Char) : Quoting :=
  let doubles := longestRun '"' 0 s
  let singles := longestRun '\'' 0 s
  let isPrintable := s.all fun c => isPlain c || c == '\n'
  let hasBreak := s.contains '\n'
  let hasBackslash := s.contains '\\'
  if isPrintable ∧ doubles = 0 ∧ ¬hasBackslash ∧ ¬hasBreak then .basic
  else if isPrintable ∧ singles = 0 ∧ ¬hasBreak then .literal
  else if isPrintable ∧ doubles ≤ 2 ∧ ¬hasBackslash then .basicLines
  else if isPrintable ∧ singles ≤ 2 then .literalLines
  else if hasBreak then .basicLines
  else .basic

/-- A hexadecimal digit in upper case. -/
def upperHex (n : Nat) : Char :=
  (Nat.digitChar n).toUpper

/-- The form of a character other than a quote or a line break inside a string with
    escapes. -/
def escapedChar (c : Char) : List Char :=
  match c with
  | '\\' => ['\\', '\\']
  | '\x08' => ['\\', 'b']
  | '\t' => ['\\', 't']
  | '\x0c' => ['\\', 'f']
  | '\r' => ['\\', 'r']
  | c =>
      if isPlain c then [c]
      else ['\\', 'u', '0', '0', upperHex (c.toNat / 16), upperHex (c.toNat % 16)]

/-- The inside of a basic string on one line. -/
def escapedLine (s : List Char) : List Char :=
  s.flatMap fun c =>
    if c = '"' then ['\\', '"'] else if c = '\n' then ['\\', 'n'] else escapedChar c

/-- The inside of a basic string that spans lines, behind a run of double quotes. Every
    third double quote in a row is escaped. -/
def escapedLines (run : Nat) : List Char → List Char
  | [] => []
  | c :: rest =>
      if c = '"' then
        if run < 2 then '"' :: escapedLines (run + 1) rest
        else '\\' :: '"' :: escapedLines 0 rest
      else if c = '\n' then '\n' :: escapedLines 0 rest
      else escapedChar c ++ escapedLines 0 rest

/-- Three of a quote. -/
def triple (quote : Char) : List Char :=
  [quote, quote, quote]

/-- A string in the given form. A string with line breaks starts on a line of its own. -/
def quotedAs (form : Quoting) (s : List Char) : List Char :=
  let start := if s.contains '\n' then ['\n'] else []
  match form with
  | .basic => '"' :: escapedLine s ++ ['"']
  | .literal => '\'' :: s ++ ['\'']
  | .basicLines => triple '"' ++ start ++ escapedLines 0 s ++ triple '"'
  | .literalLines => triple '\'' ++ start ++ s ++ triple '\''

def quoted (text : String) : List Char :=
  let s := text.toList
  quotedAs (quoting s) s

/-- A truth value. -/
def truth (b : Bool) : List Char :=
  if b then ['t', 'r', 'u', 'e'] else ['f', 'a', 'l', 's', 'e']

/-- An array of strings: on one line with at most one item, else one item per line. -/
def quotedList : List String → List Char
  | [] => ['[', ']']
  | [text] => '[' :: quoted text ++ [']']
  | texts =>
      ['[', '\n'] ++ texts.flatMap (fun text => [' ', ' ', ' ', ' '] ++ quoted text ++ [',', '\n'])
        ++ [']']

end Winnow.TomlText
