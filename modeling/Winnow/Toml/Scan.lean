import Winnow.Text.Scan

/-! # Scanning TOML text

Gaps, strings and keys. Strings come in four forms: basic ones have escapes and literal
ones have none; those in triple quotes may span lines.
-/

namespace Winnow.TomlText

open Text

/-- Spaces and tabs may stand between the parts of a line. -/
def isSpace (c : Char) : Bool :=
  c == ' ' || c == '\t'

/-- Drops spaces and tabs. -/
def skipSpace (s : List Char) : List Char :=
  s.dropWhile isSpace

/-- Whether a character may stand in a comment or a string: no control but the tab. -/
def isPlain (c : Char) : Bool :=
  c == '\t' || (0x20 ≤ c.toNat && c != '\x7f')

/-- Drops spaces, line breaks and comments. Nothing is given for a comment with a control
    character. -/
def skipGap (inComment : Bool) : List Char → Option (List Char)
  | [] => some []
  | '\n' :: rest => skipGap false rest
  | '\r' :: '\n' :: rest => skipGap false rest
  | c :: rest =>
      if inComment then if isPlain c then skipGap true rest else none
      else if isSpace c then skipGap false rest
      else if c = '#' then skipGap true rest
      else some (c :: rest)

/-- Whether a line may end here: the text ends, breaks or goes on with a comment. -/
def atLineEnd : List Char → Bool
  | [] | '\n' :: _ | '\r' :: '\n' :: _ | '#' :: _ => true
  | _ => false

/-! ## Strings -/

/-- The character with a number written in `count` hexadecimal digits behind `acc`. -/
def numericEscape (acc : Nat) : Nat → Scan Char
  | 0, s => if acc.isValidChar then some (Char.ofNat acc, s) else none
  | count + 1, c :: rest => do numericEscape (acc * 16 + (← hexDigit c)) count rest
  | _ + 1, [] => none

/-- The character of an escape, read after its backslash. -/
def escape : Scan Char
  | '"' :: rest => some ('"', rest)
  | '\\' :: rest => some ('\\', rest)
  | 'b' :: rest => some ('\x08', rest)
  | 'e' :: rest => some ('\x1b', rest)
  | 'f' :: rest => some ('\x0c', rest)
  | 'n' :: rest => some ('\n', rest)
  | 'r' :: rest => some ('\r', rest)
  | 't' :: rest => some ('\t', rest)
  | 'x' :: rest => numericEscape 0 2 rest
  | 'u' :: rest => numericEscape 0 4 rest
  | 'U' :: rest => numericEscape 0 8 rest
  | _ => none

/-- How a form of string is read, after its opening mark. -/
structure StringForm where
  /-- The closing mark, with the characters of the string that belong to it. -/
  close : Scan (List Char)
  /-- A step inside the string, with the characters that it stands for. -/
  step : Scan (List Char)

/-- A closing mark of one quote. -/
def closeSingle (quote : Char) : Scan (List Char)
  | [] => none
  | c :: rest => if c = quote then some ([], rest) else none

/-- A closing mark of three quotes. Up to two more quotes in front of it belong to the
    string. -/
def closeTriple (quote : Char) : Scan (List Char) := fun s =>
  let run := (s.takeWhile (· == quote)).length
  if run < 3 then none
  else
    let inside := min (run - 3) 2
    some (List.replicate inside quote, s.drop (inside + 3))

/-- A line break, as it stands. -/
def lineBreak : Scan (List Char)
  | '\n' :: rest => some (['\n'], rest)
  | '\r' :: '\n' :: rest => some (['\r', '\n'], rest)
  | _ => none

/-- Drops spaces and line breaks. -/
def skipBlankLines : List Char → List Char
  | '\n' :: rest => skipBlankLines rest
  | '\r' :: '\n' :: rest => skipBlankLines rest
  | c :: rest => if isSpace c then skipBlankLines rest else c :: rest
  | [] => []

/-- A character that stands for itself. -/
def plainStep : Scan (List Char)
  | [] => none
  | c :: rest => if isPlain c then some ([c], rest) else none

/-- A character or an escape. -/
def escapedStep : Scan (List Char)
  | '\\' :: rest => (escape rest).map fun (c, rest) => ([c], rest)
  | s => plainStep s

/-- A character, an escape or a line break. A backslash at the end of a line stands for
    nothing, and neither do the blanks and line breaks behind it. -/
def escapedLineStep : Scan (List Char)
  | '\\' :: rest =>
      match lineBreak (skipSpace rest) with
      | some (_, rest) => some ([], skipBlankLines rest)
      | none => (escape rest).map fun (c, rest) => ([c], rest)
  | s => (lineBreak s).or (plainStep s)

/-- A character or a line break. -/
def plainLineStep : Scan (List Char) := fun s =>
  (lineBreak s).or (plainStep s)

namespace StringForm

/-- Basic strings on one line. -/
def basic : StringForm := ⟨closeSingle '"', escapedStep⟩

/-- Literal strings on one line. -/
def literal : StringForm := ⟨closeSingle '\'', plainStep⟩

/-- Basic strings that may span lines. -/
def basicLines : StringForm := ⟨closeTriple '"', escapedLineStep⟩

/-- Literal strings that may span lines. -/
def literalLines : StringForm := ⟨closeTriple '\'', plainLineStep⟩

/-- The characters of a string up to its closing mark. A string has no more steps than
    the text has characters, which is what `fuel` counts. -/
def body (form : StringForm) : Nat → Scan (List Char)
  | 0, _ => none
  | fuel + 1, s =>
      match form.close s with
      | some (last, rest) => some (last, rest)
      | none =>
          match form.step s with
          | none => none
          | some (cs, rest) => (form.body fuel rest).map fun (more, rest) => (cs ++ more, rest)

/-- A string, read after its opening mark. -/
def read (form : StringForm) : Scan String := fun s =>
  (form.body (s.length + 1) s).map fun (cs, rest) => (String.ofList cs, rest)

end StringForm

/-- Drops a line break, if there is one. -/
def skipLineBreak (s : List Char) : List Char :=
  match lineBreak s with
  | some (_, rest) => rest
  | none => s

/-- A string of any form. A line break right behind three quotes is dropped. -/
def string : Scan String
  | '"' :: '"' :: '"' :: rest => StringForm.basicLines.read (skipLineBreak rest)
  | '"' :: rest => StringForm.basic.read rest
  | '\'' :: '\'' :: '\'' :: rest => StringForm.literalLines.read (skipLineBreak rest)
  | '\'' :: rest => StringForm.literal.read rest
  | _ => none

/-! ## Keys -/

/-- Whether a character may stand in a key without quotes. -/
def isKeyChar (c : Char) : Bool :=
  c.isAlphanum || c == '_' || c == '-'

/-- One part of a key: bare, or a string on one line. -/
def keyPart : Scan String
  | '"' :: rest => StringForm.basic.read rest
  | '\'' :: rest => StringForm.literal.read rest
  | s =>
      match s.takeWhile isKeyChar with
      | [] => none
      | name => some (String.ofList name, s.dropWhile isKeyChar)

/-- A key of parts with dots between them: the tables that lead to the last part, and the
    last part. A key has no more parts than the text has characters, which is what `fuel`
    counts. -/
def keyParts : Nat → Scan (List String × String)
  | 0, _ => none
  | fuel + 1, s =>
      match keyPart s with
      | none => none
      | some (name, rest) =>
          match skipSpace rest with
          | '.' :: rest =>
              (keyParts fuel (skipSpace rest)).map fun ((path, last), rest) =>
                ((name :: path, last), rest)
          | rest => some (([], name), rest)

/-- How deep arrays and tables in braces may nest, and how many tables a key may run
    through, itself counted. -/
def maxDepth : Nat := 80

/-- A key and the spaces around it. -/
def key : Scan (List String × String) := fun s =>
  (keyParts (s.length + 1) (skipSpace s)).filter fun ((path, _), _) => path.length < maxDepth

end Winnow.TomlText
