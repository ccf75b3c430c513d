import Winnow.Toml.Moment
import Winnow.Toml.Node
import Winnow.Toml.Number
import Winnow.Toml.Scan

/-! # Reading TOML

A document is a sequence of statements, each on lines of its own: headers that open a
table, and entries of the table that was opened last. Arrays and tables in braces may
span lines, may have a comma behind the last item, and nest at most 80 deep.
-/

namespace Winnow

namespace TomlText

/-- Whether a character may stand in a number, a moment or a word: all but blanks, line
    breaks and the characters that structure a document. -/
def isTokenChar (c : Char) : Bool :=
  !(isSpace c || ['\n', '\r', '#', '=', ',', '[', ']', '\x7b', '\x7d'].contains c)

/-- The value that a token stands for. -/
def tokenValue (token : List Char) : Option Toml :=
  if token = ['t', 'r', 'u', 'e'] then some (.boolean true)
  else if token = ['f', 'a', 'l', 's', 'e'] then some (.boolean false)
  else if isMoment token then some (.moment (String.ofList token))
  else number token

/-- The token at the front of a text. A space stands inside a token only between a date
    and a time. -/
def token (s : List Char) : List Char × List Char :=
  let first := s.takeWhile isTokenChar
  let rest := s.dropWhile isTokenChar
  match rest with
  | ' ' :: c :: _ =>
      if isDate first && Digits.isDigit c then
        (first ++ ' ' :: rest.tail.takeWhile isTokenChar, rest.tail.dropWhile isTokenChar)
      else (first, rest)
  | _ => (first, rest)

/-- A value that is neither an array nor a table. -/
def scalar (s : List Char) : Option (Toml × List Char) :=
  match s with
  | '"' :: _ | '\'' :: _ => (string s).map fun (text, rest) => (.string text, rest)
  | _ =>
      let (token, rest) := token s
      (tokenValue token).map fun v => (v, rest)

/-- Items with commas between them up to the closing character. No text has more items
    than characters, which is what `fuel` counts. -/
def itemsUpTo {α : Type} (close : Char) (item : Scan α) : Nat → Scan (List α)
  | 0, _ => none
  | fuel + 1, s =>
      match skipGap false s with
      | none | some [] => none
      | some (c :: rest) =>
          if c = close then some ([], rest)
          else
            match item (c :: rest) with
            | none => none
            | some (x, rest) =>
                match skipGap false rest with
                | none | some [] => none
                | some (c :: rest) =>
                    if c = ',' then
                      (itemsUpTo close item fuel rest).map fun (xs, rest) => (x :: xs, rest)
                    else if c = close then some ([x], rest)
                    else none

/-- The inside of an array or of a table in braces. -/
def items {α : Type} (close : Char) (item : Scan α) : Scan (List α) := fun s =>
  itemsUpTo close item (s.length + 1) s

/-- A key, an equals sign and a value, with gaps around the equals sign. -/
def entry {α : Type} (skip : List Char → Option (List Char)) (value : Scan α) :
    Scan ((List String × String) × α) := fun s => do
  let (name, rest) ← key s
  match ← skip rest with
  | '=' :: rest => (value (← skip rest)).map fun (v, rest) => ((name, v), rest)
  | _ => none

/-- A value with arrays and tables nested at most `depth` deep. -/
def value : Nat → List Char → Option (Toml × List Char)
  | 0, s => scalar s
  | depth + 1, s =>
      match s with
      | '[' :: rest =>
          (items ']' (value depth) rest).map fun (values, rest) => (.array values, rest)
      | '{' :: rest =>
          match items '}' (entry (skipGap false) (value depth)) rest with
          | some (entries, rest) => (TomlEntries.inBraces entries).map fun v => (v, rest)
          | none => none
      | s => scalar s

end TomlText

/-- A statement of a document. -/
inductive TomlStatement where
  /-- Opens a table. -/
  | openTable (path : List String) (key : String)
  /-- Opens the next table of an array of tables. -/
  | openNextTable (path : List String) (key : String)
  /-- Gives a value to a key of the open table. -/
  | assign (path : List String) (key : String) (value : Toml)
  deriving Inhabited

namespace TomlText

def statement (s : List Char) : Option (TomlStatement × List Char) :=
  match s with
  | '[' :: '[' :: rest =>
      match key rest with
      | some ((path, name), ']' :: ']' :: rest) => some (.openNextTable path name, rest)
      | _ => none
  | '[' :: rest =>
      match key rest with
      | some ((path, name), ']' :: rest) => some (.openTable path name, rest)
      | _ => none
  | s => (entry (some ∘ skipSpace) (value maxDepth) s).map fun (((path, name), v), rest) =>
      (.assign path name v, rest)

/-- The statements of a text. No text has more statements than characters, which is what
    `fuel` counts. -/
def statements : Nat → List Char → Option (List TomlStatement)
  | 0, _ => none
  | fuel + 1, s =>
      match skipGap false s with
      | none => none
      | some [] => some []
      | some s =>
          match statement s with
          | none => none
          | some (first, rest) =>
              let rest := skipSpace rest
              if atLineEnd rest then (statements fuel rest).map (first :: ·) else none

/-- Drops a byte order mark at the front. -/
def skipMark : List Char → List Char
  | '\ufeff' :: rest => rest
  | s => s

end TomlText

/-- A document that is being read. -/
structure TomlDraft where
  /-- The path of the table that was opened last. -/
  current : List String
  /-- What was read so far. -/
  entries : TomlEntries

/-- Follows one statement. -/
def TomlDraft.step (draft : TomlDraft) : TomlStatement → Option TomlDraft
  | .openTable path key =>
      (draft.entries.under (TomlEntries.openTable key) path).map fun entries =>
        ⟨path ++ [key], entries⟩
  | .openNextTable path key =>
      (draft.entries.under (TomlEntries.openNextTable key) path).map fun entries =>
        ⟨path ++ [key], entries⟩
  | .assign path key value =>
      (draft.entries.under (TomlEntries.assign path key value) draft.current).map fun entries =>
        { draft with entries }

/-- The entries of the document that a text describes. -/
def Toml.parse? (text : String) : Option (List (String × Toml)) := do
  let s := TomlText.skipMark text.toList
  let statements ← TomlText.statements (s.length + 1) s
  let draft ← statements.foldlM TomlDraft.step ⟨[], []⟩
  return TomlNode.toTomlEntries draft.entries

end Winnow
