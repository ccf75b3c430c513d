import Winnow.Decimal.Digits
import Winnow.Style.Palette
import Winnow.Text.Split

/-! # Colouring documents

Requests and settings are coloured for terminals, line by line. Which part of a line has which
colour is for grammars and a theme to say. They are a parameter here, of which nothing is known but
that the parts of a line are the whole line. So whatever they are, nothing but escape codes is added
to a text.
-/

namespace Winnow

/-- The formats that can be coloured. -/
inductive DocumentFormat where
  | json
  | toml
  deriving DecidableEq, Inhabited

/-- A colour, in 24 bits. -/
structure Colour where
  red : UInt8
  green : UInt8
  blue : UInt8
  deriving DecidableEq, Inhabited

/-- The escape code of a colour. -/
def Colour.code (colour : Colour) : String :=
  let parts := [colour.red, colour.green, colour.blue].map (Digits.text ·.toNat)
  StatusStyle.escapeCode (String.ofList ("38;2;".toList ++ Text.join [';'] parts))

/-- A text behind the code of a colour. -/
def Colour.paint (colour : Colour) (text : String) : String :=
  colour.code ++ text

/-- Grammars and a theme. -/
structure Highlighter where
  /-- The ranges of a line with their colours, by the lines in front of it. A line that the grammar
      can't handle has none. -/
  ranges? : DocumentFormat → List String → String → Option (List (Colour × String))
  /-- The colour of lines that can't be handled. -/
  fallback : Colour
  /-- The ranges of a line are the whole line. -/
  partition : ∀ {format before line ranges}, ranges? format before line = some ranges →
    String.join (ranges.map (·.2)) = line

namespace Highlighter

/-- Handles no line, so that all of a text has one colour. -/
def uniform : Highlighter where
  ranges? _ _ _ := none
  fallback := ⟨255, 255, 255⟩
  partition := nofun

instance : Inhabited Highlighter := ⟨uniform⟩

variable (highlighter : Highlighter) (format : DocumentFormat)

/-- The ranges of a line, which is one range if it can't be handled. -/
def ranges (before : List String) (line : String) : List (Colour × String) :=
  (highlighter.ranges? format before line).getD [(highlighter.fallback, line)]

/-- A line in colours. -/
def paintLine (before : List String) (line : String) : String :=
  String.join ((highlighter.ranges format before line).map fun range => range.1.paint range.2)

/-- Lines in colours, behind some lines. -/
def paintLines (before : List String) : List String → String
  | [] => ""
  | line :: rest =>
      highlighter.paintLine format before line ++ paintLines (before ++ [line]) rest

end Highlighter

/-- A text in colours, with a code at its end that clears them. -/
def DocumentFormat.highlight (format : DocumentFormat) (text : String)
    (highlighter : Highlighter := .uniform) : String :=
  let lines := (Text.lines text.toList).map String.ofList
  highlighter.paintLines format [] lines ++ StatusStyle.reset

/-- Drops the escape codes that set styles. Each step drops at least one character, so the
    length of the text serves as `fuel`. -/
def withoutStyles : Nat → List Char → List Char
  | 0, s => s
  | _ + 1, [] => []
  | fuel + 1, c :: rest =>
      match rest with
      | '[' :: parameter =>
          match parameter.dropWhile fun d => d.isDigit || d == ';' with
          | 'm' :: rest' =>
              if c = '\x1b' then withoutStyles fuel rest' else c :: withoutStyles fuel rest
          | _ => c :: withoutStyles fuel rest
      | _ => c :: withoutStyles fuel rest

/-- A text without the escape codes that set styles. -/
def unstyled (text : String) : String :=
  String.ofList (withoutStyles (text.length + 1) text.toList)

end Winnow
