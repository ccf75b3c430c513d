import Winnow.Text.Blank

/-! # Modes of written patterns

Log directives may describe the value of a field by a regular pattern. Two flags inside a
pattern change how the rest of it is read: with one, blanks and comments are skipped; the
other decides between characters and bytes.
-/

namespace Winnow.PatternSyntax

/-- The flags that decide how a pattern is read. -/
structure Mode where
  /-- Whether blanks and comments are skipped. -/
  isSpaced : Bool
  /-- Whether the pattern is about characters rather than bytes. -/
  isUnicode : Bool
  deriving DecidableEq, Inhabited

/-- Drops blanks and comments. A comment runs from a number sign to the end of its line. -/
def skipSpace (inComment : Bool) : List Char → List Char
  | [] => []
  | c :: rest =>
      if inComment then skipSpace (c != '\n') rest
      else if isBlank c then skipSpace false rest
      else if c = '#' then skipSpace true rest
      else c :: rest

namespace Mode

/-- The mode in which a pattern starts. -/
def standard : Mode := ⟨false, true⟩

/-- Drops what the mode skips. -/
def skip (mode : Mode) (s : List Char) : List Char :=
  if mode.isSpaced then skipSpace false s else s

end Mode

/-- The depth of parts that stand side by side. A single part needs no level of its own. -/
def nestedDepth : List Nat → Nat
  | [] => 0
  | [depth] => depth
  | depths => depths.foldl max 0 + 1

end Winnow.PatternSyntax
