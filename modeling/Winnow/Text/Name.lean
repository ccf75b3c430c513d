import Winnow.Text.Blank
import Winnow.Text.Split

/-! # Loosely written names

Names of operators and types may be written in any case, with blanks around them and with
underscores or hyphens anywhere: `is_not`, `IS-NOT` and ` IsNot ` are one name.
-/

namespace Winnow.Text

/-- The letters A to Z in lower case; other characters stay. -/
def lowerAscii (s : List Char) : List Char :=
  s.map Char.toLower

/-- The form in which loosely written names are compared. -/
def looseName (s : List Char) : List Char :=
  lowerAscii ((trim s).filter fun c => c != '_' && c != '-')

/-- Whether `s` is a loose spelling of `name`. -/
def spells (s name : String) : Bool :=
  looseName s.toList == lowerAscii name.toList

/-- Whether `needle` stands somewhere in a text. -/
def occurs (needle : List Char) : List Char → Bool
  | [] => needle.isEmpty
  | c :: rest => needle.isPrefixOf (c :: rest) || occurs needle rest

end Winnow.Text
