import Winnow.Text.Blank
import Winnow.Text.LetterCase
import Winnow.Text.Split
import Winnow.Text.WordChar

/-! # Wildcard patterns

A value of a contains filter is cut at blanks, and each part at the characters that
belong to no word. Every token that remains is searched anywhere in the field, in lower
case.
-/

namespace Winnow.Wildcard

/-- The mask of values that have a token. -/
def mask : String := "\\w+"

def tokens (value : List Char) : List (List Char) :=
  (Text.words isBlank value).flatMap (Text.words fun c => !isWordChar c)

/-- The pattern that finds a token anywhere in a field. -/
def pattern (token : List Char) : String :=
  String.ofList ('*' :: Text.lower token ++ ['*'])

/-- The patterns of a value, one per token. -/
def patterns (value : String) : List String :=
  (tokens value.toList).map pattern

end Winnow.Wildcard
