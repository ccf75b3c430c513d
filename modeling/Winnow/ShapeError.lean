/-! # Shape errors

Why a well-formed document does not have the shape that its reader wants.
-/

namespace Winnow

/-- Why a value does not have the wanted shape. -/
inductive ShapeError where
  /-- The value has another type. -/
  | invalidType
  /-- The value has the type but lies outside the range. -/
  | invalidValue
  /-- An array has too few or too many items. -/
  | invalidLength
  /-- A field is missing. -/
  | missingField (name : String)
  /-- A field is none of the known ones. -/
  | unknownField (name : String) (known : List String)
  /-- A field occurs twice. -/
  | duplicateField (name : String)
  /-- The value was read and then refused. -/
  | rejected (reason : String)
  /-- The value fits none of several shapes. -/
  | unmatched
  /-- The value is a number too large to be looked at. -/
  | outOfRange
  deriving DecidableEq, Inhabited

namespace ShapeError

/-- A field name in backquotes. -/
def shownField (name : String) : String :=
  "`" ++ name ++ "`"

/-- Several field names, one of which is wanted. -/
def shownChoice : List String → String
  | [] => "nothing"
  | [name] => shownField name
  | [first, second] => shownField first ++ " or " ++ shownField second
  | names => "one of " ++ ", ".intercalate (names.map shownField)

/-- The message of an error, for those that have one. -/
def message? : ShapeError → Option String
  | invalidType => some "invalid type"
  | invalidValue => some "invalid value"
  | invalidLength => some "invalid length"
  | missingField name => some ("missing field " ++ shownField name)
  | unknownField name known =>
      some ("unknown field " ++ shownField name ++ ", expected " ++ shownChoice known)
  | duplicateField name => some ("duplicate field " ++ shownField name)
  | rejected reason => some reason
  | unmatched | outOfRange => none

end ShapeError

end Winnow
