import Winnow.Filter.Error
import Winnow.Json.Shape

/-! # Sort entries

A sort entry is written `field:direction`, or as a bare field that sorts ascending. The
last colon separates the direction, so fields may contain colons.
-/

namespace Winnow

/-- The direction of a sort entry. -/
inductive SortDirection where
  /-- Smallest first. -/
  | ascending
  /-- Largest first. -/
  | descending
  deriving DecidableEq, Inhabited

namespace SortDirection

/-- The short name, as used in requests. -/
def name : SortDirection → String
  | ascending => "asc"
  | descending => "desc"

/-- The direction with a name, short or long, in any case and between blanks. -/
def parse (s : String) : Except QueryError SortDirection :=
  let wanted := String.ofList (Text.lowerAscii (Text.trim s.toList))
  if wanted = "asc" ∨ wanted = "ascending" then .ok ascending
  else if wanted = "desc" ∨ wanted = "descending" then .ok descending
  else
    .error (.invalidArgument "sort"
      ("unknown sort direction '" ++ s ++ "', expected asc or desc"))

end SortDirection

/-- One entry of a sort order. -/
structure SortField where
  /-- The field to sort on. -/
  field : String
  direction : SortDirection
  deriving DecidableEq, Inhabited

namespace SortField

/-- The canonical text of an entry. -/
def text (entry : SortField) : String :=
  entry.field ++ ":" ++ entry.direction.name

/-- An entry from its text. A bad direction is reported before a missing field. -/
def parse (s : String) : Except QueryError SortField := do
  let trimmed := Text.trim s.toList
  let (field, direction) ← match Text.cutLast ':' trimmed with
    | some (field, direction) =>
        let direction ← SortDirection.parse (String.ofList direction)
        pure (String.ofList (Text.trim field), direction)
    | none => pure (String.ofList trimmed, .ascending)
  if field = "" then
    .error (.invalidArgument "sort" ("missing field name in '" ++ String.ofList trimmed ++ "'"))
  else return ⟨field, direction⟩

/-- Reads an entry from a JSON string. -/
def ofJson (value : Json) : Except ShapeError SortField := do
  match SortField.parse (← value.asString) with
  | .ok entry => .ok entry
  | .error e => .error (.rejected e.message)

/-- The form of an entry in a request. -/
def toJson (entry : SortField) : Json :=
  .single entry.field (.string entry.direction.name)

end SortField

end Winnow
