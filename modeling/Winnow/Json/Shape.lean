import Winnow.Json.Basic
import Winnow.ShapeError

/-! # Reading JSON values

Readers that take a value of one type, or say why they cannot.
-/

namespace Winnow

namespace Json

/-- Reads a string. -/
def asString : Json → Except ShapeError String
  | string s => .ok s
  | _ => .error .invalidType

/-- Reads a truth value. -/
def asBool : Json → Except ShapeError Bool
  | bool b => .ok b
  | _ => .error .invalidType

/-- Reads a value that may be null. -/
def asOptional {α : Type} (read : Json → Except ShapeError α) : Json → Except ShapeError (Option α)
  | null => .ok none
  | value => (read value).map some

/-- Reads an array, item by item. -/
def asList {α : Type} (read : Json → Except ShapeError α) : Json → Except ShapeError (List α)
  | array items => items.mapM read
  | _ => .error .invalidType

end Json

end Winnow
