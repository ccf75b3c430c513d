import Winnow.Decimal.Basic

/-! # TOML values

What a TOML document holds: scalars, arrays and tables. How a table was written, with a
header, with dotted keys or in braces, makes no difference to its value.
-/

namespace Winnow

/-- A floating-point number as written. -/
inductive TomlFloat where
  /-- Infinity of either sign. -/
  | infinite
  /-- No number. -/
  | notANumber
  /-- A decimal number, which may be too large for a double. -/
  | decimal (value : Decimal)
  deriving DecidableEq, Inhabited

/-- A TOML value. -/
inductive Toml where
  | string (text : String)
  /-- An integer of any size. -/
  | integer (value : Int)
  /-- An integer that cannot be read, which matters only where its value is wanted. -/
  | unreadable
  /-- A floating-point number. -/
  | float (value : TomlFloat)
  | boolean (value : Bool)
  /-- A date, a time of day, or both, as written. -/
  | moment (text : String)
  /-- An array. -/
  | array (items : List Toml)
  /-- A table, with its entries in the order in which their keys first occur. -/
  | table (entries : List (String × Toml))
  deriving Inhabited

end Winnow
