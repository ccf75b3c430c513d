import Winnow.Decimal.Basic

/-! # JSON values

Objects keep their members in written order, and so does everything that is printed from
them. Numbers are exact decimals.
-/

namespace Winnow

/-- A JSON value. -/
inductive Json where
  | null
  /-- A truth value. -/
  | bool (value : Bool)
  | number (value : Decimal)
  | string (value : String)
  | array (items : List Json)
  /-- An object, with its members in order. -/
  | object (members : List (String × Json))
  deriving Inhabited

namespace Json

/-- A natural number. -/
def nat (n : Nat) : Json :=
  number (.ofNat n)

/-- An array of strings. -/
def strings (values : List String) : Json :=
  array (values.map string)

/-- A string, or null. -/
def optionalString : Option String → Json
  | some s => string s
  | none => null

/-- A truth value, or null. -/
def optionalBool : Option Bool → Json
  | some b => bool b
  | none => null

/-- An object with a single member. -/
def single (name : String) (value : Json) : Json :=
  object [(name, value)]

end Json

end Winnow
