import Winnow.Text.Name

/-! # Operators

The comparison that a filter applies to its field. Negated operators exclude documents;
the others select them.
-/

namespace Winnow

/-- The comparison that a filter applies. -/
inductive Operator where
  /-- The field equals one of the values. -/
  | is
  /-- The field equals none of the values. -/
  | isNot
  /-- The field contains every word of a value. -/
  | contains
  /-- The field does not contain the words of a value. -/
  | notContains
  /-- The field lies inside an interval. -/
  | between
  /-- The field lies outside an interval. -/
  | notBetween
  /-- The field is above the value. -/
  | greaterThan
  /-- The field is below the value. -/
  | lessThan
  deriving DecidableEq, Inhabited

namespace Operator

/-- Every operator, in the order in which they are listed to users. -/
def all : List Operator :=
  [is, isNot, contains, notContains, between, notBetween, greaterThan, lessThan]

def name : Operator → String
  | is => "Is"
  | isNot => "IsNot"
  | contains => "Contains"
  | notContains => "NotContains"
  | between => "Between"
  | notBetween => "NotBetween"
  | greaterThan => "GreaterThan"
  | lessThan => "LessThan"

/-- Whether the operator excludes documents rather than selecting them. -/
def isNegated : Operator → Bool
  | isNot | notContains | notBetween => true
  | _ => false

/-- Whether the operator selects documents. -/
def isAffirmative (op : Operator) : Bool :=
  !op.isNegated

/-- The operator with a loosely written name. -/
def ofName? (s : String) : Option Operator :=
  all.find? fun op => Text.spells s op.name

end Operator

end Winnow
