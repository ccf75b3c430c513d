import Winnow.Filter.FieldType

/-! # Query errors

Why a filter, an index map or a request was refused. Every error has a message; some
have a hint on how to mend the input.
-/

namespace Winnow

/-- Why a filter or a request was refused. -/
inductive QueryError where
  /-- A list that needs members had none. -/
  | emptyInput (what : String)
  /-- An argument was missing or malformed. -/
  | invalidArgument (name reason : String)
  /-- The type does not support the operator. -/
  | unsupportedOperator (operator : Operator) (type : FieldType)
  /-- A value does not match the mask of its type and operator. -/
  | invalidValueFormat (field value expected : String)
  /-- An index map has no query for the index of a request. -/
  | missingIndex (index : String)
  deriving DecidableEq, Inhabited

namespace QueryError

def message : QueryError → String
  | emptyInput what => what ++ " can't be empty"
  | invalidArgument name reason => "invalid argument '" ++ name ++ "': " ++ reason
  | unsupportedOperator operator type =>
      "the operator '" ++ operator.name ++ "' is not valid for " ++ type.name ++ " filters"
  | invalidValueFormat field value expected =>
      "value '" ++ value ++ "' for field '" ++ field ++ "' doesn't match the mask " ++ expected
  | missingIndex index => "index query map doesn't contain a query for '" ++ index ++ "'"

/-- The hint for a value that does not match `expected`: the mask tells which kind of
    value was wanted. -/
def valueHint (expected : String) : String :=
  let mask := expected.toList
  if mask.contains ';' then
    "Between values use '<low>;<high>'; prefix a bound with '_' to include it "
      ++ "(1;_10 means > 1 and <= 10)"
  else if Text.occurs "\\d\x7b4\x7d".toList mask then
    "Date values use 'yyyy-MM-dd'; prefix with '_' to include the value itself"
  else if Text.occurs "\\w".toList mask then
    "Contains values need at least one letter or digit"
  else
    "Number values are digits with an optional decimal part; prefix with '_' to include "
      ++ "the value itself"

/-- How to mend the input, where that can be told. -/
def hint? : QueryError → Option String
  | unsupportedOperator _ .text => some "Text filters accept Is, IsNot, Contains and NotContains"
  | unsupportedOperator _ _ =>
      some ("Number and Date filters accept Is, IsNot, Between, NotBetween, GreaterThan "
        ++ "and LessThan")
  | invalidValueFormat _ _ expected => some (valueHint expected)
  | missingIndex _ =>
      some "Append only index maps built from filters that target the builder's index"
  | emptyInput _ | invalidArgument _ _ => none

end QueryError

/-- The operator with a loosely written name, or why there is none. -/
def Operator.parse (s : String) : Except QueryError Operator :=
  match Operator.ofName? s with
  | some op => .ok op
  | none => .error (.invalidArgument "operator" ("unknown operator '" ++ s ++ "'"))

/-- The type with a loosely written name, or why there is none. -/
def FieldType.parse (s : String) : Except QueryError FieldType :=
  match FieldType.ofName? s with
  | some type => .ok type
  | none => .error (.invalidArgument "type" ("unknown filter type '" ++ s ++ "'"))

end Winnow
