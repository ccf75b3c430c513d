import Winnow.Filter.Error
import Winnow.Json.Basic

/-! # Filter specifications

A specification selects or excludes the documents of an index by the values of one field.
Names and operator are checked when it is made; whether the values have the right form is
the compiler's business.
-/

namespace Winnow

/-- What a filter asks of a field. -/
structure Specification where
  /-- The index that holds the documents. -/
  index : String
  /-- The field that is compared. -/
  field : String
  /-- The nested object that the field belongs to, if any. -/
  nestedOf : Option String
  /-- How the field is compared. -/
  operator : Operator
  /-- The data type of the field. -/
  type : FieldType
  /-- What the field is compared with. -/
  values : List String
  /-- Whether one value is enough, rather than all of them. -/
  valuesAsOr : Bool
  deriving DecidableEq, Inhabited

namespace Specification

/-- A specification outside nested objects whose values all count. The checks run in this
    order: index, field, values, operator. -/
def create (index field : String) (operator : Operator) (type : FieldType)
    (values : List String) : Except QueryError Specification :=
  if index = "" then .error (.invalidArgument "indexName" "can't be empty")
  else if field = "" then .error (.invalidArgument "fieldName" "can't be empty")
  else if values = [] then .error (.emptyInput "values")
  else if type.supports operator then
    .ok ⟨index, field, none, operator, type, values, false⟩
  else .error (.unsupportedOperator operator type)

/-- Places the field in a nested object. The empty path means no nesting. -/
def withNestedOf (spec : Specification) (path : String) : Specification :=
  { spec with nestedOf := if path = "" then none else some path }

/-- Sets whether one value is enough. -/
def withValuesAsOr (spec : Specification) (valuesAsOr : Bool) : Specification :=
  { spec with valuesAsOr }

/-- The JSON form. The nested path is left out if there is none. -/
def toJson (spec : Specification) : Json :=
  let nested := match spec.nestedOf with
    | some path => [("nestedOf", Json.string path)]
    | none => []
  .object ([("indexName", .string spec.index), ("fieldName", .string spec.field)] ++ nested ++
    [("operator", .string spec.operator.name), ("type", .string spec.type.name),
     ("values", .strings spec.values), ("evaluateValuesAsOr", .bool spec.valuesAsOr)])

end Specification

end Winnow
