import Winnow.Filter.Specification
import Winnow.Json.Shape

/-! # Filters as written

A filter is written as an object, or as an array of its fields in a fixed order. Its
fields are checked in the order in which they stand in the document; missing ones are
reported after that, and the specification is made last.
-/

namespace Winnow

/-- A filter as written, before its specification is made. -/
structure FilterInput where
  index : String
  field : String
  /-- The nested path as written, if any. -/
  nestedOf : Option String
  operator : Operator
  type : FieldType
  values : List String
  /-- Whether one value is enough, if the filter says so. -/
  valuesAsOr : Option Bool
  deriving DecidableEq, Inhabited

/-- The fields that a filter object may have. -/
inductive FilterField where
  | index
  | field
  | nestedOf
  | operator
  | type
  | values
  | valuesAsOr
  deriving DecidableEq

namespace FilterField

/-- Every field, in the order of the array form. -/
def all : List FilterField :=
  [index, field, nestedOf, operator, type, values, valuesAsOr]

/-- The name of a field in the object form. -/
def name : FilterField → String
  | index => "indexName"
  | field => "fieldName"
  | nestedOf => "nestedOf"
  | operator => "operator"
  | type => "type"
  | values => "values"
  | valuesAsOr => "evaluateValuesAsOr"

def ofName? (s : String) : Option FilterField :=
  all.find? fun key => key.name == s

/-- Whether a filter may do without the field. -/
def mayBeMissing : FilterField → Bool
  | nestedOf | values | valuesAsOr => true
  | _ => false

end FilterField

/-- The fields of a filter that were read so far. -/
structure FilterDraft where
  index : Option String
  field : Option String
  nestedOf : Option (Option String)
  operator : Option Operator
  type : Option FieldType
  values : Option (List String)
  valuesAsOr : Option (Option Bool)

namespace FilterDraft

/-- Nothing read yet. -/
def empty : FilterDraft :=
  ⟨none, none, none, none, none, none, none⟩

/-- Whether a field was read. -/
def has (draft : FilterDraft) : FilterField → Bool
  | .index => draft.index.isSome
  | .field => draft.field.isSome
  | .nestedOf => draft.nestedOf.isSome
  | .operator => draft.operator.isSome
  | .type => draft.type.isSome
  | .values => draft.values.isSome
  | .valuesAsOr => draft.valuesAsOr.isSome

/-- A required field, or the error that it is missing. -/
def need {α : Type} (key : FilterField) : Option α → Except ShapeError α
  | some x => .ok x
  | none => .error (.missingField key.name)

/-- The filter, once all is read. Nested path, values and flag may be missing. -/
def finish (draft : FilterDraft) : Except ShapeError FilterInput := do
  let index ← need .index draft.index
  let name ← need .field draft.field
  let operator ← need .operator draft.operator
  let type ← need .type draft.type
  return {
    index, operator, type
    field := name
    nestedOf := draft.nestedOf.getD none
    values := draft.values.getD []
    valuesAsOr := draft.valuesAsOr.getD none }

end FilterDraft

/-- A query error as the reason why a value was refused. -/
def ShapeError.ofQuery {α : Type} : Except QueryError α → Except ShapeError α
  | .ok x => .ok x
  | .error e => .error (.rejected e.message)

namespace FilterInput

/-- Reads the name of an operator. -/
def readOperator (value : Json) : Except ShapeError Operator := do
  ShapeError.ofQuery (Operator.parse (← value.asString))

/-- Reads the name of a type. -/
def readType (value : Json) : Except ShapeError FieldType := do
  ShapeError.ofQuery (FieldType.parse (← value.asString))

def readField (draft : FilterDraft) (key : FilterField) (value : Json) :
    Except ShapeError FilterDraft :=
  match key with
  | .index => do return { draft with index := some (← value.asString) }
  | .field => do return { draft with field := some (← value.asString) }
  | .nestedOf => do return { draft with nestedOf := some (← value.asOptional Json.asString) }
  | .operator => do return { draft with operator := some (← readOperator value) }
  | .type => do return { draft with type := some (← readType value) }
  | .values => do return { draft with values := some (← value.asList Json.asString) }
  | .valuesAsOr => do return { draft with valuesAsOr := some (← value.asOptional Json.asBool) }

/-- Reads the members of a filter object. Unknown members are ignored. -/
def readMembers (draft : FilterDraft) : List (String × Json) → Except ShapeError FilterDraft
  | [] => .ok draft
  | (name, value) :: rest =>
      match FilterField.ofName? name with
      | none => readMembers draft rest
      | some key => do readMembers (← readField draft key value) rest

/-- Reads the items of a filter array. The values and the flag may be missing at its end,
    and nothing may follow them. -/
def readItems (draft : FilterDraft) :
    List FilterField → List Json → Except ShapeError FilterDraft
  | [], [] => .ok draft
  | [], _ :: _ => .error .invalidLength
  | key :: keys, [] => if key.mayBeMissing then readItems draft keys [] else .error .invalidLength
  | key :: keys, value :: rest => do readItems (← readField draft key value) keys rest

/-- Reads a filter. -/
def ofJson : Json → Except ShapeError FilterInput
  | .object members => do (← readMembers .empty members).finish
  | .array items => do (← readItems .empty FilterField.all items).finish
  | _ => .error .invalidType

/-- The JSON form, with every field. -/
def toJson (input : FilterInput) : Json :=
  .object [("indexName", .string input.index), ("fieldName", .string input.field),
    ("nestedOf", .optionalString input.nestedOf), ("operator", .string input.operator.name),
    ("type", .string input.type.name), ("values", .strings input.values),
    ("evaluateValuesAsOr", .optionalBool input.valuesAsOr)]

/-- The specification that the filter describes. The default decides whether one value is
    enough if the filter does not say. -/
def toSpecification (input : FilterInput) (valuesAsOr : Bool) :
    Except QueryError Specification := do
  let spec ← Specification.create input.index input.field input.operator input.type input.values
  let spec := spec.withValuesAsOr (input.valuesAsOr.getD valuesAsOr)
  return match input.nestedOf with
    | some path => spec.withNestedOf path
    | none => spec

end FilterInput

/-- Reads a specification: a filter whose values all count unless it says otherwise. -/
def Specification.ofJson (value : Json) : Except ShapeError Specification := do
  let input ← FilterInput.ofJson value
  ShapeError.ofQuery (input.toSpecification false)

end Winnow
