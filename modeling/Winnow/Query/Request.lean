import Winnow.Query.IndexQueries
import Winnow.Query.Sort

/-! # Requests

A request builder is bound to one index and collects that index's clause from each map
that is appended to it. The request takes the collected clauses apart by one level:

| clause    | has         | contributes                        |
|-----------|-------------|------------------------------------|
| required  | `must`      | the clauses of its `must`          |
| required  | no `must`   | itself                             |
| optional  | `should`    | the clauses of its `should`        |
| optional  | no `should` | what it would if it were required  |
-/

namespace Winnow

/-- A clause that was appended to a builder. -/
structure RequestItem where
  clause : Clause
  /-- Whether every document has to satisfy it. -/
  isRequired : Bool
  deriving Inhabited

/-- Collects the clauses of one index. -/
structure RequestBuilder where
  /-- The index of the request. -/
  index : String
  /-- What was appended, in order. -/
  items : List RequestItem
  deriving Inhabited

/-- The query of a request. Both lists are written out, even if they are empty. -/
structure BoolQuery where
  /-- What has to hold. -/
  must : List Clause
  /-- What may hold. -/
  should : List Clause
  deriving Inhabited

/-- The JSON form of the query of a request. -/
def BoolQuery.toJson (query : BoolQuery) : Json :=
  .single "bool" (.object
    [("must", .array (Clause.toJsonList query.must)),
     ("should", .array (Clause.toJsonList query.should))])

namespace Clause

/-- What a required clause contributes. -/
def requiredParts : Clause → List Clause
  | bool (clause :: rest) _ _ => clause :: rest
  | clause => [clause]

/-- What an optional clause contributes. -/
def optionalParts : Clause → List Clause
  | bool _ (clause :: rest) _ => clause :: rest
  | clause => clause.requiredParts

end Clause

namespace RequestBuilder

/-- A builder for an index without anything appended. -/
def create (index : String) : Except QueryError RequestBuilder :=
  if index = "" then .error (.invalidArgument "indexName" "can't be empty")
  else .ok ⟨index, []⟩

/-- Appends the clause of the builder's index. An append that fails leaves a builder behind too,
    as the builder of a session is used on after it. -/
def appendWith (builder : RequestBuilder) (queries : IndexQueries) (isRequired : Bool) :
    Except QueryError Unit × RequestBuilder :=
  match queries.get? builder.index with
  | none => (.error (.missingIndex builder.index), builder)
  | some clause => (.ok (), { builder with items := builder.items ++ [⟨clause, isRequired⟩] })

/-- The builder after an append, where nothing is done after one that fails. -/
def append (builder : RequestBuilder) (queries : IndexQueries) (isRequired : Bool) :
    Except QueryError RequestBuilder :=
  let (result, next) := builder.appendWith queries isRequired
  result.map fun () => next

section Append

variable {builder : RequestBuilder} {queries : IndexQueries} {clause : Clause}

theorem appendWith_absent (absent : queries.get? builder.index = none) (isRequired : Bool) :
    builder.appendWith queries isRequired = (.error (.missingIndex builder.index), builder) := by
  rw [appendWith, absent]

theorem appendWith_present (found : queries.get? builder.index = some clause)
    (isRequired : Bool) :
    builder.appendWith queries isRequired =
      (.ok (), { builder with items := builder.items ++ [⟨clause, isRequired⟩] }) := by
  rw [appendWith, found]

theorem append_absent (absent : queries.get? builder.index = none) (isRequired : Bool) :
    builder.append queries isRequired = .error (.missingIndex builder.index) := by
  rw [append, appendWith_absent absent]
  rfl

theorem append_present (found : queries.get? builder.index = some clause) (isRequired : Bool) :
    builder.append queries isRequired =
      .ok { builder with items := builder.items ++ [⟨clause, isRequired⟩] } := by
  rw [append, appendWith_present found]
  rfl

end Append

/-- The query of the clauses collected so far. -/
def query (builder : RequestBuilder) : BoolQuery where
  must := (builder.items.filter (·.isRequired)).flatMap (·.clause.requiredParts)
  should := (builder.items.filter (!·.isRequired)).flatMap (·.clause.optionalParts)

/-- The largest number that a request can hold. -/
def maxCount : Nat := wordLimit - 1

/-- A search request for one page of hits. -/
def search (builder : RequestBuilder) (page size : Nat) (sort : List SortField) : Json :=
  .object [("from", .nat (min (page * size) maxCount)), ("size", .nat size),
    ("query", builder.query.toJson), ("sort", .array (sort.map (·.toJson)))]

/-- The number of buckets in a page of an aggregation, unless another one is asked for. -/
def defaultBuckets : Nat := 1000

/-- Checks that an argument is not empty. -/
def needArgument (name value : String) : Except QueryError Unit :=
  if value = "" then .error (.invalidArgument name "can't be empty") else .ok ()

/-- A request for one page of buckets of a field, without hits. -/
def aggregate (builder : RequestBuilder) (name field key : String) (size : Nat) :
    Except QueryError Json := do
  needArgument "aggName" name
  needArgument "fieldName" field
  needArgument "fieldKey" key
  let source := Json.single key (.single "terms" (.single "field" (.string field)))
  return .object [("size", .nat 0), ("query", builder.query.toJson),
    ("aggs", .single name (.single "composite"
      (.object [("size", .nat size), ("source", .array [source])])))]

end RequestBuilder

end Winnow
