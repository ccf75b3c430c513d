import Winnow.Query.Compiler

/-! # Queries per index

Fragments are grouped by index, and each group becomes one clause. With AND, affirmative
fragments must hold and negated ones must not. With OR, one affirmative fragment should
hold, and the negated ones count as a single alternative that must not.
-/

namespace Winnow

/-- One clause per index, in the order in which the indices first occur. -/
structure IndexQueries where
  /-- The clauses, each with its index. -/
  clauses : List (String × Clause)
  /-- Whether the fragments of an index were combined with OR. -/
  asOr : Bool
  deriving Inhabited

namespace IndexQueries

/-- The queries of the affirmative, or of the negated, fragments. -/
def queriesOf (isAffirmative : Bool) (fragments : List Fragment) : List Clause :=
  (fragments.filter (·.isAffirmative == isAffirmative)).map (·.query)

/-- The negated queries as they stand under `must_not`. -/
def exclusions (asOr : Bool) : List Clause → List Clause
  | [] => []
  | negated => if asOr then [.any negated] else negated

/-- The clause of the fragments of one index. -/
def clauseOf (asOr : Bool) (fragments : List Fragment) : Clause :=
  let affirmative := queriesOf true fragments
  let excluded := exclusions asOr (queriesOf false fragments)
  if asOr then .bool [] affirmative excluded else .bool affirmative [] excluded

def ofFragments (asOr : Bool) (fragments : List Fragment) : IndexQueries where
  clauses := (Grouping.ofList (·.index) fragments).map fun (index, group) =>
    (index, clauseOf asOr group)
  asOr := asOr

/-- The queries of some specifications: they are reduced, compiled in order, and put
    together. -/
def assemble (asOr : Bool) (specs : List Specification) : Except QueryError IndexQueries := do
  let filters ← reduce specs
  let fragments ← filters.mapM (·.compile)
  return ofFragments asOr fragments

/-- The indices, in order. -/
def indices (queries : IndexQueries) : List String :=
  queries.clauses.map (·.1)

def get? (queries : IndexQueries) (index : String) : Option Clause :=
  queries.clauses.lookup index

/-- How many indices have a clause. -/
def size (queries : IndexQueries) : Nat :=
  queries.clauses.length

/-- The JSON form: an object with one member per index. -/
def toJson (queries : IndexQueries) : Json :=
  .object (queries.clauses.map fun (index, clause) => (index, clause.toJson))

end IndexQueries

end Winnow
