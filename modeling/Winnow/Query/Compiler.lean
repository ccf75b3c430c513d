import Winnow.Query.Clause
import Winnow.Query.Reduction
import Winnow.Query.ValueMask
import Winnow.Query.Wildcard

/-! # Compiling filters

Text filters become matches or wildcards, combined as the filter's flag asks. Number and
date filters become one range per value, any of which is enough.
-/

namespace Winnow

/-- A compiled filter. -/
structure Fragment where
  /-- The index that the filter targets. -/
  index : String
  /-- Whether the filter selects documents rather than excluding them. -/
  isAffirmative : Bool
  /-- What the filter asks. -/
  query : Clause
  deriving Inhabited

/-- How filters of a type are compiled. -/
inductive Compiler where
  /-- By matches and wildcards. -/
  | text
  /-- By ranges over values with a mask. -/
  | range (mask : ValueMask)
  deriving DecidableEq, Inhabited

/-- Which bounds of a range a value gives. -/
inductive Extent where
  /-- Both bounds are the value. -/
  | exact
  /-- Both bounds, from the two halves of the value. -/
  | interval
  /-- The lower bound. -/
  | above
  /-- The upper bound. -/
  | below
  deriving DecidableEq, Inhabited

namespace Compiler

/-- The compiler for filters on a field of the given type. -/
def ofType : FieldType → Compiler
  | .text => text
  | .number => range .number
  | .date => range .date

/-- All clauses, or any of them. -/
def combine (asOr : Bool) (clauses : List Clause) : Clause :=
  if asOr then .any clauses else .all clauses

/-- The wildcards of a value, all of which have to be found. A value without a token is
    refused. -/
def wildcards (field value : String) : Except QueryError Clause :=
  match Wildcard.patterns value with
  | [] => .error (.invalidValueFormat field value Wildcard.mask)
  | patterns => .ok (.all (patterns.map fun pattern => .leaf (.wildcard field pattern)))

/-- What a text filter asks. -/
def textQuery (filter : ReducedFilter) : Except QueryError Clause :=
  let field := filter.key.field
  match filter.key.operator with
  | .is | .isNot =>
      .ok (combine filter.valuesAsOr
        (filter.values.map fun value => .leaf (.matching field value)))
  | .contains | .notContains =>
      (filter.values.mapM (wildcards field)).map (combine filter.valuesAsOr)
  | operator => .error (.unsupportedOperator operator .text)

/-- The bounds that values of an operator give, if it compares with ranges. -/
def extent? : Operator → Option Extent
  | .is | .isNot => some .exact
  | .between | .notBetween => some .interval
  | .greaterThan => some .above
  | .lessThan => some .below
  | .contains | .notContains => none

/-- The pattern that values have to match. -/
def maskPattern (mask : ValueMask) : Extent → Pattern
  | .interval => mask.interval
  | _ => mask.bound

/-- A bound from its text: underscores only mark it as inclusive. -/
def bound (raw : List Char) : Bound where
  inclusive := raw.head? == some '_'
  value := String.ofList (Text.trim (raw.filter (· != '_')))

/-- The range of one value. -/
def rangeLeaf (field : String) (extent : Extent) (value : String) : Leaf :=
  let raw := value.toList
  match extent with
  | .exact => .range field (some (bound raw)) (some (bound raw))
  | .interval =>
      let (low, high) := (Text.cutFirst ';' raw).getD (raw, raw)
      .range field (some (bound low)) (some (bound high))
  | .above => .range field (some (bound raw)) none
  | .below => .range field none (some (bound raw))

/-- A single clause as it is; otherwise any of several. -/
def anyOf : List Clause → Clause
  | [clause] => clause
  | clauses => .any clauses

/-- What a filter over ranges asks. Every value has to match the mask. -/
def rangeQuery (mask : ValueMask) (filter : ReducedFilter) : Except QueryError Clause :=
  let field := filter.key.field
  match extent? filter.key.operator with
  | none => .error (.unsupportedOperator filter.key.operator filter.key.type)
  | some extent =>
      let pattern := maskPattern mask extent
      match filter.values.find? fun value => !pattern.accepts value.toList with
      | some value => .error (.invalidValueFormat field value pattern.wholeText)
      | none => .ok (anyOf (filter.values.map fun value => .leaf (rangeLeaf field extent value)))

/-- What a filter asks, by the given compiler. -/
def query : Compiler → ReducedFilter → Except QueryError Clause
  | text, filter => textQuery filter
  | range mask, filter => rangeQuery mask filter

def compile (compiler : Compiler) (filter : ReducedFilter) : Except QueryError Fragment :=
  (compiler.query filter).map fun query => ⟨filter.key.index, filter.isAffirmative, query⟩

end Compiler

/-- Compiles a filter by the compiler for its type. -/
def ReducedFilter.compile (filter : ReducedFilter) : Except QueryError Fragment :=
  (Compiler.ofType filter.key.type).compile filter

/-- Compiles a specification on its own. -/
def Specification.compile (spec : Specification) : Except QueryError Fragment :=
  (ReducedFilter.ofSpecification spec).compile

end Winnow
