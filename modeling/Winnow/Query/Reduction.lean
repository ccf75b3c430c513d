import Winnow.Filter.Specification
import Winnow.Grouping

/-! # Reduction

Specifications that agree on everything but their values and their flag are merged into
one reduced filter. It has the values of all of them, duplicates included, and the flag of
the first.
-/

namespace Winnow

/-- What specifications have to agree on to be merged. -/
structure FilterKey where
  index : String
  field : String
  operator : Operator
  type : FieldType
  nestedOf : Option String
  deriving DecidableEq, Inhabited

def Specification.key (spec : Specification) : FilterKey :=
  ⟨spec.index, spec.field, spec.operator, spec.type, spec.nestedOf⟩

/-- Specifications with one key, merged. -/
structure ReducedFilter where
  /-- The common key. -/
  key : FilterKey
  /-- The values of all specifications, in order. -/
  values : List String
  /-- Whether one value is enough, by the first specification. -/
  valuesAsOr : Bool
  deriving DecidableEq, Inhabited

namespace ReducedFilter

/-- A specification on its own. -/
def ofSpecification (spec : Specification) : ReducedFilter :=
  ⟨spec.key, spec.values, spec.valuesAsOr⟩

/-- The specifications of a group, merged. -/
def ofGroup (key : FilterKey) (specs : List Specification) : ReducedFilter where
  key := key
  values := specs.flatMap (·.values)
  valuesAsOr := (specs.head?.map (·.valuesAsOr)).getD false

/-- A single specification with all the values. -/
def toSpecification (filter : ReducedFilter) : Specification :=
  ⟨filter.key.index, filter.key.field, filter.key.nestedOf, filter.key.operator,
    filter.key.type, filter.values, filter.valuesAsOr⟩

/-- Whether the filter selects documents rather than excluding them. -/
def isAffirmative (filter : ReducedFilter) : Bool :=
  filter.key.operator.isAffirmative

end ReducedFilter

/-- The specifications merged by their keys, in the order in which the keys first occur. -/
def merge (specs : List Specification) : List ReducedFilter :=
  (Grouping.ofList Specification.key specs).map fun (key, group) =>
    ReducedFilter.ofGroup key group

/-- The reduced filters of some specifications, of which there has to be one. -/
def reduce (specs : List Specification) : Except QueryError (List ReducedFilter) :=
  if specs = [] then .error (.emptyInput "specifications") else .ok (merge specs)

end Winnow
