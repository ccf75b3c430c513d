import Winnow.Log.Event

/-! # The history of a run

The events that the steps of a run report, in order. A step that fails reports nothing,
and nothing is reported behind it.
-/

namespace Winnow.History

/-- The events of compiling filters, up to the first that fails. -/
def ofCompilation : List ReducedFilter → List LogEvent
  | [] => []
  | filter :: rest =>
      match filter.compile with
      | .error _ => []
      | .ok fragment =>
          .compiled filter :: .compiledQuery fragment.query :: ofCompilation rest

/-- The events of putting fragments together. -/
def ofFragments (asOr : Bool) (fragments : List Fragment) : List LogEvent :=
  (Grouping.ofList (·.index) fragments).map fun (index, group) =>
    .assembled asOr index group

def ofAssembly (asOr : Bool) (specs : List Specification) : List LogEvent :=
  match reduce specs with
  | .error _ => []
  | .ok filters =>
      .reduced specs filters :: ofCompilation filters
        ++ match filters.mapM (·.compile) with
          | .ok fragments => ofFragments asOr fragments
          | .error _ => []

/-- The events of assembling groups, up to the first that fails. -/
def ofGroups : List FilterGroup → List LogEvent
  | [] => []
  | group :: rest =>
      ofAssembly group.asOr group.filters
        ++ match group.assemble with
          | .ok _ => ofGroups rest
          | .error _ => []

/-- The events of appending groups to a request, up to the first that fails. -/
def ofAppending (index : String) : List FilterGroup → List LogEvent
  | [] => []
  | group :: rest =>
      ofAssembly group.asOr group.filters
        ++ match group.assemble with
          | .error _ => []
          | .ok queries =>
              if (queries.get? index).isSome then
                .appended index group.isRequired :: ofAppending index rest
              else []

/-- The events of building a request for an index. -/
def ofRequest (index : String) (file : FilterFile) : List LogEvent :=
  if index = "" then [] else ofAppending index file.groups

end Winnow.History
