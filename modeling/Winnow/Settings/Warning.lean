import Winnow.Settings.Basic

/-! # Warnings

Settings that can be used but lead to empty results or to requests that are refused.
-/

namespace Winnow

/-- A setting that is hardly meant. -/
inductive SettingsWarning where
  /-- Pages without hits. -/
  | zeroPageSize
  /-- A sort entry that is none. -/
  | invalidSort (entry : String) (reason : QueryError)
  /-- Pages without buckets. -/
  | zeroAggregationSize
  /-- A source without a name. -/
  | emptyAggregationKey
  deriving DecidableEq, Inhabited

namespace SettingsWarning

def message : SettingsWarning → String
  | zeroPageSize => "search.page_size is 0, searches will return no hits"
  | invalidSort entry reason =>
      "search.sort entry '" ++ entry ++ "' is invalid: " ++ reason.message
  | zeroAggregationSize => "aggregation.size is 0, aggregations will return no buckets"
  | emptyAggregationKey => "aggregation.key is empty"

/-- How to mend the setting. -/
def hint : SettingsWarning → String
  | zeroPageSize => "Set search.page_size to at least 1."
  | invalidSort _ _ => "Write sort entries as \"field\", \"field:asc\" or \"field:desc\"."
  | zeroAggregationSize => "Set aggregation.size to at least 1."
  | emptyAggregationKey => "Set aggregation.key to a source name such as \"key\"."

/-- The warning about a sort entry, if there is one. -/
def ofSort? (entry : String) : Option SettingsWarning :=
  match SortField.parse entry with
  | .ok _ => none
  | .error reason => some (invalidSort entry reason)

end SettingsWarning

/-- The warnings about settings, in the order of the sections. -/
def Settings.warnings (settings : Settings) : List SettingsWarning :=
  (if settings.search.pageSize = 0 then [.zeroPageSize] else [])
    ++ settings.search.sort.filterMap SettingsWarning.ofSort?
    ++ (if settings.aggregation.size = 0 then [.zeroAggregationSize] else [])
    ++ (if Text.trim settings.aggregation.key.toList = [] then [.emptyAggregationKey] else [])

end Winnow
