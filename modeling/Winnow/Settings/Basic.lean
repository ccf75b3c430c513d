import Winnow.Filter.Defaults
import Winnow.Query.Request

/-! # Settings

What the commands use where the command line does not say.
-/

namespace Winnow

/-- What holds for search requests. -/
structure SearchSettings where
  /-- The number of hits on a page. -/
  pageSize : Nat
  /-- The sort order, as written. -/
  sort : List String
  deriving DecidableEq, Inhabited

/-- What holds for aggregation requests. -/
structure AggregationSettings where
  /-- The number of buckets on a page. -/
  size : Nat
  /-- The name of the source of the buckets. -/
  key : String
  deriving DecidableEq, Inhabited

/-- What the commands use where the command line does not say. -/
structure Settings where
  /-- How filters are combined. -/
  filters : GroupDefaults
  /-- What holds for search requests. -/
  search : SearchSettings
  /-- What holds for aggregation requests. -/
  aggregation : AggregationSettings
  deriving DecidableEq, Inhabited

namespace Settings

/-- What holds if no settings file says otherwise. -/
def standard : Settings where
  filters := ⟨false, false⟩
  search := ⟨10, []⟩
  aggregation := ⟨RequestBuilder.defaultBuckets, "key"⟩

end Settings

/-- The sort order of search requests, or the first entry that is none. -/
def SearchSettings.sortFields (search : SearchSettings) : Except QueryError (List SortField) :=
  search.sort.mapM SortField.parse

end Winnow
