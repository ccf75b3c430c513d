import Winnow.Settings.Basic
import Winnow.Toml.Parser
import Winnow.Toml.Shape

/-! # Settings layers

A settings file sets some of the settings and leaves the others to files further away.
Unknown keys are refused, so that a misspelt one does not pass unnoticed.
-/

namespace Winnow

/-- What a layer says on filters. -/
structure FilterLayer where
  asOr : Option Bool
  valuesAsOr : Option Bool
  deriving DecidableEq, Inhabited

/-- What a layer says on search requests. -/
structure SearchLayer where
  pageSize : Option Nat
  sort : Option (List String)
  deriving DecidableEq, Inhabited

/-- What a layer says on aggregation requests. -/
structure AggregationLayer where
  size : Option Nat
  key : Option String
  deriving DecidableEq, Inhabited

/-- What one settings file says. -/
structure SettingsLayer where
  /-- Whether files further away are ignored. -/
  isRoot : Option Bool
  filters : Option FilterLayer
  search : Option SearchLayer
  aggregation : Option AggregationLayer
  deriving DecidableEq, Inhabited

namespace FilterLayer

def empty : FilterLayer := ⟨none, none⟩

/-- The keys of the section, in the order in which an array has them. -/
def keys : List String :=
  ["evaluate_as_or", "evaluate_values_as_or"]

def set (layer : FilterLayer) (key : String) (value : Toml) : Except ShapeError FilterLayer := do
  if key = "evaluate_as_or" then return { layer with asOr := some (← value.asBool) }
  else if key = "evaluate_values_as_or" then
    return { layer with valuesAsOr := some (← value.asBool) }
  else .error (.unknownField key keys)

def ofToml : Toml → Except ShapeError FilterLayer :=
  Toml.asSection keys set empty

end FilterLayer

namespace SearchLayer

def empty : SearchLayer := ⟨none, none⟩

/-- The keys of the section, in the order in which an array has them. -/
def keys : List String :=
  ["page_size", "sort"]

def set (layer : SearchLayer) (key : String) (value : Toml) : Except ShapeError SearchLayer := do
  if key = "page_size" then return { layer with pageSize := some (← value.asCount) }
  else if key = "sort" then return { layer with sort := some (← value.asStrings) }
  else .error (.unknownField key keys)

def ofToml : Toml → Except ShapeError SearchLayer :=
  Toml.asSection keys set empty

end SearchLayer

namespace AggregationLayer

def empty : AggregationLayer := ⟨none, none⟩

/-- The keys of the section, in the order in which an array has them. -/
def keys : List String :=
  ["size", "key"]

def set (layer : AggregationLayer) (key : String) (value : Toml) :
    Except ShapeError AggregationLayer := do
  if key = "size" then return { layer with size := some (← value.asCount) }
  else if key = "key" then return { layer with key := some (← value.asString) }
  else .error (.unknownField key keys)

def ofToml : Toml → Except ShapeError AggregationLayer :=
  Toml.asSection keys set empty

end AggregationLayer

/-- Why the text of a settings file was refused. -/
inductive LayerError where
  /-- The text is no TOML. -/
  | malformed
  /-- A value has the wrong shape. -/
  | shape (error : ShapeError)
  deriving DecidableEq, Inhabited

/-- The message of an error, for those that have one. -/
def LayerError.message? : LayerError → Option String
  | malformed => none
  | shape error => error.message?

namespace SettingsLayer

def empty : SettingsLayer := ⟨none, none, none, none⟩

/-- The keys of a settings file, in the order in which an array has them. -/
def keys : List String :=
  ["root", "filters", "search", "aggregation"]

/-- Reads one key of a settings file. -/
def set (layer : SettingsLayer) (key : String) (value : Toml) :
    Except ShapeError SettingsLayer := do
  if key = "root" then return { layer with isRoot := some (← value.asBool) }
  else if key = "filters" then return { layer with filters := some (← FilterLayer.ofToml value) }
  else if key = "search" then return { layer with search := some (← SearchLayer.ofToml value) }
  else if key = "aggregation" then
    return { layer with aggregation := some (← AggregationLayer.ofToml value) }
  else .error (.unknownField key keys)

/-- Reads a document. -/
def ofToml : Toml → Except ShapeError SettingsLayer :=
  Toml.asSection keys set empty

/-- The layer that the text of a settings file describes. -/
def parse (text : String) : Except LayerError SettingsLayer :=
  match Toml.parse? text with
  | none => .error .malformed
  | some entries =>
      match ofToml (.table entries) with
      | .ok layer => .ok layer
      | .error e => .error (.shape e)

/-! ## What a layer says on each setting -/

/-- Whether the filters of a group are combined with OR. -/
def asOr (layer : SettingsLayer) : Option Bool :=
  layer.filters.bind (·.asOr)

/-- Whether one value of a filter is enough. -/
def valuesAsOr (layer : SettingsLayer) : Option Bool :=
  layer.filters.bind (·.valuesAsOr)

/-- The number of hits on a page. -/
def pageSize (layer : SettingsLayer) : Option Nat :=
  layer.search.bind (·.pageSize)

/-- The sort order, as written. -/
def sort (layer : SettingsLayer) : Option (List String) :=
  layer.search.bind (·.sort)

/-- The number of buckets on a page. -/
def size (layer : SettingsLayer) : Option Nat :=
  layer.aggregation.bind (·.size)

/-- The name of the source of the buckets. -/
def key (layer : SettingsLayer) : Option String :=
  layer.aggregation.bind (·.key)

end SettingsLayer

/-! ## Settings under a layer -/

/-- What holds for filters under a layer: what it says, or else what held before. -/
def FilterLayer.override (layer : FilterLayer) (settings : GroupDefaults) : GroupDefaults where
  asOr := layer.asOr.getD settings.asOr
  valuesAsOr := layer.valuesAsOr.getD settings.valuesAsOr

/-- What holds for search requests under a layer. A sort order replaces another as a whole. -/
def SearchLayer.override (layer : SearchLayer) (settings : SearchSettings) : SearchSettings where
  pageSize := layer.pageSize.getD settings.pageSize
  sort := layer.sort.getD settings.sort

/-- What holds for aggregation requests under a layer. -/
def AggregationLayer.override (layer : AggregationLayer) (settings : AggregationSettings) :
    AggregationSettings where
  size := layer.size.getD settings.size
  key := layer.key.getD settings.key

/-- The settings under a layer. A section that it doesn't have changes nothing. -/
def SettingsLayer.override (layer : SettingsLayer) (settings : Settings) : Settings where
  filters := layer.filters.elim settings.filters (·.override settings.filters)
  search := layer.search.elim settings.search (·.override settings.search)
  aggregation := layer.aggregation.elim settings.aggregation (·.override settings.aggregation)

/-- The settings of several layers, the strongest first. They override the standard settings
    one after the other, the weakest first. -/
def Settings.ofLayers (layers : List SettingsLayer) : Settings :=
  layers.foldr SettingsLayer.override standard

end Winnow
