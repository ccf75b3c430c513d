/-! # Defaults for filters

What holds where a filter file leaves a flag open.
-/

namespace Winnow

/-- What holds where a filter file does not say. -/
structure GroupDefaults where
  /-- Whether the filters of a group are combined with OR. -/
  asOr : Bool
  /-- Whether one value of a filter is enough. -/
  valuesAsOr : Bool
  deriving DecidableEq, Inhabited

/-- The defaults with OR between filters if it is asked for. -/
def GroupDefaults.withOr (defaults : GroupDefaults) (asked : Bool) : GroupDefaults :=
  { defaults with asOr := asked || defaults.asOr }

end Winnow
