import Winnow.Decimal.Digits
import Winnow.Settings.Basic
import Winnow.Toml.Printer

/-! # Printing settings

Settings are printed as a settings file that sets all of them.
-/

namespace Winnow

def TomlText.header (name : String) : List Char :=
  '[' :: name.toList ++ [']', '\n']

/-- A line that sets a key. -/
def TomlText.line (key : String) (value : List Char) : List Char :=
  key.toList ++ [' ', '=', ' '] ++ value ++ ['\n']

open TomlText in
/-- The text of a settings file with these settings. -/
def Settings.render (settings : Settings) : List Char :=
  header "filters"
    ++ line "evaluate_as_or" (truth settings.filters.asOr)
    ++ line "evaluate_values_as_or" (truth settings.filters.valuesAsOr)
    ++ '\n' :: header "search"
    ++ line "page_size" (Digits.text settings.search.pageSize)
    ++ line "sort" (quotedList settings.search.sort)
    ++ '\n' :: header "aggregation"
    ++ line "size" (Digits.text settings.aggregation.size)
    ++ line "key" (quoted settings.aggregation.key)

end Winnow
