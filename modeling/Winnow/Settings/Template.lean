/-! # Settings templates

The texts that a new settings file starts with. They show every setting with its usual
value, but as comments, so that a new file sets nothing.
-/

namespace Winnow

/-- Which settings file a template is for. -/
inductive SettingsScope where
  /-- A file for a directory and everything below it. -/
  | project
  /-- The file in the home directory. -/
  | home
  deriving DecidableEq, Inhabited

namespace SettingsScope

/-- The lines of a settings file that spells out the usual values. -/
def sample : SettingsScope → List String
  | project =>
      ["# esq project configuration.",
       "#",
       "# Settings here apply to esq runs in this directory and below. Files closer to",
       "# the working directory override files further up, which override ~/.esq.toml.",
       "",
       "# Stop looking for parent and global configuration files here.",
       "root = false",
       "",
       "[filters]",
       "# Combine filters on the same index with OR instead of AND.",
       "evaluate_as_or = false",
       "# Combine a filter's values with OR when the filter doesn't set evaluateValuesAsOr.",
       "evaluate_values_as_or = false",
       "",
       "[search]",
       "# Hits per page for `esq search`.",
       "page_size = 10",
       "# Default sort, as \"field:asc\" or \"field:desc\". A bare field sorts ascending.",
       "sort = [\"_score:desc\"]",
       "",
       "[aggregation]",
       "# Composite aggregation page size for `esq aggregate`.",
       "size = 1000",
       "# Name of the composite source.",
       "key = \"key\""]
  | home =>
      ["# esq global configuration (~/.esq.toml).",
       "#",
       "# Lowest precedence: any .esq.toml between the working directory and the",
       "# filesystem root overrides these values.",
       "",
       "[filters]",
       "evaluate_as_or = false",
       "evaluate_values_as_or = false",
       "",
       "[search]",
       "page_size = 10",
       "",
       "[aggregation]",
       "size = 1000",
       "key = \"key\""]

/-- A line as a comment. Empty lines and comments stay as they are. -/
def commented (line : String) : String :=
  if line = "" ∨ line.toList.head? = some '#' then line else "# " ++ line

/-- The text of a new settings file. -/
def template (scope : SettingsScope) : String :=
  String.join (scope.sample.map fun line => commented line ++ "\n")

end SettingsScope

end Winnow
