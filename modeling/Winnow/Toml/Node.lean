import Winnow.Toml.Basic

/-! # Tables under construction

While a document is read, each table remembers how it came to be, because that decides
what may still be added to it. A header may open a table once, and only if no dotted key
made it; a dotted key may add to tables that no header opened. Values are finished, and
so are tables in braces.
-/

namespace Winnow

/-- How a table came to be. -/
inductive TableOrigin where
  /-- A header opened it. -/
  | opened
  /-- The header of a table inside it mentions it. -/
  | mentioned
  /-- A dotted key runs through it. -/
  | dotted
  deriving DecidableEq, Inhabited

/-- What stands under a key of a document that is being read. -/
inductive TomlNode where
  /-- A finished value. -/
  | value (value : Toml)
  | table (origin : TableOrigin) (entries : List (String × TomlNode))
  /-- An array of tables: the last one, and those before it. -/
  | tables (before : List (List (String × TomlNode))) (last : List (String × TomlNode))
  deriving Inhabited

/-- The entries of a table that is being read. -/
abbrev TomlEntries := List (String × TomlNode)

mutual

/-- The value of a node. -/
def TomlNode.toToml : TomlNode → Toml
  | .value v => v
  | .table _ entries => .table (TomlNode.toTomlEntries entries)
  | .tables before last =>
      .array (TomlNode.toTomlTables before ++ [.table (TomlNode.toTomlEntries last)])

/-- The values of entries. -/
def TomlNode.toTomlEntries : List (String × TomlNode) → List (String × Toml)
  | [] => []
  | (key, node) :: rest => (key, node.toToml) :: toTomlEntries rest

/-- The values of tables. -/
def TomlNode.toTomlTables : List (List (String × TomlNode)) → List Toml
  | [] => []
  | entries :: rest => .table (toTomlEntries entries) :: toTomlTables rest

end

namespace TomlEntries

/-- The entries with one replaced, or added at the end. -/
def set (key : String) (node : TomlNode) : TomlEntries → TomlEntries
  | [] => [(key, node)]
  | (other, old) :: rest =>
      if other = key then (key, node) :: rest else (other, old) :: set key node rest

/-- Adds an entry under a new key. -/
def add (key : String) (node : TomlNode) (entries : TomlEntries) : Option TomlEntries :=
  if (entries.lookup key).isSome then none else some (entries ++ [(key, node)])

/-- Changes the table that the path of a header leads to. Tables that are missing on the
    way are made, and an array of tables leads to its last table. -/
def under (change : TomlEntries → Option TomlEntries) :
    List String → TomlEntries → Option TomlEntries
  | [], entries => change entries
  | key :: path, entries =>
      match entries.lookup key with
      | none =>
          (under change path []).map fun inner => set key (.table .mentioned inner) entries
      | some (.table origin inner) =>
          (under change path inner).map fun inner => set key (.table origin inner) entries
      | some (.tables before last) =>
          (under change path last).map fun last => set key (.tables before last) entries
      | some (.value _) => none

/-- Gives a value to a key of a table. -/
def assign (path : List String) (key : String) (value : Toml) (entries : TomlEntries) :
    Option TomlEntries :=
  match path with
  | [] => add key (.value value) entries
  | first :: path => through key value path first entries
where
  /-- Gives a value to a key that at least one dotted table leads to. -/
  through (key : String) (value : Toml) :
      List String → String → TomlEntries → Option TomlEntries
    | [], first, entries =>
        match entries.lookup first with
        | none => some (entries ++ [(first, .table .dotted [(key, .value value)])])
        | some (.table .dotted inner) =>
            (add key (.value value) inner).map fun inner =>
              set first (.table .dotted inner) entries
        | some _ => none
    | next :: path, first, entries =>
        match entries.lookup first with
        | none =>
            (through key value path next []).map fun inner =>
              entries ++ [(first, .table .dotted inner)]
        | some (.table .opened _) | some (.value _) => none
        | some (.table origin inner) =>
            (through key value path next inner).map fun inner =>
              set first (.table origin inner) entries
        | some (.tables before last) =>
            (through key value path next last).map fun last =>
              set first (.tables before last) entries

/-- Opens a table by its header. -/
def openTable (key : String) (entries : TomlEntries) : Option TomlEntries :=
  match entries.lookup key with
  | none => some (entries ++ [(key, .table .opened [])])
  | some (.table .mentioned inner) => some (set key (.table .opened inner) entries)
  | some _ => none

/-- Opens the next table of an array of tables by its header. -/
def openNextTable (key : String) (entries : TomlEntries) : Option TomlEntries :=
  match entries.lookup key with
  | none => some (entries ++ [(key, .tables [] [])])
  | some (.tables before last) => some (set key (.tables (before ++ [last]) []) entries)
  | some _ => none

/-- The table of the entries that stand in braces. -/
def inBraces (written : List ((List String × String) × Toml)) : Option Toml :=
  (written.foldlM (fun entries ((path, key), value) => assign path key value entries) []).map
    fun entries => .table (TomlNode.toTomlEntries entries)

end TomlEntries

end Winnow
