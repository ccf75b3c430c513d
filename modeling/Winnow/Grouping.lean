/-! # Stable grouping

Entries with one key form a group. The groups stand in the order in which their keys
first occur, and the entries of a group keep their order.
-/

namespace Winnow.Grouping

/-- Adds an entry to the group of its key, or starts a new group at the end. -/
def add {κ α : Type} [DecidableEq κ] (key : κ) (entry : α) :
    List (κ × List α) → List (κ × List α)
  | [] => [(key, [entry])]
  | (other, entries) :: rest =>
      if other = key then (other, entries ++ [entry]) :: rest
      else (other, entries) :: add key entry rest

/-- The groups of some entries, by the key of each. -/
def ofList {κ α : Type} [DecidableEq κ] (key : α → κ) (entries : List α) :
    List (κ × List α) :=
  entries.foldl (fun groups entry => add (key entry) entry groups) []

end Winnow.Grouping
