import Winnow.FileTree
import Winnow.Filter.Defaults
import Winnow.Filter.Input
import Winnow.Json.Parser
import Winnow.Query.Request

/-! # Filter files

A filter file holds an array of filters, which is one required group, or an object whose
`groups` say how their filters are combined and whether they are required. The shape of
the whole file is checked before any filter is.
-/

namespace Winnow

/-- A group as written. -/
structure GroupInput where
  /-- Whether the filters are combined with OR, if the group says so. -/
  asOr : Option Bool
  /-- Whether the group is required, if the group says so. -/
  isRequired : Option Bool
  filters : List FilterInput
  deriving DecidableEq, Inhabited

/-- A group of filters that are combined into one clause per index. -/
structure FilterGroup where
  /-- Whether the filters of an index are combined with OR. -/
  asOr : Bool
  /-- Whether every document has to satisfy the group. -/
  isRequired : Bool
  filters : List Specification
  deriving DecidableEq, Inhabited

/-- A filter file that was read. -/
structure FilterFile where
  /-- Whether the file has the form with groups. -/
  isGrouped : Bool
  groups : List FilterGroup
  deriving DecidableEq, Inhabited

/-- Why a filter file was refused. -/
inductive FilterFileError where
  /-- The file could not be read. -/
  | unreadable (error : FileError)
  /-- The text is no JSON. -/
  | malformed
  /-- A group or filter has the wrong shape. -/
  | shape (error : ShapeError)
  /-- The document is neither an array nor an object with groups. -/
  | noFilters
  /-- A filter describes no specification. -/
  | filter (group position : Nat) (cause : QueryError)
  deriving DecidableEq, Inhabited

namespace FilterFileError

/-- The message of an error, for the file at a path. -/
def message (path : String) : FilterFileError → String
  | unreadable error => "failed to read filter file " ++ path ++ ": " ++ error.message
  | malformed => "failed to parse filter file " ++ path
  | shape error =>
      "failed to parse filter file " ++ path ++ (error.message?.map (": " ++ ·)).getD ""
  | noFilters =>
      "filter file " ++ path ++ " must hold an array of filters or an object with \"groups\""
  | filter group position cause =>
      "group " ++ toString group ++ ", filter " ++ toString position ++ ": " ++ cause.message

/-- How to mend the file, where that can be told. -/
def hint? : FilterFileError → Option String
  | filter _ _ cause => cause.hint?
  | _ => none

end FilterFileError

namespace GroupInput

/-- The fields of a group that were read so far. -/
structure Draft where
  /-- How the filters are combined. -/
  asOr : Option Bool
  /-- Whether the group is required. -/
  isRequired : Option Bool
  filters : Option (List FilterInput)

/-- The names of the fields of a group. -/
def fieldNames : List String :=
  ["evaluateAsOr", "mandatory", "filters"]

/-- Reads the members of a group object. No others than the three are allowed. -/
def readMembers (draft : Draft) : List (String × Json) → Except ShapeError Draft
  | [] => .ok draft
  | (name, value) :: rest => do
      if name = "evaluateAsOr" then
        let asOr ← value.asOptional Json.asBool
        readMembers { draft with asOr } rest
      else if name = "mandatory" then
        let isRequired ← value.asOptional Json.asBool
        readMembers { draft with isRequired } rest
      else if name = "filters" then
        let filters ← value.asList FilterInput.ofJson
        readMembers { draft with filters := some filters } rest
      else .error (.unknownField name fieldNames)

/-- Reads a group: an object, or an array of its three fields. -/
def ofJson : Json → Except ShapeError GroupInput
  | .object members => do
      let draft ← readMembers ⟨none, none, none⟩ members
      match draft.filters with
      | some filters => return ⟨draft.asOr, draft.isRequired, filters⟩
      | none => .error (.missingField "filters")
  | .array items => do
      match items with
      | [] => .error .invalidLength
      | asOr :: items =>
          let asOr ← asOr.asOptional Json.asBool
          match items with
          | [] => .error .invalidLength
          | isRequired :: items =>
              let isRequired ← isRequired.asOptional Json.asBool
              match items with
              | [] => .error .invalidLength
              | filters :: items =>
                  let filters ← filters.asList FilterInput.ofJson
                  if items.isEmpty then return ⟨asOr, isRequired, filters⟩
                  else .error .invalidLength
  | _ => .error .invalidType

end GroupInput

/-- Reads the groups of a document that has nothing but groups. -/
def readGroups (members : List (String × Json)) : Except ShapeError (List GroupInput) :=
  let rec go (groups : List GroupInput) :
      List (String × Json) → Except ShapeError (List GroupInput)
    | [] => .ok groups
    | (name, value) :: rest => do
        if name = "groups" then go (← value.asList GroupInput.ofJson) rest
        else .error (.unknownField name ["groups"])
  go [] members

namespace FilterGroup

/-- The specifications of a group's filters, or the first filter without one. -/
def specifications (group : Nat) (valuesAsOr : Bool) :
    Nat → List FilterInput → Except FilterFileError (List Specification)
  | _, [] => .ok []
  | position, input :: rest =>
      match input.toSpecification valuesAsOr with
      | .error cause => .error (.filter group position cause)
      | .ok spec => (specifications group valuesAsOr (position + 1) rest).map (spec :: ·)

/-- The group at a position of the file, with the defaults filled in. -/
def ofInput (defaults : GroupDefaults) (position : Nat) (input : GroupInput) :
    Except FilterFileError FilterGroup := do
  let filters ← specifications position defaults.valuesAsOr 0 input.filters
  return ⟨input.asOr.getD defaults.asOr, input.isRequired.getD true, filters⟩

/-- The groups from a position on. -/
def ofInputs (defaults : GroupDefaults) :
    Nat → List GroupInput → Except FilterFileError (List FilterGroup)
  | _, [] => .ok []
  | position, input :: rest => do
      let group ← ofInput defaults position input
      let groups ← ofInputs defaults (position + 1) rest
      return group :: groups

def assemble (group : FilterGroup) : Except QueryError IndexQueries :=
  IndexQueries.assemble group.asOr group.filters

end FilterGroup

namespace FilterFile

/-- Whether a document has the form with groups, and its groups as written. -/
def readDocument : Json → Except FilterFileError (Bool × List GroupInput)
  | .array items =>
      match (Json.array items).asList FilterInput.ofJson with
      | .ok filters => .ok (false, [⟨none, none, filters⟩])
      | .error e => .error (.shape e)
  | .object members =>
      if members.any (·.1 == "groups") then
        match readGroups members with
        | .ok groups => .ok (true, groups)
        | .error e => .error (.shape e)
      else .error .noFilters
  | _ => .error .noFilters

/-- The filter file that a text describes. -/
def parse (text : String) (defaults : GroupDefaults) : Except FilterFileError FilterFile :=
  match Json.parse? text with
  | none => .error .malformed
  | some document => do
      let (isGrouped, inputs) ← readDocument document
      let groups ← FilterGroup.ofInputs defaults 0 inputs
      return ⟨isGrouped, groups⟩

/-- Appends the queries of one group to a builder. -/
def appendGroup (builder : RequestBuilder) (group : FilterGroup) :
    Except QueryError RequestBuilder := do
  builder.append (← group.assemble) group.isRequired

/-- A builder for an index with the queries of every group. -/
def builder (file : FilterFile) (index : String) : Except QueryError RequestBuilder := do
  file.groups.foldlM appendGroup (← RequestBuilder.create index)

end FilterFile

end Winnow
