import Winnow.FilterFile
import Winnow.Json.Printer
import Winnow.Text.Quoted

/-! # Log events

What a run reports on its own working: a message with fields, a level, and the target
that directives select it by.
-/

namespace Winnow

/-- How important an event is. -/
inductive LogLevel where
  /-- Failures. -/
  | error
  /-- Something to look at. -/
  | warn
  /-- The course of a run. -/
  | info
  /-- The steps of a run. -/
  | debug
  /-- The results of the steps. -/
  | trace
  deriving DecidableEq, Inhabited

namespace LogLevel

/-- The rank of a level: the larger, the more detailed. -/
def rank : LogLevel → Nat
  | error => 1
  | warn => 2
  | info => 3
  | debug => 4
  | trace => 5

/-- The name of a level in log lines. -/
def name : LogLevel → String
  | error => "ERROR"
  | warn => "WARN"
  | info => "INFO"
  | debug => "DEBUG"
  | trace => "TRACE"

end LogLevel

/-- Something that a run reports on its own working. -/
structure LogEvent where
  /-- How important it is. -/
  level : LogLevel
  /-- The part of the program that reports it. -/
  target : String
  /-- What happened. -/
  message : String
  /-- The details, in order. -/
  fields : List (String × String)
  deriving DecidableEq, Inhabited

namespace LogEvent

/-- The log line of an event. -/
def text (event : LogEvent) : String :=
  event.level.name ++ " " ++ event.message
    ++ String.join (event.fields.map fun (name, value) => " " ++ name ++ "=" ++ value)

/-- A name in quotes. -/
def quotedName (name : String) : String :=
  String.ofList (Text.quoted name.toList)

/-- A filter file was read. -/
def loaded (path : String) (file : FilterFile) : LogEvent where
  level := .debug
  target := "esq::cli::input"
  message := "loaded filter file"
  fields :=
    [("path", path), ("groups", toString file.groups.length),
     ("filters", toString (file.groups.flatMap (·.filters)).length)]

/-- Specifications were merged. -/
def reduced (specs : List Specification) (filters : List ReducedFilter) : LogEvent where
  level := .debug
  target := "esq_query::reduce"
  message := "reduced filter specifications"
  fields := [("specifications", toString specs.length), ("groups", toString filters.length)]

/-- A filter was compiled. -/
def compiled (filter : ReducedFilter) : LogEvent where
  level := .debug
  target := "esq_query::compile"
  message := "compiled filter"
  fields :=
    [("index", quotedName filter.key.index), ("field", quotedName filter.key.field),
     ("operator", filter.key.operator.name), ("values", toString filter.values.length)]

/-- What a compiled filter asks. -/
def compiledQuery (query : Clause) : LogEvent where
  level := .trace
  target := "esq_query::compile"
  message := "compiled fragment"
  fields := [("query", query.toJson.compact)]

/-- The fragments of an index were put together. -/
def assembled (asOr : Bool) (index : String) (fragments : List Fragment) : LogEvent where
  level := .debug
  target := "esq_query::assemble"
  message := "assembled index query"
  fields :=
    [("index", index), ("mandatory", toString (fragments.filter (·.isAffirmative)).length),
     ("negated", toString (fragments.filter (!·.isAffirmative)).length),
     ("or_mode", toString asOr)]

/-- A clause was appended to a request. -/
def appended (index : String) (isRequired : Bool) : LogEvent where
  level := .debug
  target := "esq_query::builder"
  message := "appended index query"
  fields := [("index", index), ("is_mandatory", toString isRequired)]

end LogEvent

end Winnow
