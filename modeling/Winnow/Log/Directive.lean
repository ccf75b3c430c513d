import Winnow.Log.Event

/-! # Log directives

Which events are shown is said by directives. A directive names a level, a target whose
events it is about, or both; it may also ask for fields that an event must have. Of the
directives about an event the most specific one decides.

| directive        | shows                                          |
|------------------|------------------------------------------------|
| `debug`          | everything up to the level                     |
| `query=debug`    | the same of targets that start with the name   |
| `query`          | everything of such targets                     |
| `[{path}]=debug` | the same of events that have the field         |
| `[span]=debug`   | nothing, because no event stands in a span     |
-/

namespace Winnow

/-- A directive on which events are shown. -/
structure LogDirective where
  /-- What the target has to start with. -/
  target : Option String
  /-- The span that the event has to stand in. -/
  span : Option String
  /-- The fields that the event needs to have. -/
  fields : List String
  /-- Whether a field needs to have a given value. -/
  needsValue : Bool
  /-- The rank of the most detailed level that is shown, or 0 for none. -/
  rank : Nat
  deriving DecidableEq, Inhabited

namespace LogDirective

/-- A directive that shows everything. -/
def everything : LogDirective :=
  ⟨none, none, [], false, 5⟩

/-- Whether the directive can decide on its own, whatever surrounds an event. -/
def standsAlone (directive : LogDirective) : Bool :=
  directive.span.isNone && !directive.needsValue

/-- Whether the directive is about an event. -/
def covers (directive : LogDirective) (event : LogEvent) : Bool :=
  directive.standsAlone
    && (directive.target.getD "").toList.isPrefixOf event.target.toList
    && directive.fields.all fun name => name == "message" || event.fields.any (·.1 == name)

/-- How much of the target a directive spells out: nothing, or a number of characters. -/
def targetWeight (directive : LogDirective) : Nat :=
  match directive.target with
  | none => 0
  | some name => name.length + 1

/-- Whether a list of names does not stand behind another one of its length, name by
    name. -/
def notAfter : List String → List String → Bool
  | a :: as, b :: bs => if a = b then notAfter as bs else a < b
  | _, _ => true

/-- Whether a directive gives way to another one about the same event. -/
def yieldsTo (directive other : LogDirective) : Bool :=
  if directive.targetWeight ≠ other.targetWeight then
    directive.targetWeight < other.targetWeight
  else if directive.fields.length ≠ other.fields.length then
    directive.fields.length < other.fields.length
  else notAfter directive.fields other.fields

end LogDirective

end Winnow
