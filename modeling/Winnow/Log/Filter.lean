import Winnow.Log.Directive.Parser

/-! # Log filters

The directives that decide which events of a run are shown. Directives are written with
commas between them.
-/

namespace Winnow

/-- The directives that decide which events are shown. -/
structure LogFilter where
  directives : List LogDirective
  deriving DecidableEq, Inhabited

namespace LogFilter

/-- The directives of a text with commas between them. The first one that cannot be used
    is the fault. -/
def parse (text : String) : Except DirectiveFault LogFilter :=
  ((Text.words (· == ',') text.toList).mapM LogDirective.parse).map LogFilter.mk

/-- Shows everything up to a level. -/
def upTo (level : LogLevel) : LogFilter :=
  ⟨[{ LogDirective.everything with rank := level.rank }]⟩

/-- The directive that decides on an event. Of equally specific ones the last decides. -/
def deciding? (filter : LogFilter) (event : LogEvent) : Option LogDirective :=
  (filter.directives.filter (·.covers event)).foldl
    (fun best directive =>
      match best with
      | none => some directive
      | some other => if other.yieldsTo directive then some directive else some other)
    none

def shows (filter : LogFilter) (event : LogEvent) : Bool :=
  match filter.deciding? event with
  | some directive => event.level.rank ≤ directive.rank
  | none => false

/-- The filter of a run: by how often detail was asked for, else by the directives that
    are set. Without any, or with malformed ones, only failures and warnings are shown. -/
def ofRun (verbosity : Nat) (directives : Option String) : Except DirectiveFault LogFilter :=
  match verbosity, directives with
  | 0, none => .ok (upTo .warn)
  | 0, some text =>
      match parse text with
      | .error .malformed => .ok (upTo .warn)
      | result => result
  | 1, _ => .ok (upTo .debug)
  | _, _ => .ok (upTo .trace)

end LogFilter

end Winnow
