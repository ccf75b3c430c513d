import Winnow.Filter.Input
import Winnow.Json.Stream

/-! # Specifications read from text

A specification read straight from a JSON text. Unlike in a document that is read as a
whole first, a field may not occur twice, and a fault of shape is reported before any
fault of form behind it.
-/

namespace Winnow

namespace FilterStream

open JsonStream JsonText

/-- Reads a string and turns it into something that may be refused. -/
def named {α : Type} (parse : String → Except QueryError α) : Reader α := fun s => do
  let (name, rest) ← string s
  match parse name with
  | .ok x => return (x, rest)
  | .error e => .error (.shape (.rejected e.message))

def field (draft : FilterDraft) (key : FilterField) : Reader FilterDraft := fun s => do
  match key with
  | .index => let (x, rest) ← string s; return ({ draft with index := some x }, rest)
  | .field => let (x, rest) ← string s; return ({ draft with field := some x }, rest)
  | .nestedOf =>
      let (x, rest) ← optional string s
      return ({ draft with nestedOf := some x }, rest)
  | .operator =>
      let (x, rest) ← named Operator.parse s
      return ({ draft with operator := some x }, rest)
  | .type => let (x, rest) ← named FieldType.parse s; return ({ draft with type := some x }, rest)
  | .values => let (x, rest) ← list string s; return ({ draft with values := some x }, rest)
  | .valuesAsOr =>
      let (x, rest) ← optional bool s
      return ({ draft with valuesAsOr := some x }, rest)

/-- Reads one member of a filter object, after its name. -/
def member (draft : FilterDraft) (name : String) : Reader FilterDraft := fun s =>
  match FilterField.ofName? name with
  | none => do
      let ((), rest) ← ignore (← colon s)
      return (draft, rest)
  | some key =>
      if draft.has key then .error (.shape (.duplicateField name))
      else do field draft key (← colon s)

/-- Reads the items of a filter array, after its opening bracket. -/
def items (draft : FilterDraft) (first : Bool) : List FilterField → Reader FilterDraft
  | [], s =>
      match skipSpace s with
      | ']' :: rest => .ok (draft, rest)
      | _ => .error .malformed
  | key :: keys, s =>
      match skipSpace s with
      | ']' :: rest =>
          if key.mayBeMissing then items draft first keys (']' :: rest)
          else .error (.shape .invalidLength)
      | s =>
          if first then do
            let (draft, rest) ← field draft key s
            items draft false keys rest
          else
            match s with
            | ',' :: rest =>
                match skipSpace rest with
                | ']' :: _ | [] => .error .malformed
                | rest => do
                    let (draft, rest) ← field draft key rest
                    items draft false keys rest
            | _ => .error .malformed

def filter : Reader FilterInput := fun s => do
  let (draft, rest) ← match skipSpace s with
    | '{' :: rest => members member .empty rest
    | '[' :: rest => items .empty true FilterField.all rest
    | s => wrongType s
  match draft.finish with
  | .ok input => return (input, rest)
  | .error e => .error (.shape e)

end FilterStream

/-- Reads a specification from a text that holds nothing else. -/
def Specification.ofText (text : String) : Except StreamError Specification := do
  let (input, rest) ← FilterStream.filter text.toList
  match input.toSpecification false with
  | .error e => .error (.shape (.rejected e.message))
  | .ok spec => if (JsonText.skipSpace rest).isEmpty then return spec else .error .malformed

end Winnow
