import Winnow.Json.Parser
import Winnow.Json.Shape

/-! # Reading JSON as a stream

Typed values read straight from the front of a text. A value of the wrong shape is
reported as soon as it is met, even if the text behind it is no JSON; what no reader asks
for is skipped with less scrutiny than a value that is read.
-/

namespace Winnow

/-- Why a text could not be read. -/
inductive StreamError where
  /-- The text is no JSON. -/
  | malformed
  /-- A value has the wrong shape. -/
  | shape (error : ShapeError)
  deriving DecidableEq, Inhabited

namespace JsonStream

open JsonText Text

/-- What reads a value from the front of a text. -/
abbrev Reader (α : Type) := List Char → Except StreamError (α × List Char)

/-- The result of a scan, which fails only on a malformed text. -/
def ofScan {α : Type} : Option α → Except StreamError α
  | some x => .ok x
  | none => .error .malformed

/-- Reports a value that is not of the wanted type. A scalar has to be well-formed to be
    reported so; the inside of a container is not looked at. -/
def wrongType {α : Type} (s : List Char) : Except StreamError α :=
  match s with
  | '[' :: _ | '{' :: _ => .error (.shape .invalidType)
  | s => if (scalar s).isSome then .error (.shape .invalidType) else .error .malformed

def string : Reader String := fun s =>
  match skipSpace s with
  | '"' :: rest => ofScan (JsonText.string ('"' :: rest))
  | s => wrongType s

def bool : Reader Bool := fun s =>
  match skipSpace s with
  | 't' :: rest => ofScan ((skipWord ['r', 'u', 'e'] rest).map fun rest => (true, rest))
  | 'f' :: rest => ofScan ((skipWord ['a', 'l', 's', 'e'] rest).map fun rest => (false, rest))
  | s => wrongType s

/-- Reads a value that may be null. -/
def optional {α : Type} (read : Reader α) : Reader (Option α) := fun s =>
  match skipSpace s with
  | 'n' :: rest => ofScan ((skipWord ['u', 'l', 'l'] rest).map fun rest => (none, rest))
  | s => (read s).map fun (x, rest) => (some x, rest)

/-- Items separated by commas up to a closing bracket, at least one. No text has more
    items than characters, so its length serves as `fuel`. -/
def itemsUpTo {α : Type} (item : Reader α) : Nat → Reader (List α)
  | 0, _ => .error .malformed
  | fuel + 1, s => do
      let (x, rest) ← item s
      match skipSpace rest with
      | ',' :: rest =>
          let (xs, rest) ← itemsUpTo item fuel rest
          return (x :: xs, rest)
      | ']' :: rest => return ([x], rest)
      | _ => .error .malformed

/-- Reads an array. -/
def list {α : Type} (item : Reader α) : Reader (List α) := fun s =>
  match skipSpace s with
  | '[' :: rest =>
      match skipSpace rest with
      | ']' :: rest => .ok ([], rest)
      | rest => itemsUpTo item (rest.length + 1) rest
  | s => wrongType s

/-- Drops a string up to its closing quote. The numbers of escapes are not looked at. -/
def skipString : List Char → Option (List Char)
  | [] => none
  | '"' :: rest => some rest
  | '\\' :: 'u' :: a :: b :: c :: d :: rest =>
      if [a, b, c, d].all fun x => (hexDigit x).isSome then skipString rest else none
  | '\\' :: c :: rest =>
      if (shortEscape? c).isSome then skipString rest else none
  | c :: rest => if c = '\\' ∨ c.toNat < 0x20 then none else skipString rest

/-- Drops a value. Numbers may be of any size, and containers may nest as deep as the
    text is long, which is what `fuel` counts. -/
def skipValue : Nat → Scan Unit
  | 0, _ => none
  | fuel + 1, s =>
      match skipSpace s with
      | '"' :: rest => (skipString rest).map fun rest => ((), rest)
      | '[' :: rest => (container ']' (skipValue fuel) rest).map fun (_, rest) => ((), rest)
      | '{' :: rest => (container '}' (skipMember fuel) rest).map fun (_, rest) => ((), rest)
      | 'n' :: rest => (skipWord ['u', 'l', 'l'] rest).map fun rest => ((), rest)
      | 't' :: rest => (skipWord ['r', 'u', 'e'] rest).map fun rest => ((), rest)
      | 'f' :: rest => (skipWord ['a', 'l', 's', 'e'] rest).map fun rest => ((), rest)
      | s => (NumberToken.scan s).map fun (_, rest) => ((), rest)
where
  /-- Drops a member: a name, a colon and a value. -/
  skipMember (fuel : Nat) : Scan Unit := fun s =>
    match skipSpace s with
    | '"' :: rest =>
        match skipString rest with
        | none => none
        | some rest =>
            match skipSpace rest with
            | ':' :: rest => skipValue fuel rest
            | _ => none
    | _ => none

/-- Drops a value of any kind. -/
def ignore : Reader Unit := fun s =>
  ofScan (skipValue (s.length + 1) s)

/-- Drops the colon behind a name. -/
def colon (s : List Char) : Except StreamError (List Char) :=
  match skipSpace s with
  | ':' :: rest => .ok rest
  | _ => .error .malformed

/-- Reads members one by one up to the closing brace, at least one. The step is given the
    name of a member and the text behind the name. -/
def membersUpTo {σ : Type} (step : σ → String → Reader σ) : Nat → σ → Reader σ
  | 0, _, _ => .error .malformed
  | fuel + 1, state, s => do
      match skipSpace s with
      | '"' :: rest =>
          let (name, rest) ← ofScan (JsonText.string ('"' :: rest))
          let (state, rest) ← step state name rest
          match skipSpace rest with
          | ',' :: rest => membersUpTo step fuel state rest
          | '}' :: rest => return (state, rest)
          | _ => .error .malformed
      | _ => .error .malformed

/-- Reads the members of an object, after its opening brace. -/
def members {σ : Type} (step : σ → String → Reader σ) (state : σ) : Reader σ := fun s =>
  match skipSpace s with
  | '}' :: rest => .ok (state, rest)
  | s => membersUpTo step (s.length + 1) state s

end JsonStream

end Winnow
