import Winnow.Json.Number

/-! # Reading JSON

Strict JSON without extensions: nothing but space may follow the value, no comma may
trail, and containers nest at most 127 deep. If a name occurs twice in an object, the
later value takes the place of the earlier one.
-/

namespace Winnow.JsonText

open Text

/-- Items separated by commas up to the closing character, of which there is at least
    one. No text has more items than characters, so its length serves as `fuel`. -/
def itemsUpTo {α : Type} (close : Char) (item : Scan α) : Nat → Scan (List α)
  | 0, _ => none
  | fuel + 1, s =>
      match item s with
      | none => none
      | some (x, rest) =>
          match skipSpace rest with
          | [] => none
          | c :: rest =>
              if c = ',' then
                (itemsUpTo close item fuel rest).map fun (xs, rest) => (x :: xs, rest)
              else if c = close then some ([x], rest)
              else none

/-- The inside of a container, up to and with its closing character. -/
def container {α : Type} (close : Char) (item : Scan α) : Scan (List α) := fun s =>
  match skipSpace s with
  | [] => none
  | c :: rest =>
      if c = close then some ([], rest) else itemsUpTo close item (rest.length + 1) (c :: rest)

/-- A member of an object: its name, a colon and its value. -/
def member {α : Type} (value : Scan α) : Scan (String × α) := fun s =>
  match string (skipSpace s) with
  | none => none
  | some (name, rest) =>
      match skipSpace rest with
      | ':' :: rest => (value rest).map fun (v, rest) => ((name, v), rest)
      | _ => none

/-- The members with one set: the value of an old name is replaced, a new name comes
    last. -/
def setMember (members : List (String × Json)) (name : String) (value : Json) :
    List (String × Json) :=
  match members with
  | [] => [(name, value)]
  | (other, old) :: rest =>
      if other = name then (name, value) :: rest
      else (other, old) :: setMember rest name value

/-- An object from its members as written. -/
def objectOf (written : List (String × Json)) : Json :=
  .object (written.foldl (fun members (name, value) => setMember members name value) [])

/-- A value that is no container. -/
def scalar (s : List Char) : Option (Json × List Char) :=
  match s with
  | [] => none
  | 'n' :: rest => (skipWord ['u', 'l', 'l'] rest).map fun rest => (.null, rest)
  | 't' :: rest => (skipWord ['r', 'u', 'e'] rest).map fun rest => (.bool true, rest)
  | 'f' :: rest => (skipWord ['a', 'l', 's', 'e'] rest).map fun rest => (.bool false, rest)
  | '"' :: _ => (string s).map fun (text, rest) => (.string text, rest)
  | _ => (number s).map fun (n, rest) => (.number n, rest)

/-- A value with containers nested at most `depth` deep, after space. -/
def value : Nat → List Char → Option (Json × List Char)
  | 0, s => scalar (skipSpace s)
  | depth + 1, s =>
      match skipSpace s with
      | '[' :: rest =>
          (container ']' (value depth) rest).map fun (items, rest) => (.array items, rest)
      | '{' :: rest =>
          (container '}' (member (value depth)) rest).map fun (written, rest) =>
            (objectOf written, rest)
      | s => scalar s

/-- How deep containers may nest. -/
def maxDepth : Nat := 127

end Winnow.JsonText

namespace Winnow.Json

/-- The value that a JSON text stands for. -/
def parse? (text : String) : Option Json :=
  match JsonText.value JsonText.maxDepth text.toList with
  | some (v, rest) => if (JsonText.skipSpace rest).isEmpty then some v else none
  | none => none

end Winnow.Json
