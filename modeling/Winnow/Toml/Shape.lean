import Winnow.Decimal.Double
import Winnow.ShapeError
import Winnow.Toml.Basic

/-! # Reading TOML values

Readers that take a value of one type, or say why they cannot. Sections are tables whose
entries are visited in the order of their keys, or arrays of fields in a fixed order.
-/

namespace Winnow.Toml

/-- The error for a value of another type than the wanted one. Integers beyond 128 bits,
    unreadable ones and numbers beyond the doubles are not even looked at. -/
def wrongType : Toml → ShapeError
  | integer n =>
      if -(Nat.pow 2 127 : Nat) ≤ n ∧ n < (Nat.pow 2 128 : Nat) then .invalidType else .outOfRange
  | unreadable => .outOfRange
  | float (.decimal n) => if Double.overflows n then .outOfRange else .invalidType
  | _ => .invalidType

/-- Reads a truth value. -/
def asBool : Toml → Except ShapeError Bool
  | boolean b => .ok b
  | value => .error value.wrongType

/-- Reads a string. -/
def asString : Toml → Except ShapeError String
  | string s => .ok s
  | value => .error value.wrongType

/-- Reads a natural number below 2^64. -/
def asCount : Toml → Except ShapeError Nat
  | integer n =>
      if 0 ≤ n ∧ n < (wordLimit : Nat) then .ok n.toNat
      else if -(Nat.pow 2 63 : Nat) ≤ n ∧ n < 0 then .error .invalidValue
      else .error (integer n).wrongType
  | value => .error value.wrongType

/-- The string of a string value. -/
def string? : Toml → Option String
  | string s => some s
  | _ => none

/-- Reads one string, or an array of strings. -/
def asStrings : Toml → Except ShapeError (List String)
  | string s => .ok [s]
  | array items =>
      match items.mapM string? with
      | some texts => .ok texts
      | none => .error .unmatched
  | _ => .error .unmatched

/-- Puts an entry in front of the first entry with a larger key. -/
def insertByKey (entry : String × Toml) : List (String × Toml) → List (String × Toml)
  | [] => [entry]
  | other :: rest =>
      if other.1 < entry.1 then other :: insertByKey entry rest else entry :: other :: rest

/-- Entries in the order of their keys. -/
def byKey (entries : List (String × Toml)) : List (String × Toml) :=
  entries.foldr insertByKey []

/-- The one field of a moment that is read as a section. -/
def momentField : String :=
  "$__toml_private_datetime"

/-- Reads a section, field by field. -/
def asSection {σ : Type} (fields : List String) (set : σ → String → Toml → Except ShapeError σ)
    (start : σ) : Toml → Except ShapeError σ
  | table entries => (byKey entries).foldlM (fun draft (key, value) => set draft key value) start
  | array items => (fields.zip items).foldlM (fun draft (key, value) => set draft key value) start
  | moment _ => .error (.unknownField momentField fields)
  | value => .error value.wrongType

end Winnow.Toml
