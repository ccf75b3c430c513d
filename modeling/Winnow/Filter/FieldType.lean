import Winnow.Filter.Operator

/-! # Field types

The data type of a field decides which operators a filter on it may use.
-/

namespace Winnow

/-- The data type of a field. -/
inductive FieldType where
  /-- Free text, matched as a whole or by its words. -/
  | text
  /-- Numbers, compared with ranges. -/
  | number
  /-- Calendar dates, compared with ranges. -/
  | date
  deriving DecidableEq, Inhabited

namespace FieldType

/-- Every type, in the order in which they are listed to users. -/
def all : List FieldType :=
  [text, number, date]

def name : FieldType → String
  | text => "Text"
  | number => "Number"
  | date => "Date"

/-- The type with a loosely written name. -/
def ofName? (s : String) : Option FieldType :=
  all.find? fun type => Text.spells s type.name

/-- Whether filters on a field of this type may use the operator. -/
def supports : FieldType → Operator → Bool
  | text, .is | text, .isNot | text, .contains | text, .notContains => true
  | text, _ => false
  | _, .contains | _, .notContains => false
  | _, _ => true

end FieldType

end Winnow
