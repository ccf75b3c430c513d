import Winnow.Json.Basic

/-! # Query clauses

A query is a tree of bool nodes over leaves that test one field. An occurrence of a bool
node that has no clauses is left out of its JSON form.
-/

namespace Winnow

/-- One end of a range. -/
structure Bound where
  /-- Whether the range includes the bound itself. -/
  inclusive : Bool
  /-- The number or date. -/
  value : String
  deriving DecidableEq, Inhabited

/-- A test of one field. -/
inductive Leaf where
  /-- The field matches a text. -/
  | matching (field text : String)
  /-- The field matches a text with wildcards. -/
  | wildcard (field pattern : String)
  /-- The field lies between two bounds, each of which may be missing. -/
  | range (field : String) (lower upper : Option Bound)
  deriving DecidableEq, Inhabited

/-- A query clause. -/
inductive Clause where
  /-- A test of one field. -/
  | leaf (test : Leaf)
  /-- A combination: all of `must`, none of `mustNot`, and some of `should` if there is
      no `must`. -/
  | bool (must should mustNot : List Clause)
  deriving Inhabited

namespace Leaf

/-- The field that the leaf tests. -/
def field : Leaf → String
  | matching field _ | wildcard field _ | range field _ _ => field

/-- The JSON form of the lower bound. -/
def lowerJson : Option Bound → List (String × Json)
  | some bound => [(if bound.inclusive then "gte" else "gt", .string bound.value)]
  | none => []

/-- The JSON form of the upper bound. -/
def upperJson : Option Bound → List (String × Json)
  | some bound => [(if bound.inclusive then "lte" else "lt", .string bound.value)]
  | none => []

/-- The JSON form of a leaf. -/
def toJson : Leaf → Json
  | matching field text => .single "match" (.single field (.string text))
  | wildcard field pattern => .single "wildcard" (.single field (.string pattern))
  | range field lower upper =>
      .single "range" (.single field (.object (lowerJson lower ++ upperJson upper)))

end Leaf

namespace Clause

/-- An occurrence of a bool node; without clauses there is none. -/
def occurrence (name : String) : List Json → List (String × Json)
  | [] => []
  | clauses => [(name, .array clauses)]

mutual

/-- The JSON form of a clause. -/
def toJson : Clause → Json
  | leaf test => test.toJson
  | bool must should mustNot =>
      .single "bool" (.object
        (occurrence "must" (toJsonList must) ++ occurrence "should" (toJsonList should)
          ++ occurrence "must_not" (toJsonList mustNot)))

/-- The JSON forms of several clauses. -/
def toJsonList : List Clause → List Json
  | [] => []
  | clause :: rest => clause.toJson :: toJsonList rest

end

/-- All of some clauses. -/
def all (clauses : List Clause) : Clause :=
  bool clauses [] []

/-- At least one of some clauses. -/
def any (clauses : List Clause) : Clause :=
  bool [] clauses []

end Clause

end Winnow
