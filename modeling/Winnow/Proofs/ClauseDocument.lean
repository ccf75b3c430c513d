import Winnow.Query.Request

/-! # Reading a clause off its document

The parts of a clause can be found in its JSON form by the names of the query language alone.
Names and values of a filter stand below the name of a test, where they are never looked up:
an index or a field called `bool` or `must` is read as nothing else than a name.
-/

namespace Winnow

namespace Json

/-- The value of a member of an object. -/
def member? (name : String) : Json → Option Json
  | object members => members.lookup name
  | _ => none

/-- The clauses of an occurrence of a bool node, by their names in the document. -/
def occurrence? (name : String) (query : Json) : Option (List Json) :=
  match (query.member? "bool").bind (member? name) with
  | some (array clauses) => some clauses
  | _ => none

/-- What a required document contributes: the clauses of its `must`, or itself. -/
def requiredParts (query : Json) : List Json :=
  (query.occurrence? "must").getD [query]

/-- What an optional document contributes: the clauses of its `should`, or what it would if it
    were required. -/
def optionalParts (query : Json) : List Json :=
  (query.occurrence? "should").getD query.requiredParts

end Json

namespace Clause

theorem occurrence?_leaf (name : String) (test : Leaf) :
    (leaf test).toJson.occurrence? name = none := by
  cases test <;> rfl

theorem occurrence?_must (must should mustNot : List Clause) :
    (bool must should mustNot).toJson.occurrence? "must" =
      if must = [] then none else some (toJsonList must) := by
  cases must <;> cases should <;> cases mustNot <;> rfl

theorem occurrence?_should (must should mustNot : List Clause) :
    (bool must should mustNot).toJson.occurrence? "should" =
      if should = [] then none else some (toJsonList should) := by
  cases must <;> cases should <;> cases mustNot <;> rfl

theorem toJsonList_eq_map (clauses : List Clause) : toJsonList clauses = clauses.map toJson := by
  induction clauses with
  | nil => rfl
  | cons clause rest ih => rw [toJsonList, ih, List.map_cons]

theorem requiredParts_toJson (clause : Clause) :
    clause.toJson.requiredParts = toJsonList clause.requiredParts := by
  cases clause with
  | leaf test => rw [Json.requiredParts, occurrence?_leaf]; rfl
  | bool must should mustNot =>
      rw [Json.requiredParts, occurrence?_must]
      cases must <;> rfl

theorem optionalParts_toJson (clause : Clause) :
    clause.toJson.optionalParts = toJsonList clause.optionalParts := by
  cases clause with
  | leaf test => rw [Json.optionalParts, occurrence?_leaf]; exact requiredParts_toJson _
  | bool must should mustNot =>
      rw [Json.optionalParts, occurrence?_should]
      cases should with
      | nil => exact requiredParts_toJson _
      | cons clause rest => rfl

end Clause

end Winnow
