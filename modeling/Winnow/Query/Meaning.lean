import Winnow.Query.Request

/-! # The meaning of queries

A query holds or not, depending on which leaves do. A bool node asks for all of its
`must`, for none of its `must_not`, and for one of its `should` unless it has a `must`.
-/

namespace Winnow

namespace Clause

/-- Whether a bool node holds, from what holds of its clauses. -/
def combined (must should mustNot : List Bool) : Bool :=
  must.all id && mustNot.all (!·) && (!must.isEmpty || should.isEmpty || should.any id)

mutual

def holds (truth : Leaf → Bool) : Clause → Bool
  | leaf test => truth test
  | bool must should mustNot =>
      combined (holdsList truth must) (holdsList truth should) (holdsList truth mustNot)

/-- Which of several clauses hold. -/
def holdsList (truth : Leaf → Bool) : List Clause → List Bool
  | [] => []
  | clause :: rest => clause.holds truth :: holdsList truth rest

end

end Clause

/-- Whether the query of a request holds. -/
def BoolQuery.holds (truth : Leaf → Bool) (query : BoolQuery) : Bool :=
  (Clause.bool query.must query.should []).holds truth

end Winnow
