import Winnow.Proofs.Isolation

/-! # What becomes of each value

Every value of every specification stands in the clause of its index exactly as often as it was
given, with the tests that it asks for on its own: under `must_not` if its operator is negated,
and otherwise under `must` or `should` by the mode. There is no other test in the clause.
-/

namespace Winnow

namespace Clause

mutual

/-- The tests in a clause, from the first to the last. -/
def leaves : Clause → List Leaf
  | leaf test => [test]
  | bool must should mustNot => leavesOf must ++ leavesOf should ++ leavesOf mustNot

/-- The tests in several clauses. -/
def leavesOf : List Clause → List Leaf
  | [] => []
  | clause :: rest => clause.leaves ++ leavesOf rest

end

theorem leavesOf_eq_flatMap (clauses : List Clause) : leavesOf clauses = clauses.flatMap leaves := by
  induction clauses with
  | nil => rfl
  | cons clause rest ih => rw [leavesOf, ih, List.flatMap_cons]

@[simp] theorem leaves_leaf (test : Leaf) : (leaf test).leaves = [test] := by
  rw [leaves]

@[simp] theorem leaves_all (clauses : List Clause) : (all clauses).leaves = leavesOf clauses := by
  simp [all, leaves, leavesOf]

@[simp] theorem leaves_any (clauses : List Clause) : (any clauses).leaves = leavesOf clauses := by
  simp [any, leaves, leavesOf]

theorem leavesOf_map_leaf {α : Type} (test : α → Leaf) (entries : List α) :
    leavesOf (entries.map fun entry => leaf (test entry)) = entries.map test := by
  simp [leavesOf_eq_flatMap, List.flatMap_map, ← List.map_eq_flatMap]

end Clause

namespace Compiler

theorem leaves_combine (asOr : Bool) (clauses : List Clause) :
    (combine asOr clauses).leaves = Clause.leavesOf clauses := by
  cases asOr with
  | false => exact Clause.leaves_all clauses
  | true => exact Clause.leaves_any clauses

theorem leaves_anyOf (clauses : List Clause) :
    (anyOf clauses).leaves = Clause.leavesOf clauses := by
  unfold anyOf
  split
  · simp [Clause.leavesOf]
  · exact Clause.leaves_any _

end Compiler

namespace FilterKey

theorem leaves_valueClause (key : FilterKey) (value : String) :
    (key.valueClause value).leaves = key.leaves value := by
  unfold valueClause leaves
  split
  · cases key.searchesWords with
    | true =>
        rw [if_pos rfl, if_pos rfl, Clause.leaves_all]
        exact Clause.leavesOf_map_leaf (Leaf.wildcard key.field) _
    | false => exact Clause.leaves_leaf _
  · exact Clause.leaves_leaf _

theorem field_of_mem_leaves {key : FilterKey} {value : String} {leaf : Leaf}
    (member : leaf ∈ key.leaves value) : leaf.field = key.field := by
  unfold leaves at member
  split at member
  · split at member
    · obtain ⟨pattern, _, rfl⟩ := List.mem_map.mp member
      rfl
    · rw [List.mem_singleton.mp member]
      rfl
  · rw [List.mem_singleton.mp member]
    unfold Compiler.rangeLeaf
    cases key.extent <;> rfl

end FilterKey

namespace ReducedFilter

/-- The tests that a filter asks for, value by value. -/
def leaves (filter : ReducedFilter) : List Leaf :=
  filter.values.flatMap filter.key.leaves

theorem leaves_clause (filter : ReducedFilter) : filter.clause.leaves = filter.leaves := by
  have values : Clause.leavesOf (filter.values.map filter.key.valueClause) = filter.leaves := by
    rw [Clause.leavesOf_eq_flatMap, List.flatMap_map, leaves]
    exact List.flatMap_congr fun value _ => filter.key.leaves_valueClause value
  unfold clause
  split
  · rw [Compiler.leaves_combine, values]
  · rw [Compiler.leaves_anyOf, values]

end ReducedFilter

namespace Specification

/-- A specification with one of its values only. -/
def restrictedTo (spec : Specification) (value : String) : Specification :=
  { spec with values := [value] }

/-- The tests that a value is compiled to on its own. -/
def leavesFor (spec : Specification) (value : String) : List Leaf :=
  match (spec.restrictedTo value).compile with
  | .ok fragment => fragment.query.leaves
  | .error _ => []

/-- The tests of all values of a specification, each compiled on its own. -/
def leaves (spec : Specification) : List Leaf :=
  spec.values.flatMap spec.leavesFor

theorem compile_restrictedTo {spec : Specification}
    (compilable : (ReducedFilter.ofSpecification spec).Compilable) {value : String}
    (member : value ∈ spec.values) :
    ∃ fragment, (spec.restrictedTo value).compile = .ok fragment ∧
      fragment.query.leaves = spec.key.leaves value := by
  have single : (ReducedFilter.ofSpecification (spec.restrictedTo value)).Compilable :=
    ⟨compilable.1, fun other inside => compilable.2 other (List.mem_singleton.mp inside ▸ member)⟩
  refine ⟨_, compile_eq_ok_iff.mpr ⟨single, rfl⟩, ?_⟩
  rw [ReducedFilter.fragment, ReducedFilter.leaves_clause]
  exact List.flatMap_singleton _ _

theorem leavesFor_eq {spec : Specification}
    (compilable : (ReducedFilter.ofSpecification spec).Compilable) {value : String}
    (member : value ∈ spec.values) : spec.leavesFor value = spec.key.leaves value := by
  obtain ⟨fragment, compiled, same⟩ := compile_restrictedTo compilable member
  rw [leavesFor, compiled]
  exact same

theorem leaves_eq {spec : Specification}
    (compilable : (ReducedFilter.ofSpecification spec).Compilable) :
    spec.leaves = spec.values.flatMap spec.key.leaves :=
  List.flatMap_congr fun _ member => leavesFor_eq compilable member

end Specification

/-- Merging neither loses nor repeats a test. -/
theorem merge_leaves_perm {specs : List Specification}
    (compilable : ∀ spec ∈ specs, (ReducedFilter.ofSpecification spec).Compilable) :
    ((merge specs).flatMap ReducedFilter.leaves).Perm (specs.flatMap Specification.leaves) := by
  apply merge_flatMap_perm
  intro key
  rw [ReducedFilter.leaves, mergedAt, ReducedFilter.ofGroup, List.flatMap_assoc]
  refine List.flatMap_congr fun spec member => ?_
  obtain ⟨among, same⟩ := mem_sharing.mp member
  rw [Specification.leaves_eq (compilable spec among), same]

theorem flatMap_filter_perm {α β : Type} (p : α → Bool) (f : α → List β) (entries : List α) :
    ((entries.filter (!p ·)).flatMap f ++ (entries.filter p).flatMap f).Perm
      (entries.flatMap f) := by
  rw [← List.flatMap_append]
  exact (List.perm_append_comm.trans (List.filter_append_perm p entries)).flatMap_right f

namespace IndexQueries

theorem leavesOf_queriesOf (isAffirmative : Bool) (filters : List ReducedFilter) :
    Clause.leavesOf (queriesOf isAffirmative (filters.map (·.fragment))) =
      (filters.filter (·.isAffirmative == isAffirmative)).flatMap ReducedFilter.leaves := by
  rw [queriesOf_fragments, Clause.leavesOf_eq_flatMap, List.flatMap_map]
  exact List.flatMap_congr fun filter _ => filter.leaves_clause

theorem leavesOf_exclusions (asOr : Bool) (negated : List Clause) :
    Clause.leavesOf (exclusions asOr negated) = Clause.leavesOf negated := by
  cases negated with
  | nil => rfl
  | cons clause rest =>
      cases asOr with
      | false => rfl
      | true => simp [exclusions, Clause.leavesOf_eq_flatMap]

end IndexQueries

theorem filtersOn_eq_merge (index : String) (specs : List Specification) :
    filtersOn index specs = merge (targeting index specs) :=
  (merge_filter (fun key => key.index = index) specs).symm

theorem filtersOn_leaves_perm {specs : List Specification}
    (compilable : ∀ spec ∈ specs, (ReducedFilter.ofSpecification spec).Compilable)
    (index : String) (isAffirmative : Bool) :
    (((filtersOn index specs).filter (·.isAffirmative == isAffirmative)).flatMap
      ReducedFilter.leaves).Perm
    (((targeting index specs).filter (·.operator.isAffirmative == isAffirmative)).flatMap
      Specification.leaves) := by
  have kept : (filtersOn index specs).filter (·.isAffirmative == isAffirmative) =
      merge ((targeting index specs).filter (·.operator.isAffirmative == isAffirmative)) := by
    rw [filtersOn_eq_merge]
    exact (merge_filter (fun key => key.operator.isAffirmative == isAffirmative) _).symm
  rw [kept]
  refine merge_leaves_perm fun spec member => compilable spec ?_
  exact (mem_targeting.mp (List.mem_filter.mp member).1).1

/-- The clause of an index has the tests of every value of its specifications and no others. The
    tests of the negated ones stand under `must_not`, and those of the others under `must` with
    AND and under `should` with OR. -/
theorem assembled_tests_conserved {asOr : Bool} {specs : List Specification}
    {queries : IndexQueries} (assembled : IndexQueries.assemble asOr specs = .ok queries)
    {index : String} (present : index ∈ queries.indices) :
    (∀ spec ∈ targeting index specs, ∀ value ∈ spec.values, ∃ fragment,
      (spec.restrictedTo value).compile = .ok fragment ∧
      fragment.query.leaves = spec.leavesFor value ∧
      spec.leavesFor value = spec.key.leaves value ∧
      ∀ leaf ∈ spec.leavesFor value, leaf.field = spec.field) ∧
    ∃ must should mustNot, queries.get? index = some (.bool must should mustNot) ∧
      (Clause.bool must should mustNot).leaves.Perm
        ((targeting index specs).flatMap Specification.leaves) ∧
      (Clause.leavesOf mustNot).Perm
        (((targeting index specs).filter (·.operator.isNegated)).flatMap Specification.leaves) ∧
      (Clause.leavesOf (if asOr then should else must)).Perm
        (((targeting index specs).filter (!·.operator.isNegated)).flatMap
          Specification.leaves) ∧
      (if asOr then must else should) = [] := by
  obtain ⟨_, merged, _⟩ := IndexQueries.assemble_eq_ok_iff.mp assembled
  have compilable := compilable_merge_iff.mp merged
  refine ⟨fun spec targeted value member => ?_, ?_⟩
  · obtain ⟨fragment, compiled, same⟩ := Specification.compile_restrictedTo
      (compilable spec (mem_targeting.mp targeted).1) member
    have alone : spec.leavesFor value = fragment.query.leaves := by
      rw [Specification.leavesFor, compiled]
    refine ⟨fragment, compiled, alone.symm, alone.trans same, fun leaf inside => ?_⟩
    rw [alone, same] at inside
    exact FilterKey.field_of_mem_leaves inside
  · obtain ⟨filter, member⟩ := List.exists_mem_of_ne_nil _
      ((IndexQueries.mem_indices_assembled assembled).mp present)
    have found := IndexQueries.get?_of_mem assembled member
    have negated : (Clause.leavesOf (IndexQueries.exclusions asOr (IndexQueries.queriesOf false
        ((filtersOn index specs).map (·.fragment))))).Perm
        (((targeting index specs).filter (·.operator.isNegated)).flatMap
          Specification.leaves) := by
      rw [IndexQueries.leavesOf_exclusions, IndexQueries.leavesOf_queriesOf]
      simpa [Operator.isAffirmative] using filtersOn_leaves_perm compilable index false
    have affirmative : (Clause.leavesOf (IndexQueries.queriesOf true
        ((filtersOn index specs).map (·.fragment)))).Perm
        (((targeting index specs).filter (!·.operator.isNegated)).flatMap
          Specification.leaves) := by
      rw [IndexQueries.leavesOf_queriesOf]
      simpa [Operator.isAffirmative] using filtersOn_leaves_perm compilable index true
    have total := (affirmative.append negated).trans
      (flatMap_filter_perm (·.operator.isNegated) Specification.leaves (targeting index specs))
    cases asOr with
    | false =>
        refine ⟨_, _, _, found, ?_, negated, affirmative, rfl⟩
        rwa [Clause.leaves, Clause.leavesOf, List.append_nil]
    | true =>
        refine ⟨_, _, _, found, ?_, negated, affirmative, rfl⟩
        rwa [Clause.leaves, Clause.leavesOf, List.nil_append]

/-- Filters on people, in three keys: two of the ages, and a country to leave out. -/
def repeatedFilters : List Specification :=
  [⟨"people", "name", none, .contains, .text, ["Ann Lee", "Bo"], true⟩,
    ⟨"people", "age", none, .between, .number, ["1;5", "1;5"], false⟩,
    ⟨"people", "country", none, .isNot, .text, ["nowhere"], false⟩,
    ⟨"people", "age", none, .between, .number, ["1;5"], false⟩]

/-- The same age three times, and a name of two words, are all found in the clause. -/
theorem repeated_tests_conserved :
    ∃ queries clause, IndexQueries.assemble true repeatedFilters = .ok queries ∧
      queries.get? "people" = some clause ∧
      clause.leaves.Perm
        [.range "age" (some ⟨false, "1"⟩) (some ⟨false, "5"⟩), .wildcard "name" "*bo*",
          .range "age" (some ⟨false, "1"⟩) (some ⟨false, "5"⟩), .matching "country" "nowhere",
          .wildcard "name" "*lee*", .range "age" (some ⟨false, "1"⟩) (some ⟨false, "5"⟩),
          .wildcard "name" "*ann*"] := by
  obtain ⟨_, must, should, mustNot, found, all, _⟩ :=
    @assembled_tests_conserved true repeatedFilters _ rfl "people" (by decide)
  refine ⟨_, _, rfl, found, all.trans ?_⟩
  decide +kernel

end Winnow
