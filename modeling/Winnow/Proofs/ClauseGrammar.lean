import Winnow.Proofs.ClauseShape
import Winnow.Proofs.Conservation

/-! # The grammar of queries

Assembled queries are written in a small part of the query language. Every bool node has an
occurrence and every occurrence a query, so that no node is satisfied for want of one, and every
test is one that a specification of the index asks for.
-/

namespace Winnow

/-- The queries over given tests. -/
inductive Json.IsQuery (isTest : Json → Prop) : Json → Prop where
  | test {query : Json} (is : isTest query) : IsQuery isTest query
  /-- A bool node has at least one of three occurrences, in this order, each with a query. -/
  | bool {occurrences : List (String × List Json)} (nonempty : occurrences ≠ [])
      (named : (occurrences.map (·.1)).Sublist ["must", "should", "must_not"])
      (filled : ∀ occurrence ∈ occurrences, occurrence.2 ≠ [])
      (each : ∀ occurrence ∈ occurrences, ∀ query ∈ occurrence.2, IsQuery isTest query) :
      IsQuery isTest
        (.single "bool" (.object (occurrences.map fun occurrence =>
          (occurrence.1, .array occurrence.2))))

/-- The tests that a specification can ask for. All of them test its field and no other. -/
inductive Specification.AsksFor (spec : Specification) : Json → Prop where
  /-- A text is compared with a value. -/
  | matching {value : String} (text : spec.type = .text)
      (operator : spec.operator ∈ [.is, .isNot]) (given : value ∈ spec.values) :
      AsksFor spec (.single "match" (.single spec.field (.string value)))
  /-- A text is searched for a word of a value. -/
  | wildcard {value pattern : String} (text : spec.type = .text)
      (operator : spec.operator ∈ [.contains, .notContains]) (given : value ∈ spec.values)
      (found : pattern ∈ Wildcard.patterns value) :
      AsksFor spec (.single "wildcard" (.single spec.field (.string pattern)))
  /-- A number or date lies between two bounds. -/
  | within {lower upper low high : String} (range : spec.type ≠ .text)
      (operator : spec.operator ∈ [.is, .isNot, .between, .notBetween])
      (above : lower ∈ ["gt", "gte"]) (below : upper ∈ ["lt", "lte"]) :
      AsksFor spec (.single "range" (.single spec.field
        (.object [(lower, .string low), (upper, .string high)])))
  /-- A number or date lies above a bound. -/
  | above {lower low : String} (range : spec.type ≠ .text)
      (operator : spec.operator = .greaterThan) (above : lower ∈ ["gt", "gte"]) :
      AsksFor spec (.single "range" (.single spec.field (.object [(lower, .string low)])))
  /-- A number or date lies below a bound. -/
  | below {upper high : String} (range : spec.type ≠ .text)
      (operator : spec.operator = .lessThan) (below : upper ∈ ["lt", "lte"]) :
      AsksFor spec (.single "range" (.single spec.field (.object [(upper, .string high)])))

/-! ## Tests -/

namespace Specification

theorem asksFor_range {spec : Specification} (range : spec.type ≠ .text)
    (supported : spec.type.supports spec.operator = true) (value : String) :
    spec.AsksFor (Compiler.rangeLeaf spec.field spec.key.extent value).toJson := by
  have lower : ∀ bound : Bound, (if bound.inclusive then "gte" else "gt") ∈ ["gt", "gte"] := by
    intro bound
    cases bound.inclusive <;> decide
  have upper : ∀ bound : Bound, (if bound.inclusive then "lte" else "lt") ∈ ["lt", "lte"] := by
    intro bound
    cases bound.inclusive <;> decide
  have extent : spec.key.extent = (Compiler.extent? spec.operator).getD .exact := rfl
  rw [extent]
  cases operator : spec.operator with
  | is | isNot | between | notBetween =>
      exact .within range (by simp [operator]) (lower _) (upper _)
  | greaterThan => exact .above range operator (lower _)
  | lessThan => exact .below range operator (upper _)
  | contains | notContains =>
      have ranged := (Compiler.supports_iff_extent range).mp supported
      simp [operator, Compiler.extent?] at ranged

theorem asksFor_of_mem_leaves {spec : Specification} (valid : spec.Valid) {value : String}
    (given : value ∈ spec.values) {test : Leaf} (member : test ∈ spec.key.leaves value) :
    spec.AsksFor test.toJson := by
  unfold FilterKey.leaves at member
  have same : spec.key.type = spec.type := rfl
  have supported := valid.supported
  cases type : spec.type with
  | text =>
      rw [same, type] at member
      rw [type] at supported
      have words : spec.key.searchesWords =
          (spec.operator == .contains || spec.operator == .notContains) := rfl
      cases operator : spec.operator with
      | is | isNot =>
          simp only [Compiler.ofType, words, operator] at member
          rw [List.mem_singleton.mp member]
          exact .matching type (by simp [operator]) given
      | contains | notContains =>
          simp only [Compiler.ofType, words, operator] at member
          obtain ⟨pattern, found, rfl⟩ := List.mem_map.mp member
          exact .wildcard type (by simp [operator]) given found
      | between | notBetween | greaterThan | lessThan =>
          simp [operator, FieldType.supports] at supported
  | number | date =>
      rw [same, type] at member
      rw [List.mem_singleton.mp member]
      exact asksFor_range (by simp [type]) supported value

end Specification

theorem IndexQueries.exists_asksFor {asOr : Bool} {specs : List Specification}
    (valid : ∀ spec ∈ specs, spec.Valid) {index : String} {test : Leaf}
    (member : test ∈ (clauseOf asOr ((filtersOn index specs).map (·.fragment))).leaves) :
    ∃ spec ∈ targeting index specs, spec.AsksFor test.toJson := by
  obtain ⟨filter, onIndex, inside⟩ : ∃ filter ∈ filtersOn index specs, test ∈ filter.leaves := by
    have kinds : ∀ isAffirmative, test ∈ Clause.leavesOf
        (queriesOf isAffirmative ((filtersOn index specs).map (·.fragment))) →
          ∃ filter ∈ filtersOn index specs, test ∈ filter.leaves := by
      intro isAffirmative among
      rw [leavesOf_queriesOf] at among
      obtain ⟨filter, kept, inside⟩ := List.mem_flatMap.mp among
      exact ⟨filter, (List.mem_filter.mp kept).1, inside⟩
    have either : test ∈ Clause.leavesOf (queriesOf true ((filtersOn index specs).map (·.fragment)))
        ∨ test ∈ Clause.leavesOf (queriesOf false ((filtersOn index specs).map (·.fragment))) := by
      cases asOr <;>
        simpa [clauseOf, Clause.leaves, Clause.leavesOf, leavesOf_exclusions] using member
    exact either.elim (kinds true) (kinds false)
  obtain ⟨spec, targeted, rfl⟩ := mem_filtersOn_iff.mp onIndex
  obtain ⟨value, merged, asked⟩ := List.mem_flatMap.mp inside
  obtain ⟨other, among, same, given⟩ := mem_mergedAt_values.mp merged
  have own : test ∈ other.key.leaves value := same ▸ asked
  exact ⟨other, mem_targeting_of_sharing targeted (mem_sharing.mpr ⟨among, same⟩),
    Specification.asksFor_of_mem_leaves (valid other among) given own⟩

/-! ## Nodes -/

namespace Clause

/-- A clause without empty nodes is a query over its tests. -/
theorem Formed.isQuery {depth : Nat} {clause : Clause} (formed : clause.Formed depth)
    {isTest : Json → Prop} (tests : ∀ test ∈ clause.leaves, isTest test.toJson) :
    clause.toJson.IsQuery isTest := by
  induction formed with
  | leaf test => exact .test (tests test (by simp))
  | @bool depth must should mustNot nonempty each ih =>
      have parts : ∀ part ∈ must ++ should ++ mustNot, part.toJson.IsQuery isTest := by
        refine fun part member => ih part member fun test inside => tests test ?_
        simp only [leaves, leavesOf_eq_flatMap, ← List.flatMap_append]
        exact List.mem_flatMap.mpr ⟨part, member, inside⟩
      rw [bool_toJson]
      refine .bool (by simpa using occurrences_ne_nil nonempty) ?_ ?_ ?_
      · rw [List.map_map]
        exact occurrences_named must should mustNot
      · rintro _ written
        obtain ⟨occurrence, member, rfl⟩ := List.mem_map.mp written
        simpa [toJsonList_eq_map] using (mem_of_mem_occurrences member).1
      · rintro _ written query inside
        obtain ⟨occurrence, member, rfl⟩ := List.mem_map.mp written
        obtain ⟨part, among, rfl⟩ := exists_of_mem_toJsonList inside
        exact parts part ((mem_of_mem_occurrences member).2 part among)

end Clause

/-! ## What no query grants -/

theorem FilterKey.leaves_ne_nil {key : FilterKey} {value : String}
    (accepted : key.accepts value = true) : key.leaves value ≠ [] := by
  unfold accepts at accepted
  unfold leaves
  cases type : Compiler.ofType key.type with
  | text =>
      cases words : key.searchesWords with
      | false => exact List.cons_ne_nil _ _
      | true =>
          rw [if_pos rfl]
          simpa [type, words] using accepted
  | range mask => exact List.cons_ne_nil _ _

theorem ReducedFilter.holds_of_none {filter : ReducedFilter} (compilable : filter.Compilable)
    (valued : filter.values ≠ []) : filter.holds (fun _ => false) = false := by
  have none : ∀ value ∈ filter.values, filter.key.valueHolds (fun _ => false) value = false := by
    intro value member
    obtain ⟨test, inside⟩ := List.exists_mem_of_ne_nil _
      (FilterKey.leaves_ne_nil (compilable.2 value member))
    exact List.all_eq_false.mpr ⟨test, inside, by simp⟩
  rw [Bool.eq_false_iff]
  intro holding
  obtain ⟨value, member, holds⟩ := exists_value_of_holds valued holding
  simp [none value member] at holds

/-- The clause of some filters can be false: where no test holds if one of the filters is
    affirmative, and else where every test does. -/
theorem IndexQueries.exists_clauseOf_false {asOr : Bool} {filters : List ReducedFilter}
    (nonempty : filters ≠ []) (compilable : ∀ filter ∈ filters, filter.Compilable)
    (valued : ∀ filter ∈ filters, filter.values ≠ []) :
    ∃ truth, (clauseOf asOr (filters.map (·.fragment))).holds truth = false := by
  by_cases negated : ∀ filter ∈ filters, filter.isAffirmative = false
  · refine ⟨fun _ => true, Bool.eq_false_iff.mpr fun holding => ?_⟩
    obtain ⟨excluded, _⟩ := (clauseOf_holds_iff valued).mp holding
    obtain ⟨filter, member⟩ := List.exists_mem_of_ne_nil _ nonempty
    have own := excluded filter member (negated filter member)
    rw [← ReducedFilter.clause_holds _ (valued filter member)] at own
    simp [ReducedFilter.clause_holds_of_all] at own
  · -- Where no test holds, all exclusions do, so it is an affirmative filter that fails.
    refine ⟨fun _ => false, Bool.eq_false_iff.mpr fun holding => ?_⟩
    obtain ⟨_, asked⟩ := (clauseOf_holds_iff valued).mp holding
    have none : ∀ filter ∈ filters, filter.holds (fun _ => false) = false := fun filter member =>
      ReducedFilter.holds_of_none (compilable filter member) (valued filter member)
    split at asked
    · rcases asked with all | ⟨filter, member, _, holds⟩
      · exact negated all
      · simp [none filter member] at holds
    · refine negated fun filter member => ?_
      by_contra affirmative
      have holds := asked filter member (by simpa using affirmative)
      simp [none filter member] at holds

/-- The clause of every index is a query over tests that specifications on the index ask for. Its
    outermost node is a bool node that doesn't have both `must` and `should`: with OR it has no
    `must`, and with AND no `should`. It doesn't hold of everything. -/
theorem assembled_query_grammatical {asOr : Bool} {specs : List Specification}
    {queries : IndexQueries} (valid : ∀ spec ∈ specs, spec.Valid)
    (assembled : IndexQueries.assemble asOr specs = .ok queries) {index : String}
    {clause : Clause} (found : queries.get? index = some clause) :
    clause.toJson.IsQuery (fun test => ∃ spec ∈ targeting index specs, spec.AsksFor test) ∧
    (∃ members, clause.toJson = .single "bool" (.object members) ∧
      (if asOr then "must" else "should") ∉ members.map (·.1)) ∧
    ∃ truth, clause.holds truth = false := by
  obtain ⟨_, compilable, _⟩ := IndexQueries.assemble_eq_ok_iff.mp assembled
  have present : index ∈ queries.indices :=
    IndexQueries.get?_isSome_iff.mp (by rw [found]; rfl)
  have some : filtersOn index specs ≠ [] :=
    (IndexQueries.mem_indices_assembled assembled).mp present
  have valued : ∀ filter ∈ filtersOn index specs, filter.values ≠ [] :=
    fun filter member => values_ne_of_mem_merge valid (mem_filtersOn.mp member).1
  have compiles : ∀ filter ∈ filtersOn index specs, filter.Compilable :=
    fun filter member => compilable filter (mem_filtersOn.mp member).1
  have formed := IndexQueries.assembled_formed valid assembled _
    (IndexQueries.mem_clauses_of_get? found)
  rw [IndexQueries.get?_assembled assembled, if_neg some] at found
  obtain rfl := Option.some.inj found
  refine ⟨formed.isQuery fun test member => IndexQueries.exists_asksFor valid member, ?_,
    IndexQueries.exists_clauseOf_false some compiles valued⟩
  cases asOr with
  | false => exact ⟨_, Clause.bool_toJson _ [] _, Clause.should_notMem_boolMembers _ _⟩
  | true => exact ⟨_, Clause.bool_toJson [] _ _, Clause.must_notMem_boolMembers _ _⟩

/-- A search for names, merged ages and an exclusion are written in the grammar. -/
theorem repeated_query_grammatical :
    (∀ spec ∈ repeatedFilters, spec.Valid) ∧
    ∃ queries clause, IndexQueries.assemble true repeatedFilters = .ok queries ∧
      queries.get? "people" = some clause ∧
      clause.toJson.IsQuery
        (fun test => ∃ spec ∈ targeting "people" repeatedFilters, spec.AsksFor test) ∧
      (∃ members, clause.toJson = .single "bool" (.object members) ∧
        "must" ∉ members.map (·.1)) ∧
      ∃ truth, clause.holds truth = false := by
  have valid : ∀ spec ∈ repeatedFilters, spec.Valid := by decide
  exact ⟨valid, _, _, rfl, rfl, @assembled_query_grammatical true _ _ valid rfl "people" _ rfl⟩

end Winnow
