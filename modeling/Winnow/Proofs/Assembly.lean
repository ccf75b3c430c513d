import Winnow.Proofs.Meaning
import Winnow.Proofs.Reduction
import Winnow.Query.IndexQueries

/-! # Clauses per index

The clause of an index is made of the reduced filters on it, in their order. It asks for its
affirmative filters, all or some of them by the mode, and excludes every negated one.
-/

namespace Winnow

/-- The reduced filters on an index, in order. -/
def filtersOn (index : String) (specs : List Specification) : List ReducedFilter :=
  (merge specs).filter fun filter => filter.key.index = index

theorem mem_filtersOn {index : String} {specs : List Specification} {filter : ReducedFilter} :
    filter ∈ filtersOn index specs ↔ filter ∈ merge specs ∧ filter.key.index = index := by
  simp [filtersOn]

theorem filtersOn_filter (index : String) (p : FilterKey → Bool) (specs : List Specification) :
    filtersOn index (specs.filter fun spec => p spec.key) =
      (filtersOn index specs).filter fun filter => p filter.key := by
  rw [filtersOn, merge_filter, filtersOn, List.filter_filter, List.filter_filter]
  simp only [Bool.and_comm]

theorem compilable_merge_iff {specs : List Specification} :
    (∀ filter ∈ merge specs, filter.Compilable) ↔
      ∀ spec ∈ specs, (ReducedFilter.ofSpecification spec).Compilable := by
  constructor
  · intro compilable spec member
    have merged := compilable _ (mem_merge.mpr ⟨spec, member, rfl⟩)
    refine ⟨merged.1, fun value inside => ?_⟩
    exact merged.2 value (mem_mergedAt_values.mpr ⟨spec, member, rfl, inside⟩)
  · intro compilable filter merged
    obtain ⟨spec, member, rfl⟩ := mem_merge.mp merged
    refine ⟨(compilable spec member).1, fun value inside => ?_⟩
    obtain ⟨other, among, same, own⟩ := mem_mergedAt_values.mp inside
    have accepted : other.key.accepts value = true := (compilable other among).2 value own
    rwa [same] at accepted

namespace IndexQueries

theorem compiled_eq_ok_iff {specs : List Specification} {fragments : List Fragment} :
    (reduce specs >>= List.mapM ReducedFilter.compile) = .ok fragments ↔
      specs ≠ [] ∧ (∀ filter ∈ merge specs, filter.Compilable) ∧
        fragments = (merge specs).map (·.fragment) := by
  have steps : ∀ {fragments}, (merge specs).mapM ReducedFilter.compile = .ok fragments ↔ _ :=
    mapM_eq_ok_iff fun filter _ _ => ReducedFilter.compile_eq_ok_iff
  simp only [bind_eq_ok_iff, reduce_eq_ok_iff]
  constructor
  · rintro ⟨filters, ⟨nonempty, rfl⟩, compiled⟩
    exact ⟨nonempty, steps.mp compiled⟩
  · rintro ⟨nonempty, compiled⟩
    exact ⟨_, ⟨nonempty, rfl⟩, steps.mpr compiled⟩

theorem assemble_iff_compiled {asOr : Bool} {specs : List Specification} {queries : IndexQueries} :
    assemble asOr specs = .ok queries ↔
      ∃ fragments, (reduce specs >>= List.mapM ReducedFilter.compile) = .ok fragments ∧
        queries = ofFragments asOr fragments := by
  simp only [assemble, bind_eq_ok_iff, pure, Except.pure, Except.ok.injEq]
  constructor
  · rintro ⟨filters, reduced, fragments, compiled, rfl⟩
    exact ⟨fragments, ⟨filters, reduced, compiled⟩, rfl⟩
  · rintro ⟨fragments, ⟨filters, reduced, compiled⟩, rfl⟩
    exact ⟨filters, reduced, fragments, compiled, rfl⟩

theorem assemble_eq_ok_iff {asOr : Bool} {specs : List Specification} {queries : IndexQueries} :
    assemble asOr specs = .ok queries ↔
      specs ≠ [] ∧ (∀ filter ∈ merge specs, filter.Compilable) ∧
        queries = ofFragments asOr ((merge specs).map (·.fragment)) := by
  simp only [assemble_iff_compiled, compiled_eq_ok_iff]
  constructor
  · rintro ⟨fragments, ⟨nonempty, compilable, rfl⟩, rfl⟩
    exact ⟨nonempty, compilable, rfl⟩
  · rintro ⟨nonempty, compilable, rfl⟩
    exact ⟨_, ⟨nonempty, compilable, rfl⟩, rfl⟩

/-- Assembly succeeds exactly if there is a specification and each compiles on its own. -/
theorem exists_assembled_iff {asOr : Bool} {specs : List Specification} :
    (∃ queries, assemble asOr specs = .ok queries) ↔
      specs ≠ [] ∧ ∀ spec ∈ specs, ∃ fragment, spec.compile = .ok fragment := by
  simp only [assemble_eq_ok_iff, compilable_merge_iff, Specification.compile_eq_ok_iff]
  constructor
  · rintro ⟨_, nonempty, compilable, _⟩
    exact ⟨nonempty, fun spec member => ⟨_, compilable spec member, rfl⟩⟩
  · rintro ⟨nonempty, compiles⟩
    refine ⟨_, nonempty, fun spec member => ?_, rfl⟩
    obtain ⟨_, compilable, _⟩ := compiles spec member
    exact compilable

theorem indices_ofFragments (asOr : Bool) (fragments : List Fragment) :
    (ofFragments asOr fragments).indices = (fragments.map (·.index)).eraseDups := by
  rw [indices, ofFragments, Grouping.ofList_eq, List.map_map, List.map_map]
  exact List.map_id _

theorem indices_assembled {asOr : Bool} {specs : List Specification} {queries : IndexQueries}
    (assembled : assemble asOr specs = .ok queries) :
    queries.indices = (specs.map (·.index)).eraseDups := by
  obtain ⟨_, _, rfl⟩ := assemble_eq_ok_iff.mp assembled
  have keyed : ((merge specs).map (·.fragment)).map (·.index) =
      (specs.map (·.key)).eraseDups.map (·.index) := by
    rw [merge_eq, List.map_map, List.map_map]
    rfl
  rw [indices_ofFragments, keyed, Grouping.eraseDups_map_eraseDups, List.map_map]
  rfl

theorem get?_ofFragments (asOr : Bool) (fragments : List Fragment) (index : String) :
    (ofFragments asOr fragments).get? index =
      if index ∈ fragments.map (·.index) then
        some (clauseOf asOr (fragments.filter fun fragment => fragment.index = index))
      else none := by
  have keyed : ∀ groups : List (String × List Fragment),
      (groups.map fun group => (group.1, clauseOf asOr group.2)).lookup index =
        (groups.lookup index).map (clauseOf asOr) := by
    intro groups
    induction groups with
    | nil => rfl
    | cons group rest ih =>
        obtain ⟨name, entries⟩ := group
        simp only [List.map_cons, List.lookup_cons, ih]
        cases index == name <;> rfl
  calc (ofFragments asOr fragments).get? index
      = ((Grouping.ofList (·.index) fragments).lookup index).map (clauseOf asOr) := keyed _
    _ = _ := by rw [Grouping.lookup_ofList]; split <;> rfl

theorem get?_isSome_iff {queries : IndexQueries} {index : String} :
    (queries.get? index).isSome = true ↔ index ∈ queries.indices := by
  simp [get?, indices, List.lookup_isSome_iff]

theorem queriesOf_fragments (isAffirmative : Bool) (filters : List ReducedFilter) :
    queriesOf isAffirmative (filters.map (·.fragment)) =
      (filters.filter (·.isAffirmative == isAffirmative)).map (·.clause) := by
  rw [queriesOf, List.filter_map, List.map_map]
  rfl

theorem exclusions_hold_iff {truth : Leaf → Bool} (asOr : Bool) (negated : List Clause) :
    (∀ clause ∈ exclusions asOr negated, clause.holds truth = false) ↔
      ∀ clause ∈ negated, clause.holds truth = false := by
  cases negated with
  | nil => rfl
  | cons clause rest =>
      cases asOr with
      | false => rfl
      | true =>
          have nonempty : clause :: rest ≠ [] := List.cons_ne_nil _ _
          simp only [exclusions, if_true, List.forall_mem_singleton,
            Clause.holds_any truth nonempty]
          simp

theorem clauseOf_holds_iff_queriesOf {asOr : Bool} {fragments : List Fragment}
    {truth : Leaf → Bool} :
    (clauseOf asOr fragments).holds truth = true ↔
      (∀ clause ∈ queriesOf false fragments, clause.holds truth = false) ∧
      if asOr = true then
        queriesOf true fragments = [] ∨
          ∃ clause ∈ queriesOf true fragments, clause.holds truth = true
      else ∀ clause ∈ queriesOf true fragments, clause.holds truth = true := by
  cases asOr with
  | false =>
      simp only [clauseOf, Bool.false_eq_true, if_false, Clause.holds_bool, exclusions_hold_iff,
        ne_eq, not_true_eq_false, false_implies, implies_true, and_true]
      exact and_comm
  | true =>
      simp only [clauseOf, if_true, Clause.holds_bool, exclusions_hold_iff, List.not_mem_nil,
        false_implies, implies_true, true_and, forall_const]
      rw [ne_eq, Classical.or_iff_not_imp_left]

/-- What the clause of some filters asks. -/
theorem clauseOf_holds_iff {asOr : Bool} {filters : List ReducedFilter}
    (valued : ∀ filter ∈ filters, filter.values ≠ []) {truth : Leaf → Bool} :
    (clauseOf asOr (filters.map (·.fragment))).holds truth = true ↔
      (∀ filter ∈ filters, filter.isAffirmative = false → filter.holds truth = false) ∧
      if asOr = true then
        (∀ filter ∈ filters, filter.isAffirmative = false) ∨
          ∃ filter ∈ filters, filter.isAffirmative = true ∧ filter.holds truth = true
      else ∀ filter ∈ filters, filter.isAffirmative = true → filter.holds truth = true := by
  have meaning : ∀ filter ∈ filters, filter.clause.holds truth = filter.holds truth :=
    fun filter member => ReducedFilter.clause_holds truth (valued filter member)
  have every : ∀ isAffirmative expected,
      (∀ clause ∈ queriesOf isAffirmative (filters.map (·.fragment)),
        clause.holds truth = expected) ↔
      ∀ filter ∈ filters, filter.isAffirmative = isAffirmative →
        filter.holds truth = expected := by
    intro isAffirmative expected
    simp only [queriesOf_fragments, List.forall_mem_map, List.mem_filter, beq_iff_eq, and_imp]
    exact forall₂_congr fun filter member => by rw [meaning filter member]
  have absent : queriesOf true (filters.map (·.fragment)) = [] ↔
      ∀ filter ∈ filters, filter.isAffirmative = false := by
    simp [queriesOf_fragments, List.filter_eq_nil_iff]
  have chosen : (∃ clause ∈ queriesOf true (filters.map (·.fragment)),
      clause.holds truth = true) ↔
        ∃ filter ∈ filters, filter.isAffirmative = true ∧ filter.holds truth = true := by
    rw [queriesOf_fragments]
    constructor
    · rintro ⟨clause, member, holds⟩
      obtain ⟨filter, kept, rfl⟩ := List.mem_map.mp member
      obtain ⟨inside, affirmative⟩ := List.mem_filter.mp kept
      exact ⟨filter, inside, beq_iff_eq.mp affirmative, meaning filter inside ▸ holds⟩
    · rintro ⟨filter, inside, affirmative, holds⟩
      have kept : filter ∈ filters.filter (·.isAffirmative == true) :=
        List.mem_filter.mpr ⟨inside, beq_iff_eq.mpr affirmative⟩
      exact ⟨_, List.mem_map_of_mem kept, (meaning filter inside).trans holds⟩
  rw [clauseOf_holds_iff_queriesOf, every, absent, chosen, every]

theorem get?_ofFilters (asOr : Bool) (filters : List ReducedFilter) (index : String) :
    (ofFragments asOr (filters.map (·.fragment))).get? index =
      if filters.filter (fun filter => filter.key.index = index) = [] then none
      else some (clauseOf asOr
        ((filters.filter fun filter => filter.key.index = index).map (·.fragment))) := by
  have targeted : index ∈ (filters.map (·.fragment)).map (·.index) ↔
      filters.filter (fun filter => filter.key.index = index) ≠ [] := by
    simp [List.filter_eq_nil_iff, ReducedFilter.fragment]
  rw [get?_ofFragments]
  by_cases none : filters.filter (fun filter => filter.key.index = index) = []
  · rw [if_neg fun member => targeted.mp member none, if_pos none]
  · rw [if_pos (targeted.mpr none), if_neg none, List.filter_map]
    rfl

theorem get?_assembled {asOr : Bool} {specs : List Specification} {queries : IndexQueries}
    (assembled : assemble asOr specs = .ok queries) (index : String) :
    queries.get? index =
      if filtersOn index specs = [] then none
      else some (clauseOf asOr ((filtersOn index specs).map (·.fragment))) := by
  obtain ⟨_, _, rfl⟩ := assemble_eq_ok_iff.mp assembled
  exact get?_ofFilters asOr (merge specs) index

theorem get?_of_mem {asOr : Bool} {specs : List Specification} {queries : IndexQueries}
    (assembled : assemble asOr specs = .ok queries) {index : String} {filter : ReducedFilter}
    (member : filter ∈ filtersOn index specs) :
    queries.get? index = some (clauseOf asOr ((filtersOn index specs).map (·.fragment))) := by
  rw [get?_assembled assembled, if_neg (List.ne_nil_of_mem member)]

theorem mem_indices_assembled {asOr : Bool} {specs : List Specification} {queries : IndexQueries}
    (assembled : assemble asOr specs = .ok queries) {index : String} :
    index ∈ queries.indices ↔ filtersOn index specs ≠ [] := by
  rw [← get?_isSome_iff, get?_assembled assembled]
  by_cases none : filtersOn index specs = [] <;> simp [none]

/-- Some whole keys of specifications that can be assembled can be assembled on their own. -/
theorem exists_assembled_filter {asOr : Bool} {specs : List Specification}
    {queries : IndexQueries} (assembled : assemble asOr specs = .ok queries)
    (p : FilterKey → Bool) (nonempty : specs.filter (fun spec => p spec.key) ≠ []) :
    ∃ kept, assemble asOr (specs.filter fun spec => p spec.key) = .ok kept := by
  obtain ⟨_, compilable, _⟩ := assemble_eq_ok_iff.mp assembled
  refine ⟨_, assemble_eq_ok_iff.mpr ⟨nonempty, fun filter member => ?_, rfl⟩⟩
  rw [merge_filter] at member
  exact compilable filter (List.mem_filter.mp member).1

end IndexQueries

/-- The meaning of the clause of an index: none of its negated filters holds, and of the
    affirmative ones all do with AND, and with OR one does unless there are none. -/
theorem assembled_clause_holds_iff {asOr : Bool} {specs : List Specification}
    {queries : IndexQueries} (valid : ∀ spec ∈ specs, spec.Valid)
    (assembled : IndexQueries.assemble asOr specs = .ok queries) {index : String}
    (present : index ∈ queries.indices) :
    ∃ clause, queries.get? index = some clause ∧ ∀ truth,
      (clause.holds truth = true ↔
        (∀ filter ∈ filtersOn index specs, filter.isAffirmative = false →
          filter.holds truth = false) ∧
        if asOr = true then
          (∀ filter ∈ filtersOn index specs, filter.isAffirmative = false) ∨
            ∃ filter ∈ filtersOn index specs,
              filter.isAffirmative = true ∧ filter.holds truth = true
        else
          ∀ filter ∈ filtersOn index specs, filter.isAffirmative = true →
            filter.holds truth = true) := by
  obtain ⟨first, member⟩ := List.exists_mem_of_ne_nil _
    ((IndexQueries.mem_indices_assembled assembled).mp present)
  have valued : ∀ filter ∈ filtersOn index specs, filter.values ≠ [] :=
    fun filter member => values_ne_of_mem_merge valid (mem_filtersOn.mp member).1
  exact ⟨_, IndexQueries.get?_of_mem assembled member,
    fun truth => IndexQueries.clauseOf_holds_iff valued⟩

/-- Filters on people: some statuses, an age, and no one from one country. -/
def peopleFilters : List Specification :=
  [⟨"people", "status", none, .is, .text, ["open", "new"], true⟩,
    ⟨"people", "age", none, .between, .number, ["18;_65"], false⟩,
    ⟨"people", "country", none, .isNot, .text, ["nowhere"], false⟩]

/-- With OR, the people outside the country who have one of the statuses or the age. -/
theorem assembled_people_holds_iff :
    ∃ queries clause, IndexQueries.assemble true peopleFilters = .ok queries ∧
      queries.get? "people" = some clause ∧
      ∀ truth, clause.holds truth = true ↔
        truth (.matching "country" "nowhere") = false ∧
          (truth (.matching "status" "open") = true ∨ truth (.matching "status" "new") = true ∨
            truth (.range "age" (some ⟨false, "18"⟩) (some ⟨true, "65"⟩)) = true) := by
  obtain ⟨clause, found, meaning⟩ :=
    @assembled_clause_holds_iff true peopleFilters _ (by decide) rfl "people" (by decide)
  refine ⟨_, clause, rfl, found, fun truth => (meaning truth).trans ?_⟩
  have filters : filtersOn "people" peopleFilters =
      [⟨⟨"people", "status", .is, .text, none⟩, ["open", "new"], true⟩,
        ⟨⟨"people", "age", .between, .number, none⟩, ["18;_65"], false⟩,
        ⟨⟨"people", "country", .isNot, .text, none⟩, ["nowhere"], false⟩] := rfl
  have age : Compiler.rangeLeaf "age" .interval "18;_65" =
      .range "age" (some ⟨false, "18"⟩) (some ⟨true, "65"⟩) := rfl
  rw [filters]
  simp [ReducedFilter.isAffirmative, Operator.isAffirmative, Operator.isNegated,
    ReducedFilter.holds, ReducedFilter.needsAll, FilterKey.valueHolds, FilterKey.leaves,
    FilterKey.searchesWords, FilterKey.extent, Compiler.ofType, Compiler.extent?, age, or_assoc]

end Winnow
