import Winnow.Proofs.Conjunction
import Winnow.Proofs.Conservation

/-! # What negated filters exclude

The clause of an index excludes what a negated filter asks for as a whole. If one value is enough
for the filter, each of its values is excluded. A text filter whose flag asks for all values only
excludes where all of them hold, unless one of them asks for whatever the others do.
-/

namespace Winnow

namespace Specification

/-- Whether a value of a specification is enough for the filter that is merged for its key. -/
def IsEnoughAmong (specs : List Specification) (spec : Specification) (value : String) : Prop :=
  (mergedAt spec.key specs).needsAll = false ∨
    ∀ other ∈ (mergedAt spec.key specs).values, spec.key.leaves other ⊆ spec.key.leaves value

theorem isEnoughAmong_iff {specs : List Specification} {spec : Specification}
    (member : spec ∈ specs) {value : String} (own : value ∈ spec.values) :
    spec.IsEnoughAmong specs value ↔ ∀ truth, spec.key.valueHolds truth value = true →
      (mergedAt spec.key specs).holds truth = true := by
  have merged : value ∈ (mergedAt spec.key specs).values :=
    mem_mergedAt_values.mpr ⟨spec, member, rfl, own⟩
  cases all : (mergedAt spec.key specs).needsAll with
  | false =>
      refine iff_of_true (.inl all) ?_
      intro truth holds
      simp only [ReducedFilter.holds, all, Bool.false_eq_true, if_false, List.any_eq_true]
      exact ⟨value, merged, holds⟩
  | true =>
      simp only [IsEnoughAmong, ReducedFilter.holds, all, Bool.true_eq_false, false_or, if_true,
        List.all_eq_true]
      constructor
      · intro enough truth holds other inside
        exact FilterKey.valueHolds_of_subset (enough other inside) holds
      · intro entailed other inside
        have least := FilterKey.valueHolds_least_iff.mpr (List.Subset.refl (spec.key.leaves value))
        exact FilterKey.valueHolds_least_iff.mp (entailed _ least other inside)

end Specification

theorem mergedAt_holds_of_leaves {specs : List Specification} {spec : Specification}
    (member : spec ∈ specs) (valued : spec.values ≠ [])
    (compilable : ∀ other ∈ specs, (ReducedFilter.ofSpecification other).Compilable)
    {truth : Leaf → Bool}
    (all : ∀ other ∈ sharing spec.key specs, ∀ leaf ∈ other.leaves, truth leaf = true) :
    (mergedAt spec.key specs).holds truth = true := by
  obtain ⟨own, first⟩ := List.exists_mem_of_ne_nil _ valued
  have nonempty : (mergedAt spec.key specs).values ≠ [] :=
    List.ne_nil_of_mem (mem_mergedAt_values.mpr ⟨spec, member, rfl, first⟩)
  apply ReducedFilter.holds_of_all nonempty
  intro value merged
  obtain ⟨source, among, same, given⟩ := mem_mergedAt_values.mp merged
  rw [FilterKey.valueHolds, List.all_eq_true]
  intro leaf inside
  apply all source (mem_sharing.mpr ⟨among, same⟩)
  rw [Specification.leaves_eq (compilable source among)]
  exact List.mem_flatMap.mpr ⟨value, given, same ▸ inside⟩

theorem IndexQueries.clause_false_of_negated {asOr : Bool} {specs : List Specification}
    (valid : ∀ spec ∈ specs, spec.Valid) {index : String} {filter : ReducedFilter}
    (member : filter ∈ filtersOn index specs) (negated : filter.isAffirmative = false)
    {truth : Leaf → Bool} (holds : filter.holds truth = true) :
    (clauseOf asOr ((filtersOn index specs).map (·.fragment))).holds truth = false := by
  have valued : ∀ filter ∈ filtersOn index specs, filter.values ≠ [] :=
    fun filter member => values_ne_of_mem_merge valid (mem_filtersOn.mp member).1
  rw [Bool.eq_false_iff]
  intro clauseHolds
  obtain ⟨excluded, _⟩ := (clauseOf_holds_iff valued).mp clauseHolds
  rw [excluded filter member negated] at holds
  cases holds

/-- The clause of an index doesn't hold where all tests of a value of a negated specification do,
    if the value is enough for the merged filter. If it isn't, the specifications of its key,
    assembled on their own, have a clause that holds somewhere where these tests do. In any case
    the clause doesn't hold where all tests of the specifications with the key do. -/
theorem excluded_value_rejected {asOr : Bool} {specs : List Specification}
    {queries : IndexQueries} (valid : ∀ spec ∈ specs, spec.Valid)
    (assembled : IndexQueries.assemble asOr specs = .ok queries) {spec : Specification}
    (member : spec ∈ specs) (negated : spec.operator.isNegated = true) {value : String}
    (own : value ∈ spec.values) :
    ∃ clause, queries.get? spec.index = some clause ∧
      (spec.IsEnoughAmong specs value → ∀ truth,
        (∀ leaf ∈ spec.leavesFor value, truth leaf = true) → clause.holds truth = false) ∧
      (¬ spec.IsEnoughAmong specs value → ∃ alone aloneClause truth,
        IndexQueries.assemble asOr (sharing spec.key specs) = .ok alone ∧
        alone.get? spec.index = some aloneClause ∧
        (∀ leaf ∈ spec.leavesFor value, truth leaf = true) ∧ aloneClause.holds truth = true) ∧
      ∀ truth, (∀ other ∈ sharing spec.key specs, ∀ leaf ∈ other.leaves, truth leaf = true) →
        clause.holds truth = false := by
  have here : mergedAt spec.key specs ∈ filtersOn spec.index specs :=
    mem_filtersOn.mpr ⟨mem_merge.mpr ⟨spec, member, rfl⟩, rfl⟩
  have excludes : spec.operator.isAffirmative = false := by simp [Operator.isAffirmative, negated]
  obtain ⟨_, compilable, _⟩ := IndexQueries.assemble_eq_ok_iff.mp assembled
  have single := compilable_merge_iff.mp compilable
  have tests : ∀ truth, (∀ leaf ∈ spec.leavesFor value, truth leaf = true) ↔
      spec.key.valueHolds truth value = true := by
    intro truth
    rw [Specification.leavesFor_eq (single spec member) own, FilterKey.valueHolds,
      List.all_eq_true]
  refine ⟨_, IndexQueries.get?_of_mem assembled here, ?_, ?_, ?_⟩
  · intro enough truth all
    apply IndexQueries.clause_false_of_negated valid here excludes
    exact (Specification.isEnoughAmong_iff member own).mp enough truth ((tests truth).mp all)
  · intro lacking
    rw [Specification.isEnoughAmong_iff member own] at lacking
    obtain ⟨truth, holds, fails⟩ : ∃ truth, spec.key.valueHolds truth value = true ∧
        ¬ (mergedAt spec.key specs).holds truth = true := by
      simpa only [not_forall, exists_prop] using lacking
    obtain ⟨alone, aloneClause, ok, found, meaning⟩ := assembled_key_alone valid assembled member
    refine ⟨alone, aloneClause, truth, ok, found, (tests truth).mpr holds, ?_⟩
    rw [meaning, excludes]
    exact Bool.eq_false_iff.mpr fails
  · intro truth all
    apply IndexQueries.clause_false_of_negated valid here excludes
    exact mergedAt_holds_of_leaves member (List.ne_nil_of_mem own) single all

/-- Two countries, either of which is enough, are both excluded. -/
theorem either_country_excluded :
    ∃ queries clause,
      IndexQueries.assemble true
        [⟨"people", "country", none, .isNot, .text, ["here"], true⟩,
          ⟨"people", "country", none, .isNot, .text, ["there"], false⟩] = .ok queries ∧
      queries.get? "people" = some clause ∧
      ∀ truth, truth (.matching "country" "there") = true → clause.holds truth = false := by
  obtain ⟨clause, found, excluded, _⟩ := @excluded_value_rejected true
    [⟨"people", "country", none, .isNot, .text, ["here"], true⟩,
      ⟨"people", "country", none, .isNot, .text, ["there"], false⟩] _ (by decide) rfl
    ⟨"people", "country", none, .isNot, .text, ["there"], false⟩ (by decide) rfl "there"
    (by decide)
  have tests : Specification.leavesFor ⟨"people", "country", none, .isNot, .text, ["there"], false⟩
      "there" = [.matching "country" "there"] := rfl
  refine ⟨_, clause, rfl, found, ?_⟩
  intro truth holds
  apply excluded (.inl rfl)
  rw [tests]
  simpa using holds

/-- Of two countries of a filter that asks for all its values, one alone is not excluded. -/
theorem single_country_not_excluded :
    ∃ queries clause truth,
      IndexQueries.assemble false
        [⟨"people", "country", none, .isNot, .text, ["here", "there"], false⟩] = .ok queries ∧
      queries.get? "people" = some clause ∧
      (∀ leaf ∈ Specification.leavesFor
        ⟨"people", "country", none, .isNot, .text, ["here", "there"], false⟩ "here",
          truth leaf = true) ∧
      clause.holds truth = true :=
  ⟨_, _, fun leaf => leaf = .matching "country" "here", rfl, rfl, by decide, rfl⟩

end Winnow
