import Winnow.Proofs.Isolation

/-! # The order of specifications

Another order of the specifications puts the filters, and the values of each filter, in another
order. A clause asks for its filters and a filter for its values without regard to order. Only
the flag of a merged filter is that of the first specification, so those of one key have to
agree on it.
-/

namespace Winnow

/-- Specifications of one key agree on whether one value is enough. -/
def FlagsAgree (specs : List Specification) : Prop :=
  ∀ spec ∈ specs, ∀ other ∈ specs, spec.key = other.key → spec.valuesAsOr = other.valuesAsOr

instance (specs : List Specification) : Decidable (FlagsAgree specs) :=
  inferInstanceAs (Decidable (∀ spec ∈ specs, ∀ other ∈ specs, _ → _))

theorem FlagsAgree.perm {specs others : List Specification} (agree : FlagsAgree specs)
    (reordered : specs.Perm others) : FlagsAgree others := by
  intro spec member other otherMember same
  exact agree spec (reordered.mem_iff.mpr member) other (reordered.mem_iff.mpr otherMember) same

theorem FlagsAgree.mergedAt_valuesAsOr {specs : List Specification} (agree : FlagsAgree specs)
    {spec : Specification} (member : spec ∈ specs) :
    (mergedAt spec.key specs).valuesAsOr = spec.valuesAsOr := by
  have self := mem_sharing_self member
  obtain ⟨first, rest, group⟩ := List.exists_cons_of_ne_nil (List.ne_nil_of_mem self)
  have here : first ∈ sharing spec.key specs := group ▸ List.mem_cons_self
  obtain ⟨among, same⟩ := mem_sharing.mp here
  rw [mergedAt, group, ReducedFilter.ofGroup]
  exact agree first among spec member same

theorem mergedAt_values_perm {specs others : List Specification}
    (reordered : specs.Perm others) (key : FilterKey) :
    (mergedAt key specs).values.Perm (mergedAt key others).values :=
  (reordered.filter _).flatMap_right _

theorem mergedAt_holds_perm {specs others : List Specification} (agree : FlagsAgree specs)
    (reordered : specs.Perm others) {spec : Specification} (member : spec ∈ specs)
    (truth : Leaf → Bool) :
    (mergedAt spec.key others).holds truth = (mergedAt spec.key specs).holds truth := by
  have values := mergedAt_values_perm reordered spec.key
  have flags : (mergedAt spec.key others).needsAll = (mergedAt spec.key specs).needsAll := by
    unfold ReducedFilter.needsAll
    rw [agree.mergedAt_valuesAsOr member,
      (agree.perm reordered).mergedAt_valuesAsOr (reordered.mem_iff.mp member)]
    rfl
  unfold ReducedFilter.holds
  rw [flags, values.all_eq, values.any_eq]
  rfl

/-- Every filter on an index has a counterpart in another order of the specifications. -/
theorem exists_filterOn_perm {specs others : List Specification} (agree : FlagsAgree specs)
    (reordered : specs.Perm others) {index : String} {filter : ReducedFilter}
    (member : filter ∈ filtersOn index specs) :
    ∃ other ∈ filtersOn index others, other.key = filter.key ∧
      ∀ truth, other.holds truth = filter.holds truth := by
  obtain ⟨spec, targeted, rfl⟩ := mem_filtersOn_iff.mp member
  obtain ⟨among, here⟩ := mem_targeting.mp targeted
  have there : spec ∈ targeting index others :=
    mem_targeting.mpr ⟨reordered.mem_iff.mp among, here⟩
  exact ⟨_, mem_filtersOn_iff.mpr ⟨spec, there, rfl⟩, rfl, mergedAt_holds_perm agree reordered among⟩

namespace IndexQueries

theorem clauseOf_holds_of_counterparts {asOr : Bool} {filters others : List ReducedFilter}
    (valued : ∀ filter ∈ filters, filter.values ≠ [])
    (otherValued : ∀ other ∈ others, other.values ≠ []) {truth : Leaf → Bool}
    (forth : ∀ filter ∈ filters, ∃ other ∈ others, other.key = filter.key ∧
      other.holds truth = filter.holds truth)
    (back : ∀ other ∈ others, ∃ filter ∈ filters, filter.key = other.key ∧
      filter.holds truth = other.holds truth)
    (holding : (clauseOf asOr (filters.map (·.fragment))).holds truth = true) :
    (clauseOf asOr (others.map (·.fragment))).holds truth = true := by
  have kind : ∀ {filter other : ReducedFilter}, filter.key = other.key →
      filter.isAffirmative = other.isAffirmative :=
    fun same => congrArg (fun key => key.operator.isAffirmative) same
  rw [clauseOf_holds_iff valued] at holding
  rw [clauseOf_holds_iff otherValued]
  obtain ⟨excluded, chosen⟩ := holding
  refine ⟨fun other member negated => ?_, ?_⟩
  · obtain ⟨filter, inside, same, meaning⟩ := back other member
    rw [← meaning]
    exact excluded filter inside ((kind same).trans negated)
  · cases asOr with
    | false =>
        intro other member affirmative
        obtain ⟨filter, inside, same, meaning⟩ := back other member
        rw [← meaning]
        exact chosen filter inside ((kind same).trans affirmative)
    | true =>
        refine chosen.imp (fun none other member => ?_) ?_
        · obtain ⟨filter, inside, same, _⟩ := back other member
          exact (kind same).symm.trans (none filter inside)
        · rintro ⟨filter, inside, affirmative, holds⟩
          obtain ⟨other, member, same, meaning⟩ := forth filter inside
          exact ⟨other, member, (kind same).trans affirmative, meaning.trans holds⟩

theorem clauseOf_holds_perm {asOr : Bool} {specs others : List Specification}
    (valid : ∀ spec ∈ specs, spec.Valid) (agree : FlagsAgree specs)
    (reordered : specs.Perm others) {index : String} {truth : Leaf → Bool}
    (holding : (clauseOf asOr ((filtersOn index specs).map (·.fragment))).holds truth = true) :
    (clauseOf asOr ((filtersOn index others).map (·.fragment))).holds truth = true := by
  have otherValid : ∀ spec ∈ others, spec.Valid :=
    fun spec member => valid spec (reordered.mem_iff.mpr member)
  refine clauseOf_holds_of_counterparts
    (fun filter member => values_ne_of_mem_merge valid (mem_filtersOn.mp member).1)
    (fun filter member => values_ne_of_mem_merge otherValid (mem_filtersOn.mp member).1)
    (fun filter member => ?_) (fun other member => ?_) holding
  · obtain ⟨other, there, same, meaning⟩ := exists_filterOn_perm agree reordered member
    exact ⟨other, there, same, meaning truth⟩
  · obtain ⟨filter, here, same, meaning⟩ :=
      exists_filterOn_perm (agree.perm reordered) reordered.symm member
    exact ⟨filter, here, same, meaning truth⟩

theorem indices_perm {asOr : Bool} {specs others : List Specification}
    {queries otherQueries : IndexQueries} (assembled : assemble asOr specs = .ok queries)
    (otherAssembled : assemble asOr others = .ok otherQueries) (reordered : specs.Perm others) :
    queries.indices.Perm otherQueries.indices := by
  rw [indices_assembled assembled, indices_assembled otherAssembled,
    List.perm_ext_iff_of_nodup (Grouping.eraseDups_nodup _) (Grouping.eraseDups_nodup _)]
  intro index
  rw [List.mem_eraseDups, List.mem_eraseDups, (reordered.map _).mem_iff]

end IndexQueries

/-- Specifications in another order are assembled or refused together with the first ones. If
    those of one key agree on their flag, the clauses for the same indices mean the same. -/
theorem assembled_in_any_order {asOr : Bool} {specs others : List Specification}
    (valid : ∀ spec ∈ specs, spec.Valid) (reordered : specs.Perm others)
    (agree : FlagsAgree specs) :
    ((∃ queries, IndexQueries.assemble asOr specs = .ok queries) ↔
      ∃ queries, IndexQueries.assemble asOr others = .ok queries) ∧
    ∀ queries otherQueries, IndexQueries.assemble asOr specs = .ok queries →
      IndexQueries.assemble asOr others = .ok otherQueries →
      queries.indices.Perm otherQueries.indices ∧
      ∀ index truth, (queries.get? index).map (Clause.holds truth) =
        (otherQueries.get? index).map (Clause.holds truth) := by
  refine ⟨?_, fun queries otherQueries assembled otherAssembled =>
    ⟨IndexQueries.indices_perm assembled otherAssembled reordered, fun index truth => ?_⟩⟩
  · have empty : specs = [] ↔ others = [] := by
      rw [← List.length_eq_zero_iff, ← List.length_eq_zero_iff, reordered.length_eq]
    simp only [IndexQueries.exists_assembled_iff, ne_eq, empty, reordered.mem_iff]
  · have otherValid : ∀ spec ∈ others, spec.Valid :=
      fun spec member => valid spec (reordered.mem_iff.mpr member)
    have absent : filtersOn index specs = [] ↔ filtersOn index others = [] := by
      rw [← not_iff_not, ← ne_eq, ← ne_eq, ← IndexQueries.mem_indices_assembled assembled,
        ← IndexQueries.mem_indices_assembled otherAssembled]
      exact (IndexQueries.indices_perm assembled otherAssembled reordered).mem_iff
    have meaning : (IndexQueries.clauseOf asOr
        ((filtersOn index specs).map (·.fragment))).holds truth =
          (IndexQueries.clauseOf asOr
            ((filtersOn index others).map (·.fragment))).holds truth := by
      rw [Bool.eq_iff_iff]
      exact ⟨IndexQueries.clauseOf_holds_perm valid agree reordered,
        IndexQueries.clauseOf_holds_perm otherValid (agree.perm reordered) reordered.symm⟩
    rw [IndexQueries.get?_assembled assembled, IndexQueries.get?_assembled otherAssembled]
    by_cases none : filtersOn index specs = []
    · rw [if_pos none, if_pos (absent.mp none)]
    · rw [if_neg none, if_neg (mt absent.mpr none), Option.map_some, Option.map_some, meaning]

/-- Filters on people and orders, two of them for the ages of people. -/
def mixedFilters : List Specification :=
  [⟨"people", "age", none, .between, .number, ["1;5"], false⟩,
    ⟨"people", "name", none, .contains, .text, ["Ann Lee", "Bo"], true⟩,
    ⟨"people", "age", none, .between, .number, ["3;_9"], false⟩,
    ⟨"orders", "state", none, .isNot, .text, ["closed"], true⟩]

/-- Read backwards, the filters give the indices and the values in another order, and the same
    meaning. -/
theorem mixed_filters_backwards :
    ∃ queries backwards, IndexQueries.assemble false mixedFilters = .ok queries ∧
      IndexQueries.assemble false mixedFilters.reverse = .ok backwards ∧
      queries.indices = ["people", "orders"] ∧ backwards.indices = ["orders", "people"] ∧
      ∀ truth, (queries.get? "people").map (Clause.holds truth) =
        (backwards.get? "people").map (Clause.holds truth) := by
  obtain ⟨_, same⟩ := @assembled_in_any_order false mixedFilters _ (by decide)
    (List.reverse_perm _).symm (by decide)
  obtain ⟨_, meaning⟩ := same _ _ rfl rfl
  exact ⟨_, _, rfl, rfl, rfl, rfl, meaning "people"⟩

end Winnow
