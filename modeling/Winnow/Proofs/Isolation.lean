import Winnow.Proofs.Assembly

/-! # Isolation of indices

The clause of an index depends on the specifications of that index alone. How those of other
indices stand between them, and whether there are any, changes only which other clauses there are.
-/

namespace Winnow

/-- The specifications on an index, in order. -/
def targeting (index : String) (specs : List Specification) : List Specification :=
  specs.filter fun spec => spec.index = index

theorem mem_targeting {index : String} {specs : List Specification} {spec : Specification} :
    spec ∈ targeting index specs ↔ spec ∈ specs ∧ spec.index = index := by
  simp [targeting]

theorem mem_targeting_of_sharing {index : String} {specs : List Specification}
    {spec other : Specification} (targeted : spec ∈ targeting index specs)
    (shared : other ∈ sharing spec.key specs) : other ∈ targeting index specs := by
  obtain ⟨_, here⟩ := mem_targeting.mp targeted
  obtain ⟨among, same⟩ := mem_sharing.mp shared
  exact mem_targeting.mpr ⟨among, (congrArg FilterKey.index same).trans here⟩

theorem mem_filtersOn_iff {index : String} {specs : List Specification} {filter : ReducedFilter} :
    filter ∈ filtersOn index specs ↔
      ∃ spec ∈ targeting index specs, filter = mergedAt spec.key specs := by
  rw [mem_filtersOn, mem_merge]
  constructor
  · rintro ⟨⟨spec, member, rfl⟩, here⟩
    exact ⟨spec, mem_targeting.mpr ⟨member, here⟩, rfl⟩
  · rintro ⟨spec, targeted, rfl⟩
    obtain ⟨member, here⟩ := mem_targeting.mp targeted
    exact ⟨⟨spec, member, rfl⟩, here⟩

theorem filtersOn_targeting (index : String) (specs : List Specification) :
    filtersOn index (targeting index specs) = filtersOn index specs := by
  have kept : filtersOn index (targeting index specs) =
      (filtersOn index specs).filter fun filter => filter.key.index = index :=
    filtersOn_filter index (fun key => key.index = index) specs
  rw [kept]
  exact List.filter_eq_self.mpr fun filter member => decide_eq_true (mem_filtersOn.mp member).2

namespace IndexQueries

/-- Two assemblies that agree on the specifications of an index agree on its clause. -/
theorem get?_eq_of_targeting_eq {asOr : Bool} {specs others : List Specification}
    {queries otherQueries : IndexQueries} (assembled : assemble asOr specs = .ok queries)
    (otherAssembled : assemble asOr others = .ok otherQueries) {index : String}
    (same : targeting index others = targeting index specs) :
    otherQueries.get? index = queries.get? index := by
  have filters : filtersOn index others = filtersOn index specs := by
    rw [← filtersOn_targeting index others, same, filtersOn_targeting]
  rw [get?_assembled assembled, get?_assembled otherAssembled, filters]

end IndexQueries

/-- Queries have one clause for each index of the specifications, in the order in which the
    indices first occur. Each is the clause that the specifications of its index give on their
    own, and the clause of every list with the same specifications of that index. -/
theorem assembled_index_isolated {asOr : Bool} {specs : List Specification}
    {queries : IndexQueries} (assembled : IndexQueries.assemble asOr specs = .ok queries) :
    queries.indices = (specs.map (·.index)).eraseDups ∧
    (∀ index ∈ queries.indices, ∃ alone clause,
      IndexQueries.assemble asOr (targeting index specs) = .ok alone ∧
      alone.get? index = some clause ∧ queries.get? index = some clause) ∧
    ∀ others otherQueries, IndexQueries.assemble asOr others = .ok otherQueries →
      ∀ index, targeting index others = targeting index specs →
        otherQueries.get? index = queries.get? index := by
  refine ⟨IndexQueries.indices_assembled assembled, fun index present => ?_,
    fun others otherQueries otherAssembled index same =>
      IndexQueries.get?_eq_of_targeting_eq assembled otherAssembled same⟩
  obtain ⟨clause, found⟩ := Option.isSome_iff_exists.mp
    (IndexQueries.get?_isSome_iff.mpr present)
  have targeted : targeting index specs ≠ [] := by
    rw [IndexQueries.indices_assembled assembled, List.mem_eraseDups] at present
    obtain ⟨spec, member, rfl⟩ := List.mem_map.mp present
    exact List.ne_nil_of_mem (mem_targeting.mpr ⟨member, rfl⟩)
  obtain ⟨alone, ok⟩ : ∃ alone, IndexQueries.assemble asOr (targeting index specs) = .ok alone :=
    IndexQueries.exists_assembled_filter assembled (fun key => key.index = index) targeted
  have again : targeting index (targeting index specs) = targeting index specs := by
    rw [targeting, targeting, List.filter_filter]
    simp
  refine ⟨alone, clause, ok, ?_, found⟩
  rw [IndexQueries.get?_eq_of_targeting_eq assembled ok again, found]

/-- The people are found by the same clause among orders, which come first. -/
theorem people_among_orders_isolated :
    ∃ mixed alone,
      IndexQueries.assemble false
        (⟨"orders", "total", none, .greaterThan, .number, ["_5"], false⟩ :: peopleFilters) =
          .ok mixed ∧
      IndexQueries.assemble false peopleFilters = .ok alone ∧
      mixed.indices = ["orders", "people"] ∧ alone.get? "people" = mixed.get? "people" := by
  obtain ⟨ordered, _, elsewhere⟩ := @assembled_index_isolated false
    (⟨"orders", "total", none, .greaterThan, .number, ["_5"], false⟩ :: peopleFilters) _ rfl
  exact ⟨_, _, rfl, rfl, ordered, elsewhere peopleFilters _ rfl "people" rfl⟩

end Winnow
