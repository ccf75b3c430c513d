import Winnow.Proofs.Assembly

/-! # What the conjunction of specifications promises

With AND, the clause of an index asks for every affirmative reduced filter. A filter that was
merged from several specifications may ask for less than each of them does: its values can be
alternatives. It asks for all of a specification exactly if it needs all of its values, or
if each of its values gives the specification what it needs.
-/

namespace Winnow

namespace Specification

/-- Whether a value gives all the tests that the specification needs: those of all its own
    values, or of one of them. -/
def IsGrantedBy (spec : Specification) (value : String) : Prop :=
  if (ReducedFilter.ofSpecification spec).needsAll = true then
    ∀ own ∈ spec.values, spec.key.leaves own ⊆ spec.key.leaves value
  else ∃ own ∈ spec.values, spec.key.leaves own ⊆ spec.key.leaves value

/-- Whether merging a specification with the others of its key leaves it required. -/
def IsKeptAmong (specs : List Specification) (spec : Specification) : Prop :=
  (mergedAt spec.key specs).needsAll = true ∨
    ∀ value ∈ (mergedAt spec.key specs).values, spec.IsGrantedBy value

theorem isGrantedBy_iff {spec : Specification} {value : String} :
    spec.IsGrantedBy value ↔ ∀ truth, spec.key.valueHolds truth value = true →
      (ReducedFilter.ofSpecification spec).holds truth = true := by
  -- The tests of the value itself are the least that can hold, so they decide.
  constructor
  · intro granted truth holds
    unfold IsGrantedBy at granted
    unfold ReducedFilter.holds
    split at granted
    · rw [if_pos ‹_›, List.all_eq_true]
      exact fun own member => FilterKey.valueHolds_of_subset (granted own member) holds
    · obtain ⟨own, member, inside⟩ := granted
      rw [if_neg ‹_›, List.any_eq_true]
      exact ⟨own, member, FilterKey.valueHolds_of_subset inside holds⟩
  · intro holds
    have here := holds _ (FilterKey.valueHolds_least_iff.mpr (List.Subset.refl _))
    unfold IsGrantedBy
    unfold ReducedFilter.holds at here
    split
    · rw [if_pos ‹_›, List.all_eq_true] at here
      exact fun own member => FilterKey.valueHolds_least_iff.mp (here own member)
    · rw [if_neg ‹_›, List.any_eq_true] at here
      obtain ⟨own, member, inside⟩ := here
      exact ⟨own, member, FilterKey.valueHolds_least_iff.mp inside⟩

/-- Merging leaves a specification required exactly if the merged filter entails it. -/
theorem isKeptAmong_iff {specs : List Specification} {spec : Specification}
    (member : spec ∈ specs) (valid : spec.Valid) :
    spec.IsKeptAmong specs ↔ ∀ truth, (mergedAt spec.key specs).holds truth = true →
      (ReducedFilter.ofSpecification spec).holds truth = true := by
  have own : ∀ value ∈ spec.values, value ∈ (mergedAt spec.key specs).values :=
    fun value inside => mem_mergedAt_values.mpr ⟨spec, member, rfl, inside⟩
  by_cases all : (mergedAt spec.key specs).needsAll = true
  · refine iff_of_true (.inl all) fun truth holds => ?_
    rw [ReducedFilter.holds, if_pos all, List.all_eq_true] at holds
    apply ReducedFilter.holds_of_all valid.values_ne
    exact fun value inside => holds value (own value inside)
  · have alternatives : ∀ truth, (mergedAt spec.key specs).holds truth = true ↔
        ∃ value ∈ (mergedAt spec.key specs).values, spec.key.valueHolds truth value = true := by
      intro truth
      rw [ReducedFilter.holds, if_neg all, List.any_eq_true]
      rfl
    rw [IsKeptAmong, or_iff_right all]
    simp only [isGrantedBy_iff, alternatives]
    constructor
    · rintro granted truth ⟨value, inside, holds⟩
      exact granted value inside truth holds
    · intro entailed value inside truth holds
      exact entailed truth ⟨value, inside, holds⟩

theorem isKeptAmong_of_unshared {specs : List Specification} {spec : Specification}
    (member : spec ∈ specs) (unshared : ∀ other ∈ specs, other.key = spec.key → other = spec) :
    spec.IsKeptAmong specs := by
  have flag : (mergedAt spec.key specs).needsAll =
      (ReducedFilter.ofSpecification spec).needsAll := by
    obtain ⟨first, rest, group⟩ :=
      List.exists_cons_of_ne_nil (List.ne_nil_of_mem (mem_sharing_self member))
    have shares : first ∈ sharing spec.key specs := group ▸ List.mem_cons_self
    obtain ⟨inside, same⟩ := mem_sharing.mp shares
    obtain rfl := unshared first inside same
    simp [mergedAt, group, ReducedFilter.needsAll, ReducedFilter.ofGroup,
      ReducedFilter.ofSpecification]
  by_cases all : (ReducedFilter.ofSpecification spec).needsAll = true
  · exact .inl (flag.trans all)
  · refine .inr ?_
    intro value given
    obtain ⟨other, inside, same, own⟩ := mem_mergedAt_values.mp given
    rw [unshared other inside same] at own
    rw [IsGrantedBy, if_neg all]
    exact ⟨value, own, List.Subset.refl _⟩

theorem compile_of_assembled {asOr : Bool} {specs : List Specification} {queries : IndexQueries}
    (assembled : IndexQueries.assemble asOr specs = .ok queries) {spec : Specification}
    (member : spec ∈ specs) : spec.compile = .ok (ReducedFilter.ofSpecification spec).fragment := by
  obtain ⟨_, compilable, _⟩ := IndexQueries.assemble_eq_ok_iff.mp assembled
  exact compile_eq_ok_iff.mpr ⟨compilable_merge_iff.mp compilable spec member, rfl⟩

end Specification

/-- The specifications of one key, assembled alone, ask for the merged filter or exclude it, and
    for nothing else. -/
theorem assembled_key_alone {asOr : Bool} {specs : List Specification} {queries : IndexQueries}
    (valid : ∀ spec ∈ specs, spec.Valid)
    (assembled : IndexQueries.assemble asOr specs = .ok queries) {spec : Specification}
    (member : spec ∈ specs) :
    ∃ alone clause, IndexQueries.assemble asOr (sharing spec.key specs) = .ok alone ∧
      alone.get? spec.index = some clause ∧
      ∀ truth, (clause.holds truth = true ↔
        (mergedAt spec.key specs).holds truth = spec.operator.isAffirmative) := by
  have self : spec ∈ sharing spec.key specs := mem_sharing_self member
  obtain ⟨alone, ok⟩ : ∃ alone, IndexQueries.assemble asOr (sharing spec.key specs) = .ok alone :=
    IndexQueries.exists_assembled_filter assembled (fun key => key = spec.key)
      (List.ne_nil_of_mem self)
  have merged := mem_merge.mpr ⟨spec, member, rfl⟩
  have here : ∀ filter, filter ∈ filtersOn spec.index (sharing spec.key specs) ↔
      filter = mergedAt spec.key specs := by
    intro filter
    rw [sharing, filtersOn_filter spec.index (fun key => key = spec.key), List.mem_filter,
      mem_filtersOn]
    constructor
    · rintro ⟨⟨inside, _⟩, same⟩
      rw [eq_mergedAt inside, of_decide_eq_true same]
    · rintro rfl
      exact ⟨⟨merged, rfl⟩, decide_eq_true rfl⟩
  have valued : ∀ filter ∈ filtersOn spec.index (sharing spec.key specs), filter.values ≠ [] := by
    intro filter inside
    rw [(here filter).mp inside]
    exact values_ne_of_mem_merge valid merged
  refine ⟨alone, _, ok, IndexQueries.get?_of_mem ok ((here _).mpr rfl), fun truth => ?_⟩
  have kind : (mergedAt spec.key specs).isAffirmative = spec.operator.isAffirmative := rfl
  rw [IndexQueries.clauseOf_holds_iff valued]
  cases affirmative : spec.operator.isAffirmative <;> simp [here, kind, affirmative]

theorem assembled_alone {specs : List Specification} {queries : IndexQueries}
    (valid : ∀ spec ∈ specs, spec.Valid)
    (assembled : IndexQueries.assemble false specs = .ok queries) {spec : Specification}
    (member : spec ∈ specs) (affirmative : spec.operator.isAffirmative = true) :
    ∃ alone clause, IndexQueries.assemble false (sharing spec.key specs) = .ok alone ∧
      alone.get? spec.index = some clause ∧
      ∀ truth, clause.holds truth = (mergedAt spec.key specs).holds truth := by
  obtain ⟨alone, clause, ok, found, meaning⟩ := assembled_key_alone valid assembled member
  refine ⟨alone, clause, ok, found, fun truth => ?_⟩
  rw [Bool.eq_iff_iff, meaning, affirmative]

/-- With AND, the clause of an index asks for all of a specification on it if the
    specification is kept among those of its key. If it isn't, the specifications of its key
    hold somewhere without it. In any case one of the values given for the key holds, and a
    specification with a key of its own is kept. -/
theorem required_specification_holds {specs : List Specification} {queries : IndexQueries}
    (valid : ∀ spec ∈ specs, spec.Valid)
    (assembled : IndexQueries.assemble false specs = .ok queries) {spec : Specification}
    (member : spec ∈ specs) (affirmative : spec.operator.isAffirmative = true) :
    ∃ clause fragment, queries.get? spec.index = some clause ∧ spec.compile = .ok fragment ∧
      (spec.IsKeptAmong specs → ∀ truth, clause.holds truth = true →
        fragment.query.holds truth = true) ∧
      (¬ spec.IsKeptAmong specs → ∃ alone aloneClause truth,
        IndexQueries.assemble false (sharing spec.key specs) = .ok alone ∧
        alone.get? spec.index = some aloneClause ∧
        aloneClause.holds truth = true ∧ fragment.query.holds truth = false) ∧
      (∀ truth, clause.holds truth = true → ∃ other ∈ specs, other.key = spec.key ∧
        ∃ value ∈ other.values, spec.key.valueHolds truth value = true) ∧
      ((∀ other ∈ specs, other.key = spec.key → other = spec) → spec.IsKeptAmong specs) := by
  have merged := mem_merge.mpr ⟨spec, member, rfl⟩
  have here : mergedAt spec.key specs ∈ filtersOn spec.index specs :=
    mem_filtersOn.mpr ⟨merged, rfl⟩
  have valued : ∀ filter ∈ filtersOn spec.index specs, filter.values ≠ [] :=
    fun filter inside => values_ne_of_mem_merge valid (mem_filtersOn.mp inside).1
  have asked : ∀ truth, (ReducedFilter.ofSpecification spec).fragment.query.holds truth =
      (ReducedFilter.ofSpecification spec).holds truth :=
    fun truth => ReducedFilter.clause_holds truth (valid spec member).values_ne
  have promised : ∀ truth, (IndexQueries.clauseOf false
      ((filtersOn spec.index specs).map (·.fragment))).holds truth = true →
        (mergedAt spec.key specs).holds truth = true :=
    fun truth holds => ((IndexQueries.clauseOf_holds_iff valued).mp holds).2 _ here affirmative
  refine ⟨_, _, IndexQueries.get?_of_mem assembled here,
    Specification.compile_of_assembled assembled member,
    fun kept truth holds => ?_, fun diluted => ?_, fun truth holds => ?_,
    Specification.isKeptAmong_of_unshared member⟩
  · rw [asked]
    exact (Specification.isKeptAmong_iff member (valid spec member)).mp kept truth
      (promised truth holds)
  · rw [Specification.isKeptAmong_iff member (valid spec member)] at diluted
    obtain ⟨truth, holds, fails⟩ : ∃ truth, (mergedAt spec.key specs).holds truth = true ∧
        ¬ (ReducedFilter.ofSpecification spec).holds truth = true := by
      simpa only [not_forall, exists_prop] using diluted
    obtain ⟨alone, clause, ok, found, meaning⟩ :=
      assembled_alone valid assembled member affirmative
    refine ⟨alone, clause, truth, ok, found, (meaning truth).trans holds, ?_⟩
    rw [asked]
    exact Bool.eq_false_iff.mpr fails
  · obtain ⟨value, inside, given⟩ := ReducedFilter.exists_value_of_holds
      (valued _ here) (promised truth holds)
    obtain ⟨other, among, same, own⟩ := mem_mergedAt_values.mp inside
    exact ⟨other, among, same, value, own, given⟩

/-- A tag that alone would be one of several is required if the first filter requires all. -/
theorem required_tag_holds :
    ∃ queries clause fragment,
      IndexQueries.assemble false
        [⟨"people", "tag", none, .is, .text, ["a"], false⟩,
          ⟨"people", "tag", none, .is, .text, ["b", "c"], true⟩] = .ok queries ∧
      queries.get? "people" = some clause ∧
      Specification.compile ⟨"people", "tag", none, .is, .text, ["b", "c"], true⟩ = .ok fragment ∧
      ∀ truth, clause.holds truth = true → fragment.query.holds truth = true := by
  obtain ⟨clause, fragment, found, compiled, kept, _⟩ := @required_specification_holds
    [⟨"people", "tag", none, .is, .text, ["a"], false⟩,
      ⟨"people", "tag", none, .is, .text, ["b", "c"], true⟩] _ (by decide) rfl
    ⟨"people", "tag", none, .is, .text, ["b", "c"], true⟩ (by decide) rfl
  exact ⟨_, clause, fragment, rfl, found, compiled, kept (.inl rfl)⟩

/-- Two intervals of one field are alternatives even with AND: the clause holds of a document
    that only the first of them allows. -/
theorem merged_interval_not_required :
    ∃ queries clause fragment truth,
      IndexQueries.assemble false
        [⟨"people", "age", none, .between, .number, ["1;5"], false⟩,
          ⟨"people", "age", none, .between, .number, ["3;9"], false⟩] = .ok queries ∧
      queries.get? "people" = some clause ∧
      Specification.compile ⟨"people", "age", none, .between, .number, ["3;9"], false⟩ =
        .ok fragment ∧
      clause.holds truth = true ∧ fragment.query.holds truth = false :=
  ⟨_, _, _, fun leaf => leaf = .range "age" (some ⟨false, "1"⟩) (some ⟨false, "5"⟩),
    rfl, rfl, rfl, rfl, rfl⟩

end Winnow
