import Winnow.Proofs.Isolation

/-! # When merging keeps the meaning

Merging puts the values of several specifications into one filter. That changes nothing if the
values of a filter are combined as the filters themselves are in the clause of their index: one
is enough where one filter is, and all are needed where all filters are.
-/

namespace Winnow

/-- The cases in which the specifications of a key can be merged without a change of meaning. -/
inductive MergesFreely (asOr : Bool) (key : FilterKey) (group : List Specification) : Prop where
  /-- Numbers or dates that are excluded. -/
  | excludedRanges (range : key.type ≠ .text) (negated : key.operator.isNegated = true)
  /-- Texts that are excluded, each of them on its own. -/
  | excludedTexts (text : key.type = .text) (negated : key.operator.isNegated = true)
      (flags : ∀ spec ∈ group, spec.valuesAsOr = true)
  /-- Texts that are all required. -/
  | requiredTexts (mode : asOr = false) (text : key.type = .text)
      (affirmative : key.operator.isAffirmative = true)
      (flags : ∀ spec ∈ group, spec.valuesAsOr = false)
  /-- Numbers or dates that are alternatives. -/
  | alternativeRanges (mode : asOr = true) (range : key.type ≠ .text)
      (affirmative : key.operator.isAffirmative = true)
  /-- Texts that are alternatives. -/
  | alternativeTexts (mode : asOr = true) (text : key.type = .text)
      (affirmative : key.operator.isAffirmative = true)
      (flags : ∀ spec ∈ group, spec.valuesAsOr = true)

namespace FilterKey

/-- Whether one filter of the key is enough for its index: to select a document with OR, or to
    exclude it in either mode. -/
def oneIsEnough (asOr : Bool) (key : FilterKey) : Bool :=
  asOr || key.operator.isNegated

theorem oneIsEnough_of_negated {asOr : Bool} {key : FilterKey}
    (negated : key.operator.isAffirmative = false) : key.oneIsEnough asOr = true := by
  have : key.operator.isNegated = true := by simpa [Operator.isAffirmative] using negated
  rw [oneIsEnough, this, Bool.or_true]

theorem oneIsEnough_and {key : FilterKey} (affirmative : key.operator.isAffirmative = true) :
    key.oneIsEnough false = false := by
  simpa [oneIsEnough, Operator.isAffirmative] using affirmative

end FilterKey

theorem MergesFreely.needsAll_eq {asOr : Bool} {key : FilterKey} {group : List Specification}
    (free : MergesFreely asOr key group) {spec : Specification} (member : spec ∈ group)
    (same : spec.key = key) :
    (ReducedFilter.ofSpecification spec).needsAll = !key.oneIsEnough asOr := by
  subst same
  have flag : (ReducedFilter.ofSpecification spec).needsAll =
      (spec.key.type == .text && !spec.valuesAsOr) := rfl
  rw [flag]
  cases free with
  | excludedRanges range negated =>
      simp [FilterKey.oneIsEnough, negated, range]
  | excludedTexts text negated flags =>
      simp [FilterKey.oneIsEnough, negated, flags spec member]
  | requiredTexts mode text affirmative flags =>
      simp [mode, FilterKey.oneIsEnough_and affirmative, text, flags spec member]
  | alternativeRanges mode range affirmative =>
      simp [FilterKey.oneIsEnough, mode, range]
  | alternativeTexts mode text affirmative flags =>
      simp [FilterKey.oneIsEnough, mode, flags spec member]

theorem mergedAt_holds_iff {key : FilterKey} {specs : List Specification} {all : Bool}
    (present : sharing key specs ≠ [])
    (alike : ∀ spec ∈ sharing key specs, (ReducedFilter.ofSpecification spec).needsAll = all)
    (truth : Leaf → Bool) :
    (mergedAt key specs).holds truth = true ↔
      if all = true then
        ∀ spec ∈ sharing key specs, (ReducedFilter.ofSpecification spec).holds truth = true
      else ∃ spec ∈ sharing key specs, (ReducedFilter.ofSpecification spec).holds truth = true := by
  have keyed : ∀ spec ∈ sharing key specs, spec.key = key := fun spec member =>
    (mem_sharing.mp member).2
  -- Only the flag of the first specification is kept, but the others combine alike.
  have merged : (mergedAt key specs).needsAll = all := by
    obtain ⟨first, rest, group⟩ := List.exists_cons_of_ne_nil present
    have here : first ∈ sharing key specs := group ▸ List.mem_cons_self
    rw [← alike first here, mergedAt, group]
    simp [ReducedFilter.needsAll, ReducedFilter.ofGroup, ReducedFilter.ofSpecification,
      keyed first here]
  have single : ∀ spec ∈ sharing key specs, (ReducedFilter.ofSpecification spec).holds truth =
      if all = true then spec.values.all (key.valueHolds truth)
      else spec.values.any (key.valueHolds truth) := by
    intro spec member
    rw [ReducedFilter.holds, alike spec member, ← keyed spec member]
    rfl
  rw [ReducedFilter.holds, merged]
  cases all with
  | true =>
      have spread : (mergedAt key specs).values.all (key.valueHolds truth) =
          (sharing key specs).all fun spec => spec.values.all (key.valueHolds truth) :=
        List.all_flatMap
      simp only [if_true] at single ⊢
      refine (iff_of_eq (congrArg (· = true) spread)).trans (List.all_eq_true.trans ?_)
      exact forall₂_congr fun spec member => by rw [single spec member]
  | false =>
      have spread : (mergedAt key specs).values.any (key.valueHolds truth) =
          (sharing key specs).any fun spec => spec.values.any (key.valueHolds truth) :=
        List.any_flatMap
      simp only [Bool.false_eq_true, if_false] at single ⊢
      refine (iff_of_eq (congrArg (· = true) spread)).trans (List.any_eq_true.trans ?_)
      exact exists_congr fun spec => and_congr_right fun member => by rw [single spec member]

/-- Unless several specifications that don't merge freely share the key, their merged filter
    holds if one of them does, or all of them, as the filters of the key are combined. -/
theorem mergedAt_holds_iff_of_free {asOr : Bool} {key : FilterKey} {specs : List Specification}
    (present : sharing key specs ≠ [])
    (free : 2 ≤ (sharing key specs).length → MergesFreely asOr key (sharing key specs))
    (truth : Leaf → Bool) :
    (mergedAt key specs).holds truth = true ↔
      if key.oneIsEnough asOr = true then
        ∃ spec ∈ sharing key specs, (ReducedFilter.ofSpecification spec).holds truth = true
      else ∀ spec ∈ sharing key specs, (ReducedFilter.ofSpecification spec).holds truth = true := by
  by_cases several : 2 ≤ (sharing key specs).length
  · have alike : ∀ spec ∈ sharing key specs,
        (ReducedFilter.ofSpecification spec).needsAll = !key.oneIsEnough asOr :=
      fun spec member => (free several).needsAll_eq member (mem_sharing.mp member).2
    rw [mergedAt_holds_iff present alike]
    cases key.oneIsEnough asOr <;> rfl
  · obtain ⟨spec, alone⟩ : ∃ spec, sharing key specs = [spec] := by
      rw [← List.length_eq_one_iff]
      have := List.length_pos_iff.mpr present
      omega
    have same : spec.key = key := (mem_sharing.mp (alone ▸ List.mem_singleton_self spec)).2
    simp [mergedAt, alone, ReducedFilter.ofGroup_singleton same]

/-- The filters on an index without merging, one for each specification. -/
def unmergedOn (index : String) (specs : List Specification) : List ReducedFilter :=
  (targeting index specs).map ReducedFilter.ofSpecification

theorem forall_filterOn_key_iff {index : String} {specs : List Specification}
    {p : FilterKey → Prop} :
    (∀ filter ∈ filtersOn index specs, p filter.key) ↔
      ∀ filter ∈ unmergedOn index specs, p filter.key := by
  constructor
  · intro all filter member
    obtain ⟨spec, targeted, rfl⟩ := List.mem_map.mp member
    exact all (mergedAt spec.key specs) (mem_filtersOn_iff.mpr ⟨spec, targeted, rfl⟩)
  · intro all filter member
    obtain ⟨spec, targeted, rfl⟩ := mem_filtersOn_iff.mp member
    exact all (ReducedFilter.ofSpecification spec) (List.mem_map_of_mem targeted)

section Clauses

variable {asOr : Bool} {specs : List Specification}
  (free : ∀ key, 2 ≤ (sharing key specs).length → MergesFreely asOr key (sharing key specs))
  (index : String) (truth : Leaf → Bool)

include free

theorem exists_filterOn_iff {p : FilterKey → Prop}
    (enough : ∀ key, p key → key.oneIsEnough asOr = true) :
    (∃ filter ∈ filtersOn index specs, p filter.key ∧ filter.holds truth = true) ↔
      ∃ filter ∈ unmergedOn index specs, p filter.key ∧ filter.holds truth = true := by
  have merged : ∀ spec ∈ targeting index specs, p spec.key →
      ((mergedAt spec.key specs).holds truth = true ↔ ∃ other ∈ sharing spec.key specs,
        (ReducedFilter.ofSpecification other).holds truth = true) := by
    intro spec targeted chosen
    have self := mem_sharing_self (mem_targeting.mp targeted).1
    rw [mergedAt_holds_iff_of_free (List.ne_nil_of_mem self) (free _), if_pos (enough _ chosen)]
  constructor
  · rintro ⟨filter, member, chosen, holds⟩
    obtain ⟨spec, targeted, rfl⟩ := mem_filtersOn_iff.mp member
    obtain ⟨other, shared, holds⟩ := (merged spec targeted chosen).mp holds
    have kept : p other.key := by
      rw [(mem_sharing.mp shared).2]
      exact chosen
    exact ⟨_, List.mem_map_of_mem (mem_targeting_of_sharing targeted shared), kept, holds⟩
  · rintro ⟨filter, member, chosen, holds⟩
    obtain ⟨spec, targeted, rfl⟩ := List.mem_map.mp member
    have self := mem_sharing_self (mem_targeting.mp targeted).1
    refine ⟨_, mem_filtersOn_iff.mpr ⟨spec, targeted, rfl⟩, chosen, ?_⟩
    exact (merged spec targeted chosen).mpr ⟨spec, self, holds⟩

theorem forall_filterOn_iff {p : FilterKey → Prop}
    (needed : ∀ key, p key → key.oneIsEnough asOr = false) :
    (∀ filter ∈ filtersOn index specs, p filter.key → filter.holds truth = true) ↔
      ∀ filter ∈ unmergedOn index specs, p filter.key → filter.holds truth = true := by
  have merged : ∀ spec ∈ targeting index specs, p spec.key →
      ((mergedAt spec.key specs).holds truth = true ↔ ∀ other ∈ sharing spec.key specs,
        (ReducedFilter.ofSpecification other).holds truth = true) := by
    intro spec targeted chosen
    have self := mem_sharing_self (mem_targeting.mp targeted).1
    rw [mergedAt_holds_iff_of_free (List.ne_nil_of_mem self) (free _)]
    simp only [needed _ chosen, Bool.false_eq_true, if_false]
  constructor
  · intro all filter member chosen
    obtain ⟨spec, targeted, rfl⟩ := List.mem_map.mp member
    have holds := all _ (mem_filtersOn_iff.mpr ⟨spec, targeted, rfl⟩) chosen
    have self := mem_sharing_self (mem_targeting.mp targeted).1
    exact (merged spec targeted chosen).mp holds spec self
  · intro all filter member chosen
    obtain ⟨spec, targeted, rfl⟩ := mem_filtersOn_iff.mp member
    refine (merged spec targeted chosen).mpr fun other shared => ?_
    have kept : p other.key := by
      rw [(mem_sharing.mp shared).2]
      exact chosen
    exact all _ (List.mem_map_of_mem (mem_targeting_of_sharing targeted shared)) kept

/-- The clause of an index holds with merging exactly if it does without. -/
theorem clauseOf_unmerged_holds (valid : ∀ spec ∈ specs, spec.Valid) :
    (IndexQueries.clauseOf asOr ((filtersOn index specs).map (·.fragment))).holds truth =
      (IndexQueries.clauseOf asOr ((unmergedOn index specs).map (·.fragment))).holds truth := by
  have valued : ∀ filter ∈ filtersOn index specs, filter.values ≠ [] :=
    fun filter member => values_ne_of_mem_merge valid (mem_filtersOn.mp member).1
  have unmergedValued : ∀ filter ∈ unmergedOn index specs, filter.values ≠ [] := by
    intro filter member
    obtain ⟨spec, targeted, rfl⟩ := List.mem_map.mp member
    exact (valid spec (mem_targeting.mp targeted).1).values_ne
  -- Either mode excludes what any negated filter allows, so that side needs no case on the mode.
  have excluded := exists_filterOn_iff free index truth
    (fun key negated => FilterKey.oneIsEnough_of_negated negated)
  have noneHolds : ∀ filters : List ReducedFilter,
      (∀ filter ∈ filters, filter.isAffirmative = false → filter.holds truth = false) ↔
        ¬ ∃ filter ∈ filters, filter.key.operator.isAffirmative = false ∧
          filter.holds truth = true := by
    intro filters
    simp [ReducedFilter.isAffirmative]
  rw [Bool.eq_iff_iff, IndexQueries.clauseOf_holds_iff valued,
    IndexQueries.clauseOf_holds_iff unmergedValued, noneHolds, noneHolds]
  refine and_congr (not_congr excluded) ?_
  cases asOr with
  | false =>
      exact forall_filterOn_iff free index truth
        fun key affirmative => FilterKey.oneIsEnough_and affirmative
  | true =>
      refine or_congr ?_ ?_
      · exact forall_filterOn_key_iff (p := fun key => key.operator.isAffirmative = false)
      · exact exists_filterOn_iff free index truth (p := fun key =>
          key.operator.isAffirmative = true) fun key _ => rfl

end Clauses

/-- Specifications that can be merged freely ask for the same merged as one by one: they can be
    assembled if each of them compiles, and the merged filters give clauses for the same indices
    as the fragments of the specifications, in the same order and with the same meaning. -/
theorem merging_keeps_meaning {asOr : Bool} {specs : List Specification} (nonempty : specs ≠ [])
    (valid : ∀ spec ∈ specs, spec.Valid)
    (free : ∀ key, 2 ≤ (sharing key specs).length →
      MergesFreely asOr key (sharing key specs)) :
    ((∃ merged, IndexQueries.assemble asOr specs = .ok merged) ↔
      ∀ spec ∈ specs, ∃ fragment, spec.compile = .ok fragment) ∧
    ∀ merged, IndexQueries.assemble asOr specs = .ok merged →
      ∃ fragments, specs.mapM Specification.compile = .ok fragments ∧
        merged.indices = (IndexQueries.ofFragments asOr fragments).indices ∧
        ∀ index truth, (merged.get? index).map (Clause.holds truth) =
          ((IndexQueries.ofFragments asOr fragments).get? index).map (Clause.holds truth) := by
  refine ⟨IndexQueries.exists_assembled_iff.trans (and_iff_right nonempty),
    fun merged assembled => ?_⟩
  obtain ⟨_, compilable, _⟩ := IndexQueries.assemble_eq_ok_iff.mp assembled
  have compiled : specs.mapM Specification.compile =
      .ok ((specs.map ReducedFilter.ofSpecification).map (·.fragment)) := by
    rw [List.map_map]
    exact (mapM_eq_ok_iff fun spec _ _ => Specification.compile_eq_ok_iff).mpr
      ⟨compilable_merge_iff.mp compilable, rfl⟩
  refine ⟨_, compiled, ?_, fun index truth => ?_⟩
  · rw [IndexQueries.indices_assembled assembled, IndexQueries.indices_ofFragments, List.map_map,
      List.map_map]
    rfl
  · have unmerged : (specs.map ReducedFilter.ofSpecification).filter
        (fun filter => filter.key.index = index) = unmergedOn index specs := by
      rw [List.filter_map]
      rfl
    have absent : filtersOn index specs = [] ↔ unmergedOn index specs = [] := by
      simp only [List.eq_nil_iff_forall_not_mem]
      exact forall_filterOn_key_iff (p := fun _ => False)
    rw [IndexQueries.get?_assembled assembled, IndexQueries.get?_ofFilters, unmerged]
    by_cases none : filtersOn index specs = []
    · rw [if_pos none, if_pos (absent.mp none)]
    · rw [if_neg none, if_neg (mt absent.mpr none), Option.map_some, Option.map_some,
        clauseOf_unmerged_holds free index truth valid]

/-- Filters on people, two for each field: ages in one of two ranges, and countries to leave
    out. -/
def pairedPeopleFilters : List Specification :=
  [⟨"people", "age", none, .between, .number, ["1;5"], false⟩,
    ⟨"people", "country", none, .isNot, .text, ["nowhere"], true⟩,
    ⟨"people", "age", none, .between, .number, ["3;_9"], true⟩,
    ⟨"people", "country", none, .isNot, .text, ["here", "there"], true⟩]

/-- With OR, the pairs ask for the same merged as one by one. -/
theorem paired_people_merge :
    ∃ merged fragments, IndexQueries.assemble true pairedPeopleFilters = .ok merged ∧
      pairedPeopleFilters.mapM Specification.compile = .ok fragments ∧ fragments.length = 4 ∧
      (merge pairedPeopleFilters).length = 2 ∧
      merged.indices = (IndexQueries.ofFragments true fragments).indices ∧
      ∀ truth, (merged.get? "people").map (Clause.holds truth) =
        ((IndexQueries.ofFragments true fragments).get? "people").map (Clause.holds truth) := by
  have free : ∀ key, 2 ≤ (sharing key pairedPeopleFilters).length →
      MergesFreely true key (sharing key pairedPeopleFilters) := by
    intro key several
    by_cases age : key = ⟨"people", "age", .between, .number, none⟩
    · subst age
      exact .alternativeRanges rfl (by decide) rfl
    by_cases country : key = ⟨"people", "country", .isNot, .text, none⟩
    · subst country
      exact .excludedTexts rfl rfl (by decide)
    have other : sharing key pairedPeopleFilters = [] := by
      simp [sharing, pairedPeopleFilters, Specification.key, Ne.symm age, Ne.symm country]
    simp [other] at several
  obtain ⟨_, same⟩ := merging_keeps_meaning (by decide) (by decide) free
  obtain ⟨fragments, compiled, indices, meaning⟩ := same _ rfl
  cases compiled
  exact ⟨_, _, rfl, rfl, rfl, rfl, indices, meaning "people"⟩

end Winnow
