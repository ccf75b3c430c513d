import Winnow.Proofs.Requirement

/-! # What a request of optional groups asks

A request of optional groups holds if one of them is met. A group that has affirmative filters on
the index is taken apart, so that one of them is enough to meet it, whatever else the group asks.
The request never misses what the clause of a group allows, but it can allow more.
-/

namespace Winnow

namespace AssembledGroup

/-- What an optional group with a clause asks: one of its affirmative filters, or the clause if
    there are none. -/
def alternative (group : AssembledGroup) (index : String) (clause : Clause) : Clause :=
  if group.clausesOn index true = [] then clause else .any (group.clausesOn index true)

/-- Whether taking the group apart leaves its meaning alone: it excludes nothing, and one
    affirmative filter is as good as all of them. -/
def StaysWhole (group : AssembledGroup) (index : String) : Prop :=
  group.clausesOn index true = [] ∨
    group.clausesOn index false = [] ∧
      (group.asOr = true ∨ ∀ first ∈ group.clausesOn index true,
        ∀ second ∈ group.clausesOn index true, ∀ truth, first.holds truth = second.holds truth)

theorem clause_holds_iff {group : AssembledGroup} {index : String} {clause : Clause}
    (found : group.queries.get? index = some clause) (truth : Leaf → Bool) :
    clause.holds truth = true ↔
      (∀ negated ∈ group.clausesOn index false, negated.holds truth = false) ∧
      if group.asOr = true then
        group.clausesOn index true = [] ∨
          ∃ affirmative ∈ group.clausesOn index true, affirmative.holds truth = true
      else ∀ affirmative ∈ group.clausesOn index true, affirmative.holds truth = true := by
  rw [eq_clauseOf found]
  exact IndexQueries.clauseOf_holds_iff_queriesOf

theorem alternative_holds_iff {group : AssembledGroup} {index : String} (clause : Clause)
    (nonempty : group.clausesOn index true ≠ []) (truth : Leaf → Bool) :
    (group.alternative index clause).holds truth = true ↔
      ∃ affirmative ∈ group.clausesOn index true, affirmative.holds truth = true := by
  rw [alternative, if_neg nonempty, Clause.holds_any truth nonempty, List.any_eq_true]

theorem clausesOn_hold_of_all {group : AssembledGroup} {index : String} {isAffirmative : Bool}
    {clause : Clause} (member : clause ∈ group.clausesOn index isAffirmative) :
    clause.holds (fun _ => true) = true := by
  rw [clausesOn_eq] at member
  obtain ⟨filter, _, rfl⟩ := List.mem_map.mp member
  exact ReducedFilter.clause_holds_of_all filter

theorem optional_contribution_holds {group : AssembledGroup} {index : String} {clause : Clause}
    (optional : group.isRequired = false) (found : group.queries.get? index = some clause)
    (truth : Leaf → Bool) :
    (∃ part ∈ group.contribution index, part.holds truth = true) ↔
      (group.alternative index clause).holds truth = true := by
  by_cases empty : group.clausesOn index true = []
  · have whole : group.contribution index = [clause] :=
      (contribution_eq_whole_iff found).mpr (.inl empty)
    simp [whole, alternative, empty]
  · rw [contribution_of_affirmative empty (by simp [optional]), alternative_holds_iff clause empty]

theorem contribution_ne_nil {group : AssembledGroup} {index : String} {clause : Clause}
    (found : group.queries.get? index = some clause) : group.contribution index ≠ [] := by
  rw [contribution, found]
  cases parts : group.clausesOn index true with
  | nil => simp
  | cons first rest => cases group.isRequired && group.asOr <;> simp

theorem alternative_of_clause {group : AssembledGroup} {index : String} {clause : Clause}
    (found : group.queries.get? index = some clause) {truth : Leaf → Bool}
    (holds : clause.holds truth = true) : (group.alternative index clause).holds truth = true := by
  by_cases empty : group.clausesOn index true = []
  · rw [alternative, if_pos empty, holds]
  · obtain ⟨_, asked⟩ := (clause_holds_iff found truth).mp holds
    rw [alternative_holds_iff clause empty]
    cases mode : group.asOr with
    | true =>
        rw [if_pos mode] at asked
        exact asked.resolve_left empty
    | false =>
        rw [if_neg (by simp [mode])] at asked
        obtain ⟨first, member⟩ := List.exists_mem_of_ne_nil _ empty
        exact ⟨first, member, asked first member⟩

/-- The alternative of a group means what its clause does exactly if taking the group apart
    leaves its meaning alone. -/
theorem alternative_eq_clause_iff {group : AssembledGroup} {index : String} {clause : Clause}
    (found : group.queries.get? index = some clause) :
    (∀ truth, (group.alternative index clause).holds truth = clause.holds truth) ↔
      group.StaysWhole index := by
  by_cases empty : group.clausesOn index true = []
  · exact iff_of_true (fun truth => by rw [alternative, if_pos empty]) (.inl empty)
  rw [StaysWhole, or_iff_right empty]
  constructor
  · intro same
    have asked : ∀ truth first, first ∈ group.clausesOn index true → first.holds truth = true →
        clause.holds truth = true := fun truth first member holds => by
      rw [← same, alternative_holds_iff clause empty]
      exact ⟨first, member, holds⟩
    refine ⟨List.eq_nil_iff_forall_not_mem.mpr fun negated excluded => ?_, ?_⟩
    · -- A document that passes all tests is excluded, but it meets the alternative.
      obtain ⟨first, member⟩ := List.exists_mem_of_ne_nil _ empty
      have all := asked _ first member (clausesOn_hold_of_all member)
      have fails := ((clause_holds_iff found _).mp all).1 negated excluded
      rw [clausesOn_hold_of_all excluded] at fails
      cases fails
    · rw [or_iff_not_imp_left]
      intro mode first firstMember second secondMember truth
      have entails : ∀ one ∈ group.clausesOn index true, ∀ other ∈ group.clausesOn index true,
          one.holds truth = true → other.holds truth = true := by
        intro one oneMember other otherMember holds
        have all := ((clause_holds_iff found truth).mp (asked truth one oneMember holds)).2
        rw [if_neg mode] at all
        exact all other otherMember
      exact Bool.eq_iff_iff.mpr ⟨entails first firstMember second secondMember,
        entails second secondMember first firstMember⟩
  · rintro ⟨nothing, whole⟩ truth
    rw [Bool.eq_iff_iff]
    refine ⟨fun holds => ?_, alternative_of_clause found⟩
    obtain ⟨first, member, holds⟩ := (alternative_holds_iff clause empty truth).mp holds
    refine (clause_holds_iff found truth).mpr ⟨by simp [nothing], ?_⟩
    split
    · exact .inr ⟨first, member, holds⟩
    · intro other otherMember
      have alike := whole.resolve_left ‹_›
      rw [← alike first member other otherMember truth, holds]

end AssembledGroup

/-- A request of optional groups holds exactly if the alternative of one of them does. What the
    clause of a group allows is allowed, and nothing else is for a group that stays whole. -/
theorem optional_groups_hold_iff {index : String} {groups : List AssembledGroup}
    {builder : RequestBuilder} (nonempty : groups ≠ [])
    (optional : ∀ group ∈ groups, group.isRequired = false)
    (collected : RequestBuilder.collect index groups = .ok builder) :
    (∀ truth, builder.query.holds truth = true ↔
      ∃ group ∈ groups, ∃ clause, group.queries.get? index = some clause ∧
        (group.alternative index clause).holds truth = true) ∧
    ∀ group ∈ groups, ∀ clause, group.queries.get? index = some clause →
      (∀ truth, clause.holds truth = true →
        (group.alternative index clause).holds truth = true) ∧
      ((∀ truth, (group.alternative index clause).holds truth = clause.holds truth) ↔
        group.StaysWhole index) := by
  obtain ⟨_, found, rfl⟩ := RequestBuilder.collect_eq_ok_iff.mp collected
  refine ⟨fun truth => ?_, fun group _ clause here =>
    ⟨fun _ => AssembledGroup.alternative_of_clause here,
      AssembledGroup.alternative_eq_clause_iff here⟩⟩
  have required : groups.filter (·.isRequired) = [] :=
    List.filter_eq_nil_iff.mpr fun group member => by simp [optional group member]
  have all : groups.filter (!·.isRequired) = groups :=
    List.filter_eq_self.mpr fun group member => by simp [optional group member]
  have contributed : groups.flatMap (·.contribution index) ≠ [] := by
    obtain ⟨group, member⟩ := List.exists_mem_of_ne_nil _ nonempty
    obtain ⟨clause, here⟩ := Option.isSome_iff_exists.mp (found group member)
    obtain ⟨part, inside⟩ := List.exists_mem_of_ne_nil _ (AssembledGroup.contribution_ne_nil here)
    exact List.ne_nil_of_mem (List.mem_flatMap.mpr ⟨group, member, inside⟩)
  rw [RequestBuilder.session_query, required, all, BoolQuery.holds, Clause.holds_bool]
  simp only [List.flatMap_nil, List.not_mem_nil, false_implies, implies_true, true_and, ne_eq,
    contributed, not_false_eq_true, true_implies, List.mem_flatMap]
  constructor
  · rintro ⟨part, ⟨group, member, inside⟩, holds⟩
    obtain ⟨clause, here⟩ := Option.isSome_iff_exists.mp (found group member)
    exact ⟨group, member, clause, here,
      (AssembledGroup.optional_contribution_holds (optional group member) here truth).mp
        ⟨part, inside, holds⟩⟩
  · rintro ⟨group, member, clause, here, holds⟩
    obtain ⟨part, inside, holds⟩ :=
      (AssembledGroup.optional_contribution_holds (optional group member) here truth).mpr holds
    exact ⟨part, ⟨group, member, inside⟩, holds⟩

/-- Two optional groups on people, one of each mode. The one of OR excludes nothing, so it stays
    whole. -/
theorem optional_people_hold_iff :
    ∃ (both either : AssembledGroup) (builder : RequestBuilder),
      both.toFilterGroup = ⟨false, false, peopleFilters⟩ ∧
      either.toFilterGroup = ⟨true, false, peopleFilters.take 2⟩ ∧
      RequestBuilder.collect "people" [both, either] = .ok builder ∧
      (∀ truth, builder.query.holds truth = true ↔
        ∃ group ∈ [both, either], ∃ clause, group.queries.get? "people" = some clause ∧
          (group.alternative "people" clause).holds truth = true) ∧
      ∃ clause, either.queries.get? "people" = some clause ∧
        ∀ truth, (either.alternative "people" clause).holds truth = clause.holds truth := by
  let both : AssembledGroup := ⟨⟨false, false, peopleFilters⟩, _, rfl⟩
  let either : AssembledGroup := ⟨⟨true, false, peopleFilters.take 2⟩, _, rfl⟩
  obtain ⟨meaning, single⟩ := @optional_groups_hold_iff "people" [both, either] _ (by simp)
    (by simp [both, either]) rfl
  obtain ⟨_, whole⟩ := single either (by simp) _ rfl
  exact ⟨both, either, _, rfl, rfl, rfl, meaning, _, rfl, whole.mpr (.inr ⟨rfl, .inl rfl⟩)⟩

/-- A request of one optional group of AND holds where the group's clause doesn't: one of its two
    filters is enough. -/
theorem optional_group_widened :
    ∃ (group : AssembledGroup) (builder : RequestBuilder) (clause : Clause) (truth : Leaf → Bool),
      group.toFilterGroup = ⟨false, false, peopleFilters.take 2⟩ ∧
      RequestBuilder.collect "people" [group] = .ok builder ∧
      group.queries.get? "people" = some clause ∧
      builder.query.holds truth = true ∧ clause.holds truth = false :=
  ⟨⟨⟨false, false, peopleFilters.take 2⟩, _, rfl⟩, _, _,
    fun leaf => leaf = .matching "status" "open", rfl, rfl, rfl, rfl, rfl⟩

end Winnow
