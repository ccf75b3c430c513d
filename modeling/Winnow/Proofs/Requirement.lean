import Winnow.Proofs.Session

/-! # What a request requires

A request of required groups asks for the clause of every group. The one thing that it can lose
is an exclusion: a group of AND that has affirmative filters is taken apart, and its negated
filters are not among the parts.
-/

namespace Winnow

namespace RequestBuilder

/-- A builder for an index with some groups, each of which has a clause for it. -/
def collect (index : String) (groups : List AssembledGroup) : Except QueryError RequestBuilder := do
  groups.foldlM (fun builder group => builder.append group.queries group.isRequired)
    (← create index)

theorem append_eq_ok_iff {builder next : RequestBuilder} {group : AssembledGroup} :
    builder.append group.queries group.isRequired = .ok next ↔
      (group.queries.get? builder.index).isSome = true ∧ next = builder.afterAppend group := by
  rw [afterAppend]
  cases found : group.queries.get? builder.index with
  | none => simp [append_absent found]
  | some clause => simp [append_present found, appendWith_present found, eq_comm]

theorem foldlM_append_eq_ok_iff {groups : List AssembledGroup} {start last : RequestBuilder} :
    groups.foldlM (fun builder group => builder.append group.queries group.isRequired) start =
        .ok last ↔
      (∀ group ∈ groups, (group.queries.get? start.index).isSome = true) ∧
        last = groups.foldl afterAppend start := by
  induction groups generalizing start with
  | nil => simp [pure, Except.pure, eq_comm (a := last)]
  | cons group rest ih =>
      simp only [List.foldlM_cons, bind_eq_ok_iff, append_eq_ok_iff, ih, List.forall_mem_cons,
        List.foldl_cons]
      constructor
      · rintro ⟨_, ⟨found, rfl⟩, others, rfl⟩
        rw [afterAppend_index] at others
        exact ⟨⟨found, others⟩, rfl⟩
      · rintro ⟨⟨found, others⟩, rfl⟩
        refine ⟨_, ⟨found, rfl⟩, ?_, rfl⟩
        rw [afterAppend_index]
        exact others

theorem collect_eq_ok_iff {index : String} {groups : List AssembledGroup}
    {builder : RequestBuilder} :
    collect index groups = .ok builder ↔
      index ≠ "" ∧ (∀ group ∈ groups, (group.queries.get? index).isSome = true) ∧
        builder = session index groups := by
  have start : ∀ {empty}, create index = .ok empty ↔ index ≠ "" ∧ empty = ⟨index, []⟩ := by
    intro empty
    unfold create
    split <;> simp_all [eq_comm]
  simp only [collect, bind_eq_ok_iff, start, foldlM_append_eq_ok_iff]
  constructor
  · rintro ⟨_, ⟨named, rfl⟩, found, rfl⟩
    exact ⟨named, found, rfl⟩
  · rintro ⟨named, found, rfl⟩
    exact ⟨_, ⟨named, rfl⟩, found, rfl⟩

end RequestBuilder

namespace Clause

def withoutExclusions : Clause → Clause
  | leaf test => leaf test
  | bool must should _ => bool must should []

end Clause

namespace AssembledGroup

/-- Whether the group's negated filters on an index are lost when it is required: it is taken
    apart into its affirmative ones. -/
def losesExclusions (group : AssembledGroup) (index : String) : Bool :=
  !group.asOr && !(group.clausesOn index true).isEmpty && !(group.clausesOn index false).isEmpty

/-- What a required group contributes holds if its clause does, less the exclusions that are
    lost. -/
theorem required_contribution_holds {group : AssembledGroup} {index : String} {clause : Clause}
    (required : group.isRequired = true) (found : group.queries.get? index = some clause)
    (truth : Leaf → Bool) :
    (∀ part ∈ group.contribution index, part.holds truth = true) ↔
      (if group.losesExclusions index then clause.withoutExclusions else clause).holds truth =
        true := by
  by_cases whole : group.clausesOn index true = [] ∨ (group.isRequired = true ∧ group.asOr = true)
  · have kept : group.losesExclusions index = false := by
      rcases whole with empty | ⟨_, asOr⟩
      · simp [losesExclusions, empty]
      · simp [losesExclusions, asOr]
    rw [(contribution_eq_whole_iff found).mpr whole, List.forall_mem_singleton, kept]
    rfl
  · obtain ⟨nonempty, asAnd⟩ : group.clausesOn index true ≠ [] ∧ group.asOr = false := by
      simpa [required] using whole
    have shape : clause = .bool (group.clausesOn index true) [] (group.clausesOn index false) := by
      rw [eq_clauseOf found, IndexQueries.clauseOf, asAnd]
      show Clause.bool _ _ (IndexQueries.exclusions false (group.clausesOn index false)) = _
      cases group.clausesOn index false <;> rfl
    have asked : (if group.losesExclusions index then clause.withoutExclusions else clause) =
        .all (group.clausesOn index true) := by
      cases negated : group.clausesOn index false with
      | nil => simp [losesExclusions, negated, shape, Clause.all]
      | cons first rest =>
          simp [losesExclusions, negated, nonempty, asAnd, shape, Clause.withoutExclusions,
            Clause.all]
    rw [contribution_of_affirmative nonempty (by simp [asAnd]), asked, Clause.holds_all,
      List.all_eq_true]

end AssembledGroup

/-- A request of required groups holds exactly if the clause of each of them does, where the
    exclusions of a group of AND with affirmative filters don't count. -/
theorem required_groups_hold_iff {index : String} {groups : List AssembledGroup}
    {builder : RequestBuilder} (required : ∀ group ∈ groups, group.isRequired = true)
    (collected : RequestBuilder.collect index groups = .ok builder) (truth : Leaf → Bool) :
    builder.query.holds truth = true ↔
      ∀ group ∈ groups, ∃ clause, group.queries.get? index = some clause ∧
        (if group.losesExclusions index then clause.withoutExclusions else clause).holds truth =
          true := by
  obtain ⟨_, found, rfl⟩ := RequestBuilder.collect_eq_ok_iff.mp collected
  have optional : groups.filter (!·.isRequired) = [] :=
    List.filter_eq_nil_iff.mpr fun group member => by simp [required group member]
  have all : groups.filter (·.isRequired) = groups := List.filter_eq_self.mpr required
  rw [RequestBuilder.session_query, optional, all, BoolQuery.holds, Clause.holds_bool]
  simp only [List.flatMap_nil, List.not_mem_nil, false_implies, implies_true, and_true, ne_eq,
    not_true_eq_false, List.mem_flatMap]
  constructor
  · intro holds group member
    obtain ⟨clause, here⟩ := Option.isSome_iff_exists.mp (found group member)
    refine ⟨clause, here, ?_⟩
    rw [← AssembledGroup.required_contribution_holds (required group member) here]
    exact fun part inside => holds part ⟨group, member, inside⟩
  · rintro asked part ⟨group, member, inside⟩
    obtain ⟨clause, here, holds⟩ := asked group member
    rw [← AssembledGroup.required_contribution_holds (required group member) here] at holds
    exact holds part inside

/-- Two required groups on people, one of each mode. -/
theorem required_people_hold_iff :
    ∃ (both either : AssembledGroup) (builder : RequestBuilder),
      both.toFilterGroup = ⟨false, true, peopleFilters⟩ ∧
      either.toFilterGroup = ⟨true, true, peopleFilters⟩ ∧
      both.losesExclusions "people" = true ∧ either.losesExclusions "people" = false ∧
      RequestBuilder.collect "people" [both, either] = .ok builder ∧
      ∀ truth, builder.query.holds truth = true ↔
        ∀ group ∈ [both, either], ∃ clause, group.queries.get? "people" = some clause ∧
          (if group.losesExclusions "people" then clause.withoutExclusions else clause).holds
            truth = true :=
  ⟨⟨⟨false, true, peopleFilters⟩, _, rfl⟩, ⟨⟨true, true, peopleFilters⟩, _, rfl⟩, _, rfl, rfl, rfl,
    rfl, rfl, required_groups_hold_iff (by simp) rfl⟩

/-- A required group of AND holds in a request where its own clause doesn't: the country that
    it excludes is no longer excluded. -/
theorem required_exclusion_lost :
    ∃ (group : AssembledGroup) (builder : RequestBuilder) (clause : Clause),
      group.toFilterGroup = ⟨false, true, peopleFilters⟩ ∧
      RequestBuilder.collect "people" [group] = .ok builder ∧
      group.queries.get? "people" = some clause ∧
      builder.query.holds (fun _ => true) = true ∧ clause.holds (fun _ => true) = false :=
  ⟨⟨⟨false, true, peopleFilters⟩, _, rfl⟩, _, _, rfl, rfl, rfl, rfl, rfl⟩

end Winnow
