import Winnow.FilterFile
import Winnow.Proofs.Assembly
import Winnow.Proofs.ClauseDocument

/-! # What a request keeps of its groups

A session appends assembled groups to a builder. Each group contributes to the request on its
own, in the order of the appends: its affirmative fragments on the builder's index if it has
any, or its whole clause. A group that was assembled with OR and is required has to stay whole.
-/

namespace Winnow

/-- A group with the fragments that its filters compile to. -/
structure AssembledGroup extends FilterGroup where
  fragments : List Fragment
  compiled : (reduce filters >>= List.mapM ReducedFilter.compile) = .ok fragments

namespace AssembledGroup

def queries (group : AssembledGroup) : IndexQueries :=
  .ofFragments group.asOr group.fragments

theorem assemble_eq (group : AssembledGroup) :
    group.toFilterGroup.assemble = .ok group.queries :=
  IndexQueries.assemble_iff_compiled.mpr ⟨_, group.compiled, rfl⟩

theorem exists_of_assemble {group : FilterGroup} {queries : IndexQueries}
    (assembled : group.assemble = .ok queries) :
    ∃ whole : AssembledGroup, whole.toFilterGroup = group ∧ whole.queries = queries := by
  obtain ⟨fragments, compiled, rfl⟩ := IndexQueries.assemble_iff_compiled.mp assembled
  exact ⟨⟨group, fragments, compiled⟩, rfl, rfl⟩

/-- The group's fragments on an index, in order. -/
def fragmentsOn (group : AssembledGroup) (index : String) : List Fragment :=
  group.fragments.filter fun fragment => fragment.index = index

/-- The clauses of the group's affirmative, or negated, fragments on an index, in order. -/
def clausesOn (group : AssembledGroup) (index : String) (isAffirmative : Bool) : List Clause :=
  IndexQueries.queriesOf isAffirmative (group.fragmentsOn index)

/-- What the group contributes to a request on an index. -/
def contribution (group : AssembledGroup) (index : String) : List Clause :=
  match group.queries.get? index, group.clausesOn index true with
  | none, _ => []
  | some clause, [] => [clause]
  | some clause, affirmative =>
      if group.isRequired && group.asOr then [clause] else affirmative

theorem eq_clauseOf {group : AssembledGroup} {index : String} {clause : Clause}
    (found : group.queries.get? index = some clause) :
    clause = IndexQueries.clauseOf group.asOr (group.fragmentsOn index) := by
  rw [queries, IndexQueries.get?_ofFragments] at found
  split at found
  · exact (Option.some.inj found).symm
  · cases found

end AssembledGroup

def Clause.mustNot : Clause → List Clause
  | leaf _ => []
  | bool _ _ mustNot => mustNot

namespace RequestBuilder

/-- What the builder is after a group was appended. Nothing changes if the group has no clause
    for the builder's index. -/
def afterAppend (builder : RequestBuilder) (group : AssembledGroup) : RequestBuilder :=
  (builder.appendWith group.queries group.isRequired).2

/-- The builder for an index after some groups were appended, one after another. -/
def session (index : String) (groups : List AssembledGroup) : RequestBuilder :=
  groups.foldl afterAppend ⟨index, []⟩

end RequestBuilder

namespace IndexQueries

theorem clauseOf_not_mem (asOr : Bool) (fragments : List Fragment) :
    clauseOf asOr fragments ∉ queriesOf true fragments := by
  intro member
  have smaller := List.sizeOf_lt_of_mem member
  unfold clauseOf at smaller
  cases asOr <;> simp at smaller <;> omega

theorem requiredParts_clauseOf (asOr : Bool) (fragments : List Fragment) :
    (clauseOf asOr fragments).requiredParts =
      match queriesOf true fragments with
      | [] => [clauseOf asOr fragments]
      | affirmative => if asOr then [clauseOf asOr fragments] else affirmative := by
  unfold clauseOf
  cases queriesOf true fragments <;> cases asOr <;> rfl

theorem optionalParts_clauseOf (asOr : Bool) (fragments : List Fragment) :
    (clauseOf asOr fragments).optionalParts =
      match queriesOf true fragments with
      | [] => [clauseOf asOr fragments]
      | affirmative => affirmative := by
  unfold clauseOf
  cases queriesOf true fragments <;> cases asOr <;> rfl

end IndexQueries

namespace RequestBuilder

theorem afterAppend_index (builder : RequestBuilder) (group : AssembledGroup) :
    (builder.afterAppend group).index = builder.index := by
  rw [afterAppend]
  cases found : group.queries.get? builder.index with
  | none => rw [appendWith_absent found]
  | some clause => rw [appendWith_present found]

theorem contribution_of_get? {group : AssembledGroup} {index : String} {clause : Clause}
    (found : group.queries.get? index = some clause) :
    group.contribution index =
      if group.isRequired then clause.requiredParts else clause.optionalParts := by
  have parts : group.clausesOn index true =
      IndexQueries.queriesOf true (group.fragmentsOn index) := rfl
  rw [AssembledGroup.contribution, found, parts, AssembledGroup.eq_clauseOf found,
    IndexQueries.requiredParts_clauseOf, IndexQueries.optionalParts_clauseOf]
  cases IndexQueries.queriesOf true (group.fragmentsOn index) <;>
    cases group.isRequired <;> rfl

theorem afterAppend_query (builder : RequestBuilder) (group : AssembledGroup) :
    (builder.afterAppend group).query =
      if group.isRequired then
        ⟨builder.query.must ++ group.contribution builder.index, builder.query.should⟩
      else ⟨builder.query.must, builder.query.should ++ group.contribution builder.index⟩ := by
  rw [afterAppend]
  cases found : group.queries.get? builder.index with
  | none =>
      have nothing : group.contribution builder.index = [] := by
        rw [AssembledGroup.contribution, found]
      simp only [appendWith_absent found, nothing, List.append_nil, ite_self]
  | some clause =>
      rw [contribution_of_get? found, appendWith_present found]
      cases required : group.isRequired <;> simp [query]

theorem foldl_afterAppend_query (groups : List AssembledGroup) (builder : RequestBuilder) :
    (groups.foldl afterAppend builder).query =
      ⟨builder.query.must ++
          (groups.filter (·.isRequired)).flatMap (·.contribution builder.index),
        builder.query.should ++
          (groups.filter (!·.isRequired)).flatMap (·.contribution builder.index)⟩ := by
  induction groups generalizing builder with
  | nil => simp
  | cons group rest ih =>
      rw [List.foldl_cons, ih, afterAppend_index, afterAppend_query]
      cases required : group.isRequired <;> simp [required]

/-- A session puts the contributions of its required groups into `must`, and those of its
    optional groups into `should`. -/
theorem session_query (index : String) (groups : List AssembledGroup) :
    (session index groups).query =
      ⟨(groups.filter (·.isRequired)).flatMap (·.contribution index),
        (groups.filter (!·.isRequired)).flatMap (·.contribution index)⟩ :=
  foldl_afterAppend_query groups ⟨index, []⟩

theorem query_toJson (builder : RequestBuilder) :
    builder.query.toJson =
      .single "bool" (.object
        [("must", .array ((builder.items.filter (·.isRequired)).flatMap fun item =>
          item.clause.toJson.requiredParts)),
        ("should", .array ((builder.items.filter (!·.isRequired)).flatMap fun item =>
          item.clause.toJson.optionalParts))]) := by
  simp only [BoolQuery.toJson, query, Clause.toJsonList_eq_map, List.map_flatMap,
    Clause.requiredParts_toJson, Clause.optionalParts_toJson]

end RequestBuilder

namespace FilterGroup

def withoutNegated (group : FilterGroup) : FilterGroup :=
  { group with filters := group.filters.filter fun spec => spec.operator.isAffirmative }

end FilterGroup

namespace AssembledGroup

theorem fragments_eq (group : AssembledGroup) :
    group.fragments = (merge group.filters).map (·.fragment) :=
  (IndexQueries.compiled_eq_ok_iff.mp group.compiled).2.2

theorem clausesOn_eq (group : AssembledGroup) (index : String) (isAffirmative : Bool) :
    group.clausesOn index isAffirmative =
      ((filtersOn index group.filters).filter (·.isAffirmative == isAffirmative)).map
        (·.clause) := by
  rw [clausesOn, fragmentsOn, fragments_eq, List.filter_map, IndexQueries.queriesOf_fragments]
  rfl

theorem exists_affirmative {group : AssembledGroup} {index : String}
    (nonempty : group.clausesOn index true ≠ []) :
    ∃ filter ∈ filtersOn index group.filters, filter.isAffirmative = true := by
  obtain ⟨clause, member⟩ := List.exists_mem_of_ne_nil _ nonempty
  rw [clausesOn_eq] at member
  obtain ⟨filter, kept, _⟩ := List.mem_map.mp member
  obtain ⟨inside, affirmative⟩ := List.mem_filter.mp kept
  exact ⟨filter, inside, beq_iff_eq.mp affirmative⟩

/-- A group with an affirmative fragment on an index contributes it, unless it is required and
    was assembled with OR. -/
theorem contribution_of_affirmative {group : AssembledGroup} {index : String}
    (nonempty : group.clausesOn index true ≠ [])
    (apart : (group.isRequired && group.asOr) = false) :
    group.contribution index = group.clausesOn index true := by
  obtain ⟨filter, inside, _⟩ := exists_affirmative nonempty
  have found := IndexQueries.get?_of_mem group.assemble_eq inside
  rw [contribution, found]
  cases parts : group.clausesOn index true with
  | nil => exact absurd parts nonempty
  | cons clause rest => simp [apart]

theorem exists_withoutNegated {group : AssembledGroup} {index : String}
    (nonempty : group.clausesOn index true ≠ []) :
    ∃ plain : AssembledGroup, plain.toFilterGroup = group.withoutNegated ∧
      plain.clausesOn index true = group.clausesOn index true := by
  have kept : group.withoutNegated.filters ≠ [] := by
    obtain ⟨filter, inside, affirmative⟩ := exists_affirmative nonempty
    obtain ⟨spec, member, rfl⟩ := mem_merge.mp (mem_filtersOn.mp inside).1
    exact List.ne_nil_of_mem (List.mem_filter.mpr ⟨member, affirmative⟩)
  obtain ⟨queries, ok⟩ := IndexQueries.exists_assembled_filter group.assemble_eq
    (fun key => key.operator.isAffirmative) kept
  obtain ⟨plain, same, _⟩ := @exists_of_assemble group.withoutNegated queries ok
  have filters : filtersOn index plain.filters =
      (filtersOn index group.filters).filter (·.isAffirmative) := by
    rw [same]
    exact filtersOn_filter index (fun key => key.operator.isAffirmative) group.filters
  refine ⟨plain, same, ?_⟩
  rw [clausesOn_eq, clausesOn_eq, filters, List.filter_filter]
  simp

theorem contribution_eq_whole_iff {group : AssembledGroup} {index : String} {clause : Clause}
    (found : group.queries.get? index = some clause) :
    group.contribution index = [clause] ↔
      group.clausesOn index true = [] ∨ (group.isRequired = true ∧ group.asOr = true) := by
  by_cases whole : (group.isRequired && group.asOr) = true
  · have kept : group.contribution index = [clause] := by
      rw [contribution, found]
      cases group.clausesOn index true <;> simp [whole]
    exact iff_of_true kept (.inr ((Bool.and_eq_true _ _).mp whole))
  · have apart : (group.isRequired && group.asOr) = false := Bool.eq_false_iff.mpr whole
    rw [Bool.and_eq_true] at whole
    rw [or_iff_left whole]
    constructor
    · intro same
      by_contra nonempty
      rw [contribution_of_affirmative nonempty apart] at same
      have itself : clause ∈ group.clausesOn index true := same ▸ List.mem_singleton_self clause
      exact IndexQueries.clauseOf_not_mem _ _ (eq_clauseOf found ▸ itself)
    · intro empty
      rw [contribution, found, empty]

theorem mustNot_ne {group : AssembledGroup} {index : String} {clause : Clause}
    (found : group.queries.get? index = some clause)
    (negated : group.clausesOn index false ≠ []) : clause.mustNot ≠ [] := by
  have excluded : clause.mustNot =
      IndexQueries.exclusions group.asOr (group.clausesOn index false) := by
    rw [eq_clauseOf found, IndexQueries.clauseOf]
    cases group.asOr <;> rfl
  rw [excluded]
  cases parts : group.clausesOn index false with
  | nil => exact absurd parts negated
  | cons clause rest => cases group.asOr <;> simp [IndexQueries.exclusions]

end AssembledGroup

/-- The request of a session, whatever the names and values in it are. The contributions of its
    groups make up the two lists, and reading the documents of the appended clauses by their
    names gives the same lists. The negated filters of a group count exactly if the group can't
    be taken apart: it has no affirmative filter, or it was assembled with OR and is required. -/
theorem session_request (index : String) (groups : List AssembledGroup) :
    (RequestBuilder.session index groups).query.toJson =
      .single "bool" (.object
        [("must", .array (Clause.toJsonList
          ((groups.filter (·.isRequired)).flatMap (·.contribution index)))),
        ("should", .array (Clause.toJsonList
          ((groups.filter (!·.isRequired)).flatMap (·.contribution index))))]) ∧
    (RequestBuilder.session index groups).query.toJson =
      .single "bool" (.object
        [("must", .array (((RequestBuilder.session index groups).items.filter
          (·.isRequired)).flatMap (·.clause.toJson.requiredParts))),
        ("should", .array (((RequestBuilder.session index groups).items.filter
          (!·.isRequired)).flatMap (·.clause.toJson.optionalParts)))]) ∧
    ∀ group ∈ groups, ∀ clause, group.queries.get? index = some clause →
      group.clausesOn index false ≠ [] →
        clause.mustNot ≠ [] ∧
        (group.contribution index = [clause] ↔
          group.clausesOn index true = [] ∨ (group.isRequired = true ∧ group.asOr = true)) ∧
        (group.contribution index ≠ [clause] →
          ∃ plain : AssembledGroup, plain.toFilterGroup = group.withoutNegated ∧
            plain.contribution index = group.contribution index) := by
  refine ⟨by rw [RequestBuilder.session_query]; rfl, RequestBuilder.query_toJson _, ?_⟩
  intro group _ clause found negated
  refine ⟨AssembledGroup.mustNot_ne found negated, AssembledGroup.contribution_eq_whole_iff found,
    fun taken => ?_⟩
  rw [ne_eq, AssembledGroup.contribution_eq_whole_iff found, not_or] at taken
  obtain ⟨nonempty, whole⟩ := taken
  have apart : (group.isRequired && group.asOr) = false := by
    rw [Bool.eq_false_iff, ne_eq, Bool.and_eq_true]
    exact whole
  obtain ⟨plain, same, fragments⟩ := AssembledGroup.exists_withoutNegated nonempty
  refine ⟨plain, same, ?_⟩
  have plainApart : (plain.isRequired && plain.asOr) = false := by rw [same]; exact apart
  rw [AssembledGroup.contribution_of_affirmative (fragments ▸ nonempty) plainApart,
    AssembledGroup.contribution_of_affirmative nonempty apart, fragments]

/-- A required group of AND on people contributes what it would without its country. -/
theorem people_session_request :
    ∃ (group plain : AssembledGroup) (clause : Clause),
      group.toFilterGroup = ⟨false, true, peopleFilters⟩ ∧
      plain.toFilterGroup = group.withoutNegated ∧
      group.queries.get? "people" = some clause ∧ clause.mustNot ≠ [] ∧
      group.contribution "people" ≠ [clause] ∧
      plain.contribution "people" = group.contribution "people" := by
  let group : AssembledGroup := ⟨⟨false, true, peopleFilters⟩, _, rfl⟩
  obtain ⟨_, _, kept⟩ := session_request "people" [group]
  obtain ⟨excluded, whole, taken⟩ := kept group List.mem_cons_self _ rfl (List.cons_ne_nil _ _)
  have apart : group.contribution "people" ≠ [_] := fun same => by
    rcases whole.mp same with empty | ⟨_, asOr⟩
    · cases empty
    · cases asOr
  obtain ⟨plain, same, contributes⟩ := taken apart
  exact ⟨group, plain, _, rfl, same, rfl, excluded, apart, contributes⟩

end Winnow
