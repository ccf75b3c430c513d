import Winnow.Proofs.Assembly
import Winnow.Proofs.ClauseDocument
import Winnow.Query.Request

/-! # The shape of clauses

No bool node of a clause is empty, from the compiler to the parts of a request, and none stands
deep inside the others.
-/

namespace Winnow

namespace Clause

/-- A clause without empty bool nodes, which are nested at most `depth` deep. -/
inductive Formed : Nat → Clause → Prop where
  | leaf {depth : Nat} (test : Leaf) : Formed depth (.leaf test)
  /-- A bool node with a part is a level above its parts. -/
  | bool {depth : Nat} {must should mustNot : List Clause}
      (nonempty : must ++ should ++ mustNot ≠ [])
      (each : ∀ part ∈ must ++ should ++ mustNot, Formed depth part) :
      Formed (depth + 1) (.bool must should mustNot)

theorem Formed.deeper {depth deeper : Nat} {clause : Clause} (formed : clause.Formed depth)
    (deep : depth ≤ deeper) : clause.Formed deeper := by
  induction formed generalizing deeper with
  | leaf test => exact .leaf test
  | bool nonempty each ih =>
      obtain ⟨deeper, rfl⟩ := Nat.exists_eq_add_of_lt deep
      exact .bool nonempty fun part member => ih part member (by omega)

section Combinations

variable {depth : Nat} {clauses : List Clause}

theorem all_formed (nonempty : clauses ≠ []) (each : ∀ clause ∈ clauses, clause.Formed depth) :
    (all clauses).Formed (depth + 1) :=
  .bool (by simpa using nonempty) (by simpa using each)

theorem any_formed (nonempty : clauses ≠ []) (each : ∀ clause ∈ clauses, clause.Formed depth) :
    (any clauses).Formed (depth + 1) :=
  .bool (by simpa using nonempty) (by simpa using each)

end Combinations

theorem requiredParts_formed {depth : Nat} {clause : Clause} (formed : clause.Formed depth) :
    ∀ part ∈ clause.requiredParts, part.Formed depth := by
  intro part member
  cases formed with
  | leaf test =>
      rw [List.mem_singleton.mp member]
      exact .leaf test
  | @bool depth must should mustNot nonempty each =>
      -- A node without `must` is taken as a whole.
      cases must with
      | nil =>
          rw [List.mem_singleton.mp member]
          exact .bool nonempty each
      | cons first rest =>
          refine (each part ?_).deeper (Nat.le_succ depth)
          exact List.mem_append_left _ (List.mem_append_left _ member)

theorem optionalParts_formed {depth : Nat} {clause : Clause} (formed : clause.Formed depth) :
    ∀ part ∈ clause.optionalParts, part.Formed depth := by
  intro part member
  cases formed with
  | leaf test => exact requiredParts_formed (.leaf test) part member
  | @bool depth must should mustNot nonempty each =>
      cases should with
      | nil => exact requiredParts_formed (.bool nonempty each) part member
      | cons first rest =>
          refine (each part ?_).deeper (Nat.le_succ depth)
          exact List.mem_append_left _ (List.mem_append_right _ member)

/-! ## The document of a bool node -/

theorem exists_of_mem_toJsonList {clauses : List Clause} {query : Json}
    (member : query ∈ toJsonList clauses) : ∃ clause ∈ clauses, clause.toJson = query := by
  rw [toJsonList_eq_map] at member
  exact List.mem_map.mp member

/-- The occurrences of a bool node that have a clause. -/
def occurrences (must should mustNot : List Clause) : List (String × List Clause) :=
  [("must", must), ("should", should), ("must_not", mustNot)].filter (!·.2.isEmpty)

theorem occurrences_named (must should mustNot : List Clause) :
    ((occurrences must should mustNot).map (·.1)).Sublist ["must", "should", "must_not"] :=
  List.filter_sublist.map _

/-- The members of the object in a bool node. -/
def boolMembers (must should mustNot : List Clause) : List (String × Json) :=
  ((occurrences must should mustNot).map fun occurrence =>
    (occurrence.1, toJsonList occurrence.2)).map fun occurrence =>
      (occurrence.1, .array occurrence.2)

theorem bool_toJson (must should mustNot : List Clause) :
    (bool must should mustNot).toJson =
      .single "bool" (.object (boolMembers must should mustNot)) := by
  cases must <;> cases should <;> cases mustNot <;> rfl

theorem must_notMem_boolMembers (should mustNot : List Clause) :
    "must" ∉ (boolMembers [] should mustNot).map (·.1) := by
  cases should <;> cases mustNot <;> simp [boolMembers, occurrences]

theorem should_notMem_boolMembers (must mustNot : List Clause) :
    "should" ∉ (boolMembers must [] mustNot).map (·.1) := by
  cases must <;> cases mustNot <;> simp [boolMembers, occurrences]

theorem occurrences_ne_nil {must should mustNot : List Clause}
    (nonempty : must ++ should ++ mustNot ≠ []) : occurrences must should mustNot ≠ [] := by
  cases must <;> cases should <;> cases mustNot <;> simp_all [occurrences]

theorem mem_of_mem_occurrences {must should mustNot : List Clause}
    {occurrence : String × List Clause} (member : occurrence ∈ occurrences must should mustNot) :
    occurrence.2 ≠ [] ∧ ∀ clause ∈ occurrence.2, clause ∈ must ++ should ++ mustNot := by
  obtain ⟨one, filled⟩ := List.mem_filter.mp member
  refine ⟨by simpa using filled, fun clause inside => ?_⟩
  simp only [List.mem_cons, List.not_mem_nil, or_false] at one
  rcases one with rfl | rfl | rfl <;> simp [inside]

end Clause

/-! ## Compiled filters -/

theorem FilterKey.valueClause_formed {key : FilterKey} {value : String}
    (accepted : key.accepts value = true) : (key.valueClause value).Formed 1 := by
  unfold accepts at accepted
  unfold valueClause
  cases type : Compiler.ofType key.type with
  | text =>
      cases words : key.searchesWords with
      | false => exact .leaf _
      | true =>
          simp only [type, words, Bool.not_true, Bool.false_or, Bool.not_eq_true',
            List.isEmpty_eq_false_iff] at accepted
          rw [if_pos rfl]
          refine Clause.all_formed (by simpa using accepted) fun clause member => ?_
          obtain ⟨pattern, _, rfl⟩ := List.mem_map.mp member
          exact .leaf _
  | range mask => exact .leaf _

theorem ReducedFilter.clause_formed {filter : ReducedFilter} (compilable : filter.Compilable)
    (valued : filter.values ≠ []) : filter.clause.Formed 2 := by
  have nonempty : filter.values.map filter.key.valueClause ≠ [] := by simpa using valued
  have each : ∀ clause ∈ filter.values.map filter.key.valueClause, clause.Formed 1 := by
    intro clause member
    obtain ⟨value, inside, rfl⟩ := List.mem_map.mp member
    exact FilterKey.valueClause_formed (compilable.2 value inside)
  unfold clause
  cases Compiler.ofType filter.key.type with
  | text =>
      cases filter.valuesAsOr with
      | false => exact Clause.all_formed nonempty each
      | true => exact Clause.any_formed nonempty each
  | range mask =>
      simp only [Compiler.anyOf]
      split
      · next clause single =>
        exact (each clause (single ▸ List.mem_singleton_self clause)).deeper (by decide)
      · exact Clause.any_formed nonempty each

/-! ## Assembled queries -/

namespace IndexQueries

theorem exclusions_eq_nil_iff {asOr : Bool} {negated : List Clause} :
    exclusions asOr negated = [] ↔ negated = [] := by
  cases negated <;> cases asOr <;> simp [exclusions]

theorem exclusions_formed {depth : Nat} {asOr : Bool} {negated : List Clause}
    (each : ∀ clause ∈ negated, clause.Formed depth) :
    ∀ clause ∈ exclusions asOr negated, clause.Formed (depth + 1) := by
  intro clause member
  cases negated with
  | nil => cases member
  | cons first rest =>
      cases asOr with
      | false => exact (each clause member).deeper (Nat.le_succ depth)
      | true =>
          rw [List.mem_singleton.mp member]
          exact Clause.any_formed (List.cons_ne_nil first rest) each

theorem clauseOf_formed {depth : Nat} (asOr : Bool) {fragments : List Fragment}
    (nonempty : fragments ≠ []) (each : ∀ fragment ∈ fragments, fragment.query.Formed depth) :
    (clauseOf asOr fragments).Formed (depth + 2) := by
  have queries : ∀ isAffirmative, ∀ clause ∈ queriesOf isAffirmative fragments,
      clause.Formed depth := by
    intro isAffirmative clause member
    obtain ⟨fragment, inside, rfl⟩ := List.mem_map.mp member
    exact each fragment (List.mem_filter.mp inside).1
  have parts : ∀ part ∈ queriesOf true fragments ++ exclusions asOr (queriesOf false fragments),
      part.Formed (depth + 1) := by
    intro part member
    rcases List.mem_append.mp member with affirmative | excluded
    · exact (queries true part affirmative).deeper (Nat.le_succ depth)
    · exact exclusions_formed (queries false) part excluded
  -- Every fragment is of one of the two kinds, so one of the lists is not empty.
  have some : queriesOf true fragments ++ exclusions asOr (queriesOf false fragments) ≠ [] := by
    obtain ⟨fragment, inside⟩ := List.exists_mem_of_ne_nil _ nonempty
    have own : fragment.query ∈ queriesOf fragment.isAffirmative fragments :=
      List.mem_map_of_mem (List.mem_filter.mpr ⟨inside, beq_self_eq_true _⟩)
    rw [ne_eq, List.append_eq_nil_iff, exclusions_eq_nil_iff]
    rintro ⟨affirmative, negated⟩
    cases kind : fragment.isAffirmative with
    | false => simp [kind, negated] at own
    | true => simp [kind, affirmative] at own
  cases asOr with
  | false => exact .bool (by simpa using some) (by simpa using parts)
  | true => exact .bool some parts

theorem ofFragments_formed {depth : Nat} (asOr : Bool) {fragments : List Fragment}
    (each : ∀ fragment ∈ fragments, fragment.query.Formed depth) :
    ∀ entry ∈ (ofFragments asOr fragments).clauses, entry.2.Formed (depth + 2) := by
  intro entry member
  obtain ⟨group, grouped, rfl⟩ := List.mem_map.mp member
  rw [Grouping.ofList_eq] at grouped
  obtain ⟨index, seen, rfl⟩ := List.mem_map.mp grouped
  obtain ⟨fragment, inside, own⟩ := List.mem_map.mp (List.mem_eraseDups.mp seen)
  have among : fragment ∈ fragments.filter fun fragment => fragment.index = index :=
    List.mem_filter.mpr ⟨inside, decide_eq_true own⟩
  exact clauseOf_formed asOr (List.ne_nil_of_mem among)
    fun fragment member => each fragment (List.mem_filter.mp member).1

theorem mem_clauses_of_get? {queries : IndexQueries} {index : String} {clause : Clause}
    (found : queries.get? index = some clause) : (index, clause) ∈ queries.clauses := by
  obtain ⟨before, after, split, _⟩ := List.lookup_eq_some_iff.mp found
  rw [split]
  exact List.mem_append_right before List.mem_cons_self

/-- Queries of valid specifications have no empty nodes. -/
theorem assembled_formed {asOr : Bool} {specs : List Specification} {queries : IndexQueries}
    (valid : ∀ spec ∈ specs, spec.Valid) (assembled : assemble asOr specs = .ok queries) :
    ∀ entry ∈ queries.clauses, entry.2.Formed 4 := by
  obtain ⟨_, compilable, rfl⟩ := assemble_eq_ok_iff.mp assembled
  refine ofFragments_formed asOr fun fragment member => ?_
  obtain ⟨filter, merged, rfl⟩ := List.mem_map.mp member
  exact ReducedFilter.clause_formed (compilable filter merged)
    (values_ne_of_mem_merge valid merged)

end IndexQueries

end Winnow
