import Winnow.Proofs.Success
import Winnow.Query.Compiler

/-! # What compiling a filter gives

A filter compiles exactly if its type supports its operator and its key accepts each of its
values. What it compiles to is then known without the compiler: every value has a clause of
its own, and the clauses are combined by the filter's type and flag.
-/

namespace Winnow

namespace FilterKey

/-- Which bounds a value gives. Keys of a range type have an extent of their own if the type
    supports the operator. -/
def extent (key : FilterKey) : Extent :=
  (Compiler.extent? key.operator).getD .exact

/-- Whether a text value is searched by its words rather than compared as a whole. -/
def searchesWords (key : FilterKey) : Bool :=
  key.operator == .contains || key.operator == .notContains

/-- The tests of the field that a value asks for. -/
def leaves (key : FilterKey) (value : String) : List Leaf :=
  match Compiler.ofType key.type with
  | .text =>
      if key.searchesWords then (Wildcard.patterns value).map (.wildcard key.field)
      else [.matching key.field value]
  | .range _ => [Compiler.rangeLeaf key.field key.extent value]

/-- Whether a value has the form that the type and the operator ask for. -/
def accepts (key : FilterKey) (value : String) : Bool :=
  match Compiler.ofType key.type with
  | .text => !key.searchesWords || !(Wildcard.patterns value).isEmpty
  | .range mask => (Compiler.maskPattern mask key.extent).accepts value.toList

/-- The clause of a value: the words of a text are a combination of their own. -/
def valueClause (key : FilterKey) (value : String) : Clause :=
  match Compiler.ofType key.type with
  | .text =>
      if key.searchesWords then
        .all ((Wildcard.patterns value).map fun pattern => .leaf (.wildcard key.field pattern))
      else .leaf (.matching key.field value)
  | .range _ => .leaf (Compiler.rangeLeaf key.field key.extent value)

end FilterKey

namespace ReducedFilter

/-- Whether the type supports the operator and the key accepts every value. -/
def Compilable (filter : ReducedFilter) : Prop :=
  filter.key.type.supports filter.key.operator = true ∧
    ∀ value ∈ filter.values, filter.key.accepts value = true

def clause (filter : ReducedFilter) : Clause :=
  match Compiler.ofType filter.key.type with
  | .text => Compiler.combine filter.valuesAsOr (filter.values.map filter.key.valueClause)
  | .range _ => Compiler.anyOf (filter.values.map filter.key.valueClause)

def fragment (filter : ReducedFilter) : Fragment :=
  ⟨filter.key.index, filter.isAffirmative, filter.clause⟩

end ReducedFilter

namespace Compiler

theorem wildcards_eq_ok_iff {key : FilterKey} (text : key.type = .text)
    (words : key.searchesWords = true) {value : String} {clause : Clause} :
    wildcards key.field value = .ok clause ↔
      key.accepts value = true ∧ clause = key.valueClause value := by
  simp only [FilterKey.accepts, FilterKey.valueClause, text, words, ofType, if_true, wildcards]
  cases Wildcard.patterns value with
  | nil => simp
  | cons pattern patterns => simp [eq_comm]

theorem textQuery_eq_ok_iff {filter : ReducedFilter} (text : filter.key.type = .text)
    {clause : Clause} :
    textQuery filter = .ok clause ↔ filter.Compilable ∧ clause = filter.clause := by
  have combined : filter.clause =
      combine filter.valuesAsOr (filter.values.map filter.key.valueClause) := by
    simp only [ReducedFilter.clause, text, ofType]
  rw [combined]
  cases operator : filter.key.operator with
  | is | isNot =>
      have whole : filter.key.searchesWords = false := by
        simp [FilterKey.searchesWords, operator]
      have compilable : filter.Compilable := by
        simp [ReducedFilter.Compilable, FilterKey.accepts, text, operator, whole, ofType,
          FieldType.supports]
      have matched : filter.key.valueClause =
          fun value => .leaf (.matching filter.key.field value) := by
        funext value
        simp [FilterKey.valueClause, text, whole, ofType]
      simp [textQuery, operator, compilable, matched, eq_comm (b := clause)]
  | contains | notContains =>
      have words : filter.key.searchesWords = true := by
        simp [FilterKey.searchesWords, operator]
      have supported : filter.key.type.supports filter.key.operator = true := by
        simp [text, operator, FieldType.supports]
      have steps := @mapM_eq_ok_iff _ _ _ (wildcards filter.key.field) _ _ filter.values
        fun value _ clause => wildcards_eq_ok_iff text words
      simp only [textQuery, operator, map_eq_ok_iff, steps]
      constructor
      · rintro ⟨clauses, ⟨accepted, rfl⟩, rfl⟩
        exact ⟨⟨supported, accepted⟩, rfl⟩
      · rintro ⟨⟨_, accepted⟩, rfl⟩
        exact ⟨_, ⟨accepted, rfl⟩, rfl⟩
  | between | notBetween | greaterThan | lessThan =>
      have unsupported : ¬ filter.Compilable := by
        simp [ReducedFilter.Compilable, text, operator, FieldType.supports]
      simp [textQuery, operator, unsupported]

theorem supports_iff_extent {type : FieldType} (range : type ≠ .text) {operator : Operator} :
    type.supports operator = true ↔ (extent? operator).isSome = true := by
  cases type with
  | text => contradiction
  | number | date => cases operator <;> decide

/-- What a range compiler makes of a filter of any type: only the operator and the values count. -/
theorem rangeQuery_eq_ok_iff_accepts {filter : ReducedFilter} {mask : ValueMask}
    {clause : Clause} :
    rangeQuery mask filter = .ok clause ↔
      ∃ extent, extent? filter.key.operator = some extent ∧
        (∀ value ∈ filter.values, (maskPattern mask extent).accepts value.toList = true) ∧
        clause = anyOf (filter.values.map fun value =>
          .leaf (rangeLeaf filter.key.field extent value)) := by
  unfold rangeQuery
  cases given : extent? filter.key.operator with
  | none => simp
  | some extent =>
      simp only [Option.some.injEq, exists_eq_left']
      cases refused : filter.values.find? fun value =>
          !(maskPattern mask extent).accepts value.toList with
      | none =>
          rw [List.find?_eq_none] at refused
          have accepted : ∀ value ∈ filter.values,
              (maskPattern mask extent).accepts value.toList = true := by simpa using refused
          simp only [Except.ok.injEq, eq_comm (b := clause)]
          exact ⟨fun same => ⟨accepted, same⟩, And.right⟩
      | some value =>
          have failed : ¬ ∀ value ∈ filter.values,
              (maskPattern mask extent).accepts value.toList = true := fun accepted => by
            have wrong := List.find?_some refused
            simp [accepted value (List.mem_of_find?_eq_some refused)] at wrong
          simp only [reduceCtorEq, failed, false_and]

theorem rangeQuery_eq_ok_iff {filter : ReducedFilter} {mask : ValueMask}
    (range : ofType filter.key.type = .range mask) {clause : Clause} :
    rangeQuery mask filter = .ok clause ↔ filter.Compilable ∧ clause = filter.clause := by
  have notText : filter.key.type ≠ .text := fun text => by simp [text, ofType] at range
  simp only [rangeQuery_eq_ok_iff_accepts, ReducedFilter.Compilable, supports_iff_extent notText]
  cases given : extent? filter.key.operator with
  | none => simp
  | some extent =>
      have same : filter.key.extent = extent := by simp [FilterKey.extent, given]
      have accepts : ∀ value, filter.key.accepts value =
          (maskPattern mask extent).accepts value.toList := by
        intro value
        simp only [FilterKey.accepts, range, same]
      have combined : filter.clause = anyOf (filter.values.map fun value =>
          .leaf (rangeLeaf filter.key.field extent value)) := by
        simp only [ReducedFilter.clause, range]
        refine congrArg anyOf (List.map_congr_left fun value _ => ?_)
        simp only [FilterKey.valueClause, range, same]
      simp only [accepts, combined, Option.some.injEq, exists_eq_left', Option.isSome_some,
        true_and]

end Compiler

namespace ReducedFilter

theorem compile_eq_ok_iff {filter : ReducedFilter} {fragment : Fragment} :
    filter.compile = .ok fragment ↔ filter.Compilable ∧ fragment = filter.fragment := by
  have query : ∀ clause, (Compiler.ofType filter.key.type).query filter = .ok clause ↔
      filter.Compilable ∧ clause = filter.clause := by
    intro clause
    cases type : filter.key.type with
    | text => exact Compiler.textQuery_eq_ok_iff type
    | number | date =>
        refine Compiler.rangeQuery_eq_ok_iff ?_
        rw [type]
        rfl
  simp only [compile, Compiler.compile, map_eq_ok_iff, query]
  constructor
  · rintro ⟨clause, ⟨compilable, rfl⟩, rfl⟩
    exact ⟨compilable, rfl⟩
  · rintro ⟨compilable, rfl⟩
    exact ⟨_, ⟨compilable, rfl⟩, rfl⟩

end ReducedFilter

theorem Specification.compile_eq_ok_iff {spec : Specification} {fragment : Fragment} :
    spec.compile = .ok fragment ↔ (ReducedFilter.ofSpecification spec).Compilable ∧
      fragment = (ReducedFilter.ofSpecification spec).fragment :=
  ReducedFilter.compile_eq_ok_iff

end Winnow
