import Winnow.Proofs.Compilation
import Winnow.Query.Meaning

/-! # The meaning of filters

A value holds if every test of the field that it asks for does. A filter holds if one of its
values does, or all of them for a text whose flag asks for it. Compilation keeps this meaning.
-/

namespace Winnow

namespace Clause

theorem holdsList_eq_map (truth : Leaf → Bool) (clauses : List Clause) :
    holdsList truth clauses = clauses.map (holds truth) := by
  induction clauses with
  | nil => rfl
  | cons clause rest ih => rw [holdsList, ih, List.map_cons]

theorem holds_bool {truth : Leaf → Bool} {must should mustNot : List Clause} :
    (bool must should mustNot).holds truth = true ↔
      (∀ clause ∈ must, clause.holds truth = true) ∧
      (∀ clause ∈ mustNot, clause.holds truth = false) ∧
      (must = [] → should ≠ [] → ∃ clause ∈ should, clause.holds truth = true) := by
  simp only [holds, combined, holdsList_eq_map, Bool.and_eq_true, Bool.or_eq_true, and_assoc,
    List.all_map, List.any_map, List.all_eq_true, List.any_eq_true, List.isEmpty_map,
    Bool.not_eq_true', List.isEmpty_iff, Function.comp_apply, id_eq]
  cases must <;> cases should <;> simp

theorem holds_all (truth : Leaf → Bool) (clauses : List Clause) :
    (all clauses).holds truth = clauses.all (holds truth) := by
  simp only [all, holds, combined, holdsList_eq_map]
  simp

theorem holds_any (truth : Leaf → Bool) {clauses : List Clause} (nonempty : clauses ≠ []) :
    (any clauses).holds truth = clauses.any (holds truth) := by
  simp only [any, holds, combined, holdsList_eq_map]
  simp [nonempty]

end Clause

namespace Compiler

theorem combine_holds (truth : Leaf → Bool) (asOr : Bool) {clauses : List Clause}
    (nonempty : clauses ≠ []) :
    (combine asOr clauses).holds truth =
      if asOr then clauses.any (·.holds truth) else clauses.all (·.holds truth) := by
  cases asOr with
  | true => exact Clause.holds_any truth nonempty
  | false => exact Clause.holds_all truth clauses

theorem anyOf_holds (truth : Leaf → Bool) {clauses : List Clause} (nonempty : clauses ≠ []) :
    (anyOf clauses).holds truth = clauses.any (·.holds truth) := by
  unfold anyOf
  split
  · simp
  · exact Clause.holds_any truth nonempty

end Compiler

namespace FilterKey

/-- Whether a value holds, from which tests of the field do. -/
def valueHolds (truth : Leaf → Bool) (key : FilterKey) (value : String) : Bool :=
  (key.leaves value).all truth

theorem valueHolds_of_subset {truth : Leaf → Bool} {key : FilterKey} {value other : String}
    (inside : key.leaves other ⊆ key.leaves value) (holding : key.valueHolds truth value = true) :
    key.valueHolds truth other = true := by
  simp only [valueHolds, List.all_eq_true] at holding ⊢
  exact fun leaf member => holding leaf (inside member)

/-- Where nothing holds but the tests of a value, only values hold that ask for no more. -/
theorem valueHolds_least_iff {key : FilterKey} {value other : String} :
    key.valueHolds (fun leaf => decide (leaf ∈ key.leaves value)) other = true ↔
      key.leaves other ⊆ key.leaves value := by
  simp only [valueHolds, List.all_eq_true, decide_eq_true_eq]
  rfl

theorem valueClause_holds (truth : Leaf → Bool) (key : FilterKey) (value : String) :
    (key.valueClause value).holds truth = key.valueHolds truth value := by
  unfold valueClause valueHolds leaves
  split
  · cases key.searchesWords with
    | true => simp [Clause.holds_all, Clause.holds, Function.comp_def]
    | false => simp [Clause.holds]
  · simp [Clause.holds]

end FilterKey

namespace ReducedFilter

/-- Whether one value is not enough. Of numbers and dates one always is, whatever the flag. -/
def needsAll (filter : ReducedFilter) : Bool :=
  filter.key.type == .text && !filter.valuesAsOr

/-- Whether a filter holds, from which tests of the field do. -/
def holds (truth : Leaf → Bool) (filter : ReducedFilter) : Bool :=
  if filter.needsAll then filter.values.all (filter.key.valueHolds truth)
  else filter.values.any (filter.key.valueHolds truth)

theorem exists_value_of_holds {truth : Leaf → Bool} {filter : ReducedFilter}
    (nonempty : filter.values ≠ []) (holding : filter.holds truth = true) :
    ∃ value ∈ filter.values, filter.key.valueHolds truth value = true := by
  unfold holds at holding
  split at holding
  · obtain ⟨value, member⟩ := List.exists_mem_of_ne_nil _ nonempty
    exact ⟨value, member, List.all_eq_true.mp holding value member⟩
  · exact List.any_eq_true.mp holding

theorem holds_of_all {truth : Leaf → Bool} {filter : ReducedFilter}
    (nonempty : filter.values ≠ [])
    (every : ∀ value ∈ filter.values, filter.key.valueHolds truth value = true) :
    filter.holds truth = true := by
  unfold holds
  split
  · exact List.all_eq_true.mpr every
  · obtain ⟨value, member⟩ := List.exists_mem_of_ne_nil _ nonempty
    exact List.any_eq_true.mpr ⟨value, member, every value member⟩

/-- Compilation keeps the meaning of a filter that has a value. -/
theorem clause_holds (truth : Leaf → Bool) {filter : ReducedFilter}
    (nonempty : filter.values ≠ []) :
    filter.clause.holds truth = filter.holds truth := by
  have clauses : filter.values.map filter.key.valueClause ≠ [] := by simpa using nonempty
  unfold clause holds needsAll
  cases filter.key.type with
  | text =>
      rw [Compiler.ofType, Compiler.combine_holds truth _ clauses]
      cases filter.valuesAsOr <;>
        simp [Function.comp_def, FilterKey.valueClause_holds]
  | number | date =>
      rw [Compiler.ofType, Compiler.anyOf_holds truth clauses]
      simp [Function.comp_def, FilterKey.valueClause_holds]

theorem clause_holds_of_all (filter : ReducedFilter) :
    filter.clause.holds (fun _ => true) = true := by
  by_cases nonempty : filter.values = []
  · unfold clause
    rw [nonempty]
    cases Compiler.ofType filter.key.type with
    | text => cases filter.valuesAsOr <;> rfl
    | range _ => rfl
  · rw [clause_holds _ nonempty]
    apply holds_of_all nonempty
    intro value _
    exact List.all_eq_true.mpr fun _ _ => rfl

end ReducedFilter

end Winnow
