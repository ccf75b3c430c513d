import Winnow.Proofs.Grouping
import Winnow.Proofs.Specification
import Winnow.Query.Reduction

/-! # Laws of reduction

Reducing gives one filter per distinct key, in the order in which the keys first occur. It has
the values of all specifications with its key and the flag of the first of them.
-/

namespace Winnow

def sharing (key : FilterKey) (specs : List Specification) : List Specification :=
  specs.filter fun spec => spec.key = key

theorem mem_sharing {key : FilterKey} {specs : List Specification} {spec : Specification} :
    spec ∈ sharing key specs ↔ spec ∈ specs ∧ spec.key = key := by
  simp [sharing]

theorem mem_sharing_self {specs : List Specification} {spec : Specification}
    (member : spec ∈ specs) : spec ∈ sharing spec.key specs :=
  mem_sharing.mpr ⟨member, rfl⟩

theorem ReducedFilter.ofGroup_singleton {key : FilterKey} {spec : Specification}
    (same : spec.key = key) : ofGroup key [spec] = ofSpecification spec := by
  subst same
  simp [ofGroup, ofSpecification]

def mergedAt (key : FilterKey) (specs : List Specification) : ReducedFilter :=
  ReducedFilter.ofGroup key (sharing key specs)

theorem merge_eq (specs : List Specification) :
    merge specs = (specs.map (·.key)).eraseDups.map fun key => mergedAt key specs := by
  rw [merge, Grouping.ofList_eq, List.map_map]
  rfl

theorem mem_merge {specs : List Specification} {filter : ReducedFilter} :
    filter ∈ merge specs ↔ ∃ spec ∈ specs, filter = mergedAt spec.key specs := by
  rw [merge_eq, List.mem_map]
  constructor
  · rintro ⟨key, seen, rfl⟩
    obtain ⟨spec, member, rfl⟩ := List.mem_map.mp (List.mem_eraseDups.mp seen)
    exact ⟨spec, member, rfl⟩
  · rintro ⟨spec, member, rfl⟩
    exact ⟨spec.key, List.mem_eraseDups.mpr (List.mem_map_of_mem member), rfl⟩

theorem eq_mergedAt {specs : List Specification} {filter : ReducedFilter}
    (member : filter ∈ merge specs) : filter = mergedAt filter.key specs := by
  obtain ⟨spec, _, rfl⟩ := mem_merge.mp member
  rfl

theorem mem_mergedAt_values {key : FilterKey} {specs : List Specification} {value : String} :
    value ∈ (mergedAt key specs).values ↔ ∃ spec ∈ specs, spec.key = key ∧ value ∈ spec.values := by
  simp [mergedAt, sharing, ReducedFilter.ofGroup, and_assoc]

theorem values_ne_of_mem_merge {specs : List Specification}
    (valid : ∀ spec ∈ specs, spec.Valid) {filter : ReducedFilter} (member : filter ∈ merge specs) :
    filter.values ≠ [] := by
  obtain ⟨spec, inside, rfl⟩ := mem_merge.mp member
  obtain ⟨value, first⟩ := List.exists_mem_of_ne_nil _ (valid spec inside).values_ne
  exact List.ne_nil_of_mem (mem_mergedAt_values.mpr ⟨spec, inside, rfl, first⟩)

theorem merge_filter (p : FilterKey → Bool) (specs : List Specification) :
    merge (specs.filter fun spec => p spec.key) =
      (merge specs).filter fun filter => p filter.key := by
  rw [merge, merge, Grouping.ofList_filter, List.filter_map]
  rfl

/-- What filters give is what specifications do, if a merged filter gives what those of its key
    do. -/
theorem merge_flatMap_perm {β : Type} {specs : List Specification} {f : ReducedFilter → List β}
    {g : Specification → List β}
    (merged : ∀ key, f (mergedAt key specs) = (sharing key specs).flatMap g) :
    ((merge specs).flatMap f).Perm (specs.flatMap g) := by
  have regrouped : ((specs.map (·.key)).eraseDups.flatMap (sharing · specs)).Perm specs := by
    have all := Grouping.ofList_perm Specification.key specs
    rw [Grouping.ofList_eq, List.flatMap_map] at all
    exact all
  have spread : (merge specs).flatMap f =
      ((specs.map (·.key)).eraseDups.flatMap (sharing · specs)).flatMap g := by
    rw [merge_eq, List.flatMap_map, List.flatMap_assoc]
    exact List.flatMap_congr fun key _ => merged key
  rw [spread]
  exact regrouped.flatMap_right _

theorem reduce_eq_ok_iff {specs : List Specification} {filters : List ReducedFilter} :
    reduce specs = .ok filters ↔ specs ≠ [] ∧ filters = merge specs := by
  unfold reduce
  split
  · simp_all
  · simp_all [eq_comm]

theorem reduce_eq_merge {specs : List Specification} (nonempty : specs ≠ []) :
    reduce specs = .ok (merge specs) :=
  reduce_eq_ok_iff.mpr ⟨nonempty, rfl⟩

end Winnow
