import Winnow.Proofs.Interleaving
import Winnow.Proofs.Reduction

/-! # The groups of a reduction

Reducing is one pass over the specifications: each extends the filter with its key, or starts a
new filter at the end. What comes of the pass is said without it. There is one filter for each
key, where the key first occurs, with the values of all specifications that have it, in order. So
how the specifications of other keys stand in between makes no difference to a filter.
-/

namespace Winnow

/-! ## One pass -/

theorem ReducedFilter.ofGroup_append {key : FilterKey} {group : List Specification}
    (nonempty : group ≠ []) (more : List Specification) :
    ofGroup key (group ++ more) =
      { ofGroup key group with
        values := (ofGroup key group).values ++ more.flatMap (·.values) } := by
  cases group with
  | nil => exact absurd rfl nonempty
  | cons first rest => simp [ofGroup]

theorem sharing_append (key : FilterKey) (specs others : List Specification) :
    sharing key (specs ++ others) = sharing key specs ++ sharing key others :=
  List.filter_append specs others

theorem sharing_eq_nil_iff {key : FilterKey} {specs : List Specification} :
    sharing key specs = [] ↔ key ∉ specs.map (·.key) := by
  simp [sharing, List.filter_eq_nil_iff]

/-- What reducing does with the next specification: the filter with its key gets its values, or
    a new filter is put at the end. -/
def absorb (filters : List ReducedFilter) (spec : Specification) : List ReducedFilter :=
  if spec.key ∈ filters.map (·.key) then
    filters.map fun filter =>
      if filter.key = spec.key then { filter with values := filter.values ++ spec.values }
      else filter
  else filters ++ [ReducedFilter.ofSpecification spec]

theorem keys_merge (specs : List Specification) :
    (merge specs).map (·.key) = (specs.map (·.key)).eraseDups := by
  rw [merge_eq, List.map_map]
  exact List.map_id _

theorem mergedAt_snoc_of_ne {key : FilterKey} {spec : Specification} (other : key ≠ spec.key)
    (specs : List Specification) : mergedAt key (specs ++ [spec]) = mergedAt key specs := by
  have nothing : sharing key [spec] = [] := by simp [sharing, Ne.symm other]
  rw [mergedAt, sharing_append, nothing, List.append_nil, mergedAt]

theorem merge_snoc (specs : List Specification) (spec : Specification) :
    merge (specs ++ [spec]) = absorb (merge specs) spec := by
  have own : sharing spec.key [spec] = [spec] := by simp [sharing]
  have seenIff : spec.key ∈ (merge specs).map (·.key) ↔ spec.key ∈ specs.map (·.key) := by
    rw [keys_merge, List.mem_eraseDups]
  rw [merge_eq, List.map_append, List.map_singleton, Grouping.eraseDups_snoc]
  by_cases seen : spec.key ∈ specs.map (·.key)
  · have nonempty : sharing spec.key specs ≠ [] := fun none => sharing_eq_nil_iff.mp none seen
    rw [if_pos seen, absorb, if_pos (seenIff.mpr seen), List.append_nil, merge_eq, List.map_map]
    apply List.map_congr_left
    intro key _
    by_cases here : key = spec.key
    · subst here
      rw [mergedAt, sharing_append, own, ReducedFilter.ofGroup_append nonempty]
      simp [mergedAt, ReducedFilter.ofGroup]
    · have other : (mergedAt key specs).key ≠ spec.key := here
      rw [mergedAt_snoc_of_ne here, Function.comp_apply, if_neg other]
  · rw [if_neg seen, absorb, if_neg (mt seenIff.mp seen), List.map_append, List.map_singleton,
      merge_eq]
    congr 1
    · apply List.map_congr_left
      intro key member
      apply mergedAt_snoc_of_ne
      rintro rfl
      exact seen (List.mem_eraseDups.mp member)
    · rw [mergedAt, sharing_append, sharing_eq_nil_iff.mpr seen, List.nil_append, own,
        ReducedFilter.ofGroup_singleton rfl]

/-- Reducing absorbs one specification after the other, from any filters already there. -/
theorem merge_append_eq_foldl (specs others : List Specification) :
    merge (specs ++ others) = others.foldl absorb (merge specs) := by
  induction others using List.reverseRecOn with
  | nil => simp
  | append_singleton others spec ih =>
      rw [← List.append_assoc, merge_snoc, ih, List.foldl_append, List.foldl_cons, List.foldl_nil]

/-! ## Interleaving -/

theorem reduce_of_interleaved {specs own others : List Specification}
    (mixed : Interleaves own others specs)
    (apart : ∀ spec ∈ own, ∀ other ∈ others, spec.key ≠ other.key) (nonempty : own ≠ []) :
    reduce own = .ok ((merge specs).filter fun filter => filter.key ∈ own.map (·.key)) := by
  have picked : specs.filter (fun spec => spec.key ∈ own.map (·.key)) = own := by
    apply mixed.filter_eq
    · intro spec member
      exact decide_eq_true (List.mem_map_of_mem member)
    · intro other member
      apply decide_eq_false
      intro shared
      obtain ⟨spec, inside, same⟩ := List.mem_map.mp shared
      exact apart spec inside other member same
  have kept := merge_filter (fun key => key ∈ own.map (·.key)) specs
  rw [picked] at kept
  rw [reduce_eq_merge nonempty, kept]

/-! ## Groups -/

/-- The values of a specification, each with its key. -/
def Specification.keyedValues (spec : Specification) : List (FilterKey × String) :=
  spec.values.map (spec.key, ·)

/-- The values of a filter, each with its key. -/
def ReducedFilter.keyedValues (filter : ReducedFilter) : List (FilterKey × String) :=
  filter.values.map (filter.key, ·)

theorem merge_keyedValues_perm (specs : List Specification) :
    ((merge specs).flatMap ReducedFilter.keyedValues).Perm
      (specs.flatMap Specification.keyedValues) := by
  apply merge_flatMap_perm
  intro key
  rw [ReducedFilter.keyedValues, mergedAt, ReducedFilter.ofGroup, List.map_flatMap]
  apply List.flatMap_congr
  intro spec member
  rw [Specification.keyedValues, (mem_sharing.mp member).2]

theorem exists_group_of_mem {specs : List Specification} {filter : ReducedFilter}
    (member : filter ∈ merge specs) :
    ∃ first rest, sharing filter.key specs = first :: rest ∧
      filter.values = (first :: rest).flatMap (·.values) ∧
      filter.valuesAsOr = first.valuesAsOr := by
  obtain ⟨spec, inside, rfl⟩ := mem_merge.mp member
  obtain ⟨first, rest, group⟩ :=
    List.exists_cons_of_ne_nil (List.ne_nil_of_mem (mem_sharing_self inside))
  exact ⟨first, rest, group, by simp [mergedAt, ReducedFilter.ofGroup, group],
    by simp [mergedAt, ReducedFilter.ofGroup, group]⟩

/-- Specifications reduce to one filter for each of their keys, in the order in which the keys
    first occur. A filter has the values of all specifications with its key, in order, and the flag
    of the first of them. So no key occurs twice, and no value is lost, repeated or given another
    key. If the specifications are put together from two lists that share no key, the filters of
    either list are what it reduces to on its own. -/
theorem reduced_groups {specs : List Specification} (nonempty : specs ≠ []) :
    ∃ filters, reduce specs = .ok filters ∧
      filters.map (·.key) = (specs.map (·.key)).eraseDups ∧
      (filters.map (·.key)).Nodup ∧
      ((filters.map (·.key)).Pairwise fun first second =>
        (specs.map (·.key)).idxOf first < (specs.map (·.key)).idxOf second) ∧
      (∀ filter ∈ filters, ∃ first rest, sharing filter.key specs = first :: rest ∧
        filter.values = (first :: rest).flatMap (·.values) ∧
        filter.valuesAsOr = first.valuesAsOr) ∧
      (filters.flatMap ReducedFilter.keyedValues).Perm
        (specs.flatMap Specification.keyedValues) ∧
      ∀ left right, Interleaves left right specs →
        (∀ spec ∈ left, ∀ other ∈ right, spec.key ≠ other.key) →
        (∀ filter ∈ filters,
          filter.key ∈ left.map (·.key) ∨ filter.key ∈ right.map (·.key)) ∧
        (left ≠ [] →
          reduce left = .ok (filters.filter fun filter => filter.key ∈ left.map (·.key))) ∧
        (right ≠ [] →
          reduce right = .ok (filters.filter fun filter => filter.key ∈ right.map (·.key))) := by
  refine ⟨merge specs, reduce_eq_merge nonempty, keys_merge specs, ?_, ?_,
    fun _ => exists_group_of_mem, merge_keyedValues_perm specs, ?_⟩
  · rw [keys_merge]
    exact Grouping.eraseDups_nodup _
  · rw [keys_merge]
    exact Grouping.eraseDups_pairwise_idxOf _
  · intro left right mixed apart
    refine ⟨?_, reduce_of_interleaved mixed apart, reduce_of_interleaved mixed.symm ?_⟩
    · intro filter member
      obtain ⟨spec, inside, rfl⟩ := mem_merge.mp member
      exact (mixed.mem_iff.mp inside).imp (List.mem_map_of_mem ·) (List.mem_map_of_mem ·)
    · intro other inRight spec inLeft same
      exact apart spec inLeft other inRight same.symm

/-- Two ages make one group, with a name between them or without it. -/
theorem people_reduced_in_groups :
    ∃ filters,
      reduce [⟨"people", "age", none, .is, .number, ["1", "2"], false⟩,
        ⟨"people", "name", none, .is, .text, ["Ann"], false⟩,
        ⟨"people", "age", none, .is, .number, ["1"], true⟩] = .ok filters ∧
      filters.map (·.values) = [["1", "2", "1"], ["Ann"]] ∧
      filters.map (·.valuesAsOr) = [false, false] ∧
      reduce [⟨"people", "age", none, .is, .number, ["1", "2"], false⟩,
        ⟨"people", "age", none, .is, .number, ["1"], true⟩] =
          .ok [⟨⟨"people", "age", .is, .number, none⟩, ["1", "2", "1"], false⟩] := by
  obtain ⟨filters, reduced, _, _, _, _, _, interleaved⟩ := @reduced_groups
    [⟨"people", "age", none, .is, .number, ["1", "2"], false⟩,
      ⟨"people", "name", none, .is, .text, ["Ann"], false⟩,
      ⟨"people", "age", none, .is, .number, ["1"], true⟩] (by decide)
  obtain ⟨_, ages, _⟩ := interleaved
    [⟨"people", "age", none, .is, .number, ["1", "2"], false⟩,
      ⟨"people", "age", none, .is, .number, ["1"], true⟩]
    [⟨"people", "name", none, .is, .text, ["Ann"], false⟩] (.left (.right (.left .nil))) (by decide)
  cases reduced
  exact ⟨_, rfl, rfl, rfl, (ages (by decide)).trans rfl⟩

end Winnow
