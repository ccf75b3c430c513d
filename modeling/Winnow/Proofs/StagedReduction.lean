import Mathlib.Data.List.Nodup
import Winnow.Proofs.ReductionGroups

/-! # Reducing in stages

A reduced filter is a specification again, with all the values of its group and the flag of the
first of them. Where it stands for its group, reduction finds what it would have found anyway.
So part of the specifications may be reduced early, before or after others, even if the others
have some of the same keys.
-/

namespace Winnow

/-- Some specifications, reduced and written as specifications again. -/
def respecified (specs : List Specification) : List Specification :=
  (merge specs).map ReducedFilter.toSpecification

@[simp]
theorem ReducedFilter.key_toSpecification (filter : ReducedFilter) :
    filter.toSpecification.key = filter.key := rfl

@[simp]
theorem ReducedFilter.values_toSpecification (filter : ReducedFilter) :
    filter.toSpecification.values = filter.values := rfl

@[simp]
theorem ReducedFilter.valuesAsOr_toSpecification (filter : ReducedFilter) :
    filter.toSpecification.valuesAsOr = filter.valuesAsOr := rfl

theorem keys_respecified (specs : List Specification) :
    (respecified specs).map (·.key) = (specs.map (·.key)).eraseDups := by
  simp [respecified, ← keys_merge]

theorem sharing_respecified {key : FilterKey} {specs : List Specification}
    (seen : key ∈ specs.map (·.key)) :
    sharing key (respecified specs) = [(mergedAt key specs).toSpecification] := by
  have once : (specs.map (·.key)).eraseDups.count key = 1 :=
    List.count_eq_one_of_mem (Grouping.eraseDups_nodup _) (List.mem_eraseDups.mpr seen)
  have found : (specs.map (·.key)).eraseDups.filter (· = key) = [key] := by
    rw [List.filter_eq, once, List.replicate_one]
  have keyOf : ∀ other, (mergedAt other specs).toSpecification.key = other := fun _ => rfl
  rw [sharing, respecified, merge_eq, List.map_map, List.filter_map]
  simp only [Function.comp_def, keyOf]
  rw [found, List.map_singleton]

theorem sharing_respecified_of_not_mem {key : FilterKey} {specs : List Specification}
    (unseen : key ∉ specs.map (·.key)) : sharing key (respecified specs) = [] := by
  rw [sharing_eq_nil_iff, keys_respecified, List.mem_eraseDups]
  exact unseen

theorem ReducedFilter.ofGroup_append_toSpecification {key : FilterKey}
    {group : List Specification} (nonempty : group ≠ []) (before : List Specification) :
    ofGroup key (before ++ [(ofGroup key group).toSpecification]) =
      ofGroup key (before ++ group) := by
  obtain ⟨first, rest, rfl⟩ := List.exists_cons_of_ne_nil nonempty
  cases before <;> simp [ofGroup]

theorem mergedAt_append_respecified (key : FilterKey) (specs others : List Specification) :
    mergedAt key (others ++ respecified specs) = mergedAt key (others ++ specs) := by
  rw [mergedAt, mergedAt, sharing_append, sharing_append]
  by_cases seen : key ∈ specs.map (·.key)
  · have nonempty : sharing key specs ≠ [] := fun none => sharing_eq_nil_iff.mp none seen
    rw [sharing_respecified seen, mergedAt, ReducedFilter.ofGroup_append_toSpecification nonempty]
  · rw [sharing_respecified_of_not_mem seen, sharing_eq_nil_iff.mpr seen]

theorem merge_append_respecified (specs others : List Specification) :
    merge (others ++ respecified specs) = merge (others ++ specs) := by
  have sameKeys : ((others ++ respecified specs).map (·.key)).eraseDups =
      ((others ++ specs).map (·.key)).eraseDups := by
    rw [List.map_append, List.map_append, keys_respecified]
    exact Grouping.eraseDups_append_congr rfl (Grouping.eraseDups_eraseDups _)
  rw [merge_eq, merge_eq, sameKeys]
  apply List.map_congr_left
  intro key _
  exact mergedAt_append_respecified key specs others

theorem merge_respecified (specs : List Specification) :
    merge (respecified specs) = merge specs := by
  simpa using merge_append_respecified specs []

/-- The pass goes on from the filters it has, so it does not matter what they came from. -/
theorem merge_respecified_append (specs others : List Specification) :
    merge (respecified specs ++ others) = merge (specs ++ others) := by
  rw [merge_append_eq_foldl, merge_append_eq_foldl, merge_respecified]

theorem respecified_ne_nil {specs : List Specification} (nonempty : specs ≠ []) :
    respecified specs ≠ [] := by
  obtain ⟨first, rest, rfl⟩ := List.exists_cons_of_ne_nil nonempty
  intro none
  have keys := keys_respecified (first :: rest)
  rw [none, List.map_nil, List.map_cons, List.eraseDups_cons] at keys
  exact List.cons_ne_nil _ _ keys.symm

/-- Specifications can be reduced in stages. Some of them reduce to filters, which, as
    specifications, can stand for them before any others and after any others: reducing then gives
    the same filters in the same order. In particular, reducing them once more gives them back. -/
theorem reduction_in_stages {specs : List Specification} (nonempty : specs ≠ []) :
    ∃ filters, reduce specs = .ok filters ∧
      (∀ others, reduce (filters.map ReducedFilter.toSpecification ++ others) =
        reduce (specs ++ others)) ∧
      (∀ others, reduce (others ++ filters.map ReducedFilter.toSpecification) =
        reduce (others ++ specs)) ∧
      reduce (filters.map ReducedFilter.toSpecification) = .ok filters := by
  have kept := respecified_ne_nil nonempty
  refine ⟨merge specs, reduce_eq_merge nonempty, ?_, ?_, ?_⟩
  · intro others
    change reduce (respecified specs ++ others) = _
    rw [reduce_eq_merge (List.append_ne_nil_of_left_ne_nil kept others),
      reduce_eq_merge (List.append_ne_nil_of_left_ne_nil nonempty others),
      merge_respecified_append]
  · intro others
    change reduce (others ++ respecified specs) = _
    rw [reduce_eq_merge (List.append_ne_nil_of_right_ne_nil others kept),
      reduce_eq_merge (List.append_ne_nil_of_right_ne_nil others nonempty),
      merge_append_respecified]
  · change reduce (respecified specs) = _
    rw [reduce_eq_merge kept, merge_respecified]

/-- A key that only one part has, and one that both have with different flags. -/
theorem people_reduced_in_stages :
    ∃ filters,
      reduce [⟨"people", "age", none, .is, .number, ["1"], false⟩,
        ⟨"people", "name", none, .is, .text, ["Ann"], false⟩,
        ⟨"people", "age", none, .is, .number, ["2"], true⟩] = .ok filters ∧
      filters.map (·.values) = [["1", "2"], ["Ann"]] ∧
      reduce (filters.map ReducedFilter.toSpecification ++
          [⟨"people", "age", none, .is, .number, ["3"], true⟩]) =
        .ok [⟨⟨"people", "age", .is, .number, none⟩, ["1", "2", "3"], false⟩,
          ⟨⟨"people", "name", .is, .text, none⟩, ["Ann"], false⟩] ∧
      reduce ([⟨"people", "age", none, .is, .number, ["3"], true⟩] ++
          filters.map ReducedFilter.toSpecification) =
        .ok [⟨⟨"people", "age", .is, .number, none⟩, ["3", "1", "2"], true⟩,
          ⟨⟨"people", "name", .is, .text, none⟩, ["Ann"], false⟩] := by
  obtain ⟨filters, reduced, before, after, _⟩ := @reduction_in_stages
    [⟨"people", "age", none, .is, .number, ["1"], false⟩,
      ⟨"people", "name", none, .is, .text, ["Ann"], false⟩,
      ⟨"people", "age", none, .is, .number, ["2"], true⟩] (by decide)
  cases reduced
  exact ⟨_, rfl, rfl, (before _).trans rfl, (after _).trans rfl⟩

end Winnow
