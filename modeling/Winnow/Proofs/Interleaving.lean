/-! # Interleaved lists

A list can be put together from two others, entry by entry and in any way that keeps the order of
each.
-/

namespace Winnow

/-- A list is put together from two others, each of which keeps its order. -/
inductive Interleaves {α : Type} : List α → List α → List α → Prop where
  /-- Nothing is put together from nothing. -/
  | nil : Interleaves [] [] []
  /-- The next entry is that of the first list. -/
  | left {x : α} {first second all : List α} (rest : Interleaves first second all) :
      Interleaves (x :: first) second (x :: all)
  /-- The next entry is that of the second list. -/
  | right {x : α} {first second all : List α} (rest : Interleaves first second all) :
      Interleaves first (x :: second) (x :: all)

namespace Interleaves

variable {α : Type} {first second all : List α}

theorem symm (mixed : Interleaves first second all) : Interleaves second first all := by
  induction mixed with
  | nil => exact .nil
  | left _ ih => exact .right ih
  | right _ ih => exact .left ih

theorem mem_iff (mixed : Interleaves first second all) {x : α} :
    x ∈ all ↔ x ∈ first ∨ x ∈ second := by
  induction mixed with
  | nil => simp
  | left _ ih => simp [ih, or_assoc]
  | right _ ih => simp [ih, or_left_comm]

theorem map {β : Type} (f : α → β) (mixed : Interleaves first second all) :
    Interleaves (first.map f) (second.map f) (all.map f) := by
  induction mixed with
  | nil => exact .nil
  | left _ ih => exact .left ih
  | right _ ih => exact .right ih

theorem filter_eq {p : α → Bool} (mixed : Interleaves first second all)
    (own : ∀ x ∈ first, p x = true) (apart : ∀ x ∈ second, p x = false) :
    all.filter p = first := by
  induction mixed with
  | nil => rfl
  | left _ ih =>
      obtain ⟨here, later⟩ := List.forall_mem_cons.mp own
      rw [List.filter_cons_of_pos here, ih later apart]
  | right _ ih =>
      obtain ⟨here, later⟩ := List.forall_mem_cons.mp apart
      rw [List.filter_cons_of_neg (by simp [here]), ih own later]

end Interleaves

end Winnow
