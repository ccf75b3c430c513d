import Mathlib.Data.List.DropRight
import Winnow.Text.Blank

/-! # Trimmed texts

A text is trimmed if it has no blank at either end. Trimming makes every text trimmed and leaves
trimmed texts alone, and nothing is left of a text exactly if all of it is blank.
-/

namespace Winnow.Text

/-- A text with no blank at either end. -/
structure Trimmed (s : List Char) : Prop where
  first : ∀ c ∈ s.head?, isBlank c = false
  last : ∀ c ∈ s.getLast?, isBlank c = false

variable {s : List Char}

theorem visible_of_head?_dropWhile {c : Char} (first : (s.dropWhile isBlank).head? = some c) :
    isBlank c = false := by
  have stopped := List.head?_dropWhile_not isBlank s
  rw [first] at stopped
  simpa using stopped

theorem trimEnd_eq_self_iff : trimEnd s = s ↔ ∀ c ∈ s.getLast?, isBlank c = false := by
  have whole : trimEnd s = s ↔ ∀ some : s ≠ [], ¬ isBlank (s.getLast some) = true :=
    List.rdropWhile_eq_self_iff
  rw [whole]
  constructor
  · intro visible c last
    obtain ⟨some, rfl⟩ := List.mem_getLast?_eq_getLast last
    exact Bool.eq_false_iff.mpr (visible some)
  · intro visible some
    exact Bool.eq_false_iff.mp (visible _ (List.getLast?_eq_some_getLast some))

theorem trim_trimmed (s : List Char) : Trimmed (trim s) := by
  constructor
  · intro c first
    -- The first character that is left is where dropping from the front stopped.
    obtain ⟨rest, split⟩ := List.head?_eq_some_iff.mp first
    obtain ⟨behind, whole⟩ : trim s <+: s.dropWhile isBlank := List.rdropWhile_prefix isBlank _
    apply visible_of_head?_dropWhile (s := s)
    rw [← whole, split]
    rfl
  · intro c last
    rw [trim, trimEnd, List.getLast?_reverse] at last
    exact visible_of_head?_dropWhile last

theorem Trimmed.trim_eq (trimmed : Trimmed s) : trim s = s := by
  have front : s.dropWhile isBlank = s := by
    cases s with
    | nil => rfl
    | cons c rest => rw [List.dropWhile_cons, trimmed.first c rfl]; rfl
  rw [trim, front]
  exact trimEnd_eq_self_iff.mpr trimmed.last

theorem trim_eq_self_iff : trim s = s ↔ Trimmed s := by
  constructor
  · intro same
    rw [← same]
    exact trim_trimmed s
  · exact Trimmed.trim_eq

instance (s : List Char) : Decidable (Trimmed s) :=
  decidable_of_iff (trim s = s) trim_eq_self_iff

theorem trimmed_of_visible (visible : ∀ c ∈ s, isBlank c = false) : Trimmed s :=
  ⟨fun c first => visible c (List.mem_of_mem_head? first),
    fun c last => visible c (List.mem_of_getLast? last)⟩

/-- Ends decide whether a text is trimmed, whatever stands between them. -/
theorem Trimmed.append_cons {t : List Char} (front : Trimmed s) (back : Trimmed t)
    (before : s ≠ []) (behind : t ≠ []) (mark : Char) : Trimmed (s ++ mark :: t) := by
  constructor
  · rw [List.head?_append_of_ne_nil _ before]
    exact front.first
  · rw [List.append_cons, List.getLast?_append_of_ne_nil _ behind]
    exact back.last

theorem trim_eq_nil_iff : trim s = [] ↔ ∀ c ∈ s, isBlank c = true := by
  have back : trim s = [] ↔ ∀ c ∈ s.dropWhile isBlank, isBlank c = true :=
    List.rdropWhile_eq_nil_iff
  rw [back]
  constructor
  · intro blank
    apply List.dropWhile_eq_nil_iff.mp
    cases left : s.dropWhile isBlank with
    | nil => rfl
    | cons c rest =>
        have visible : isBlank c = false := visible_of_head?_dropWhile (by rw [left]; rfl)
        have hidden := blank c (by rw [left]; exact List.mem_cons_self)
        rw [visible] at hidden
        cases hidden
  · intro blank c member
    exact blank c ((List.dropWhile_sublist isBlank).mem member)

theorem trim_ne_nil_iff : trim s ≠ [] ↔ ∃ c ∈ s, isBlank c = false := by
  rw [Ne, trim_eq_nil_iff]
  simp

end Winnow.Text
