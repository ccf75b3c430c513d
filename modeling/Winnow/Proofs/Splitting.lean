import Winnow.Text.Split

/-! # Pieces of a text

A text is cut at every separator, and its pieces put together with that separator are the text.
The words of a text are those on both sides of any of its separators. The cut at the first mark
gives back two parts that were put together with it, if the first of them has no mark of its own,
and so does the cut at the last mark, if the second has none.
-/

namespace Winnow

namespace Text

variable {mark : Char}

theorem flatten_lines (s : List Char) : (lines s).flatten = s := by
  induction s with
  | nil => rfl
  | cons c rest ih =>
      rw [lines]
      split
      · rw [List.flatten_cons, ih]
        rfl
      · cases behind : lines rest with
        | nil =>
            rw [behind] at ih
            rw [← ih]
            rfl
        | cons line others =>
            rw [behind] at ih
            rw [← ih]
            rfl

theorem pieces_eq_splitOnP (separates : Char → Bool) (s : List Char) :
    pieces separates s = s.splitOnP separates := by
  induction s with
  | nil => rfl
  | cons c rest ih =>
      obtain ⟨first, others, same⟩ :=
        List.exists_cons_of_ne_nil (List.splitOnP_ne_nil separates rest)
      rw [pieces, ih, List.splitOnP_cons_eq_if_modifyHead, same]
      rfl

theorem pieces_eq_splitOn (s : List Char) : pieces (· == mark) s = s.splitOn mark :=
  pieces_eq_splitOnP (· == mark) s

theorem join_eq_intercalate (separator : List Char) (pieces : List (List Char)) :
    join separator pieces = separator.intercalate pieces := by
  induction pieces with
  | nil => rfl
  | cons piece rest ih =>
      cases rest with
      | nil => simp [join]
      | cons next rest =>
          rw [join, ih, List.intercalate_cons_of_ne_nil (List.cons_ne_nil _ _)]
          · exact List.cons_ne_nil _ _

theorem pieces_ne_nil (mark : Char) (s : List Char) : pieces (· == mark) s ≠ [] := by
  rw [pieces_eq_splitOn]
  exact List.splitOnP_ne_nil _ _

theorem pieces_append (s t : List Char) :
    pieces (· == mark) (s ++ mark :: t) = pieces (· == mark) s ++ pieces (· == mark) t := by
  simp only [pieces_eq_splitOn]
  exact List.splitOnP_append_cons s t (beq_self_eq_true mark)

theorem not_mem_of_mem_pieces {s piece : List Char} (member : piece ∈ pieces (· == mark) s) :
    mark ∉ piece := by
  induction s generalizing piece with
  | nil => simp_all [pieces]
  | cons c rest ih =>
      obtain ⟨first, others, same⟩ :=
        List.exists_cons_of_ne_nil (pieces_ne_nil mark rest)
      rw [same] at ih
      rw [pieces, same] at member
      split at member
      · rcases List.mem_cons.mp member with rfl | later
        · exact List.not_mem_nil
        · exact ih later
      · have other : mark ≠ c := fun here => by simp_all
        rcases List.mem_cons.mp member with rfl | later
        · exact fun inside => (List.mem_cons.mp inside).elim other (ih List.mem_cons_self)
        · exact ih (List.mem_cons_of_mem _ later)

theorem pieces_join {pieces : List (List Char)} (nonempty : pieces ≠ [])
    (unmarked : ∀ piece ∈ pieces, mark ∉ piece) :
    Text.pieces (· == mark) (join [mark] pieces) = pieces := by
  rw [pieces_eq_splitOn, join_eq_intercalate, List.splitOn_intercalate mark unmarked nonempty]

theorem pieces_of_not_mem {s : List Char} (unmarked : mark ∉ s) :
    pieces (· == mark) s = [s] :=
  @pieces_join mark [s] (List.cons_ne_nil _ _) (by simpa using unmarked)

theorem length_pieces_le (s : List Char) : (pieces (· == mark) s).length ≤ s.length + 1 := by
  induction s with
  | nil => simp [pieces]
  | cons c rest ih =>
      obtain ⟨first, others, same⟩ :=
        List.exists_cons_of_ne_nil (pieces_ne_nil mark rest)
      rw [same] at ih
      rw [pieces, same]
      split
      · simpa using ih
      · simp only [List.length_cons] at ih ⊢
        omega

section Words

variable {separates : Char → Bool}

/-- Every text is reached from texts without separators by putting a separator between two. -/
theorem separator_induction (separates : Char → Bool) {motive : List Char → Prop}
    (whole : ∀ s, (∀ c ∈ s, separates c = false) → motive s)
    (between : ∀ s c t, separates c = true → motive s → motive t → motive (s ++ c :: t))
    (s : List Char) : motive s := by
  -- The characters that were passed since the last separator stand in front.
  have passed : ∀ front : List Char, (∀ c ∈ front, separates c = false) →
      motive (front ++ s) := by
    induction s with
    | nil =>
        intro front inside
        rw [List.append_nil]
        exact whole front inside
    | cons c rest ih =>
        intro front inside
        cases separator : separates c with
        | true => exact between front c rest separator (whole front inside) (ih [] (by simp))
        | false =>
            rw [List.append_cons]
            apply ih
            simp only [List.forall_mem_append, List.forall_mem_singleton]
            exact ⟨inside, separator⟩
  exact passed [] (by simp)

@[simp] theorem words_nil : words separates [] = [] :=
  rfl

theorem words_whole {s : List Char} (nonempty : s ≠ [])
    (inside : ∀ c ∈ s, separates c = false) : words separates s = [s] := by
  rw [words, pieces_eq_splitOnP, List.splitOnP_eq_singleton inside]
  simpa using nonempty

theorem words_append_cons {c : Char} (separator : separates c = true) (s t : List Char) :
    words separates (s ++ c :: t) = words separates s ++ words separates t := by
  simp only [words, pieces_eq_splitOnP, List.splitOnP_append_cons s t separator,
    List.filter_append]

theorem words_append_separators {between : List Char} (nonempty : between ≠ [])
    (separators : ∀ c ∈ between, separates c = true) (s t : List Char) :
    words separates (s ++ between ++ t) = words separates s ++ words separates t := by
  induction between generalizing s with
  | nil => exact absurd rfl nonempty
  | cons c rest ih =>
      obtain ⟨first, others⟩ := List.forall_mem_cons.mp separators
      rw [List.append_assoc, List.cons_append, words_append_cons first]
      cases rest with
      | nil => rfl
      | cons d more =>
          have next := ih (List.cons_ne_nil d more) others []
          rw [List.nil_append] at next
          rw [next, words_nil, List.nil_append]

theorem words_eq_nil_iff {s : List Char} :
    words separates s = [] ↔ ∀ c ∈ s, separates c = true := by
  induction s using separator_induction separates with
  | whole s inside =>
      cases s with
      | nil => simp
      | cons c rest =>
          rw [words_whole (List.cons_ne_nil c rest) inside]
          simp [inside c List.mem_cons_self]
  | between s c t separator before behind =>
      simp only [words_append_cons separator, List.append_eq_nil_iff, before, behind,
        List.forall_mem_append, List.forall_mem_cons, separator, true_and]

theorem mem_word {s word : List Char} (member : word ∈ words separates s) :
    word ≠ [] ∧ ∀ c ∈ word, separates c = false := by
  induction s using separator_induction separates with
  | whole s inside =>
      by_cases empty : s = []
      · rw [empty, words_nil] at member
        cases member
      · rw [words_whole empty inside, List.mem_singleton] at member
        rw [member]
        exact ⟨empty, inside⟩
  | between s c t separator before behind =>
      rw [words_append_cons separator, List.mem_append] at member
      exact member.elim before behind

/-- Cutting at some of the separators first changes nothing. -/
theorem words_of_words {some : Char → Bool} (also : ∀ c, some c = true → separates c = true)
    (s : List Char) : (words some s).flatMap (words separates) = words separates s := by
  induction s using separator_induction some with
  | whole s inside =>
      by_cases empty : s = []
      · rw [empty, words_nil, words_nil, List.flatMap_nil]
      · rw [words_whole empty inside, List.flatMap_singleton]
  | between s c t separator before behind =>
      rw [words_append_cons separator, words_append_cons (also c separator), List.flatMap_append,
        before, behind]

end Words

theorem cutFirst_append {before : List Char} (unmarked : mark ∉ before) (after : List Char) :
    cutFirst mark (before ++ mark :: after) = some (before, after) := by
  induction before with
  | nil => simp [cutFirst]
  | cons c rest ih =>
      obtain ⟨other, later⟩ : mark ≠ c ∧ mark ∉ rest := by simpa using unmarked
      rw [List.cons_append, cutFirst, if_neg (Ne.symm other), ih later, Option.map_some]

theorem cutLast_eq_none_iff {s : List Char} : cutLast mark s = none ↔ mark ∉ s := by
  induction s with
  | nil => simp [cutLast]
  | cons c rest ih =>
      rw [cutLast, List.mem_cons, not_or, ← ih]
      cases cutLast mark rest with
      | none => simp [eq_comm]
      | some cut => simp

theorem cutLast_append (before : List Char) {after : List Char} (unmarked : mark ∉ after) :
    cutLast mark (before ++ mark :: after) = some (before, after) := by
  induction before with
  | nil => rw [List.nil_append, cutLast, cutLast_eq_none_iff.mpr unmarked, if_pos rfl]
  | cons c rest ih => rw [List.cons_append, cutLast, ih]

theorem cutLast_eq_some_iff {s before after : List Char} :
    cutLast mark s = some (before, after) ↔ s = before ++ mark :: after ∧ mark ∉ after := by
  constructor
  · intro cut
    induction s generalizing before with
    | nil => cases cut
    | cons c rest ih =>
        rw [cutLast] at cut
        cases later : cutLast mark rest with
        | some parts =>
            rw [later] at cut
            cases cut
            obtain ⟨same, unmarked⟩ := ih later
            exact ⟨congrArg (c :: ·) same, unmarked⟩
        | none =>
            rw [later] at cut
            obtain ⟨rfl, whole⟩ := Option.ite_none_right_eq_some.mp cut
            cases whole
            exact ⟨rfl, cutLast_eq_none_iff.mp later⟩
  · intro ⟨same, unmarked⟩
    rw [same]
    exact cutLast_append before unmarked

end Text

end Winnow
