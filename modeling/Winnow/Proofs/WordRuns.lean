import Winnow.Proofs.LowerCase
import Winnow.Proofs.Refusal
import Winnow.Proofs.Splitting

/-! # The words of a value

A contains filter searches each word of a value on its own. The words are the longest runs of word
characters, from the first to the last, and nothing but a run stands between the stars of a
pattern, so a value can't smuggle in a star, a question mark or an escape.
-/

namespace Winnow

/-! ## Runs -/

/-- Whether a text has a character of some kind at an index. -/
def HasAt (p : Char → Bool) (s : List Char) (i : Nat) : Prop :=
  ∃ c, s[i]? = some c ∧ p c = true

/-- The place of a run of characters of some kind that can't be made longer. -/
structure IsMaximalRun (p : Char → Bool) (s : List Char) (start stop : Nat) : Prop where
  /-- There is a character in the run. -/
  nonempty : start < stop
  /-- All characters of the run are of the kind. -/
  inside : ∀ i, start ≤ i → i < stop → HasAt p s i
  /-- The character in front, if any, is not. -/
  before : ∀ i, i + 1 = start → ¬ HasAt p s i
  /-- Neither is the character behind. -/
  behind : ¬ HasAt p s stop

variable {p : Char → Bool} {s t : List Char} {start stop : Nat}

theorem HasAt.lt {i : Nat} (has : HasAt p s i) : i < s.length := by
  obtain ⟨c, found, _⟩ := has
  exact (List.getElem?_eq_some_iff.mp found).1

theorem IsMaximalRun.stop_le (run : IsMaximalRun p s start stop) : stop ≤ s.length := by
  have last := (run.inside (stop - 1) (by have := run.nonempty; omega)
    (by have := run.nonempty; omega)).lt
  omega

theorem IsMaximalRun.congr (same : ∀ i ≤ stop, HasAt p s i ↔ HasAt p t i)
    (run : IsMaximalRun p s start stop) : IsMaximalRun p t start stop := by
  obtain ⟨nonempty, inside, before, behind⟩ := run
  refine ⟨nonempty, ?_, ?_, ?_⟩
  · exact fun i low high => (same i (by omega)).mp (inside i low high)
  · exact fun i first => mt (same i (by omega)).mpr (before i first)
  · exact mt (same stop (Nat.le_refl stop)).mpr behind

/-! A character that is not of the kind has runs on both sides only. -/

section Separator

variable {c : Char} (separator : p c = false)

theorem hasAt_append_left {i : Nat} (inside : i < s.length) :
    HasAt p (s ++ c :: t) i ↔ HasAt p s i := by
  rw [HasAt, List.getElem?_append_left inside, HasAt]

theorem hasAt_append_right (i : Nat) :
    HasAt p (s ++ c :: t) (s.length + 1 + i) ↔ HasAt p t i := by
  rw [HasAt, List.getElem?_append_right (by omega),
    show s.length + 1 + i - s.length = i + 1 by omega, List.getElem?_cons_succ, HasAt]

include separator

theorem not_hasAt_separator : ¬ HasAt p (s ++ c :: t) s.length := by
  simp [HasAt, separator]

theorem isMaximalRun_append_left (within : stop ≤ s.length) :
    IsMaximalRun p (s ++ c :: t) start stop ↔ IsMaximalRun p s start stop := by
  have same : ∀ i ≤ stop, HasAt p (s ++ c :: t) i ↔ HasAt p s i := by
    intro i low
    rcases Nat.lt_or_eq_of_le (Nat.le_trans low within) with inner | rfl
    · exact hasAt_append_left inner
    · exact iff_of_false (not_hasAt_separator separator) fun has => Nat.lt_irrefl _ has.lt
  exact ⟨.congr same, .congr fun i low => (same i low).symm⟩

theorem isMaximalRun_append_right (a b : Nat) :
    IsMaximalRun p (s ++ c :: t) (s.length + 1 + a) (s.length + 1 + b) ↔
      IsMaximalRun p t a b := by
  constructor
  · rintro ⟨nonempty, inside, before, behind⟩
    refine ⟨by omega, ?_, ?_, mt (hasAt_append_right b).mpr behind⟩
    · exact fun i low high => (hasAt_append_right i).mp (inside _ (by omega) (by omega))
    · exact fun i first => mt (hasAt_append_right i).mpr (before _ (by omega))
  · rintro ⟨nonempty, inside, before, behind⟩
    refine ⟨by omega, ?_, ?_, mt (hasAt_append_right b).mp behind⟩
    · intro i low high
      obtain ⟨j, rfl⟩ := Nat.exists_eq_add_of_le (show s.length + 1 ≤ i by omega)
      exact (hasAt_append_right j).mpr (inside j (by omega) (by omega))
    · intro i first
      -- In front of the first character of `t` stands the separator.
      rcases Nat.eq_zero_or_pos a with rfl | positive
      · rw [show i = s.length by omega]
        exact not_hasAt_separator separator
      · rw [show i = s.length + 1 + (a - 1) by omega]
        exact mt (hasAt_append_right _).mp (before (a - 1) (by omega))

theorem isMaximalRun_append :
    IsMaximalRun p (s ++ c :: t) start stop ↔ IsMaximalRun p s start stop ∨
      ∃ a b, IsMaximalRun p t a b ∧ start = s.length + 1 + a ∧ stop = s.length + 1 + b := by
  constructor
  · intro run
    have nonempty := run.nonempty
    have apart : stop ≤ s.length ∨ s.length + 1 ≤ start := by
      by_contra across
      exact not_hasAt_separator separator (run.inside s.length (by omega) (by omega))
    rcases apart with left | right
    · exact .inl ((isMaximalRun_append_left separator left).mp run)
    · obtain ⟨a, rfl⟩ := Nat.exists_eq_add_of_le right
      obtain ⟨b, rfl⟩ := Nat.exists_eq_add_of_le (show s.length + 1 ≤ stop by omega)
      exact .inr ⟨a, b, (isMaximalRun_append_right separator a b).mp run, rfl, rfl⟩
  · rintro (run | ⟨a, b, run, rfl, rfl⟩)
    · exact (isMaximalRun_append_left separator run.stop_le).mpr run
    · exact (isMaximalRun_append_right separator a b).mpr run

end Separator

theorem isMaximalRun_whole (all : ∀ c ∈ s, p c = true) :
    IsMaximalRun p s start stop ↔ s ≠ [] ∧ start = 0 ∧ stop = s.length := by
  have has : ∀ i, HasAt p s i ↔ i < s.length := by
    refine fun i => ⟨HasAt.lt, fun inside => ?_⟩
    exact ⟨s[i], List.getElem?_eq_getElem inside, all _ (List.getElem_mem inside)⟩
  constructor
  · intro run
    have bounded := run.stop_le
    obtain ⟨nonempty, inside, before, behind⟩ := run
    simp only [has] at inside before behind
    refine ⟨List.ne_nil_of_length_pos (by omega), ?_, by omega⟩
    by_contra later
    exact before (start - 1) (by omega) (by omega)
  · rintro ⟨nonempty, rfl, rfl⟩
    refine ⟨List.length_pos_of_ne_nil nonempty, ?_, ?_, ?_⟩
    · exact fun i _ inside => (has i).mpr inside
    · exact fun i first => absurd first (by omega)
    · exact fun behind => absurd ((has _).mp behind) (by omega)

/-- The part of a text from one index up to another. -/
def slice (s : List Char) (place : Nat × Nat) : List Char :=
  (s.drop place.1).take (place.2 - place.1)

theorem slice_append_left {place : Nat × Nat} (inside : place.2 ≤ s.length) (t : List Char) :
    slice (s ++ t) place = slice s place := by
  rw [slice, slice, List.drop_append, List.take_append_of_le_length]
  rw [List.length_drop]
  omega

/-- A place in a text that has a number of characters put in front. -/
def shift (count : Nat) (place : Nat × Nat) : Nat × Nat :=
  (count + place.1, count + place.2)

theorem slice_append_right (s t : List Char) (place : Nat × Nat) :
    slice (s ++ t) (shift s.length place) = slice t place := by
  rw [slice, shift, List.drop_length_add_append, Nat.add_sub_add_left, slice]

/-- The words of a text are its maximal runs of characters that don't separate, in order. -/
theorem exists_runs (p : Char → Bool) (s : List Char) : ∃ runs : List (Nat × Nat),
    runs.Pairwise (fun run next => run.2 < next.1) ∧
    (∀ start stop, (start, stop) ∈ runs ↔ IsMaximalRun p s start stop) ∧
    Text.words (fun c => !p c) s = runs.map (slice s) := by
  -- The runs behind a separator are those of the rest, moved by what stands in front.
  induction s using Text.separator_induction (fun c => !p c) with
  | whole s inside =>
      have all : ∀ c ∈ s, p c = true := by simpa using inside
      by_cases empty : s = []
      · refine ⟨[], List.Pairwise.nil, ?_, ?_⟩
        · intro start stop
          simp only [isMaximalRun_whole all, List.not_mem_nil, false_iff]
          exact fun run => run.1 empty
        · rw [empty]
          rfl
      · refine ⟨[(0, s.length)], List.pairwise_singleton _ _, ?_, ?_⟩
        · simp [isMaximalRun_whole all, empty]
        · rw [Text.words_whole empty inside]
          simp [slice]
  | between s c t separator before behind =>
      obtain ⟨left, leftSorted, leftRuns, leftWords⟩ := before
      obtain ⟨right, rightSorted, rightRuns, rightWords⟩ := behind
      have separates : p c = false := by simpa using separator
      have leftInside : ∀ place ∈ left, place.2 ≤ s.length :=
        fun place member => ((leftRuns place.1 place.2).mp member).stop_le
      refine ⟨left ++ right.map (shift (s.length + 1)), ?_, ?_, ?_⟩
      · rw [List.pairwise_append, List.pairwise_map]
        refine ⟨leftSorted, ?_, ?_⟩
        · apply rightSorted.imp
          intro run next ordered
          exact Nat.add_lt_add_left ordered _
        · intro run member next later
          obtain ⟨place, _, rfl⟩ := List.mem_map.mp later
          have bounded := leftInside run member
          simp only [shift]
          omega
      · intro start stop
        rw [isMaximalRun_append separates, List.mem_append, leftRuns]
        simp [shift, rightRuns, eq_comm]
      · rw [Text.words_append_cons separator, leftWords, rightWords, List.map_append, List.map_map]
        congr 1
        · exact List.map_congr_left fun place member =>
            (slice_append_left (leftInside place member) _).symm
        · refine List.map_congr_left fun place _ => ?_
          have shifted := slice_append_right (s ++ [c]) t place
          simpa using shifted.symm

/-! ## Patterns -/

namespace Wildcard

theorem not_isWordChar_of_isBlank {c : Char} (blank : isBlank c = true) :
    isWordChar c = false := by
  have apart : CodeRange.Apart blankRanges wordCharRanges := by decide +kernel
  exact apart.covers_eq_false blank

theorem tokens_eq_words (value : List Char) :
    tokens value = Text.words (fun c => !isWordChar c) value := by
  apply Text.words_of_words
  intro c blank
  rw [not_isWordChar_of_isBlank blank, Bool.not_false]

theorem pattern_eq (token : List Char) :
    pattern token = "*" ++ String.ofList (Text.lower token) ++ "*" := by
  apply String.toList_inj.mp
  simp [pattern]

theorem patterns_eq_nil_iff {value : String} :
    patterns value = [] ↔ ∀ c ∈ value.toList, isWordChar c = false := by
  rw [patterns, List.map_eq_nil_iff, tokens_eq_words, Text.words_eq_nil_iff]
  simp only [Bool.not_eq_true']

theorem patterns_append {between : String} (nonempty : between ≠ "")
    (separators : ∀ c ∈ between.toList, isWordChar c = false) (before after : String) :
    patterns (before ++ between ++ after) = patterns before ++ patterns after := by
  simp only [patterns, tokens_eq_words, String.toList_append]
  rw [Text.words_append_separators, List.map_append]
  · simpa using nonempty
  · simpa using separators

theorem exists_word_of_mem_patterns {value found : String} (member : found ∈ patterns value) :
    ∃ word : String, found = "*" ++ word ++ "*" ∧ word ≠ "" ∧
      ∀ c ∈ word.toList, isWordChar c = true := by
  obtain ⟨token, inside, rfl⟩ := List.mem_map.mp member
  rw [tokens_eq_words] at inside
  obtain ⟨nonempty, chars⟩ := Text.mem_word inside
  refine ⟨_, pattern_eq token, ?_, ?_⟩
  · simpa using Text.lower_ne_nil nonempty
  · rw [String.toList_ofList]
    exact Text.isWordChar_of_mem_lower fun c among => by simpa using chars c among

theorem ne_of_isWordChar {c : Char} (word : isWordChar c = true) :
    c ≠ '*' ∧ c ≠ '?' ∧ c ≠ '\\' ∧ isBlank c = false := by
  refine ⟨?_, ?_, ?_, ?_⟩
  · rintro rfl
    exact absurd word (by decide +kernel)
  · rintro rfl
    exact absurd word (by decide +kernel)
  · rintro rfl
    exact absurd word (by decide +kernel)
  · rw [Bool.eq_false_iff]
    intro blank
    rw [not_isWordChar_of_isBlank blank] at word
    cases word

end Wildcard

theorem contains_eq_error_iff {filter : ReducedFilter} (text : filter.key.type = .text)
    (words : filter.key.operator = .contains ∨ filter.key.operator = .notContains)
    {error : QueryError} :
    filter.compile = .error error ↔
      ∃ value, filter.values.find? (fun value => value.toList.all (!isWordChar ·)) = some value ∧
        error = .invalidValueFormat filter.key.field value Wildcard.mask := by
  have asked : filter.key.valueForm? = some .words := by
    rcases words with operator | operator <;> simp [FilterKey.valueForm?, text, operator]
  have supported : filter.key.type.supports filter.key.operator = true := by
    rcases words with operator | operator <;> simp [FieldType.supports, text, operator]
  have wordless : (fun value => !ValueForm.words.fits value) =
      fun value : String => value.toList.all (!isWordChar ·) := by
    funext value
    rw [Bool.eq_iff_iff, ValueForm.fits, Bool.not_not, List.isEmpty_iff,
      Wildcard.patterns_eq_nil_iff]
    simp
  rw [ReducedFilter.compile_eq_error_iff supported, FilterKey.findSome?_refusal_eq_some_iff]
  simp [asked, wordless, ValueForm.expected]

/-- The patterns of a value are its maximal runs of word characters in lower case, in order and
    with a star on both sides. Cutting at blanks first changes nothing. A value without word
    characters has no pattern, and it is refused in a contains filter. Other characters between
    two texts keep their patterns apart. Between its stars a pattern has word characters only, so
    it has no other star, no question mark, no backslash and no blank. -/
theorem wildcard_patterns_exact :
    (∀ value : String, ∃ runs : List (Nat × Nat),
      runs.Pairwise (fun run next => run.2 < next.1) ∧
      (∀ start stop, (start, stop) ∈ runs ↔ IsMaximalRun isWordChar value.toList start stop) ∧
      Wildcard.patterns value =
        runs.map fun run => "*" ++ String.ofList (Text.lower (slice value.toList run)) ++ "*") ∧
    (∀ value, Wildcard.tokens value = Text.words (fun c => !isWordChar c) value) ∧
    (∀ value : String,
      Wildcard.patterns value = [] ↔ ∀ c ∈ value.toList, isWordChar c = false) ∧
    (∀ filter : ReducedFilter, filter.key.type = .text →
      filter.key.operator = .contains ∨ filter.key.operator = .notContains →
      ∀ error, filter.compile = .error error ↔
        ∃ value,
          filter.values.find? (fun value => value.toList.all (!isWordChar ·)) = some value ∧
          error = .invalidValueFormat filter.key.field value Wildcard.mask) ∧
    (∀ before between after : String, between ≠ "" →
      (∀ c ∈ between.toList, isWordChar c = false) →
      Wildcard.patterns (before ++ between ++ after) =
        Wildcard.patterns before ++ Wildcard.patterns after) ∧
    ∀ value, ∀ pattern ∈ Wildcard.patterns value,
      ∃ word : String, pattern = "*" ++ word ++ "*" ∧ word ≠ "" ∧
        ∀ c ∈ word.toList, isWordChar c = true ∧
          c ≠ '*' ∧ c ≠ '?' ∧ c ≠ '\\' ∧ isBlank c = false := by
  refine ⟨?_, Wildcard.tokens_eq_words, fun _ => Wildcard.patterns_eq_nil_iff, ?_, ?_, ?_⟩
  · intro value
    obtain ⟨runs, sorted, maximal, words⟩ := exists_runs isWordChar value.toList
    refine ⟨runs, sorted, maximal, ?_⟩
    rw [Wildcard.patterns, Wildcard.tokens_eq_words, words, List.map_map]
    exact List.map_congr_left fun run _ => Wildcard.pattern_eq _
  · intro filter text words error
    exact contains_eq_error_iff text words
  · intro before between after nonempty separators
    exact Wildcard.patterns_append nonempty separators before after
  · intro value pattern member
    obtain ⟨word, same, nonempty, chars⟩ := Wildcard.exists_word_of_mem_patterns member
    refine ⟨word, same, nonempty, fun c inside => ?_⟩
    exact ⟨chars c inside, Wildcard.ne_of_isWordChar (chars c inside)⟩

/-- Two names with a star, a question mark and a blank between them, and a filter with a value that
    is nothing but stars. -/
theorem starred_names_patterns :
    Wildcard.patterns ("Ann" ++ "*? " ++ "LEE") =
      Wildcard.patterns "Ann" ++ Wildcard.patterns "LEE" ∧
    Wildcard.patterns "Ann" = ["*ann*"] ∧
    Wildcard.patterns "**" = [] ∧
    ReducedFilter.compile ⟨⟨"people", "name", .contains, .text, none⟩, ["Ann", "**"], true⟩ =
      .error (.invalidValueFormat "name" "**" "\\w+") := by
  obtain ⟨_, _, wordless, refused, apart, _⟩ := wildcard_patterns_exact
  have marks : isWordChar '*' = false ∧ isWordChar '?' = false ∧ isWordChar ' ' = false := by
    decide +kernel
  refine ⟨apart "Ann" "*? " "LEE" (by decide) (by simpa using marks), by decide +kernel, ?_, ?_⟩
  · exact (wordless "**").mpr (by simpa using marks.1)
  · exact (refused _ rfl (.inl rfl) _).mpr ⟨"**", by decide +kernel, rfl⟩

end Winnow
