import Mathlib.Data.List.Chain
import Winnow.Proofs.CharacterRange
import Winnow.Text.LetterCase

/-! # The lower case of words

The lower case of a word is a word: where a capital is a word character, so is its small letter.
This is computed from the tables, a run of capitals at a time.
-/

namespace Winnow

theorem wordCharRanges_sorted : wordCharRanges.Pairwise (·.1 ≤ ·.1) := by
  have neighbours : wordCharRanges.IsChain (·.1 ≤ ·.1) := by decide +kernel
  exact List.isChain_iff_pairwise.mp neighbours

theorem isValidChar_of_word {n : Nat} (word : CodeRange.covers wordCharRanges n = true) :
    n.isValidChar := by
  have valid : ∀ range ∈ wordCharRanges,
      range.2 < 0xD800 ∨ 0xDFFF < range.1 ∧ range.2 < 0x110000 := by
    decide +kernel
  obtain ⟨range, member, low, high⟩ := CodeRange.exists_of_covers word
  rcases valid range member with below | ⟨above, inside⟩
  · exact .inl (by omega)
  · exact .inr ⟨by omega, by omega⟩

theorem isWordChar_ofNat {n : Nat} (word : CodeRange.covers wordCharRanges n = true) :
    isWordChar (Char.ofNat n) = true := by
  rw [isWordChar, Char.ofNat, dif_pos (isValidChar_of_word word)]
  exact word

namespace CaseRun

/-- The code point of the small letter of a capital. -/
def small (run : CaseRun) (n : Nat) : Nat :=
  (n + run.shift).toNat

theorem small_mono {run : CaseRun} {m n : Nat} (le : m ≤ n) : run.small m ≤ run.small n := by
  unfold small
  omega

/-- Whether the small letters of a run are word characters where its capitals are: either all of
    them lie in one range of word characters, or each of them is looked up. -/
def keepsWords (run : CaseRun) : Bool :=
  (wordCharRanges.find? fun range => (run.small run.last).ble range.2).any
    (·.1 ≤ run.small run.first) ||
  (List.range' run.first (run.last + 1 - run.first)).all fun n =>
    !run.holds n || !CodeRange.covers wordCharRanges n ||
      CodeRange.covers wordCharRanges (run.small n)

theorem all_keepWords : caseRuns.all keepsWords = true := by
  decide +kernel

theorem covers_small {run : CaseRun} (keeps : run.keepsWords = true) {n : Nat}
    (capital : run.holds n = true) (word : CodeRange.covers wordCharRanges n = true) :
    CodeRange.covers wordCharRanges (run.small n) = true := by
  have between : run.first ≤ n ∧ n ≤ run.last := by
    simp only [holds, Bool.and_eq_true, decide_eq_true_eq] at capital
    exact capital.1
  rcases Bool.or_eq_true_iff.mp keeps with together | single
  · obtain ⟨range, found, below⟩ := (Option.any_eq_true _ _).mp together
    have low : range.1 ≤ run.small run.first := of_decide_eq_true below
    have high : run.small run.last ≤ range.2 := by simpa using List.find?_some found
    exact CodeRange.covers_of_mem wordCharRanges_sorted (List.mem_of_find?_eq_some found)
      (Nat.le_trans low (small_mono between.1)) (Nat.le_trans (small_mono between.2) high)
  · have member : n ∈ List.range' run.first (run.last + 1 - run.first) :=
      List.mem_range'_1.mpr (by omega)
    have looked := List.all_eq_true.mp single n member
    simpa [capital, word] using looked

end CaseRun

theorem isWordChar_smallLetter {c : Char} (word : isWordChar c = true) :
    isWordChar (smallLetter c) = true := by
  unfold smallLetter
  cases found : caseRuns.find? (·.holds c.toNat) with
  | none => exact word
  | some run =>
      have keeps := List.all_eq_true.mp CaseRun.all_keepWords run (List.mem_of_find?_eq_some found)
      have capital : run.holds c.toNat = true := by simpa using List.find?_some found
      exact isWordChar_ofNat (CaseRun.covers_small keeps capital word)

theorem isWordChar_of_mem_lowerChar {c : Char} (word : isWordChar c = true) {d : Char}
    (member : d ∈ lowerChar c) : isWordChar d = true := by
  unfold lowerChar at member
  split at member
  · have dotted : ['i', '\u0307'].all isWordChar = true := by decide +kernel
    exact List.all_eq_true.mp dotted d member
  · rw [List.mem_singleton.mp member]
    exact isWordChar_smallLetter word

namespace Text

theorem isWordChar_of_mem_lowerAfter {before s : List Char}
    (word : ∀ c ∈ s, isWordChar c = true) : ∀ c ∈ lowerAfter before s, isWordChar c = true := by
  induction s generalizing before with
  | nil => simp [lowerAfter]
  | cons c rest ih =>
      obtain ⟨first, others⟩ := List.forall_mem_cons.mp word
      rw [lowerAfter, List.forall_mem_append]
      refine ⟨?_, ih others⟩
      split
      · -- A capital sigma has two small letters.
        have sigmas : isWordChar 'ς' = true ∧ isWordChar 'σ' = true := by decide +kernel
        rw [List.forall_mem_singleton]
        split
        · exact sigmas.1
        · exact sigmas.2
      · exact fun d => isWordChar_of_mem_lowerChar first

/-- The lower case of a word is a word. -/
theorem isWordChar_of_mem_lower {s : List Char} (word : ∀ c ∈ s, isWordChar c = true) :
    ∀ c ∈ lower s, isWordChar c = true :=
  isWordChar_of_mem_lowerAfter word

theorem lower_ne_nil {s : List Char} (nonempty : s ≠ []) : lower s ≠ [] := by
  obtain ⟨c, rest, rfl⟩ := List.exists_cons_of_ne_nil nonempty
  rw [lower, lowerAfter]
  unfold lowerChar
  split
  · simp
  · split <;> simp

end Text

end Winnow
