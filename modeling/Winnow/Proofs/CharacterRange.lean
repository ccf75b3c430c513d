import Winnow.Proofs.Trimming
import Winnow.Text.WordChar

/-! # Character classes given by ranges

Two classes have no character in common if their ranges lie apart, and whether they do can be
computed from the lists of ranges. Decimal digits of any script and blanks are apart, so
trimming leaves digits alone.
-/

namespace Winnow

namespace CodeRange

theorem exists_of_covers {ranges : List CodeRange} {n : Nat} (covered : covers ranges n = true) :
    ∃ range ∈ ranges, range.1 ≤ n ∧ n ≤ range.2 := by
  induction ranges with
  | nil => simp [covers] at covered
  | cons range rest ih =>
      obtain ⟨first, last⟩ := range
      simp only [covers] at covered
      split at covered
      · simp at covered
      · rcases Bool.or_eq_true_iff.mp covered with inside | later
        · exact ⟨(first, last), List.mem_cons_self, by omega, by simpa using inside⟩
        · obtain ⟨range, member, bounds⟩ := ih later
          exact ⟨range, List.mem_cons_of_mem _ member, bounds⟩

theorem covers_of_mem {ranges : List CodeRange} (sorted : ranges.Pairwise (·.1 ≤ ·.1))
    {range : CodeRange} (member : range ∈ ranges) {n : Nat} (low : range.1 ≤ n)
    (high : n ≤ range.2) : covers ranges n = true := by
  induction ranges with
  | nil => cases member
  | cons first rest ih =>
      obtain ⟨below, others⟩ := List.pairwise_cons.mp sorted
      simp only [covers]
      rcases List.mem_cons.mp member with rfl | later
      · rw [if_neg (by omega), decide_eq_true high, Bool.true_or]
      · have start := below range later
        rw [if_neg (by omega), ih others later, Bool.or_true]

/-- Whether no range of one list meets a range of the other. -/
def Apart (ranges others : List CodeRange) : Prop :=
  ∀ range ∈ ranges, ∀ other ∈ others, range.2 < other.1 ∨ other.2 < range.1

instance (ranges others : List CodeRange) : Decidable (Apart ranges others) :=
  inferInstanceAs (Decidable (∀ range ∈ ranges, ∀ other ∈ others, _ ∨ _))

theorem Apart.covers_eq_false {ranges others : List CodeRange} (apart : Apart ranges others)
    {n : Nat} (covered : covers ranges n = true) : covers others n = false := by
  rw [Bool.eq_false_iff]
  intro alsoCovered
  obtain ⟨range, member, low, high⟩ := exists_of_covers covered
  obtain ⟨other, otherMember, otherLow, otherHigh⟩ := exists_of_covers alsoCovered
  have between := apart range member other otherMember
  omega

end CodeRange

theorem isDecimalDigit_of_bounds {c : Char} (low : 48 ≤ c.toNat) (high : c.toNat ≤ 57) :
    isDecimalDigit c = true := by
  simp only [isDecimalDigit, decimalDigitRanges, CodeRange.covers]
  rw [if_neg (by omega), decide_eq_true high, Bool.true_or]

theorem isBlank_of_isDecimalDigit {c : Char} (digit : isDecimalDigit c = true) :
    isBlank c = false := by
  have apart : CodeRange.Apart decimalDigitRanges blankRanges := by decide +kernel
  exact apart.covers_eq_false digit

namespace Text

theorem trim_eq_self {s : List Char} (visible : ∀ c ∈ s, isBlank c = false) : trim s = s :=
  (trimmed_of_visible visible).trim_eq

end Text

end Winnow
