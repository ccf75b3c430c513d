import Winnow.Decimal.Digits

/-! # Printed digits

The digits of a natural number stand for it, and none of them is needless.
-/

namespace Winnow.Digits

variable {n : Nat} {c : Char}

theorem isDigit_eq (c : Char) : isDigit c = c.isDigit := by
  simp [isDigit, Char.isDigit, Char.le_def]

theorem isDigit_of_mem_text (member : c ∈ text n) : isDigit c = true := by
  rw [isDigit_eq]
  exact Nat.isDigit_of_mem_toDigits (by decide) (by decide) member

theorem text_ne_nil (n : Nat) : text n ≠ [] :=
  Nat.toDigits_ne_nil

theorem exists_cons_text (n : Nat) :
    ∃ first more, text n = first :: more ∧ isDigit first = true := by
  obtain ⟨first, more, same⟩ := List.exists_cons_of_ne_nil (text_ne_nil n)
  exact ⟨first, more, same, isDigit_of_mem_text (n := n) (same ▸ List.mem_cons_self)⟩

/-- The digits of a number stand for it. -/
theorem toNat_text (n : Nat) : toNat ((text n).map value) = n := by
  rw [toNat, foldFrom, List.foldl_map]
  refine Eq.trans ?_ Nat.ofDigitChars_ten_toDigits
  rw [Nat.ofDigitChars_eq_foldl]
  simp only [value, text, Nat.mul_comm 10]

theorem head?_text_ne (positive : 0 < n) : (text n).head? ≠ some '0' := by
  induction n using Nat.strongRecOn with
  | _ n ih =>
      by_cases small : n < 10
      · have single : ∀ m < 10, 0 < m → [m.digitChar].head? ≠ some '0' := by decide
        rw [text, Nat.toDigits_of_lt_base small]
        exact single n small positive
      · have large : 10 ≤ n := Nat.le_of_not_lt small
        rw [text, Nat.toDigits_of_base_le (by decide) large, List.head?_append]
        have first := ih (n / 10) (Nat.div_lt_self positive (by decide))
          (Nat.div_pos large (by decide))
        obtain ⟨c, more, same⟩ := List.exists_cons_of_ne_nil (text_ne_nil (n / 10))
        rw [text] at first same
        rw [same] at first ⊢
        simpa using first

theorem bounds_of_isDigit (digit : isDigit c = true) : 48 ≤ c.toNat ∧ c.toNat ≤ 57 := by
  simpa [isDigit, Char.le_def, UInt32.le_iff_toNat_le] using digit

theorem value_lt (digit : isDigit c = true) : value c < 10 := by
  have bounds := bounds_of_isDigit digit
  show c.toNat - 48 < 10
  omega

theorem eq_zero_of_value (digit : isDigit c = true) (zero : value c = 0) : c = '0' := by
  have bounds := bounds_of_isDigit digit
  have difference : c.toNat - 48 = 0 := zero
  refine Char.toNat_inj.mp ?_
  show c.toNat = 48
  omega

end Winnow.Digits
