import Mathlib.Data.List.TakeWhile
import Winnow.Text.Scan

/-! # What follows the text that is read

A scan that stops at a character reads the same whatever stands behind it. What follows a text
stops a run of characters if it is empty or starts with another one.
-/

namespace Winnow

/-- What follows doesn't go on with a character of a kind. -/
def Stops (isKind : Char → Bool) (tail : List Char) : Prop :=
  ∀ c ∈ tail.head?, isKind c = false

theorem stops_cons {isKind : Char → Bool} {c : Char} {tail : List Char} :
    Stops isKind (c :: tail) ↔ isKind c = false := by
  simp [Stops]

variable {isKind : Char → Bool} {tail : List Char}

theorem Stops.dropWhile_eq (stops : Stops isKind tail) : tail.dropWhile isKind = tail := by
  cases tail with
  | nil => rfl
  | cons c rest => rw [List.dropWhile_cons, stops_cons.mp stops]; rfl

theorem Stops.takeWhile_eq (stops : Stops isKind tail) : tail.takeWhile isKind = [] := by
  cases tail with
  | nil => rfl
  | cons c rest => rw [List.takeWhile_cons, stops_cons.mp stops]; rfl

theorem Stops.dropWhile_append (stops : Stops isKind tail) (s : List Char) :
    (s ++ tail).dropWhile isKind = s.dropWhile isKind ++ tail := by
  induction s with
  | nil => exact stops.dropWhile_eq
  | cons c rest ih =>
      rw [List.cons_append, List.dropWhile_cons, List.dropWhile_cons, ih]
      cases isKind c <;> rfl

theorem Stops.takeWhile_append (stops : Stops isKind tail) (s : List Char) :
    (s ++ tail).takeWhile isKind = s.takeWhile isKind := by
  induction s with
  | nil => exact stops.takeWhile_eq
  | cons c rest ih =>
      rw [List.cons_append, List.takeWhile_cons, List.takeWhile_cons, ih]

theorem Stops.takeWhile_run (stops : Stops isKind tail) {run : List Char}
    (inside : ∀ c ∈ run, isKind c = true) : (run ++ tail).takeWhile isKind = run := by
  rw [stops.takeWhile_append, List.takeWhile_eq_self_iff.mpr inside]

theorem Stops.dropWhile_run (stops : Stops isKind tail) {run : List Char}
    (inside : ∀ c ∈ run, isKind c = true) : (run ++ tail).dropWhile isKind = tail := by
  rw [stops.dropWhile_append, List.dropWhile_eq_nil_iff.mpr inside, List.nil_append]

theorem Text.hexDigit_digitChar : ∀ n < 16, hexDigit (Nat.digitChar n) = some n := by
  decide

theorem Text.skipWord_append {word s rest : List Char} (skipped : skipWord word s = some rest)
    (tail : List Char) : skipWord word (s ++ tail) = some (rest ++ tail) := by
  induction word generalizing s with
  | nil =>
      rw [skipWord, Option.some.injEq] at skipped
      rw [skipWord, skipped]
  | cons w word ih =>
      cases s with
      | nil => cases skipped
      | cons c s =>
          rw [skipWord] at skipped
          rw [List.cons_append, skipWord]
          split at skipped
          · next same => rw [if_pos same, ih skipped]
          · cases skipped

end Winnow
