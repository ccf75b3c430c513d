import Mathlib.Data.List.Basic
import Winnow.Text.Pattern

/-! # The language of a pattern

A pattern matches a text if the text is put together from the parts that the pattern names, each
in its place. The acceptor knows nothing of parts: it goes through the characters and keeps the
patterns that can still match what follows. Both agree on every text.
-/

namespace Winnow

/-- Whether a repetition may have a number of characters. -/
def Repeat.Allows : Repeat → Nat → Prop
  | optional, length => length ≤ 1
  | many, _ => True
  | some, length => 1 ≤ length
  | exactly count, length => length = count

namespace Pattern

/-- The texts that a pattern matches as a whole. -/
inductive Matches : Pattern → List Char → Prop where
  /-- The empty pattern matches the empty text. -/
  | empty : Matches empty []
  /-- A class matches any one of its characters. -/
  | one {cls : CharClass} {c : Char} (inside : cls.holds c = true) : Matches (one cls) [c]
  /-- A repeated class matches characters of the class, as many as the repetition allows. -/
  | repeated {cls : CharClass} {times : Repeat} {s : List Char}
      (inside : ∀ c ∈ s, cls.holds c = true) (allowed : times.Allows s.length) :
      Matches (repeated cls times) s
  /-- A sequence matches a match of its first part with a match of its second behind it. -/
  | seq {first second : Pattern} {s t : List Char} (before : Matches first s)
      (after : Matches second t) : Matches (seq first second) (s ++ t)
  /-- A choice matches what its first part does. -/
  | left {first second : Pattern} {s : List Char} (chosen : Matches first s) :
      Matches (either first second) s
  /-- A choice matches what its second part does. -/
  | right {first second : Pattern} {s : List Char} (chosen : Matches second s) :
      Matches (either first second) s
  /-- Parentheses change nothing. -/
  | group {inner : Pattern} {s : List Char} (enclosed : Matches inner s) :
      Matches (group inner) s

section Inversion

variable {cls : CharClass} {times : Repeat} {first second inner : Pattern} {s : List Char}

@[simp] theorem matches_empty : Pattern.empty.Matches s ↔ s = [] := by
  constructor
  · intro matched
    cases matched
    rfl
  · rintro rfl
    exact .empty

@[simp] theorem matches_one :
    (one cls).Matches s ↔ ∃ c, s = [c] ∧ cls.holds c = true := by
  constructor
  · intro matched
    cases matched with
    | one inside => exact ⟨_, rfl, inside⟩
  · rintro ⟨c, rfl, inside⟩
    exact .one inside

@[simp] theorem matches_repeated :
    (repeated cls times).Matches s ↔
      (∀ c ∈ s, cls.holds c = true) ∧ times.Allows s.length := by
  constructor
  · intro matched
    cases matched with
    | repeated inside allowed => exact ⟨inside, allowed⟩
  · rintro ⟨inside, allowed⟩
    exact .repeated inside allowed

@[simp] theorem matches_seq :
    (seq first second).Matches s ↔
      ∃ before after, s = before ++ after ∧ first.Matches before ∧ second.Matches after := by
  constructor
  · intro matched
    cases matched with
    | seq before after => exact ⟨_, _, rfl, before, after⟩
  · rintro ⟨_, _, rfl, before, after⟩
    exact .seq before after

@[simp] theorem matches_either :
    (either first second).Matches s ↔ first.Matches s ∨ second.Matches s := by
  constructor
  · intro matched
    cases matched with
    | left chosen => exact .inl chosen
    | right chosen => exact .inr chosen
  · rintro (chosen | chosen)
    · exact .left chosen
    · exact .right chosen

@[simp] theorem matches_group : (group inner).Matches s ↔ inner.Matches s := by
  constructor
  · intro matched
    cases matched with
    | group enclosed => exact enclosed
  · exact .group

end Inversion

theorem matches_optional {c : Char} {s : List Char} :
    (repeated (.among [c]) .optional).Matches s ↔ s = [] ∨ s = [c] := by
  simp only [matches_repeated, Repeat.Allows, CharClass.holds, List.contains_iff_mem,
    List.mem_singleton]
  constructor
  · rintro ⟨all, short⟩
    rcases Nat.le_one_iff_eq_zero_or_eq_one.mp short with none | one
    · exact .inl (List.length_eq_zero_iff.mp none)
    · obtain ⟨d, rfl⟩ := List.length_eq_one_iff.mp one
      exact .inr (by rw [all d List.mem_cons_self])
  · rintro (rfl | rfl) <;> simp

theorem acceptsEmpty_iff (p : Pattern) : p.acceptsEmpty = true ↔ p.Matches [] := by
  induction p with
  | empty | one => simp [acceptsEmpty]
  | repeated cls times =>
      cases times with
      | optional | many | some => simp [acceptsEmpty, Repeat.Allows]
      | exactly count => simp [acceptsEmpty, Repeat.Allows, eq_comm (a := 0)]
  | seq first second ihFirst ihSecond => simp [acceptsEmpty, ihFirst, ihSecond]
  | either first second ihFirst ihSecond => simp [acceptsEmpty, ihFirst, ihSecond]
  | group inner ih => simp [acceptsEmpty, ih]

theorem exists_remaining_iff {cls : CharClass} {times : Repeat} {rest : List Char} :
    (∃ q ∈ remaining cls times, q.Matches rest) ↔
      (∀ c ∈ rest, cls.holds c = true) ∧ times.Allows (rest.length + 1) := by
  cases times with
  | optional =>
      simp only [remaining, List.mem_singleton, exists_eq_left, matches_empty, Repeat.Allows]
      constructor
      · rintro rfl
        simp
      · rintro ⟨_, short⟩
        exact List.length_eq_zero_iff.mp (by omega)
  | many | some => simp [remaining, Repeat.Allows]
  | exactly count => cases count <;> simp [remaining, Repeat.Allows]

theorem exists_behind_iff (p : Pattern) (c : Char) (rest : List Char) :
    (∃ q ∈ p.behind c, q.Matches rest) ↔ p.Matches (c :: rest) := by
  induction p generalizing rest with
  | empty => simp [behind]
  | one cls => by_cases inside : cls.holds c = true <;> simp [behind, inside]
  | repeated cls times =>
      by_cases inside : cls.holds c = true
      · simp only [behind, inside, if_true, exists_remaining_iff, matches_repeated,
          List.forall_mem_cons, List.length_cons, true_and]
      · simp [behind, inside]
  | seq first second ihFirst ihSecond =>
      -- The character belongs to the first part, unless that part is empty.
      have later : (∃ q ∈ if first.acceptsEmpty then second.behind c else [], q.Matches rest) ↔
          first.Matches [] ∧ second.Matches (c :: rest) := by
        rw [← acceptsEmpty_iff, ← ihSecond]
        cases first.acceptsEmpty <;> simp
      have sooner : (∃ q ∈ (first.behind c).map (seq · second), q.Matches rest) ↔
          ∃ before after, rest = before ++ after ∧ first.Matches (c :: before) ∧
            second.Matches after := by
        simp only [← ihFirst, List.mem_map, exists_exists_and_eq_and, matches_seq]
        constructor
        · rintro ⟨q, left, before, after, split, matched, behind⟩
          exact ⟨before, after, split, ⟨q, left, matched⟩, behind⟩
        · rintro ⟨before, after, split, ⟨q, left, matched⟩, behind⟩
          exact ⟨q, left, before, after, split, matched, behind⟩
      simp only [behind, List.mem_append, or_and_right, exists_or, later, sooner, matches_seq,
        List.cons_eq_append_iff]
      constructor
      · rintro (⟨before, after, split, matched, behind⟩ | ⟨none, matched⟩)
        · exact .inr ⟨c :: before, after, ⟨before, rfl, split⟩, matched, behind⟩
        · exact .inl ⟨[], c :: rest, ⟨rfl, rfl⟩, none, matched⟩
      · rintro (⟨_, _, ⟨rfl, rfl⟩, none, matched⟩ |
          ⟨_, after, ⟨before, rfl, split⟩, matched, behind⟩)
        · exact .inr ⟨none, matched⟩
        · exact .inl ⟨before, after, split, matched, behind⟩
  | either first second ihFirst ihSecond =>
      simp only [behind, List.mem_append, or_and_right, exists_or, ihFirst, ihSecond,
        matches_either]
  | group inner ih => rw [behind, ih, matches_group]

theorem anyAccepts_iff {patterns : List Pattern} {s : List Char} :
    anyAccepts patterns s = true ↔ ∃ p ∈ patterns, p.Matches s := by
  induction s generalizing patterns with
  | nil => simp only [anyAccepts, List.any_eq_true, acceptsEmpty_iff]
  | cons c rest ih =>
      simp only [anyAccepts, ih, List.mem_eraseDups, List.mem_flatMap, ← exists_behind_iff]
      constructor
      · rintro ⟨q, ⟨p, member, left⟩, matched⟩
        exact ⟨p, member, q, left, matched⟩
      · rintro ⟨p, member, q, left, matched⟩
        exact ⟨q, ⟨p, member, left⟩, matched⟩

/-- A pattern accepts exactly the texts that it matches. -/
theorem accepts_iff {p : Pattern} {s : List Char} : p.accepts s = true ↔ p.Matches s := by
  simp [accepts, anyAccepts_iff]

/-- The classes that a pattern is made of. -/
def classes : Pattern → List CharClass
  | empty => []
  | one cls | repeated cls _ => [cls]
  | seq first second | either first second => first.classes ++ second.classes
  | group inner => inner.classes

theorem Matches.exists_class {p : Pattern} {s : List Char} (matched : p.Matches s) {c : Char}
    (member : c ∈ s) : ∃ cls ∈ p.classes, cls.holds c = true := by
  induction matched with
  | empty => simp at member
  | one inside => exact ⟨_, by simp [classes], List.mem_singleton.mp member ▸ inside⟩
  | repeated inside _ => exact ⟨_, by simp [classes], inside c member⟩
  | seq _ _ ihBefore ihAfter =>
      rcases List.mem_append.mp member with early | late
      · obtain ⟨cls, inside, holds⟩ := ihBefore early
        exact ⟨cls, List.mem_append_left _ inside, holds⟩
      · obtain ⟨cls, inside, holds⟩ := ihAfter late
        exact ⟨cls, List.mem_append_right _ inside, holds⟩
  | left _ ih =>
      obtain ⟨cls, inside, holds⟩ := ih member
      exact ⟨cls, List.mem_append_left _ inside, holds⟩
  | right _ ih =>
      obtain ⟨cls, inside, holds⟩ := ih member
      exact ⟨cls, List.mem_append_right _ inside, holds⟩
  | group _ ih => exact ih member

end Pattern

end Winnow
