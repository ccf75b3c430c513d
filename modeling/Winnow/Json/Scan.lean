import Winnow.Text.Scan

/-! # Scanning JSON text

The tokens of strict JSON, read from the front of a text. A scan gives the token and the
rest of the text, or nothing if no token stands there.
-/

namespace Winnow.JsonText

open Text

/-- The four characters that may stand between tokens. -/
def isSpace (c : Char) : Bool :=
  c == ' ' || c == '\n' || c == '\t' || c == '\r'

/-- Drops the space in front of a token. -/
def skipSpace (s : List Char) : List Char :=
  s.dropWhile isSpace

/-- The value of four hexadecimal digits. -/
def hexQuad : Scan Nat
  | a :: b :: c :: d :: rest => do
      let a ← hexDigit a
      let b ← hexDigit b
      let c ← hexDigit c
      let d ← hexDigit d
      some (((a * 16 + b) * 16 + c) * 16 + d, rest)
  | _ => none

/-- The character of an escape by number. A first surrogate needs the second one right
    after it; a surrogate alone is no character. -/
def numericEscape (s : List Char) : Option (Char × List Char) :=
  match hexQuad s with
  | none => none
  | some (unit, rest) =>
      if 0xDC00 ≤ unit ∧ unit ≤ 0xDFFF then none
      else if 0xD800 ≤ unit ∧ unit ≤ 0xDBFF then
        match rest with
        | '\\' :: 'u' :: rest =>
            match hexQuad rest with
            | some (second, rest) =>
                if 0xDC00 ≤ second ∧ second ≤ 0xDFFF then
                  some (Char.ofNat (0x10000 + (unit - 0xD800) * 0x400 + (second - 0xDC00)), rest)
                else none
            | none => none
        | _ => none
      else some (Char.ofNat unit, rest)

/-- The character that an escape of one letter stands for. -/
def shortEscape? : Char → Option Char
  | '"' => some '"'
  | '\\' => some '\\'
  | '/' => some '/'
  | 'b' => some '\x08'
  | 'f' => some '\x0c'
  | 'n' => some '\n'
  | 'r' => some '\r'
  | 't' => some '\t'
  | _ => none

/-- The character of an escape, read after its backslash. -/
def escape : List Char → Option (Char × List Char)
  | [] => none
  | c :: rest =>
      if c = 'u' then numericEscape rest else (shortEscape? c).map fun meant => (meant, rest)

/-- One character of a string. Control characters have to be escaped. -/
def stringChar : List Char → Option (Char × List Char)
  | [] => none
  | c :: rest =>
      if c = '\\' then escape rest
      else if c.toNat < 0x20 then none
      else some (c, rest)

theorem hexQuad_shorter {s rest : List Char} {n : Nat} (h : hexQuad s = some (n, rest)) :
    rest.length < s.length := by
  unfold hexQuad at h
  split at h
  · simp only [Option.bind_eq_bind, Option.bind_eq_some_iff, Option.some.injEq,
      Prod.mk.injEq] at h
    obtain ⟨_, _, _, _, _, _, _, _, _, rfl⟩ := h
    simp
    omega
  · cases h

theorem numericEscape_shorter {s rest : List Char} {c : Char}
    (h : numericEscape s = some (c, rest)) : rest.length < s.length := by
  unfold numericEscape at h
  split at h
  · cases h
  · next first hq =>
      have := hexQuad_shorter hq
      split at h
      · cases h
      · split at h
        · split at h
          · split at h
            · next second hq' =>
                have := hexQuad_shorter hq'
                split at h
                · simp only [Option.some.injEq, Prod.mk.injEq] at h
                  obtain ⟨-, rfl⟩ := h
                  simp only [List.length_cons] at *
                  omega
                · cases h
            · cases h
          · cases h
        · simp only [Option.some.injEq, Prod.mk.injEq] at h
          obtain ⟨-, rfl⟩ := h
          exact this

theorem escape_shorter {s rest : List Char} {c : Char} (h : escape s = some (c, rest)) :
    rest.length < s.length := by
  unfold escape at h
  split at h
  · cases h
  · split at h
    · exact Nat.lt_trans (numericEscape_shorter h) (by simp)
    · simp only [Option.map_eq_some_iff, Prod.mk.injEq] at h
      obtain ⟨_, _, _, rfl⟩ := h
      simp

theorem stringChar_shorter {s rest : List Char} {c : Char}
    (h : stringChar s = some (c, rest)) : rest.length < s.length := by
  unfold stringChar at h
  split at h
  · cases h
  · split at h
    · exact Nat.lt_trans (escape_shorter h) (by simp)
    · split at h
      · cases h
      · cases h
        simp

/-- The characters of a string up to its closing quote, read after the opening one. -/
def stringBody (s : List Char) : Option (List Char × List Char) :=
  match s with
  | [] => none
  | '"' :: rest => some ([], rest)
  | s =>
      match h : stringChar s with
      | none => none
      | some (c, rest) =>
          have := stringChar_shorter h
          (stringBody rest).map fun (cs, rest) => (c :: cs, rest)
termination_by s.length

/-- A string token. -/
def string : Scan String
  | '"' :: rest => (stringBody rest).map fun (cs, rest) => (String.ofList cs, rest)
  | _ => none

end Winnow.JsonText
