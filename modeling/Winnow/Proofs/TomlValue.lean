import Winnow.Proofs.Digits
import Winnow.Proofs.Splitting
import Winnow.Proofs.TomlString
import Winnow.Toml.Parser

/-! # Printed TOML values

A natural number, a truth value, a string and an array of strings are read as themselves where
they were printed, up to the end of the line, a comma or the end of an array.
-/

namespace Winnow

theorem mapM_eq_some_map {α β : Type} {f : α → Option β} {g : α → β} {xs : List α}
    (each : ∀ x ∈ xs, f x = some (g x)) : xs.mapM f = some (xs.map g) := by
  induction xs with
  | nil => rfl
  | cons x xs ih =>
      obtain ⟨here, others⟩ := List.forall_mem_cons.mp each
      rw [List.mapM_cons, here, ih others]
      rfl

namespace TomlText

/-! ## Runs of digits -/

theorem digitIn_ten {c : Char} (digit : Digits.isDigit c = true) :
    digitIn 10 c = some (Digits.value c) := by
  have range : '0' ≤ c ∧ c ≤ '9' := by simpa [Digits.isDigit] using digit
  have hex : Text.hexDigit c = some (Digits.value c) := if_pos range
  rw [digitIn, hex, Option.filter_some, if_pos (decide_eq_true (Digits.value_lt digit))]

section AllDigits

variable {s rest : List Char} (digits : ∀ c ∈ s, Digits.isDigit c = true)

include digits

theorem twoDigits_rest {least most n : Nat} (read : twoDigits least most s = some (n, rest)) :
    ∀ c ∈ rest, Digits.isDigit c = true := by
  unfold twoDigits at read
  split at read
  · next a b rest' =>
    simp only at read
    split at read
    · cases read
      exact fun c member => digits c (List.mem_cons_of_mem _ (List.mem_cons_of_mem _ member))
    · cases read
  · cases read

theorem skipChar_eq_none {mark : Char} (other : Digits.isDigit mark = false) :
    skipChar mark s = none := by
  cases s with
  | nil => rfl
  | cons c s =>
      have different : mark ≠ c := by
        rintro rfl
        rw [digits mark List.mem_cons_self] at other
        cases other
      exact if_neg different

theorem skipDate_eq_none : skipDate s = none := by
  unfold skipDate
  cases first : twoDigits 0 99 s with
  | none => rfl
  | some found =>
      obtain ⟨century, s'⟩ := found
      have later := twoDigits_rest digits first
      cases second : twoDigits 0 99 s' with
      | none => simp [second]
      | some found =>
          obtain ⟨year, rest⟩ := found
          have last : skipChar '-' rest = none :=
            skipChar_eq_none (twoDigits_rest later second) (by decide)
          simp [second, last]

theorem skipTime_eq_none : skipTime s = none := by
  unfold skipTime skipHourMinute
  cases first : twoDigits 0 23 s with
  | none => rfl
  | some found =>
      obtain ⟨hour, rest⟩ := found
      have last : skipChar ':' rest = none :=
        skipChar_eq_none (twoDigits_rest digits first) (by decide)
      simp [last]

theorem isMoment_eq_false : isMoment s = false := by
  rw [isMoment, skipDate_eq_none digits, skipTime_eq_none digits]
  rfl

theorem separatedDigits_eq (nonempty : s ≠ []) :
    separatedDigits 10 s = some (s.map Digits.value) := by
  have none : '_' ∉ s := fun member => absurd (digits '_' member) (by decide)
  have values := mapM_eq_some_map fun c member => digitIn_ten (digits c member)
  simp [separatedDigits, Text.pieces_of_not_mem none, nonempty, values]

theorem number_eq (nonempty : s ≠ []) (needed : s.head? = some '0' → s = ['0']) :
    number s = some (.integer (Digits.toNat (s.map Digits.value))) := by
  have whole : wholeDigits s = some (s.map Digits.value) := by
    rw [wholeDigits, separatedDigits_eq digits nonempty, Option.filter_some, if_pos]
    split
    · next second more same =>
      obtain ⟨c, others, rfl, zero, behind⟩ := List.map_eq_cons_iff.mp same
      have first := Digits.eq_zero_of_value (digits c List.mem_cons_self) zero
      have alone := needed (congrArg some first)
      simp [(List.cons.inj alone).2] at behind
    · rfl
  have rest : s.dropWhile Digits.isDigit = [] := List.dropWhile_eq_nil_iff.mpr digits
  have infinite : s ≠ ['i', 'n', 'f'] := by
    rintro rfl
    exact absurd (digits 'i' List.mem_cons_self) (by decide)
  have noNumber : s ≠ ['n', 'a', 'n'] := by
    rintro rfl
    exact absurd (digits 'n' List.mem_cons_self) (by decide)
  have unsigned : unsignedNumber false s =
      some (.integer (Digits.toNat (s.map Digits.value))) := by
    rw [unsignedNumber, if_neg infinite, if_neg noNumber]
    simp [rest, whole, withSign]
  have member : ∀ c ∈ s, Digits.isDigit c = true := digits
  unfold number
  split
  iterate 3 exact absurd (member _ (List.mem_cons_of_mem _ List.mem_cons_self)) (by decide)
  iterate 3 exact absurd (member _ List.mem_cons_self) (by decide)
  exact unsigned

end AllDigits

/-! ## Tokens -/

/-- What may follow a value: the end of the line, a comma or the end of an array. -/
def Ends (rest : List Char) : Prop :=
  ∃ c more, rest = c :: more ∧ c ∈ ['\n', ',', ']']

theorem Ends.stops {rest : List Char} (ends : Ends rest) {isKind : Char → Bool}
    (others : ['\n', ',', ']'].any isKind = false) : Stops isKind rest := by
  obtain ⟨c, more, rfl, member⟩ := ends
  exact stops_cons.mpr (Bool.eq_false_iff.mpr (List.any_eq_false.mp others c member))

/-- A character that belongs to no space, line break or comment. -/
def Visible (c : Char) : Prop :=
  c ∉ [' ', '\t', '\n', '\r', '#']

instance (c : Char) : Decidable (Visible c) :=
  inferInstanceAs (Decidable (_ ∉ _))

theorem visible_of {c : Char} {isKind : Char → Bool} (own : isKind c = true)
    (others : [' ', '\t', '\n', '\r', '#'].any isKind = false) : Visible c :=
  fun member => List.any_eq_false.mp others c member own

theorem token_append {written rest : List Char} (inside : ∀ c ∈ written, isTokenChar c = true)
    (ends : Ends rest) : token (written ++ rest) = (written, rest) := by
  have stops : Stops isTokenChar rest := ends.stops (by decide)
  rw [token, stops.takeWhile_run inside, stops.dropWhile_run inside]
  obtain ⟨c, more, rfl, member⟩ := ends
  split
  · next same =>
    cases same
    exact absurd member (by decide)
  · rfl

theorem scalar_append {first : Char} {more rest : List Char} {v : Toml}
    (inside : ∀ c ∈ first :: more, isTokenChar c = true)
    (unquoted : first ≠ '"' ∧ first ≠ '\'') (means : tokenValue (first :: more) = some v)
    (ends : Ends rest) : scalar (first :: more ++ rest) = some (v, rest) := by
  have same := token_append inside ends
  unfold scalar
  split
  · next double => exact absurd (List.cons.inj double).1 unquoted.1
  · next single => exact absurd (List.cons.inj single).1 unquoted.2
  · rw [same]
    simp only [means, Option.map_some]

/-- A text is read as a value in front of anything that may follow one. -/
structure Written (depth : Nat) (written : List Char) (v : Toml) : Prop where
  /-- The text starts with no space or line break. -/
  visible : ∃ first more, written = first :: more ∧ Visible first
  /-- The text is read up to its end. -/
  read : ∀ {rest}, Ends rest → value depth (written ++ rest) = some (v, rest)

theorem value_of_scalar {first : Char} (bracket : first ≠ '[') (brace : first ≠ '\x7b')
    (depth : Nat) (more : List Char) : value depth (first :: more) = scalar (first :: more) := by
  cases depth with
  | zero => rfl
  | succ depth =>
      rw [value]
      · exact fun _ same => bracket (List.cons.inj same).1
      · exact fun _ same => brace (List.cons.inj same).1

theorem written_of_token {first : Char} {more : List Char} {v : Toml}
    (inside : (first :: more).all isTokenChar = true)
    (unquoted : first ≠ '"' ∧ first ≠ '\'') (means : tokenValue (first :: more) = some v)
    (depth : Nat) : Written depth (first :: more) v := by
  have inside := List.all_eq_true.mp inside
  have token := inside first List.mem_cons_self
  constructor
  · exact ⟨first, more, rfl, visible_of token (by decide)⟩
  · intro rest ends
    rw [List.cons_append, value_of_scalar, ← List.cons_append,
      scalar_append inside unquoted means ends]
    · rintro rfl
      exact absurd token (by decide)
    · rintro rfl
      exact absurd token (by decide)

theorem written_truth (depth : Nat) (b : Bool) : Written depth (truth b) (.boolean b) := by
  cases b with
  | true => exact written_of_token (by decide) (by decide) rfl depth
  | false => exact written_of_token (by decide) (by decide) rfl depth

theorem written_text (depth n : Nat) : Written depth (Digits.text n) (.integer n) := by
  have digits : ∀ c ∈ Digits.text n, Digits.isDigit c = true := fun _ =>
    Digits.isDigit_of_mem_text
  have needed : (Digits.text n).head? = some '0' → Digits.text n = ['0'] := by
    rcases Nat.eq_zero_or_pos n with rfl | positive
    · exact fun _ => by decide
    · exact fun zero => absurd zero (Digits.head?_text_ne positive)
  have means : tokenValue (Digits.text n) = some (.integer n) := by
    have noTrue : Digits.text n ≠ ['t', 'r', 'u', 'e'] := fun same =>
      absurd (digits 't' (same ▸ List.mem_cons_self)) (by decide)
    have noFalse : Digits.text n ≠ ['f', 'a', 'l', 's', 'e'] := fun same =>
      absurd (digits 'f' (same ▸ List.mem_cons_self)) (by decide)
    rw [tokenValue, if_neg noTrue, if_neg noFalse, isMoment_eq_false digits,
      number_eq digits (Digits.text_ne_nil n) needed, Digits.toNat_text]
    rfl
  have kinds : ∀ c, Digits.isDigit c = true → isTokenChar c = true ∧ c ≠ '"' ∧ c ≠ '\'' := by
    intro c digit
    have ten : ∀ code < 58, 48 ≤ code → isTokenChar (Char.ofNat code) = true ∧
        Char.ofNat code ≠ '"' ∧ Char.ofNat code ≠ '\'' := by decide
    have bounds := Digits.bounds_of_isDigit digit
    have own := ten c.toNat (Nat.lt_succ_of_le bounds.2) bounds.1
    rwa [Char.ofNat_toNat] at own
  obtain ⟨first, more, same⟩ := List.exists_cons_of_ne_nil (Digits.text_ne_nil n)
  rw [same] at digits means ⊢
  exact written_of_token (List.all_eq_true.mpr fun c member => (kinds c (digits c member)).1)
    (kinds first (digits first List.mem_cons_self)).2 means depth

theorem quoted_starts (text : String) :
    ∃ quote more, quoted text = quote :: more ∧ (quote = '"' ∨ quote = '\'') := by
  rw [quoted]
  cases quoting text.toList with
  | basic | basicLines => exact ⟨'"', _, rfl, .inl rfl⟩
  | literal | literalLines => exact ⟨'\'', _, rfl, .inr rfl⟩

theorem written_quoted (depth : Nat) (text : String) :
    Written depth (quoted text) (.string text) := by
  obtain ⟨quote, more, same, kind⟩ := quoted_starts text
  have scalar_eq : ∀ rest, scalar (quoted text ++ rest) =
      (string (quoted text ++ rest)).map fun read => (.string read.1, read.2) := by
    intro rest
    rw [same]
    rcases kind with rfl | rfl <;> rfl
  constructor
  · rcases kind with rfl | rfl <;> exact ⟨_, more, same, by decide⟩
  · intro rest ends
    have read : string (quoted text ++ rest) = some (text, rest) :=
      string_quoted text (ends.stops (by decide))
    have outside : value depth (quoted text ++ rest) = scalar (quoted text ++ rest) := by
      rw [same]
      rcases kind with rfl | rfl <;> exact value_of_scalar (by decide) (by decide) depth _
    rw [outside, scalar_eq, read]
    rfl

/-! ## Arrays -/

theorem skipGap_visible {first : Char} (visible : Visible first)
    (more : List Char) : skipGap false (first :: more) = some (first :: more) := by
  simp only [Visible, List.mem_cons, List.not_mem_nil, or_false, not_or] at visible
  obtain ⟨space, tab, feed, ret, hash⟩ := visible
  rw [skipGap]
  · simp [isSpace, space, tab, hash]
  · exact feed
  · exact fun _ same => absurd same ret

theorem skipSpace_visible {first : Char} (visible : Visible first)
    (more : List Char) : skipSpace (first :: more) = first :: more := by
  refine List.dropWhile_cons_of_neg fun space => ?_
  simp_all [Visible, isSpace]

theorem Written.skipGap_eq {depth : Nat} {written : List Char} {v : Toml}
    (is : Written depth written v) (rest : List Char) :
    skipGap false (written ++ rest) = some (written ++ rest) := by
  obtain ⟨first, more, rfl, visible⟩ := is.visible
  exact skipGap_visible visible _

section Items

variable {depth fuel : Nat} {written s rest next : List Char} {v : Toml}

theorem itemsUpTo_end (gap : skipGap false s = some (']' :: rest)) :
    itemsUpTo ']' (value depth) (fuel + 1) s = some ([], rest) := by
  rw [itemsUpTo, gap]
  rfl

theorem itemsUpTo_comma (is : Written depth written v) (inside : written.head? ≠ some ']')
    (gap : skipGap false s = some (written ++ ',' :: next)) :
    itemsUpTo ']' (value depth) (fuel + 1) s =
      (itemsUpTo ']' (value depth) fuel next).map fun (xs, rest) => (v :: xs, rest) := by
  obtain ⟨first, more, rfl, visible⟩ := is.visible
  have other : first ≠ ']' := by simpa using inside
  have read := is.read ⟨',', next, rfl, by decide⟩
  have comma : skipGap false (',' :: next) = some (',' :: next) := skipGap_visible (by decide) next
  rw [itemsUpTo, gap]
  simp only [List.cons_append] at read ⊢
  simp only [if_neg other, read, comma]
  rfl

theorem itemsUpTo_last (is : Written depth written v) (inside : written.head? ≠ some ']')
    (gap : skipGap false s = some (written ++ ']' :: rest)) :
    itemsUpTo ']' (value depth) (fuel + 1) s = some ([v], rest) := by
  obtain ⟨first, more, rfl, visible⟩ := is.visible
  have other : first ≠ ']' := by simpa using inside
  have read := is.read ⟨']', rest, rfl, by decide⟩
  have close : skipGap false (']' :: rest) = some (']' :: rest) := skipGap_visible (by decide) rest
  rw [itemsUpTo, gap]
  simp only [List.cons_append] at read ⊢
  simp only [if_neg other, read, close]
  rfl

end Items

theorem quoted_head?_ne (text : String) : (quoted text).head? ≠ some ']' := by
  obtain ⟨quote, more, same, rfl | rfl⟩ := quoted_starts text <;> simp [same]

/-- The lines of an array with one item each. -/
def itemLines (texts : List String) : List Char :=
  texts.flatMap fun text => [' ', ' ', ' ', ' '] ++ quoted text ++ [',', '\n']

theorem itemLines_cons (text : String) (texts : List String) :
    itemLines (text :: texts) =
      ' ' :: ' ' :: ' ' :: ' ' :: (quoted text ++ ',' :: '\n' :: itemLines texts) := by
  simp [itemLines]

theorem length_le_itemLines (texts : List String) : texts.length ≤ (itemLines texts).length := by
  induction texts with
  | nil => exact Nat.zero_le _
  | cons text texts ih =>
      rw [itemLines_cons]
      simp only [List.length_cons, List.length_append]
      omega

theorem itemsUpTo_lines (depth : Nat) (texts : List String) (rest : List Char) {fuel : Nat}
    (enough : texts.length < fuel) :
    itemsUpTo ']' (value depth) fuel ('\n' :: (itemLines texts ++ ']' :: rest)) =
      some (texts.map .string, rest) := by
  induction texts generalizing fuel with
  | nil =>
      obtain ⟨fuel, rfl⟩ := Nat.exists_eq_add_of_lt enough
      exact itemsUpTo_end rfl
  | cons text texts ih =>
      obtain ⟨fuel, rfl⟩ := Nat.exists_eq_add_of_lt enough
      have gap : ∀ s, skipGap false ('\n' :: ' ' :: ' ' :: ' ' :: ' ' :: (quoted text ++ s)) =
          some (quoted text ++ s) := by
        intro s
        rw [← (written_quoted depth text).skipGap_eq s]
        rfl
      simp only [itemLines_cons, List.append_assoc, List.cons_append]
      rw [itemsUpTo_comma (written_quoted depth text) (quoted_head?_ne text) (gap _), ih]
      · rfl
      · rw [List.length_cons]
        omega

theorem written_of_items {depth : Nat} {inside : List Char} {values : List Toml}
    (read : ∀ rest, items ']' (value depth) (inside ++ rest) = some (values, rest)) :
    Written (depth + 1) ('[' :: inside) (.array values) where
  visible := ⟨'[', inside, rfl, by decide⟩
  read {rest} _ := by
    show ((items ']' (value depth) (inside ++ rest)).map _) = _
    rw [read]
    rfl

/-- An array of strings is read in each of its layouts. -/
theorem written_quotedList (depth : Nat) (texts : List String) :
    Written (depth + 1) (quotedList texts) (.array (texts.map .string)) := by
  match texts with
  | [] => exact written_of_items fun rest => itemsUpTo_end rfl
  | [text] =>
      show Written _ ('[' :: (quoted text ++ [']'])) _
      refine written_of_items fun rest => ?_
      rw [List.append_assoc]
      exact itemsUpTo_last (written_quoted depth text) (quoted_head?_ne text)
        ((written_quoted depth text).skipGap_eq _)
  | first :: second :: texts =>
      show Written _ ('[' :: '\n' :: (itemLines (first :: second :: texts) ++ [']'])) _
      refine written_of_items fun rest => ?_
      rw [List.cons_append, List.append_assoc]
      refine itemsUpTo_lines depth _ rest ?_
      have fits := length_le_itemLines (first :: second :: texts)
      simp only [List.length_cons, List.length_append] at fits ⊢
      omega

end TomlText

end Winnow
