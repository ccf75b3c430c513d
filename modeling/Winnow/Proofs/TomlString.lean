import Mathlib.Data.List.TakeWhile
import Winnow.Proofs.Scanning
import Winnow.Toml.Printer

/-! # Printed TOML strings

A string is read as itself from each of the four forms in which it may be printed, with any quotes,
backslashes, line breaks and control characters in it.
-/

namespace Winnow.TomlText

open Text

/-! ## Strings of a form -/

namespace StringForm

/-- A text spells characters up to the closing mark of a form. -/
inductive Spells (form : StringForm) (rest : List Char) : List Char → List Char → Prop where
  /-- The closing mark stands here. -/
  | close {s last : List Char} (closes : form.close s = some (last, rest)) : Spells form rest s last
  /-- A step of the form stands in front. -/
  | step {s s' cs more : List Char} (opens : form.close s = none)
      (steps : form.step s = some (cs, s')) (shorter : s'.length < s.length)
      (later : Spells form rest s' more) : Spells form rest s (cs ++ more)

theorem body_of_spells {form : StringForm} {rest s cs : List Char}
    (spells : form.Spells rest s cs) {fuel : Nat} (enough : s.length < fuel) :
    form.body fuel s = some (cs, rest) := by
  induction spells generalizing fuel with
  | close closes =>
      obtain ⟨fuel, rfl⟩ := Nat.exists_eq_add_of_lt enough
      rw [body, closes]
  | step opens steps shorter _ ih =>
      obtain ⟨fuel, rfl⟩ := Nat.exists_eq_add_of_lt enough
      rw [body, opens]
      simp only [steps, ih (Nat.lt_of_lt_of_le shorter (Nat.le_add_right _ _)), Option.map_some]

theorem read_of_spells {form : StringForm} {rest s cs : List Char}
    (spells : form.Spells rest s cs) : form.read s = some (String.ofList cs, rest) := by
  rw [read, body_of_spells spells (Nat.lt_succ_self _)]
  rfl

theorem Spells.cons {form : StringForm} {rest tail more : List Char} {c : Char}
    (piece : List Char) (nonempty : piece ≠ []) (opens : form.close (piece ++ tail) = none)
    (steps : form.step (piece ++ tail) = some ([c], tail))
    (later : form.Spells rest tail more) : form.Spells rest (piece ++ tail) (c :: more) := by
  refine .step opens steps ?_ later
  have longer := List.length_pos_iff.mpr nonempty
  rw [List.length_append]
  omega

end StringForm

/-! ## Characters -/

theorem hexDigit_upperHex : ∀ n < 16, hexDigit (upperHex n) = some n := by
  decide

theorem numericEscape_code {c : Char} (small : c.toNat < 256) (rest : List Char) :
    numericEscape 0 4 ('0' :: '0' :: upperHex (c.toNat / 16) :: upperHex (c.toNat % 16) :: rest) =
      some (c, rest) := by
  have zero : hexDigit '0' = some 0 := by decide
  have first := hexDigit_upperHex (c.toNat / 16) (by omega)
  have second := hexDigit_upperHex (c.toNat % 16) (by omega)
  have code : c.toNat / 16 * 16 + c.toNat % 16 = c.toNat := by omega
  have valid : c.toNat.isValidChar := c.valid
  simp [numericEscape, zero, first, second, code, valid]

theorem escapedChar_eq_or (c : Char) :
    (escapedChar c = [c] ∧ isPlain c = true ∧ c ≠ '\\') ∨
      ∃ letter more, escapedChar c = '\\' :: letter :: more ∧
        isSpace letter = false ∧ letter ≠ '\n' ∧ letter ≠ '\r' ∧
        ∀ rest, escape (letter :: (more ++ rest)) = some (c, rest) := by
  unfold escapedChar
  split
  iterate 5 exact .inr ⟨_, _, rfl, by decide, by decide, by decide, fun _ => rfl⟩
  next noBackslash _ _ _ _ =>
    split
    · next plain => exact .inl ⟨rfl, plain, noBackslash⟩
    · next control =>
      have small : c.toNat < 256 := by
        by_contra large
        refine control ?_
        have high : c ≠ '\x7f' := by
          rintro rfl
          exact large (by decide)
        simp only [isPlain, Bool.or_eq_true, Bool.and_eq_true, decide_eq_true_eq, bne_iff_ne]
        exact .inr ⟨by omega, high⟩
      exact .inr ⟨'u', _, rfl, by decide, by decide, by decide, numericEscape_code small⟩

theorem ne_break_of_isPlain {c : Char} (plain : isPlain c = true) : c ≠ '\n' ∧ c ≠ '\r' := by
  constructor <;> rintro rfl <;> exact absurd plain (by decide)

theorem plainStep_of_isPlain {c : Char} (plain : isPlain c = true) (rest : List Char) :
    plainStep (c :: rest) = some ([c], rest) :=
  if_pos plain

theorem lineBreak_of_ne {c : Char} (noFeed : c ≠ '\n') (noReturn : c ≠ '\r') (rest : List Char) :
    lineBreak (c :: rest) = none := by
  unfold lineBreak
  split <;> simp_all

theorem escapedStep_escapedChar (c : Char) (rest : List Char) :
    escapedStep (escapedChar c ++ rest) = some ([c], rest) := by
  obtain ⟨same, plain, other⟩ | ⟨letter, more, same, _, _, _, escaped⟩ := escapedChar_eq_or c
  · rw [same, List.singleton_append, escapedStep, plainStep_of_isPlain plain]
    simpa using other
  · rw [same, List.cons_append, List.cons_append, escapedStep, escaped]
    rfl

theorem escapedLineStep_escapedChar (c : Char) (rest : List Char) :
    escapedLineStep (escapedChar c ++ rest) = some ([c], rest) := by
  obtain ⟨same, plain, other⟩ | ⟨letter, more, same, visible, feed, ret, escaped⟩ :=
    escapedChar_eq_or c
  · have noBreak := ne_break_of_isPlain plain
    rw [same, List.singleton_append, escapedLineStep, lineBreak_of_ne noBreak.1 noBreak.2,
      plainStep_of_isPlain plain]
    · rfl
    · simpa using other
  · have first : skipSpace (letter :: (more ++ rest)) = letter :: (more ++ rest) :=
      List.dropWhile_cons_of_neg (by simp [visible])
    rw [same, List.cons_append, List.cons_append, escapedLineStep, first,
      lineBreak_of_ne feed ret, escaped]
    rfl

theorem escapedChar_eq_cons (c : Char) : ∃ first more, escapedChar c = first :: more ∧
    (c ≠ '"' → first ≠ '"') ∧ first ≠ '\n' ∧ first ≠ '\r' := by
  obtain ⟨same, plain, _⟩ | ⟨letter, more, same, _⟩ := escapedChar_eq_or c
  · exact ⟨c, [], same, id, ne_break_of_isPlain plain⟩
  · exact ⟨'\\', letter :: more, same, fun _ => by decide, by decide, by decide⟩

/-! ## Strings on one line -/

theorem closeSingle_of_ne {c quote : Char} (other : c ≠ quote) (rest : List Char) :
    closeSingle quote (c :: rest) = none :=
  if_neg other

theorem closeSingle_self (quote : Char) (rest : List Char) :
    closeSingle quote (quote :: rest) = some ([], rest) :=
  if_pos rfl

theorem basic_spells (s rest : List Char) :
    StringForm.basic.Spells rest (escapedLine s ++ '"' :: rest) s := by
  induction s with
  | nil => exact .close (closeSingle_self '"' rest)
  | cons c s ih =>
      rw [escapedLine, List.flatMap_cons, List.append_assoc]
      by_cases quote : c = '"'
      · subst quote
        exact .cons _ (List.cons_ne_nil _ _) rfl rfl ih
      · rw [if_neg quote]
        by_cases feed : c = '\n'
        · subst feed
          exact .cons _ (List.cons_ne_nil _ _) rfl rfl ih
        · rw [if_neg feed]
          obtain ⟨first, others, same, other, _⟩ := escapedChar_eq_cons c
          have steps := escapedStep_escapedChar c (escapedLine s ++ '"' :: rest)
          rw [same] at steps ⊢
          exact .cons _ (List.cons_ne_nil _ _) (closeSingle_of_ne (other quote) _) steps ih

theorem literal_spells {s : List Char} (plain : ∀ c ∈ s, isPlain c = true)
    (unquoted : '\'' ∉ s) (rest : List Char) :
    StringForm.literal.Spells rest (s ++ '\'' :: rest) s := by
  induction s with
  | nil => exact .close (closeSingle_self '\'' rest)
  | cons c s ih =>
      obtain ⟨here, others⟩ := List.forall_mem_cons.mp plain
      rw [List.mem_cons, not_or] at unquoted
      exact .cons [c] (List.cons_ne_nil _ _) (closeSingle_of_ne (Ne.symm unquoted.1) _)
        (plainStep_of_isPlain here _) (ih others unquoted.2)

/-! ## Strings in triple quotes -/

section Triple

variable {quote : Char} {rest : List Char}

theorem closeTriple_of_few {s : List Char} (few : (s.takeWhile (· == quote)).length ≤ 2) :
    closeTriple quote s = none :=
  if_pos (Nat.lt_succ_of_le few)

/-- Three quotes close a string, and up to two in front of them belong to it. -/
theorem closeTriple_append {s : List Char} (few : (s.takeWhile (· == quote)).length ≤ 2)
    (stops : Stops (· == quote) rest) :
    closeTriple quote (s ++ (triple quote ++ rest)) =
      if s.all (· == quote) then some (s, rest) else none := by
  split
  · next all =>
    have quotes : ∀ c ∈ s, (c == quote) = true := List.all_eq_true.mp all
    have run : (s ++ (triple quote ++ rest)).takeWhile (· == quote) = s ++ triple quote := by
      rw [List.takeWhile_append_of_pos quotes, List.takeWhile_append_of_pos (by simp [triple]),
        stops.takeWhile_eq, List.append_nil]
    have short : s.length ≤ 2 := by
      rwa [List.takeWhile_eq_self_iff.mpr quotes] at few
    have same : List.replicate s.length quote = s :=
      (List.eq_replicate_iff.mpr ⟨rfl, fun c member => eq_of_beq (quotes c member)⟩).symm
    have size : (s ++ triple quote).length = s.length + 3 := by simp [triple]
    have behind : (s ++ (triple quote ++ rest)).drop (s.length + 3) = rest := by
      rw [← List.append_assoc, ← size, List.drop_left]
    simp only [closeTriple, run, size]
    rw [if_neg (by omega), Nat.add_sub_cancel, Nat.min_eq_left short, same, behind]
  · next other =>
    -- The run of quotes ends inside the text, so the mark behind it doesn't count.
    refine closeTriple_of_few ?_
    have shorter : (s.takeWhile (· == quote)).length ≠ s.length := by
      intro whole
      have same := (List.takeWhile_sublist (· == quote)).eq_of_length whole
      exact other (List.all_eq_true.mpr (List.takeWhile_eq_self_iff.mp same))
    rwa [List.takeWhile_append, if_neg shorter]

theorem escapedLines_run_le {run : Nat} (few : run ≤ 2) (s : List Char) :
    run + ((escapedLines run s).takeWhile (· == '"')).length ≤ 2 := by
  induction s generalizing run with
  | nil => simpa [escapedLines] using few
  | cons c s ih =>
      rw [escapedLines]
      split
      · split
        · next less =>
          have later : run + 1 + ((escapedLines (run + 1) s).takeWhile (· == '"')).length ≤ 2 :=
            ih less
          rw [List.takeWhile_cons_of_pos rfl, List.length_cons]
          omega
        · simpa using few
      · split
        · simpa using few
        · next other _ =>
          obtain ⟨first, more, same, unquoted, _⟩ := escapedChar_eq_cons c
          rw [same, List.cons_append, List.takeWhile_cons_of_neg (by simpa using unquoted other)]
          simpa using few

theorem escapedLines_eq_of_all {run : Nat} {s : List Char}
    (all : (escapedLines run s).all (· == '"') = true) : escapedLines run s = s := by
  induction s generalizing run with
  | nil => rfl
  | cons c s ih =>
      rw [escapedLines] at all ⊢
      split at all
      · next quote =>
        subst quote
        split at all
        · next less =>
          rw [if_pos rfl, if_pos less, ih (by simpa using all)]
        · simp at all
      · split at all
        · simp at all
        · next other _ =>
          obtain ⟨first, more, same, unquoted, _⟩ := escapedChar_eq_cons c
          rw [same, List.cons_append, List.all_cons, Bool.and_eq_true, beq_iff_eq] at all
          exact absurd all.1 (unquoted other)

theorem basicLines_spells (stops : Stops (· == '"') rest) {run : Nat} (few : run ≤ 2)
    (s : List Char) :
    StringForm.basicLines.Spells rest (escapedLines run s ++ (triple '"' ++ rest)) s := by
  have close {run : Nat} (few : run ≤ 2) (s : List Char) :=
    closeTriple_append (s := escapedLines run s)
      (Nat.le_of_add_left_le (escapedLines_run_le few s)) stops
  induction s generalizing run with
  | nil => exact .close (close few [])
  | cons c s ih =>
      -- Quotes at the very end are read together with the closing mark, not one by one.
      have here := close few (c :: s)
      split at here
      · next all =>
        rw [escapedLines_eq_of_all all] at here ⊢
        exact .close here
      · rw [escapedLines] at here ⊢
        split
        · next quote =>
          subst quote
          rw [if_pos rfl] at here
          split
          · next less =>
            rw [if_pos less] at here
            exact .cons ['"'] (List.cons_ne_nil _ _) here rfl (ih less)
          · next more =>
            rw [if_neg more] at here
            exact .cons ['\\', '"'] (List.cons_ne_nil _ _) here rfl (ih (Nat.zero_le _))
        · next other =>
          rw [if_neg other] at here
          split
          · next feed =>
            subst feed
            exact .cons ['\n'] (List.cons_ne_nil _ _) here rfl (ih (Nat.zero_le _))
          · next plain =>
            rw [if_neg plain, List.append_assoc] at here
            rw [List.append_assoc]
            obtain ⟨first, more, same, _⟩ := escapedChar_eq_cons c
            refine .cons _ ?_ here (escapedLineStep_escapedChar c _) (ih (Nat.zero_le _))
            rw [same]
            exact List.cons_ne_nil _ _

theorem run_add_le_longestRun (c : Char) (run : Nat) (s : List Char) :
    run + (s.takeWhile (· == c)).length ≤ longestRun c run s := by
  induction s generalizing run with
  | nil => exact Nat.le_refl _
  | cons x s ih =>
      rw [longestRun]
      split
      · next same =>
        have later := ih (run + 1)
        rw [List.takeWhile_cons_of_pos (by simpa using same), List.length_cons]
        omega
      · next other =>
        rw [List.takeWhile_cons_of_neg (by simpa using other)]
        exact Nat.le_max_left _ _

theorem longestRun_mono {run more : Nat} (less : run ≤ more) (c : Char) (s : List Char) :
    longestRun c run s ≤ longestRun c more s := by
  induction s generalizing run more with
  | nil => exact less
  | cons x s ih =>
      rw [longestRun, longestRun]
      split
      · exact ih (Nat.succ_le_succ less)
      · omega

theorem longestRun_tail_le (c x : Char) (run : Nat) (s : List Char) :
    longestRun c 0 s ≤ longestRun c run (x :: s) := by
  rw [longestRun]
  split
  · exact longestRun_mono (Nat.zero_le _) c s
  · exact Nat.le_max_right _ _

theorem not_mem_of_longestRun {c : Char} {s : List Char} (none : longestRun c 0 s = 0) :
    c ∉ s := by
  induction s with
  | nil => exact List.not_mem_nil
  | cons x s ih =>
      have later := longestRun_tail_le c x 0 s
      have first := run_add_le_longestRun c 0 (x :: s)
      rw [none] at later first
      rw [List.mem_cons, not_or]
      refine ⟨?_, ih (Nat.le_zero.mp later)⟩
      rintro rfl
      simp at first

theorem literalLines_spells (stops : Stops (· == '\'') rest) {s : List Char}
    (plain : ∀ c ∈ s, isPlain c = true ∨ c = '\n') (few : longestRun '\'' 0 s ≤ 2) :
    StringForm.literalLines.Spells rest (s ++ (triple '\'' ++ rest)) s := by
  have close {s : List Char} (few : longestRun '\'' 0 s ≤ 2) :=
    closeTriple_append (s := s)
      (Nat.le_trans (Nat.le_of_add_left_le (run_add_le_longestRun '\'' 0 s)) few) stops
  induction s with
  | nil => exact .close (close few)
  | cons c s ih =>
      have here := close few
      obtain ⟨plainHere, others⟩ := List.forall_mem_cons.mp plain
      split at here
      · exact .close here
      · refine .cons [c] (List.cons_ne_nil _ _) here ?_
          (ih others (Nat.le_trans (longestRun_tail_le _ _ _ _) few))
        show plainLineStep (c :: (s ++ (triple '\'' ++ rest))) = _
        rcases plainHere with own | rfl
        · have noBreak := ne_break_of_isPlain own
          rw [plainLineStep, lineBreak_of_ne noBreak.1 noBreak.2, plainStep_of_isPlain own]
          rfl
        · rfl

end Triple

/-! ## Strings of every form -/

/-- What follows a string doesn't start with a quote. -/
def Unquoted (rest : List Char) : Prop :=
  Stops (fun c => c == '"' || c == '\'') rest

theorem Unquoted.double {rest : List Char} (unquoted : Unquoted rest) : Stops (· == '"') rest := by
  intro c first
  have neither := unquoted c first
  simp only [Bool.or_eq_false_iff] at neither
  exact neither.1

theorem Unquoted.single {rest : List Char} (unquoted : Unquoted rest) :
    Stops (· == '\'') rest := by
  intro c first
  have neither := unquoted c first
  simp only [Bool.or_eq_false_iff] at neither
  exact neither.2

theorem string_double {s : List Char} (few : ¬ ['"', '"'] <+: s) :
    string ('"' :: s) = StringForm.basic.read s := by
  unfold string
  split
  · next rest same =>
    cases same
    exact absurd ⟨rest, rfl⟩ few
  · next same =>
    cases same
    rfl
  · next same => cases same
  · next same => cases same
  · next double _ _ => exact absurd rfl (double s)

theorem string_single {s : List Char} (few : ¬ ['\'', '\''] <+: s) :
    string ('\'' :: s) = StringForm.literal.read s := by
  unfold string
  split
  · next same => cases same
  · next same => cases same
  · next rest same =>
    cases same
    exact absurd ⟨rest, rfl⟩ few
  · next same =>
    cases same
    rfl
  · next single => exact absurd rfl (single s)

theorem isPlain_or_break {s : List Char}
    (printable : (s.all fun c => isPlain c || c == '\n') = true) :
    ∀ c ∈ s, isPlain c = true ∨ c = '\n' := by
  intro c member
  simpa using List.all_eq_true.mp printable c member

theorem quoting_literal {s : List Char} (form : quoting s = .literal) :
    (∀ c ∈ s, isPlain c = true) ∧ '\'' ∉ s := by
  simp only [quoting] at form
  split_ifs at form with _ conditions
  obtain ⟨printable, singles, noBreak⟩ := conditions
  refine ⟨fun c member => ?_, not_mem_of_longestRun singles⟩
  refine (isPlain_or_break printable c member).resolve_right ?_
  rintro rfl
  exact noBreak (List.contains_iff_mem.mpr member)

theorem quoting_literalLines {s : List Char} (form : quoting s = .literalLines) :
    (∀ c ∈ s, isPlain c = true ∨ c = '\n') ∧ longestRun '\'' 0 s ≤ 2 := by
  simp only [quoting] at form
  split_ifs at form with _ _ _ conditions
  exact ⟨isPlain_or_break conditions.1, conditions.2⟩

theorem skipLineBreak_start {s inside : List Char}
    (starts : ∃ first more, inside = first :: more ∧
      ('\n' ∉ s → first ≠ '\n' ∧ first ≠ '\r')) :
    skipLineBreak ((if s.contains '\n' then ['\n'] else []) ++ inside) = inside := by
  obtain ⟨first, more, rfl, same⟩ := starts
  split
  · rfl
  · next noBreak =>
    obtain ⟨feed, ret⟩ := same fun member => noBreak (List.contains_iff_mem.mpr member)
    rw [List.nil_append, skipLineBreak, lineBreak_of_ne feed ret]

theorem escapedLines_starts (s rest : List Char) :
    ∃ first more, escapedLines 0 s ++ (triple '"' ++ rest) = first :: more ∧
      ('\n' ∉ s → first ≠ '\n' ∧ first ≠ '\r') := by
  cases s with
  | nil => exact ⟨'"', _, rfl, fun _ => by decide⟩
  | cons c s =>
      rw [escapedLines]
      split
      · exact ⟨'"', _, rfl, fun _ => by decide⟩
      · split
        · next feed => exact ⟨'\n', _, rfl, fun none => absurd (by simp [feed]) none⟩
        · obtain ⟨first, more, same, _, noBreak⟩ := escapedChar_eq_cons c
          rw [same]
          exact ⟨first, _, rfl, fun _ => noBreak⟩

theorem literalLines_starts {s : List Char} (plain : ∀ c ∈ s, isPlain c = true ∨ c = '\n')
    (rest : List Char) :
    ∃ first more, s ++ (triple '\'' ++ rest) = first :: more ∧
      ('\n' ∉ s → first ≠ '\n' ∧ first ≠ '\r') := by
  cases s with
  | nil => exact ⟨'\'', _, rfl, fun _ => by decide⟩
  | cons c s =>
      refine ⟨c, _, rfl, fun none => ne_break_of_isPlain ?_⟩
      refine (plain c List.mem_cons_self).resolve_right ?_
      rintro rfl
      exact none List.mem_cons_self

theorem not_two_quotes {quote : Char} {inside rest : List Char}
    (first : inside.head? ≠ some quote) (stops : Stops (· == quote) rest) :
    ¬ [quote, quote] <+: inside ++ quote :: rest := by
  rintro ⟨more, same⟩
  cases inside with
  | nil =>
      have next : rest = quote :: more := (List.cons.inj same).2.symm
      simp [next, stops_cons] at stops
  | cons c inside =>
      have next : c = quote := (List.cons.inj same).1.symm
      exact first (by rw [next]; rfl)

theorem escapedLine_head?_ne (s : List Char) : (escapedLine s).head? ≠ some '"' := by
  cases s with
  | nil => simp [escapedLine]
  | cons c s =>
      rw [escapedLine, List.flatMap_cons]
      split
      · simp
      · next other =>
        split
        · simp
        · obtain ⟨first, more, same, unquoted, _⟩ := escapedChar_eq_cons c
          simpa [same] using unquoted other

/-- A string is read from the form in which it is printed. -/
theorem string_quoted (text : String) {rest : List Char} (unquoted : Unquoted rest) :
    string (quoted text ++ rest) = some (text, rest) := by
  rw [quoted]
  generalize form : quoting text.toList = chosen
  cases chosen with
  | basic =>
      have read := StringForm.read_of_spells (basic_spells text.toList rest)
      rw [← string_double (not_two_quotes (escapedLine_head?_ne _) unquoted.double)] at read
      simpa [quotedAs] using read
  | literal =>
      obtain ⟨plain, none⟩ := quoting_literal form
      have read := StringForm.read_of_spells (literal_spells plain none rest)
      have first : text.toList.head? ≠ some '\'' := fun first => none (List.mem_of_head? first)
      rw [← string_single (not_two_quotes first unquoted.single)] at read
      simpa [quotedAs] using read
  | basicLines =>
      have read := StringForm.read_of_spells
        (basicLines_spells unquoted.double (Nat.zero_le 2) text.toList)
      rw [← skipLineBreak_start (escapedLines_starts text.toList rest), String.ofList_toList]
        at read
      simp only [quotedAs, List.append_assoc]
      exact read
  | literalLines =>
      obtain ⟨plain, few⟩ := quoting_literalLines form
      have read := StringForm.read_of_spells (literalLines_spells unquoted.single plain few)
      rw [← skipLineBreak_start (literalLines_starts plain rest), String.ofList_toList] at read
      simp only [quotedAs, List.append_assoc]
      exact read

end Winnow.TomlText
