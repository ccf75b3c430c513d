import Winnow.Proofs.Digits
import Winnow.Proofs.Splitting
import Winnow.Style.Highlight

/-! # Colours come off

A coloured text is the text with escape codes between its characters. Without them it is the text
again, if that holds no escape character itself.
-/

namespace Winnow

/-- A text with escape codes that set styles, and what it is without them. -/
inductive Styled : List Char → List Char → Prop where
  /-- The text has ended. -/
  | nil : Styled [] []
  /-- A character is shown. -/
  | char {c : Char} {styled bare : List Char} (shown : c ≠ '\x1b') (rest : Styled styled bare) :
      Styled (c :: styled) (c :: bare)
  /-- An escape code sets a style. -/
  | code {parameter styled bare : List Char}
      (numbers : parameter.all (fun d => d.isDigit || d == ';') = true)
      (rest : Styled styled bare) :
      Styled ('\x1b' :: '[' :: (parameter ++ 'm' :: styled)) bare

theorem withoutStyles_shown {c : Char} (shown : c ≠ '\x1b') (fuel : Nat) (rest : List Char) :
    withoutStyles (fuel + 1) (c :: rest) = c :: withoutStyles fuel rest := by
  rw [withoutStyles.eq_def]
  dsimp only
  split
  · split
    · rw [if_neg shown]
    · rfl
  · rfl

theorem withoutStyles_code {parameter : List Char}
    (numbers : parameter.all (fun d => d.isDigit || d == ';') = true) (fuel : Nat)
    (rest : List Char) :
    withoutStyles (fuel + 1) ('\x1b' :: '[' :: (parameter ++ 'm' :: rest)) =
      withoutStyles fuel rest := by
  have behind : (parameter ++ 'm' :: rest).dropWhile (fun d => d.isDigit || d == ';') =
      'm' :: rest := by
    rw [List.dropWhile_append_of_pos (List.all_eq_true.mp numbers)]
    exact List.dropWhile_cons_of_neg (by decide)
  rw [withoutStyles]
  simp only [behind, if_true]

namespace Styled

theorem withoutStyles_eq {styled bare : List Char} (is : Styled styled bare) {fuel : Nat}
    (enough : styled.length < fuel) : withoutStyles fuel styled = bare := by
  induction is generalizing fuel with
  | nil => cases fuel <;> rfl
  | char shown rest ih =>
      rw [List.length_cons] at enough
      obtain ⟨fuel, rfl⟩ := Nat.exists_eq_succ_of_ne_zero (Nat.ne_zero_of_lt enough)
      rw [withoutStyles_shown shown, ih (by omega)]
  | code numbers rest ih =>
      simp only [List.length_cons, List.length_append] at enough
      obtain ⟨fuel, rfl⟩ := Nat.exists_eq_succ_of_ne_zero (Nat.ne_zero_of_lt enough)
      rw [withoutStyles_code numbers, ih (by omega)]

theorem of_shown {text : List Char} (shown : '\x1b' ∉ text) : Styled text text := by
  induction text with
  | nil => exact .nil
  | cons c rest ih =>
      rw [List.mem_cons, not_or] at shown
      exact .char (Ne.symm shown.1) (ih shown.2)

theorem append {styled bare styled' bare' : List Char} (first : Styled styled bare)
    (second : Styled styled' bare') : Styled (styled ++ styled') (bare ++ bare') := by
  induction first with
  | nil => exact second
  | char shown rest ih => exact .char shown ih
  | code numbers rest ih =>
      rw [List.cons_append, List.cons_append, List.append_assoc, List.cons_append]
      exact .code numbers ih

end Styled

theorem Colour.code_styled (colour : Colour) {styled bare : List Char}
    (rest : Styled styled bare) : Styled (colour.code.toList ++ styled) bare := by
  have digits : ∀ n : Nat, (Digits.text n).all (fun d => d.isDigit || d == ';') = true := by
    intro n
    rw [List.all_eq_true]
    intro d member
    rw [← Digits.isDigit_eq, Digits.isDigit_of_mem_text member, Bool.true_or]
  have parameter : ∃ numbers : List Char, numbers.all (fun d => d.isDigit || d == ';') = true ∧
      colour.code.toList = '\x1b' :: '[' :: (numbers ++ ['m']) := by
    refine ⟨"38;2;".toList ++ Text.join [';']
      ([colour.red, colour.green, colour.blue].map (Digits.text ·.toNat)), ?_, ?_⟩
    · simp only [List.map_cons, List.map_nil, Text.join, List.all_append, digits]
      decide
    · simp [code, StatusStyle.escapeCode]
  obtain ⟨numbers, numeric, same⟩ := parameter
  rw [same, List.cons_append, List.cons_append, List.append_assoc]
  exact .code numeric rest

theorem Colour.paint_styled {ranges : List (Colour × String)}
    (shown : '\x1b' ∉ (String.join (ranges.map (·.2))).toList) :
    Styled (String.join (ranges.map fun range => range.1.paint range.2)).toList
      (String.join (ranges.map (·.2))).toList := by
  induction ranges with
  | nil => exact .nil
  | cons range rest ih =>
      rw [List.map_cons, String.join_cons, String.toList_append, List.mem_append, not_or] at shown
      rw [List.map_cons, List.map_cons, String.join_cons, String.join_cons, String.toList_append,
        String.toList_append, paint, String.toList_append, List.append_assoc]
      exact range.1.code_styled ((Styled.of_shown shown.1).append (ih shown.2))

namespace Highlighter

variable (highlighter : Highlighter) (format : DocumentFormat)

theorem join_ranges (before : List String) (line : String) :
    String.join ((highlighter.ranges format before line).map (·.2)) = line := by
  rw [ranges]
  cases handled : highlighter.ranges? format before line with
  | none => simp
  | some ranges => exact highlighter.partition handled

theorem paintLine_styled {line : String} (before : List String) (shown : '\x1b' ∉ line.toList) :
    Styled (highlighter.paintLine format before line).toList line.toList := by
  have whole := highlighter.join_ranges format before line
  rw [← whole] at shown
  have painted := Colour.paint_styled shown
  rwa [whole] at painted

theorem paintLines_styled {lines : List String} (before : List String)
    (shown : ∀ line ∈ lines, '\x1b' ∉ line.toList) :
    Styled (highlighter.paintLines format before lines).toList
      (lines.flatMap String.toList) := by
  induction lines generalizing before with
  | nil => exact .nil
  | cons line rest ih =>
      obtain ⟨first, others⟩ := List.forall_mem_cons.mp shown
      rw [paintLines, String.toList_append, List.flatMap_cons]
      exact (highlighter.paintLine_styled format before first).append (ih _ others)

end Highlighter

/-- A text in colours is the text with escape codes in it, whatever the colours are. -/
theorem DocumentFormat.highlight_styled (format : DocumentFormat) (highlighter : Highlighter)
    {text : String} (shown : '\x1b' ∉ text.toList) :
    Styled (format.highlight text highlighter).toList text.toList := by
  have whole : ((Text.lines text.toList).map String.ofList).flatMap String.toList =
      text.toList := by
    rw [List.flatMap_map]
    simp only [String.toList_ofList, List.flatMap_id']
    exact Text.flatten_lines text.toList
  have unescaped : ∀ line ∈ (Text.lines text.toList).map String.ofList, '\x1b' ∉ line.toList := by
    intro line member escaped
    apply shown
    rw [← whole]
    exact List.mem_flatMap.mpr ⟨line, member, escaped⟩
  have painted := highlighter.paintLines_styled format [] unescaped
  have reset : Styled StatusStyle.reset.toList [] := @Styled.code ['0'] _ _ (by decide) .nil
  have both := painted.append reset
  rwa [whole, List.append_nil, ← String.toList_append] at both

end Winnow
