import Winnow.Proofs.Conservation
import Winnow.Proofs.Digits
import Winnow.Proofs.RangeValues

/-! # The form of range bounds

Behind its mark, a bound is a number or a date. The digits of a number and of a year may be
decimal digits of any script; months and days only have the digits 0 to 9. So a reader that knows
no other digits understands the bounds of a filter exactly if its values are plain ASCII.
-/

namespace Winnow

/-! ## ASCII digits -/

/-- Whether a character is one of the first 128. -/
def isAscii (c : Char) : Bool :=
  c.toNat < 128

theorem isDigit_iff {c : Char} :
    Digits.isDigit c = true ↔ isDecimalDigit c = true ∧ isAscii c = true := by
  -- The digits of the other scripts come behind the first 128 characters.
  have scripts : ∀ range ∈ decimalDigitRanges, range = (48, 57) ∨ 128 ≤ range.1 := by
    decide +kernel
  constructor
  · intro digit
    obtain ⟨low, high⟩ := Digits.bounds_of_isDigit digit
    have ascii : c.toNat < 128 := by omega
    exact ⟨isDecimalDigit_of_bounds low high, decide_eq_true ascii⟩
  · rintro ⟨decimal, ascii⟩
    obtain ⟨range, member, low, high⟩ := CodeRange.exists_of_covers decimal
    rcases scripts range member with rfl | foreign
    · simpa [Digits.isDigit, Char.le_def, UInt32.le_iff_toNat_le] using And.intro low high
    · have small : c.toNat < 128 := of_decide_eq_true ascii
      omega

/-- A number below a hundred in two digits. -/
def twoDigits (n : Nat) : List Char :=
  [Nat.digitChar (n / 10), Nat.digitChar (n % 10)]

theorem isAscii_of_mem_twoDigits {n : Nat} (small : n < 100) {c : Char}
    (member : c ∈ twoDigits n) : isAscii c = true := by
  have digit : ∀ k < 10, isAscii (Nat.digitChar k) = true := by decide
  rcases List.mem_pair.mp member with rfl | rfl
  · exact digit _ (by omega)
  · exact digit _ (by omega)

/-! ## Numbers and dates -/

/-- The texts of numbers in digits of some kind. -/
inductive IsNumeral (digit : Char → Bool) : List Char → Prop where
  /-- Digits alone. -/
  | whole {digits : List Char} (nonempty : digits ≠ []) (all : ∀ c ∈ digits, digit c = true) :
      IsNumeral digit digits
  /-- Digits with a point behind them, which more digits may follow. -/
  | pointed {digits decimals : List Char} (nonempty : digits ≠ [])
      (all : ∀ c ∈ digits, digit c = true) (allDecimals : ∀ c ∈ decimals, digit c = true) :
      IsNumeral digit (digits ++ '.' :: decimals)

/-- The texts of dates with a year in digits of some kind. -/
inductive IsCalendarDate (digit : Char → Bool) : List Char → Prop where
  /-- A year of four digits, a month of the year and a day of the month. -/
  | date {year : List Char} {month day : Nat} (four : year.length = 4)
      (all : ∀ c ∈ year, digit c = true) (inYear : 1 ≤ month ∧ month ≤ 12)
      (inMonth : 1 ≤ day ∧ day ≤ 31) :
      IsCalendarDate digit (year ++ '-' :: (twoDigits month ++ '-' :: twoDigits day))

theorem isNumeral_isDigit_iff {s : List Char} :
    IsNumeral Digits.isDigit s ↔ IsNumeral isDecimalDigit s ∧ ∀ c ∈ s, isAscii c = true := by
  constructor
  · intro numeral
    cases numeral with
    | whole nonempty all =>
        simp only [isDigit_iff, forall₂_and] at all
        exact ⟨.whole nonempty all.1, all.2⟩
    | pointed nonempty all allDecimals =>
        simp only [isDigit_iff, forall₂_and] at all allDecimals
        refine ⟨.pointed nonempty all.1 allDecimals.1, ?_⟩
        simp only [List.forall_mem_append, List.forall_mem_cons]
        exact ⟨all.2, by decide, allDecimals.2⟩
  · rintro ⟨numeral, ascii⟩
    cases numeral with
    | whole nonempty all =>
        exact .whole nonempty fun c member => isDigit_iff.mpr ⟨all c member, ascii c member⟩
    | pointed nonempty all allDecimals =>
        simp only [List.forall_mem_append, List.forall_mem_cons] at ascii
        obtain ⟨before, _, behind⟩ := ascii
        exact .pointed nonempty
          (fun c member => isDigit_iff.mpr ⟨all c member, before c member⟩)
          (fun c member => isDigit_iff.mpr ⟨allDecimals c member, behind c member⟩)

theorem isCalendarDate_isDigit_iff {s : List Char} :
    IsCalendarDate Digits.isDigit s ↔
      IsCalendarDate isDecimalDigit s ∧ ∀ c ∈ s, isAscii c = true := by
  constructor
  · rintro ⟨four, all, inYear, inMonth⟩
    simp only [isDigit_iff, forall₂_and] at all
    refine ⟨.date four all.1 inYear inMonth, ?_⟩
    simp only [List.forall_mem_append, List.forall_mem_cons]
    exact ⟨all.2, by decide, fun _ => isAscii_of_mem_twoDigits (by omega), by decide,
      fun _ => isAscii_of_mem_twoDigits (by omega)⟩
  · rintro ⟨⟨four, all, inYear, inMonth⟩, ascii⟩
    rw [List.forall_mem_append] at ascii
    refine .date four ?_ inYear inMonth
    exact fun c member => isDigit_iff.mpr ⟨all c member, ascii.1 c member⟩

namespace ValueMask

/-- What a bound is written as behind its mark, in digits of some kind. -/
def Writes (digit : Char → Bool) : ValueMask → List Char → Prop
  | number => IsNumeral digit
  | date => IsCalendarDate digit

theorem writes_isDigit_iff {mask : ValueMask} {s : List Char} :
    mask.Writes Digits.isDigit s ↔
      mask.Writes isDecimalDigit s ∧ ∀ c ∈ s, isAscii c = true := by
  cases mask with
  | number => exact isNumeral_isDigit_iff
  | date => exact isCalendarDate_isDigit_iff

end ValueMask

/-! ## Masks -/

namespace CharClass

/-- Whether the characters of a class are the digits of the numbers from `low` to `high`. -/
def Spans (cls : CharClass) (low high : Nat) : Prop :=
  ∀ c, cls.holds c = true ↔ ∃ n, low ≤ n ∧ n ≤ high ∧ c = Nat.digitChar n

theorem spans_only (n : Nat) : (only (Nat.digitChar n)).Spans n n := by
  intro c
  simp only [holds, beq_iff_eq]
  constructor
  · rintro rfl
    exact ⟨n, Nat.le_refl n, Nat.le_refl n, rfl⟩
  · rintro ⟨m, low, high, rfl⟩
    rw [Nat.le_antisymm high low]

theorem spans_among (n : Nat) : (among [Nat.digitChar n, Nat.digitChar (n + 1)]).Spans n (n + 1) := by
  intro c
  simp only [holds, List.contains_iff_mem, List.mem_pair]
  constructor
  · rintro (rfl | rfl)
    · exact ⟨n, by omega, by omega, rfl⟩
    · exact ⟨n + 1, by omega, by omega, rfl⟩
  · rintro ⟨m, low, high, rfl⟩
    rcases Nat.eq_or_lt_of_le low with rfl | above
    · exact .inl rfl
    · exact .inr (by rw [show m = n + 1 by omega])

theorem spans_between {low high : Nat} (ordered : low ≤ high) (small : high < 10) :
    (between (Nat.digitChar low) (Nat.digitChar high)).Spans low high := by
  intro c
  have first : (Nat.digitChar low).toNat = 48 + low :=
    Nat.toNat_digitChar_of_lt_ten (by omega)
  have last : (Nat.digitChar high).toNat = 48 + high := Nat.toNat_digitChar_of_lt_ten small
  simp only [holds, first, last, Bool.and_eq_true, decide_eq_true_eq]
  constructor
  · rintro ⟨above, below⟩
    refine ⟨c.toNat - 48, by omega, by omega, ?_⟩
    apply Char.toNat_inj.mp
    rw [Nat.toNat_digitChar_of_lt_ten (by omega)]
    omega
  · rintro ⟨n, above, below, rfl⟩
    rw [Nat.toNat_digitChar_of_lt_ten (by omega)]
    omega

end CharClass

namespace ValueMask

theorem matches_twoDigits {tens units : CharClass} {low high least most : Nat}
    (tensSpan : tens.Spans low high) (unitsSpan : units.Spans least most) (small : most < 10)
    {s : List Char} :
    (Pattern.seq (.one tens) (.one units)).Matches s ↔
      ∃ t u, (low ≤ t ∧ t ≤ high) ∧ (least ≤ u ∧ u ≤ most) ∧ s = twoDigits (10 * t + u) := by
  simp only [Pattern.matches_seq, Pattern.matches_one, tensSpan _, unitsSpan _]
  have written : ∀ t u, u < 10 → twoDigits (10 * t + u) = [Nat.digitChar t, Nat.digitChar u] := by
    intro t u small
    rw [twoDigits, show (10 * t + u) / 10 = t by omega, show (10 * t + u) % 10 = u by omega]
  constructor
  · rintro ⟨_, _, rfl, ⟨_, rfl, t, low, high, rfl⟩, _, rfl, u, least, most, rfl⟩
    exact ⟨t, u, ⟨low, high⟩, ⟨least, most⟩, (written t u (by omega)).symm⟩
  · rintro ⟨t, u, ⟨low, high⟩, ⟨least, most⟩, rfl⟩
    rw [written t u (by omega)]
    exact ⟨_, _, rfl, ⟨_, rfl, t, low, high, rfl⟩, _, rfl, u, least, most, rfl⟩

theorem matches_month {s : List Char} :
    month.Matches s ↔ ∃ n, (1 ≤ n ∧ n ≤ 12) ∧ s = twoDigits n := by
  -- The mask takes the months by their first digit.
  have early := @matches_twoDigits _ _ _ _ _ _ (CharClass.spans_only 0)
    (CharClass.spans_between (show 1 ≤ 9 by decide) (by decide)) (by decide) s
  have late := @matches_twoDigits _ _ _ _ _ _ (CharClass.spans_only 1)
    (CharClass.spans_between (show 0 ≤ 2 by decide) (by decide)) (by decide) s
  refine Pattern.matches_either.trans ((or_congr early late).trans ?_)
  constructor
  · rintro (⟨t, u, _, _, rfl⟩ | ⟨t, u, _, _, rfl⟩) <;> exact ⟨_, by omega, rfl⟩
  · rintro ⟨n, inYear, rfl⟩
    rcases Nat.lt_or_ge n 10 with single | double
    · exact .inl ⟨0, n, by omega, by omega, congrArg twoDigits (by omega)⟩
    · exact .inr ⟨1, n - 10, by omega, by omega, congrArg twoDigits (by omega)⟩

theorem matches_day {s : List Char} :
    day.Matches s ↔ ∃ n, (1 ≤ n ∧ n ≤ 31) ∧ s = twoDigits n := by
  have early := @matches_twoDigits _ _ _ _ _ _ (CharClass.spans_only 0)
    (CharClass.spans_between (show 1 ≤ 9 by decide) (by decide)) (by decide) s
  have middle := @matches_twoDigits _ _ _ _ _ _ (CharClass.spans_among 1)
    (CharClass.spans_between (show 0 ≤ 9 by decide) (by decide)) (by decide) s
  have late := @matches_twoDigits _ _ _ _ _ _ (CharClass.spans_only 3)
    (CharClass.spans_among 0) (by decide) s
  refine Pattern.matches_either.trans
    ((or_congr early (Pattern.matches_either.trans (or_congr middle late))).trans ?_)
  constructor
  · rintro (⟨t, u, _, _, rfl⟩ | ⟨t, u, _, _, rfl⟩ | ⟨t, u, _, _, rfl⟩) <;>
      exact ⟨_, by omega, rfl⟩
  · rintro ⟨n, inMonth, rfl⟩
    rcases Nat.lt_or_ge n 10 with single | double
    · exact .inl ⟨0, n, by omega, by omega, congrArg twoDigits (by omega)⟩
    rcases Nat.lt_or_ge n 30 with middle | late
    · exact .inr (.inl ⟨n / 10, n % 10, by omega, by omega, congrArg twoDigits (by omega)⟩)
    · exact .inr (.inr ⟨3, n - 30, by omega, by omega, congrArg twoDigits (by omega)⟩)

theorem matches_plain_number {s : List Char} :
    number.plain.Matches s ↔ IsNumeral isDecimalDigit s := by
  simp only [plain, bound, Pattern.matches_seq, Pattern.matches_optional]
  simp only [Pattern.matches_repeated, Repeat.Allows]
  constructor
  · rintro ⟨digits, _, rfl, ⟨all, nonempty⟩, point, decimals, rfl, rfl | rfl, allDecimals, _⟩
    · refine .whole ?_ (List.forall_mem_append.mpr ⟨all, allDecimals⟩)
      simp [List.ne_nil_of_length_pos nonempty]
    · exact .pointed (List.ne_nil_of_length_pos nonempty) all allDecimals
  · intro numeral
    cases numeral with
    | whole nonempty all =>
        exact ⟨s, [], by simp, ⟨all, List.length_pos_of_ne_nil nonempty⟩, [], [], rfl, .inl rfl,
          by simp⟩
    | @pointed digits decimals nonempty all allDecimals =>
        exact ⟨digits, '.' :: decimals, rfl, ⟨all, List.length_pos_of_ne_nil nonempty⟩, ['.'],
          decimals, rfl, .inr rfl, allDecimals, trivial⟩

theorem matches_plain_date {s : List Char} :
    date.plain.Matches s ↔ IsCalendarDate isDecimalDigit s := by
  simp only [plain, bound, Pattern.matches_seq, Pattern.matches_group, Pattern.matches_one,
    Pattern.matches_repeated, matches_month, matches_day, CharClass.holds, beq_iff_eq,
    Repeat.Allows]
  constructor
  · rintro ⟨year, _, rfl, ⟨all, four⟩, _, _, rfl, ⟨_, rfl, rfl⟩, _, _, rfl,
      ⟨month, inYear, rfl⟩, _, _, rfl, ⟨_, rfl, rfl⟩, day, inMonth, rfl⟩
    exact .date four all inYear inMonth
  · rintro ⟨four, all, inYear, inMonth⟩
    exact ⟨_, _, rfl, ⟨all, four⟩, ['-'], _, rfl, ⟨_, rfl, rfl⟩, _, _, rfl, ⟨_, inYear, rfl⟩,
      ['-'], _, rfl, ⟨_, rfl, rfl⟩, _, inMonth, rfl⟩

theorem matches_plain {mask : ValueMask} {s : List Char} :
    mask.plain.Matches s ↔ mask.Writes isDecimalDigit s := by
  cases mask with
  | number => exact matches_plain_number
  | date => exact matches_plain_date

theorem matches_bound_iff_writes {mask : ValueMask} {s : List Char} :
    mask.bound.Matches s ↔ mask.Writes isDecimalDigit (unmarked s) :=
  matches_bound.trans matches_plain

end ValueMask

/-! ## Filters -/

theorem forall_mem_unmarked_iff {p : Char → Prop} (underscore : p '_') {s : List Char} :
    (∀ c ∈ unmarked s, p c) ↔ ∀ c ∈ s, p c := by
  rcases unmarked_cases s with ⟨_, whole⟩ | ⟨_, whole⟩
  · rw [whole, List.forall_mem_cons]
    exact (and_iff_right underscore).symm
  · rw [← whole]

/-- The bounds that a test gives. -/
def Leaf.bounds : Leaf → List Bound
  | range _ lower upper => lower.toList ++ upper.toList
  | matching _ _ | wildcard _ _ => []

namespace Compiler

def boundTexts (value : List Char) : Extent → List (List Char)
  | .interval =>
      let (low, high) := (Text.cutFirst ';' value).getD (value, value)
      [low, high]
  | .exact => [value, value]
  | .above | .below => [value]

theorem bounds_rangeLeaf (field : String) (extent : Extent) (value : String) :
    (rangeLeaf field extent value).bounds = (boundTexts value.toList extent).map bound := by
  cases extent <;> rfl

section Accepted

variable {mask : ValueMask} {extent : Extent} {value : String}
  (accepted : (maskPattern mask extent).accepts value.toList = true)

include accepted

theorem matches_of_mem_boundTexts {text : List Char}
    (member : text ∈ boundTexts value.toList extent) : mask.bound.Matches text := by
  cases extent with
  | exact | above | below =>
      have whole : text = value.toList := by simpa [boundTexts] using member
      rw [whole]
      exact Pattern.accepts_iff.mp accepted
  | interval =>
      obtain ⟨low, high, rfl, lowAccepted, highAccepted⟩ :=
        ValueMask.interval_accepts_iff.mp accepted
      simp only [boundTexts, ValueMask.cutFirst_interval lowAccepted, Option.getD_some,
        List.mem_pair] at member
      rcases member with rfl | rfl
      · exact Pattern.accepts_iff.mp lowAccepted
      · exact Pattern.accepts_iff.mp highAccepted

theorem forall_mem_boundTexts_iff {p : Char → Prop} (semicolon : p ';') :
    (∀ text ∈ boundTexts value.toList extent, ∀ c ∈ text, p c) ↔ ∀ c ∈ value.toList, p c := by
  cases extent with
  | exact | above | below => simp [boundTexts]
  | interval =>
      obtain ⟨low, high, rfl, lowAccepted, highAccepted⟩ :=
        ValueMask.interval_accepts_iff.mp accepted
      simp only [boundTexts, ValueMask.cutFirst_interval lowAccepted, Option.getD_some]
      simp [or_imp, forall_and, semicolon]

end Accepted

end Compiler

section Compiled

variable {mask : ValueMask} {filter : ReducedFilter} {fragment : Fragment}
  (range : Compiler.ofType filter.key.type = .range mask)
  (compiled : filter.compile = .ok fragment)

include range compiled

theorem leaves_compiled : fragment.query.leaves =
    filter.values.map (Compiler.rangeLeaf filter.key.field filter.key.extent) := by
  obtain ⟨_, rfl⟩ := ReducedFilter.compile_eq_ok_iff.mp compiled
  rw [ReducedFilter.fragment, ReducedFilter.leaves_clause, ReducedFilter.leaves,
    List.map_eq_flatMap]
  refine List.flatMap_congr fun value _ => ?_
  simp only [FilterKey.leaves, range]

theorem accepted_of_compiled {value : String} (member : value ∈ filter.values) :
    (Compiler.maskPattern mask filter.key.extent).accepts value.toList = true := by
  obtain ⟨⟨_, accepted⟩, _⟩ := ReducedFilter.compile_eq_ok_iff.mp compiled
  simpa only [FilterKey.accepts, range] using accepted value member

/-- The bounds of a compiled filter are the bounds of its values without their marks. -/
theorem forall_bound_iff {p : List Char → Prop} :
    (∀ leaf ∈ fragment.query.leaves, ∀ bound ∈ leaf.bounds, p bound.value.toList) ↔
      ∀ value ∈ filter.values,
        ∀ text ∈ Compiler.boundTexts value.toList filter.key.extent, p (unmarked text) := by
  simp only [leaves_compiled range compiled, List.forall_mem_map, Compiler.bounds_rangeLeaf]
  refine forall₂_congr fun value member => forall₂_congr fun text inside => ?_
  have matched := Compiler.matches_of_mem_boundTexts (accepted_of_compiled range compiled member)
    inside
  rw [ValueMask.bound_eq matched, String.toList_ofList]

theorem bound_written : ∀ leaf ∈ fragment.query.leaves, leaf.bounds ≠ [] ∧
    ∀ bound ∈ leaf.bounds, mask.Writes isDecimalDigit bound.value.toList := by
  rw [forall₂_and]
  constructor
  · rw [leaves_compiled range compiled, List.forall_mem_map]
    intro value _
    rw [Compiler.bounds_rangeLeaf]
    cases filter.key.extent <;> simp [Compiler.boundTexts]
  · rw [forall_bound_iff range compiled]
    intro value member text inside
    have accepted := accepted_of_compiled range compiled member
    exact ValueMask.matches_bound_iff_writes.mp
      (Compiler.matches_of_mem_boundTexts accepted inside)

theorem bound_ascii_iff :
    (∀ leaf ∈ fragment.query.leaves, ∀ bound ∈ leaf.bounds,
      mask.Writes Digits.isDigit bound.value.toList) ↔
      ∀ value ∈ filter.values, ∀ c ∈ value.toList, isAscii c = true := by
  rw [forall_bound_iff range compiled]
  refine forall₂_congr fun value member => ?_
  have accepted := accepted_of_compiled range compiled member
  rw [← Compiler.forall_mem_boundTexts_iff accepted (p := fun c => isAscii c = true) (by decide)]
  refine forall₂_congr fun text inside => ?_
  have written := ValueMask.matches_bound_iff_writes.mp
    (Compiler.matches_of_mem_boundTexts accepted inside)
  rw [ValueMask.writes_isDigit_iff, and_iff_right written]
  exact forall_mem_unmarked_iff (by decide)

end Compiled

theorem compile_written {mask : ValueMask} {key : FilterKey}
    (range : Compiler.ofType key.type = .range mask) (operator : key.operator = .is)
    {text : String} (written : mask.Writes isDecimalDigit text.toList) :
    ReducedFilter.compile ⟨key, [text], false⟩ = .ok ⟨key.index, true,
      .leaf (.range key.field (some ⟨false, text⟩) (some ⟨false, text⟩))⟩ := by
  have plain := ValueMask.matches_plain.mpr written
  -- A text of this form starts with a digit, so nothing of it is taken for a mark.
  have noMark : text.toList.head? ≠ some '_' := fun marked =>
    (ne_of_isBoundChar (ValueMask.isBoundChar_of_plain plain (List.mem_of_mem_head? marked))).1 rfl
  have same : unmarked text.toList = text.toList := by
    rcases unmarked_cases text.toList with ⟨marked, _⟩ | ⟨_, whole⟩
    · exact absurd marked noMark
    · exact whole.symm
  have matched : mask.bound.Matches text.toList := by
    rwa [ValueMask.matches_bound, same]
  have bound : Compiler.bound text.toList = ⟨false, text⟩ := by
    rw [ValueMask.bound_eq matched, same, String.ofList_toList, beq_eq_false_iff_ne.mpr noMark]
  have query : Compiler.rangeQuery mask ⟨key, [text], false⟩ =
      .ok (.leaf (.range key.field (some ⟨false, text⟩) (some ⟨false, text⟩))) := by
    refine Compiler.rangeQuery_eq_ok_iff_accepts.mpr ⟨.exact, ?_, ?_, ?_⟩
    · rw [operator]
      rfl
    · exact List.forall_mem_singleton.mpr (Pattern.accepts_iff.mpr matched)
    · simp only [Compiler.rangeLeaf, bound, List.map_singleton, Compiler.anyOf]
  simp only [ReducedFilter.compile, range, Compiler.compile, Compiler.query, query,
    ReducedFilter.isAffirmative, operator]
  rfl

/-- Every test of a number or date filter that compiles has bounds, and each of them is a number
    or a date in decimal digits of any script, where months and days only have the digits 0 to 9.
    All of them are written in these ten digits exactly if all values of the filter are ASCII. Each
    number or date in decimal digits of any script is a bound of some filter. -/
theorem range_bounds_written {mask : ValueMask} {type : FieldType}
    (range : Compiler.ofType type = .range mask) :
    (∀ filter fragment, filter.key.type = type → ReducedFilter.compile filter = .ok fragment →
      (∀ leaf ∈ fragment.query.leaves, leaf.bounds ≠ [] ∧
        ∀ bound ∈ leaf.bounds, mask.Writes isDecimalDigit bound.value.toList) ∧
      ((∀ leaf ∈ fragment.query.leaves, ∀ bound ∈ leaf.bounds,
          mask.Writes Digits.isDigit bound.value.toList) ↔
        ∀ value ∈ filter.values, ∀ c ∈ value.toList, isAscii c = true)) ∧
    ∀ index field text : String, index ≠ "" → field ≠ "" →
      mask.Writes isDecimalDigit text.toList →
      ∃ spec fragment, Specification.create index field .is type [text] = .ok spec ∧
        spec.compile = .ok fragment ∧
        fragment.query = .leaf (.range field (some ⟨false, text⟩) (some ⟨false, text⟩)) := by
  refine ⟨?_, ?_⟩
  · rintro filter fragment rfl compiled
    exact ⟨bound_written range compiled, bound_ascii_iff range compiled⟩
  · intro index field text named fieldNamed written
    have supported : type.supports .is = true := by cases type <;> rfl
    have created : Specification.create index field .is type [text] =
        .ok ⟨index, field, none, .is, type, [text], false⟩ := by
      simp [Specification.create, named, fieldNamed, supported]
    have compiled := @compile_written mask ⟨index, field, .is, type, none⟩ range rfl text written
    exact ⟨_, _, created, compiled, rfl⟩

/-- An interval of birthdays in ASCII. -/
def birthdays : Specification :=
  ⟨"people", "born", none, .between, .date, ["_2024-01-31;2024-12-01"], false⟩

/-- The interval has ASCII bounds only. A birthday with a year in Devanagari digits is a bound as
    well. -/
theorem birthday_bounds_written :
    (∃ fragment, birthdays.compile = .ok fragment ∧
      ∀ leaf ∈ fragment.query.leaves, ∀ bound ∈ leaf.bounds,
        ValueMask.date.Writes Digits.isDigit bound.value.toList) ∧
    ∃ spec fragment,
      Specification.create "people" "born" .is .date ["२०२४-01-31"] = .ok spec ∧
      spec.compile = .ok fragment ∧
      fragment.query =
        .leaf (.range "born" (some ⟨false, "२०२४-01-31"⟩) (some ⟨false, "२०२४-01-31"⟩)) := by
  obtain ⟨bounds, emitted⟩ := @range_bounds_written .date .date rfl
  have written : ValueMask.date.Writes isDecimalDigit "२०२४-01-31".toList :=
    @IsCalendarDate.date _ "२०२४".toList 1 31 rfl (List.all_eq_true.mp (by decide +kernel))
      (by decide) (by decide)
  refine ⟨?_, emitted "people" "born" _ (by decide) (by decide) written⟩
  obtain ⟨fragment, compiled⟩ : ∃ fragment, birthdays.compile = .ok fragment := ⟨_, rfl⟩
  have ascii := (bounds (.ofSpecification birthdays) fragment rfl compiled).2
  have values : ∀ value ∈ birthdays.values, ∀ c ∈ value.toList, isAscii c = true :=
    List.forall_mem_singleton.mpr (List.all_eq_true.mp (by decide))
  exact ⟨fragment, compiled, ascii.mpr values⟩

/-- A birthday with a year in Devanagari digits. -/
def foreignBirthday : Specification :=
  ⟨"people", "born", none, .is, .date, ["२०२४-01-31"], false⟩

/-- An age in a Devanagari digit. -/
def foreignAge : Specification :=
  ⟨"people", "age", none, .greaterThan, .number, ["_३"], false⟩

/-- A valid date filter and a valid number filter with bounds that are not ASCII. -/
theorem foreign_bounds_emitted :
    foreignBirthday.Valid ∧ foreignAge.Valid ∧
    (∃ fragment, foreignBirthday.compile = .ok fragment ∧
      ∃ leaf ∈ fragment.query.leaves, ∃ bound ∈ leaf.bounds, bound.value = "२०२४-01-31" ∧
        ¬ IsCalendarDate Digits.isDigit bound.value.toList) ∧
    ∃ fragment, foreignAge.compile = .ok fragment ∧
      ∃ leaf ∈ fragment.query.leaves, ∃ bound ∈ leaf.bounds, bound.value = "३" ∧
        ¬ IsNumeral Digits.isDigit bound.value.toList := by
  refine ⟨by decide, by decide, ⟨_, rfl, _, List.mem_cons_self, ⟨false, "२०२४-01-31"⟩, ?_⟩,
    _, rfl, _, List.mem_cons_self, ⟨true, "३"⟩, ?_⟩
  · refine ⟨by decide +kernel, rfl, fun date => ?_⟩
    exact absurd (List.all_eq_true.mpr (isCalendarDate_isDigit_iff.mp date).2) (by decide)
  · refine ⟨by decide +kernel, rfl, fun numeral => ?_⟩
    exact absurd (List.all_eq_true.mpr (isNumeral_isDigit_iff.mp numeral).2) (by decide)

end Winnow
