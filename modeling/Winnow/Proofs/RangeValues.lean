import Winnow.Proofs.CharacterRange
import Winnow.Proofs.Compilation
import Winnow.Proofs.PatternLanguage
import Winnow.Proofs.Splitting

/-! # The values of range filters

A value is checked by a pattern and taken apart by other means: an interval at its first
semicolon, a bound by dropping underscores and blanks. The patterns let no text pass on which
the two could disagree. An interval that passes has one semicolon, between two bounds that pass,
and a bound has no blank and no underscore but the one that marks it. So nothing else is lost,
and a document tells from which value it was compiled.
-/

namespace Winnow

/-! ## Bounds -/

/-- Whether a character may stand in a bound behind its marker. -/
def isBoundChar (c : Char) : Bool :=
  isDecimalDigit c || c == '.' || c == '-'

theorem ne_of_isBoundChar {c : Char} (allowed : isBoundChar c = true) :
    c ≠ '_' ∧ c ≠ ';' ∧ isBlank c = false := by
  rcases Bool.or_eq_true_iff.mp allowed with digitOrPoint | hyphen
  · rcases Bool.or_eq_true_iff.mp digitOrPoint with digit | point
    · refine ⟨?_, ?_, isBlank_of_isDecimalDigit digit⟩
      · rintro rfl
        exact absurd digit (by decide)
      · rintro rfl
        exact absurd digit (by decide)
    · rw [beq_iff_eq.mp point]
      decide
  · rw [beq_iff_eq.mp hyphen]
    decide

/-- Whether all characters of a class may stand in a bound behind its marker. -/
def CharClass.inBounds : CharClass → Bool
  | digit => true
  | only c => isBoundChar c
  | among cs => cs.all isBoundChar
  | between first last => 48 ≤ first.toNat && last.toNat ≤ 57

theorem CharClass.isBoundChar_of_holds {cls : CharClass} (inside : cls.inBounds = true) {c : Char}
    (holds : cls.holds c = true) : isBoundChar c = true := by
  cases cls with
  | digit => simp only [isBoundChar, (show isDecimalDigit c = true from holds), Bool.true_or]
  | only x =>
      rw [beq_iff_eq.mp holds]
      exact inside
  | among cs => exact List.all_eq_true.mp inside c (List.contains_iff_mem.mp holds)
  | between first last =>
      simp only [CharClass.inBounds, Bool.and_eq_true, decide_eq_true_eq] at inside
      simp only [CharClass.holds, Bool.and_eq_true, decide_eq_true_eq] at holds
      have digit : isDecimalDigit c = true := isDecimalDigit_of_bounds (by omega) (by omega)
      simp only [isBoundChar, digit, Bool.true_or]

/-- The text of a bound without the underscore in front. -/
def unmarked : List Char → List Char
  | '_' :: rest => rest
  | plain => plain

theorem unmarked_cases (s : List Char) :
    s.head? = some '_' ∧ s = '_' :: unmarked s ∨ s.head? ≠ some '_' ∧ s = unmarked s := by
  cases s with
  | nil => exact .inr ⟨by simp, rfl⟩
  | cons c rest =>
      by_cases marked : c = '_'
      · subst marked
        exact .inl ⟨rfl, rfl⟩
      · refine .inr ⟨by simpa using marked, ?_⟩
        unfold unmarked
        split
        · simp_all
        · rfl

namespace ValueMask

/-- The pattern of a bound behind its mark. -/
def plain (mask : ValueMask) : Pattern :=
  match mask.bound with
  | .seq _ behind => behind
  | whole => whole

theorem bound_eq_seq (mask : ValueMask) : mask.bound = .seq marker mask.plain := by
  cases mask <;> rfl

theorem isBoundChar_of_plain {mask : ValueMask} {s : List Char} (matched : mask.plain.Matches s)
    {c : Char} (member : c ∈ s) : isBoundChar c = true := by
  have classes : ∀ cls ∈ mask.plain.classes, cls.inBounds = true := by
    cases mask <;> decide
  obtain ⟨cls, inside, holds⟩ := matched.exists_class member
  exact CharClass.isBoundChar_of_holds (classes cls inside) holds

theorem matches_bound {mask : ValueMask} {s : List Char} :
    mask.bound.Matches s ↔ mask.plain.Matches (unmarked s) := by
  rw [bound_eq_seq, Pattern.matches_seq]
  constructor
  · rintro ⟨front, behind, rfl, mark, matched⟩
    rcases Pattern.matches_optional.mp mark with rfl | rfl
    · rcases unmarked_cases behind with ⟨marked, _⟩ | ⟨_, whole⟩
      · have underscore := isBoundChar_of_plain matched (List.mem_of_mem_head? marked)
        exact absurd rfl (ne_of_isBoundChar underscore).1
      · rwa [List.nil_append, ← whole]
    · exact matched
  · intro matched
    rcases unmarked_cases s with ⟨_, whole⟩ | ⟨_, whole⟩
    · exact ⟨['_'], unmarked s, whole, Pattern.matches_optional.mpr (.inr rfl), matched⟩
    · exact ⟨[], unmarked s, whole, Pattern.matches_optional.mpr (.inl rfl), matched⟩

section Accepted

variable {mask : ValueMask} {s : List Char} (matched : mask.bound.Matches s)

include matched

theorem isBoundChar_of_unmarked {c : Char} (member : c ∈ unmarked s) : isBoundChar c = true :=
  isBoundChar_of_plain (matches_bound.mp matched) member

theorem semicolon_not_mem_bound : ';' ∉ s := by
  have behind : ';' ∉ unmarked s := fun member =>
    (ne_of_isBoundChar (isBoundChar_of_unmarked matched member)).2.1 rfl
  rcases unmarked_cases s with ⟨_, whole⟩ | ⟨_, whole⟩
  · rw [whole]
    simpa using behind
  · rwa [whole]

theorem unmarked_visible : ∀ c ∈ unmarked s, c ≠ '_' ∧ isBlank c = false := by
  intro c member
  obtain ⟨notMarker, _, visible⟩ := ne_of_isBoundChar (isBoundChar_of_unmarked matched member)
  exact ⟨notMarker, visible⟩

theorem filter_underscores : s.filter (· != '_') = unmarked s := by
  have others : (unmarked s).filter (· != '_') = unmarked s :=
    List.filter_eq_self.mpr fun c member => bne_iff_ne.mpr (unmarked_visible matched c member).1
  calc s.filter (· != '_') = (unmarked s).filter (· != '_') := by
        unfold unmarked
        split <;> simp
    _ = unmarked s := others

theorem trim_unmarked : Text.trim (unmarked s) = unmarked s :=
  Text.trim_eq_self fun c member => (unmarked_visible matched c member).2

theorem bound_eq :
    Compiler.bound s = ⟨s.head? == some '_', String.ofList (unmarked s)⟩ := by
  rw [Compiler.bound, filter_underscores matched, trim_unmarked matched]

end Accepted

/-! ## Intervals -/

theorem matches_interval {mask : ValueMask} {s : List Char} :
    mask.interval.Matches s ↔
      ∃ low high, s = low ++ ';' :: high ∧ mask.bound.Matches low ∧ mask.bound.Matches high := by
  simp only [interval, Pattern.matches_seq, Pattern.matches_group, Pattern.matches_one,
    CharClass.holds, beq_iff_eq]
  constructor
  · rintro ⟨low, _, rfl, lowMatched, _, high, rfl, ⟨_, rfl, rfl⟩, highMatched⟩
    exact ⟨low, high, rfl, lowMatched, highMatched⟩
  · rintro ⟨low, high, rfl, lowMatched, highMatched⟩
    exact ⟨low, _, rfl, lowMatched, [';'], high, rfl, ⟨_, rfl, rfl⟩, highMatched⟩

/-- The check of an interval, read as a cut and the checks of its halves. -/
theorem interval_accepts_iff {mask : ValueMask} {value : String} :
    mask.interval.accepts value.toList = true ↔
      ∃ low high : String, value = low ++ ";" ++ high ∧
        mask.bound.accepts low.toList = true ∧ mask.bound.accepts high.toList = true := by
  simp only [Pattern.accepts_iff, matches_interval]
  constructor
  · rintro ⟨low, high, split, lowMatched, highMatched⟩
    refine ⟨.ofList low, .ofList high, ?_, by simpa using lowMatched, by simpa using highMatched⟩
    apply String.toList_inj.mp
    simp [split]
  · rintro ⟨low, high, rfl, lowMatched, highMatched⟩
    exact ⟨low.toList, high.toList, by simp, lowMatched, highMatched⟩

theorem cutFirst_interval {mask : ValueMask} {low : String}
    (accepted : mask.bound.accepts low.toList = true) (high : String) :
    Text.cutFirst ';' (low ++ ";" ++ high).toList = some (low.toList, high.toList) := by
  have unmarked := semicolon_not_mem_bound (Pattern.accepts_iff.mp accepted)
  simpa using Text.cutFirst_append unmarked high.toList

end ValueMask

/-! ## Documents -/

/-- The document of a range with the given entries. -/
def rangeDocument (field : String) (entries : List (String × Json)) : Json :=
  .single "range" (.single field (.object entries))

/-- What a bound asks of a field: one comparison if it is marked, and another if it isn't. -/
def boundEntry (marked plain text : String) : String × Json :=
  (if text.toList.head? = some '_' then marked else plain,
    .string (.ofList (unmarked text.toList)))

def lowerEntry : String → String × Json :=
  boundEntry "gte" "gt"

def upperEntry : String → String × Json :=
  boundEntry "lte" "lt"

theorem boundEntry_injective {marked plain : String} (different : marked ≠ plain) :
    Function.Injective (boundEntry marked plain) := by
  intro text other same
  obtain ⟨names, values⟩ := Prod.mk.inj same
  have rest : unmarked text.toList = unmarked other.toList :=
    String.ofList_injective (Json.string.inj values)
  apply String.toList_inj.mp
  rcases unmarked_cases text.toList with ⟨mark, whole⟩ | ⟨mark, whole⟩ <;>
    rcases unmarked_cases other.toList with ⟨otherMark, otherWhole⟩ | ⟨otherMark, otherWhole⟩
  · rw [whole, otherWhole, rest]
  · exact absurd names (by simp [mark, otherMark, different])
  · exact absurd names (by simp [mark, otherMark, Ne.symm different])
  · rw [whole, otherWhole, rest]

theorem rangeDocument_injective (field : String) : Function.Injective (rangeDocument field) := by
  intro entries others same
  simpa [rangeDocument, Json.single] using same

/-- What a single value of a filter is compiled to, for any operator. -/
def valueDocument (mask : ValueMask) (key : FilterKey) (asOr : Bool) (operator : Operator)
    (value : String) : Except QueryError Json :=
  ((Compiler.range mask).query ⟨{ key with operator }, [value], asOr⟩).map Clause.toJson

theorem valueDocument_eq_ok_iff {mask : ValueMask} {key : FilterKey} {asOr : Bool}
    {operator : Operator} {value : String} {document : Json} :
    valueDocument mask key asOr operator value = .ok document ↔
      ∃ extent, Compiler.extent? operator = some extent ∧
        (Compiler.maskPattern mask extent).accepts value.toList = true ∧
        document = (Compiler.rangeLeaf key.field extent value).toJson := by
  simp only [valueDocument, map_eq_ok_iff, Compiler.query, Compiler.rangeQuery_eq_ok_iff_accepts,
    List.forall_mem_singleton]
  constructor
  · rintro ⟨_, ⟨extent, given, accepted, rfl⟩, rfl⟩
    exact ⟨extent, given, accepted, rfl⟩
  · rintro ⟨extent, given, accepted, rfl⟩
    exact ⟨_, ⟨extent, given, accepted, rfl⟩, rfl⟩

section Entries

variable {mask : ValueMask} {text : String} (accepted : mask.bound.accepts text.toList = true)

include accepted

theorem lowerJson_bound :
    Leaf.lowerJson (some (Compiler.bound text.toList)) = [lowerEntry text] := by
  rw [ValueMask.bound_eq (Pattern.accepts_iff.mp accepted)]
  simp [Leaf.lowerJson, lowerEntry, boundEntry]

theorem upperJson_bound :
    Leaf.upperJson (some (Compiler.bound text.toList)) = [upperEntry text] := by
  rw [ValueMask.bound_eq (Pattern.accepts_iff.mp accepted)]
  simp [Leaf.upperJson, upperEntry, boundEntry]

theorem rangeLeaf_exact (field : String) :
    (Compiler.rangeLeaf field .exact text).toJson =
      rangeDocument field [lowerEntry text, upperEntry text] := by
  simp [Compiler.rangeLeaf, Leaf.toJson, rangeDocument, lowerJson_bound accepted,
    upperJson_bound accepted]

theorem rangeLeaf_above (field : String) :
    (Compiler.rangeLeaf field .above text).toJson = rangeDocument field [lowerEntry text] := by
  simp [Compiler.rangeLeaf, Leaf.toJson, rangeDocument, lowerJson_bound accepted, Leaf.upperJson]

theorem rangeLeaf_below (field : String) :
    (Compiler.rangeLeaf field .below text).toJson = rangeDocument field [upperEntry text] := by
  simp [Compiler.rangeLeaf, Leaf.toJson, rangeDocument, upperJson_bound accepted, Leaf.lowerJson]

theorem rangeLeaf_interval {high : String} (highAccepted : mask.bound.accepts high.toList = true)
    (field : String) :
    (Compiler.rangeLeaf field .interval (text ++ ";" ++ high)).toJson =
      rangeDocument field [lowerEntry text, upperEntry high] := by
  simp only [Compiler.rangeLeaf, ValueMask.cutFirst_interval accepted, Option.getD_some,
    Leaf.toJson, rangeDocument, lowerJson_bound accepted, upperJson_bound highAccepted,
    List.singleton_append]

end Entries

/-- Two values of one operator have one document only if they are the same. -/
theorem valueDocument_injective {mask : ValueMask} {key : FilterKey} {asOr : Bool}
    {operator : Operator} {value other : String} {document : Json}
    (compiled : valueDocument mask key asOr operator value = .ok document)
    (otherCompiled : valueDocument mask key asOr operator other = .ok document) :
    value = other := by
  obtain ⟨extent, given, accepted, rfl⟩ := valueDocument_eq_ok_iff.mp compiled
  obtain ⟨otherExtent, otherGiven, otherAccepted, same⟩ := valueDocument_eq_ok_iff.mp otherCompiled
  cases given.symm.trans otherGiven
  have lower : Function.Injective lowerEntry := boundEntry_injective (by decide)
  have upper : Function.Injective upperEntry := boundEntry_injective (by decide)
  cases extent with
  | exact =>
      rw [rangeLeaf_exact accepted, rangeLeaf_exact otherAccepted] at same
      exact lower (List.cons.inj (rangeDocument_injective _ same)).1
  | above =>
      rw [rangeLeaf_above accepted, rangeLeaf_above otherAccepted] at same
      exact lower (List.cons.inj (rangeDocument_injective _ same)).1
  | below =>
      rw [rangeLeaf_below accepted, rangeLeaf_below otherAccepted] at same
      exact upper (List.cons.inj (rangeDocument_injective _ same)).1
  | interval =>
      obtain ⟨low, high, rfl, lowAccepted, highAccepted⟩ :=
        ValueMask.interval_accepts_iff.mp accepted
      obtain ⟨otherLow, otherHigh, rfl, otherLowAccepted, otherHighAccepted⟩ :=
        ValueMask.interval_accepts_iff.mp otherAccepted
      rw [rangeLeaf_interval lowAccepted highAccepted,
        rangeLeaf_interval otherLowAccepted otherHighAccepted] at same
      obtain ⟨lows, highs⟩ := List.cons.inj (rangeDocument_injective _ same)
      rw [lower lows, upper (List.cons.inj highs).1]

/-- An interval passes exactly if it is two bounds that pass with a semicolon between them. They
    are then the only two, and the cut at the first semicolon finds them. Its document asks from
    below what that of the first bound does, and from above what that of the second does; one
    bound can also be asked for from both sides. A bound is written without the underscore in
    front, which decides between the comparisons, and has no other underscore and no blank. No two
    values of an operator have the same document, and several values are compiled one by one. -/
theorem range_values_split_as_checked (mask : ValueMask) (key : FilterKey) (asOr : Bool) :
    (∀ value : String, mask.interval.accepts value.toList = true ↔
      ∃ low high : String, value = low ++ ";" ++ high ∧
        mask.bound.accepts low.toList = true ∧ mask.bound.accepts high.toList = true) ∧
    (∀ low high : String, mask.bound.accepts low.toList = true →
      mask.bound.accepts high.toList = true →
      Text.cutFirst ';' (low ++ ";" ++ high).toList = some (low.toList, high.toList) ∧
      (∀ otherLow otherHigh : String, mask.bound.accepts otherLow.toList = true →
        mask.bound.accepts otherHigh.toList = true →
        low ++ ";" ++ high = otherLow ++ ";" ++ otherHigh →
          otherLow = low ∧ otherHigh = high) ∧
      valueDocument mask key asOr .greaterThan low =
        .ok (rangeDocument key.field [lowerEntry low]) ∧
      valueDocument mask key asOr .lessThan high =
        .ok (rangeDocument key.field [upperEntry high]) ∧
      ∀ operator ∈ [Operator.between, .notBetween],
        valueDocument mask key asOr operator (low ++ ";" ++ high) =
          .ok (rangeDocument key.field [lowerEntry low, upperEntry high])) ∧
    (∀ value : String, mask.bound.accepts value.toList = true →
      value.toList.filter (· != '_') = unmarked value.toList ∧
      Text.trim (unmarked value.toList) = unmarked value.toList ∧
      ∀ operator ∈ [Operator.is, .isNot],
        valueDocument mask key asOr operator value =
          .ok (rangeDocument key.field [lowerEntry value, upperEntry value])) ∧
    (∀ operator value other document,
      valueDocument mask key asOr operator value = .ok document →
      valueDocument mask key asOr operator other = .ok document → value = other) ∧
    ∀ filter clause, (Compiler.range mask).query filter = .ok clause →
      ∃ parts, clause = Compiler.anyOf parts ∧
        List.Forall₂ (fun value part =>
          valueDocument mask filter.key filter.valuesAsOr filter.key.operator value =
            .ok part.toJson) filter.values parts := by
  refine ⟨fun _ => ValueMask.interval_accepts_iff, ?_, ?_,
    fun _ _ _ _ => valueDocument_injective, ?_⟩
  · intro low high lowAccepted highAccepted
    have cut := ValueMask.cutFirst_interval lowAccepted high
    have interval := ValueMask.interval_accepts_iff.mpr ⟨low, high, rfl, lowAccepted, highAccepted⟩
    refine ⟨cut, ?_, ?_, ?_, ?_⟩
    · intro otherLow otherHigh otherAccepted _ same
      rw [same, ValueMask.cutFirst_interval otherAccepted] at cut
      obtain ⟨lows, highs⟩ := Prod.mk.inj (Option.some.inj cut)
      exact ⟨String.toList_inj.mp lows, String.toList_inj.mp highs⟩
    · exact valueDocument_eq_ok_iff.mpr
        ⟨.above, rfl, lowAccepted, (rangeLeaf_above lowAccepted _).symm⟩
    · exact valueDocument_eq_ok_iff.mpr
        ⟨.below, rfl, highAccepted, (rangeLeaf_below highAccepted _).symm⟩
    · intro operator member
      refine valueDocument_eq_ok_iff.mpr
        ⟨.interval, ?_, interval, (rangeLeaf_interval lowAccepted highAccepted _).symm⟩
      rcases List.mem_pair.mp member with rfl | rfl <;> rfl
  · intro value accepted
    have matched := Pattern.accepts_iff.mp accepted
    refine ⟨ValueMask.filter_underscores matched, ValueMask.trim_unmarked matched, ?_⟩
    intro operator member
    refine valueDocument_eq_ok_iff.mpr
      ⟨.exact, ?_, accepted, (rangeLeaf_exact accepted _).symm⟩
    rcases List.mem_pair.mp member with rfl | rfl <;> rfl
  · intro filter clause compiled
    obtain ⟨extent, given, accepted, rfl⟩ := Compiler.rangeQuery_eq_ok_iff_accepts.mp compiled
    refine ⟨_, rfl, ?_⟩
    rw [List.forall₂_map_right_iff, List.forall₂_same]
    intro value member
    exact valueDocument_eq_ok_iff.mpr ⟨extent, given, accepted value member, rfl⟩

/-- An age from 1, included, up to 10. -/
theorem age_interval_split :
    Text.cutFirst ';' "_1;10".toList = some ("_1".toList, "10".toList) ∧
    valueDocument .number ⟨"people", "age", .is, .number, none⟩ false .between "_1;10" =
      .ok (rangeDocument "age" [("gte", .string "1"), ("lt", .string "10")]) ∧
    valueDocument .number ⟨"people", "age", .is, .number, none⟩ false .isNot "_1" =
      .ok (rangeDocument "age" [("gte", .string "1"), ("lte", .string "1")]) := by
  obtain ⟨_, intervals, bounds, _⟩ :=
    range_values_split_as_checked .number ⟨"people", "age", .is, .number, none⟩ false
  have low : ValueMask.number.bound.accepts "_1".toList = true := by decide +kernel
  have high : ValueMask.number.bound.accepts "10".toList = true := by decide +kernel
  obtain ⟨cut, _, _, _, between⟩ := intervals "_1" "10" low high
  obtain ⟨_, _, exact⟩ := bounds "_1" low
  exact ⟨cut, between .between (by simp), exact .isNot (by simp)⟩

end Winnow
