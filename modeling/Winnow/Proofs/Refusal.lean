import Mathlib.Data.List.FinRange
import Winnow.Proofs.Assembly

/-! # Which specification is refused

Specifications are assembled all together or not at all. If some of them don't compile, the error
is the one that the first of them gives on its own, in the order in which merging puts them. It
names the field and the first value of that specification that doesn't have the form asked for,
and its hint is the one for that form.
-/

namespace Winnow

/-- The forms that values can be asked to have. -/
inductive ValueForm where
  /-- One number or date. -/
  | bound (mask : ValueMask)
  /-- Two numbers or dates. -/
  | interval (mask : ValueMask)
  /-- A text with a word in it. -/
  | words

namespace ValueForm

def fits : ValueForm → String → Bool
  | bound mask, value => mask.bound.accepts value.toList
  | interval mask, value => mask.interval.accepts value.toList
  | words, value => !(Wildcard.patterns value).isEmpty

/-- The written form of a form, as errors show it. -/
def expected : ValueForm → String
  | bound mask => mask.bound.wholeText
  | interval mask => mask.interval.wholeText
  | words => Wildcard.mask

/-- How to mend a value that doesn't have the form. -/
def hint : ValueForm → String
  | bound .number =>
      "Number values are digits with an optional decimal part; prefix with '_' to include "
        ++ "the value itself"
  | bound .date => "Date values use 'yyyy-MM-dd'; prefix with '_' to include the value itself"
  | interval _ =>
      "Between values use '<low>;<high>'; prefix a bound with '_' to include it "
        ++ "(1;_10 means > 1 and <= 10)"
  | words => "Contains values need at least one letter or digit"

/-- The hint that is found by looking into the written form is the one for the form. -/
theorem valueHint_expected (form : ValueForm) :
    QueryError.valueHint form.expected = form.hint := by
  cases form with
  | words => decide +kernel
  | bound mask => cases mask <;> decide +kernel
  | interval mask => cases mask <;> decide +kernel

end ValueForm

namespace FilterKey

/-- The form that the values of a key are asked to have, if any. -/
def valueForm? (key : FilterKey) : Option ValueForm :=
  match key.type, key.operator with
  | .text, .contains | .text, .notContains => some .words
  | .text, _ => none
  | .number, .between | .number, .notBetween => some (.interval .number)
  | .number, _ => some (.bound .number)
  | .date, .between | .date, .notBetween => some (.interval .date)
  | .date, _ => some (.bound .date)

/-- The error of a value that doesn't have the form asked for. -/
def refusal? (key : FilterKey) (value : String) : Option QueryError :=
  match key.valueForm? with
  | none => none
  | some form =>
      if form.fits value then none
      else some (.invalidValueFormat key.field value form.expected)

theorem findSome?_refusal_of_any {key : FilterKey} (any : key.valueForm? = none)
    (values : List String) : values.findSome? key.refusal? = none :=
  List.findSome?_eq_none_iff.mpr fun value _ => by simp [refusal?, any]

theorem findSome?_refusal_eq_some_iff {key : FilterKey} {values : List String}
    {error : QueryError} :
    values.findSome? key.refusal? = some error ↔
      ∃ form value, key.valueForm? = some form ∧
        values.find? (fun value => !form.fits value) = some value ∧
        error = .invalidValueFormat key.field value form.expected := by
  cases asked : key.valueForm? with
  | none => simp [findSome?_refusal_of_any asked]
  | some form =>
      have single : key.refusal? = fun value =>
          (Option.guard (fun value => !form.fits value) value).map fun value =>
            .invalidValueFormat key.field value form.expected := by
        funext value
        cases fits : form.fits value <;> simp [refusal?, asked, fits, Option.guard]
      have first : values.findSome? key.refusal? =
          (values.find? fun value => !form.fits value).map fun value =>
            .invalidValueFormat key.field value form.expected := by
        rw [List.find?_eq_findSome?_guard, List.map_findSome?, single]
        rfl
      rw [first, Option.map_eq_some_iff]
      simp [eq_comm]

end FilterKey

namespace Compiler

theorem wildcards_eq_error_iff {key : FilterKey} (words : key.valueForm? = some .words)
    {value : String} {error : QueryError} :
    wildcards key.field value = .error error ↔ key.refusal? value = some error := by
  unfold wildcards FilterKey.refusal?
  cases found : Wildcard.patterns value with
  | nil => simp [words, ValueForm.fits, ValueForm.expected, found]
  | cons pattern patterns => simp [words, ValueForm.fits, found]

theorem textQuery_eq_error_iff {filter : ReducedFilter} (text : filter.key.type = .text)
    (supported : filter.key.type.supports filter.key.operator = true) {error : QueryError} :
    textQuery filter = .error error ↔
      filter.values.findSome? filter.key.refusal? = some error := by
  cases operator : filter.key.operator with
  | is | isNot =>
      have any : filter.key.valueForm? = none := by
        simp [FilterKey.valueForm?, text, operator]
      simp [textQuery, operator, FilterKey.findSome?_refusal_of_any any]
  | contains | notContains =>
      have words : filter.key.valueForm? = some .words := by
        simp [FilterKey.valueForm?, text, operator]
      simp only [textQuery, operator, map_eq_error_iff]
      exact mapM_eq_error_iff fun value _ error => wildcards_eq_error_iff words
  | between | notBetween | greaterThan | lessThan =>
      simp [text, operator, FieldType.supports] at supported

theorem exists_valueForm_of_extent {key : FilterKey} {mask : ValueMask} {extent : Extent}
    (range : ofType key.type = .range mask) (given : extent? key.operator = some extent) :
    ∃ form, key.valueForm? = some form ∧
      form.expected = (maskPattern mask extent).wholeText ∧
      ∀ value, form.fits value = (maskPattern mask extent).accepts value.toList := by
  unfold FilterKey.valueForm?
  cases type : key.type with
  | text => simp [type, ofType] at range
  | number | date =>
      rw [type] at range
      cases range
      cases operator : key.operator with
      | contains | notContains => simp [operator, extent?] at given
      | is | isNot | between | notBetween | greaterThan | lessThan =>
          rw [operator] at given
          cases given
          exact ⟨_, rfl, rfl, fun _ => rfl⟩

theorem rangeQuery_eq_error_iff {filter : ReducedFilter} {mask : ValueMask}
    (range : ofType filter.key.type = .range mask)
    (supported : filter.key.type.supports filter.key.operator = true) {error : QueryError} :
    rangeQuery mask filter = .error error ↔
      filter.values.findSome? filter.key.refusal? = some error := by
  have notText : filter.key.type ≠ .text := fun text => by simp [text, ofType] at range
  obtain ⟨extent, given⟩ := Option.isSome_iff_exists.mp ((supports_iff_extent notText).mp supported)
  obtain ⟨form, asked, expected, fits⟩ := exists_valueForm_of_extent range given
  simp only [FilterKey.findSome?_refusal_eq_some_iff, rangeQuery, given, asked,
    Option.some.injEq, ← expected, ← fits]
  cases found : filter.values.find? fun value => !form.fits value with
  | none => simp [found]
  | some value => simp [found, eq_comm (a := error)]

end Compiler

theorem ReducedFilter.compile_eq_error_iff {filter : ReducedFilter}
    (supported : filter.key.type.supports filter.key.operator = true) {error : QueryError} :
    filter.compile = .error error ↔
      filter.values.findSome? filter.key.refusal? = some error := by
  rw [compile, Compiler.compile, map_eq_error_iff]
  cases type : filter.key.type with
  | text => exact Compiler.textQuery_eq_error_iff type supported
  | number | date =>
      refine Compiler.rangeQuery_eq_error_iff ?_ supported
      rw [type]
      rfl

/-- The error of a specification with a value that doesn't have the form asked for. -/
def Specification.refusal? (spec : Specification) : Option QueryError :=
  spec.values.findSome? spec.key.refusal?

theorem Specification.compile_eq_error_iff {spec : Specification} (valid : spec.Valid)
    {error : QueryError} : spec.compile = .error error ↔ spec.refusal? = some error :=
  ReducedFilter.compile_eq_error_iff valid.supported

theorem mergedAt_refusal (key : FilterKey) (specs : List Specification) :
    (mergedAt key specs).values.findSome? key.refusal? =
      (sharing key specs).findSome? Specification.refusal? := by
  have spread : (mergedAt key specs).values.findSome? key.refusal? =
      (sharing key specs).findSome? fun spec => spec.values.findSome? key.refusal? :=
    findSome?_flatMap
  rw [spread]
  refine findSome?_congr fun spec member => ?_
  rw [Specification.refusal?, (mem_sharing.mp member).2]

section Order

variable (specs : List Specification)

/-- Where the key of a specification is first seen. -/
def firstSeen (position : Fin specs.length) : Nat :=
  (specs.map (·.key)).idxOf specs[position].key

/-- Whether a position comes before another: its key is first seen before that of the other, or
    they have one key and it is the smaller of the two. -/
def Precedes (position other : Fin specs.length) : Prop :=
  firstSeen specs position < firstSeen specs other ∨
    firstSeen specs position = firstSeen specs other ∧ position < other

def positionsOf (key : FilterKey) : List (Fin specs.length) :=
  (List.finRange specs.length).filter fun position => specs[position].key = key

/-- The positions of all specifications, those of one key together. -/
def keyOrder : List (Fin specs.length) :=
  (specs.map (·.key)).eraseDups.flatMap (positionsOf specs)

variable {specs}

theorem mem_positionsOf {key : FilterKey} {position : Fin specs.length} :
    position ∈ positionsOf specs key ↔ specs[position].key = key := by
  simp [positionsOf, List.mem_finRange]

theorem mem_keyOrder (position : Fin specs.length) : position ∈ keyOrder specs := by
  have seen : specs[position].key ∈ (specs.map (·.key)).eraseDups :=
    List.mem_eraseDups.mpr (List.mem_map_of_mem (List.getElem_mem position.isLt))
  exact List.mem_flatMap.mpr ⟨_, seen, mem_positionsOf.mpr rfl⟩

theorem keyOrder_pairwise : (keyOrder specs).Pairwise (Precedes specs) := by
  rw [keyOrder, List.pairwise_flatMap]
  constructor
  · intro key _
    refine ((List.pairwise_lt_finRange _).filter _).imp_of_mem ?_
    intro position other here there before
    refine .inr ⟨?_, before⟩
    rw [firstSeen, firstSeen, mem_positionsOf.mp here, mem_positionsOf.mp there]
  · refine (Grouping.eraseDups_pairwise_idxOf _).imp ?_
    intro key later before position here other there
    refine .inl ?_
    rw [firstSeen, firstSeen, mem_positionsOf.mp here, mem_positionsOf.mp there]
    exact before

theorem sharing_eq_map_positions (key : FilterKey) :
    sharing key specs = (positionsOf specs key).map fun position => specs[position] := by
  have all : specs = (List.finRange specs.length).map fun position => specs[position] :=
    (List.map_get_finRange specs).symm
  calc sharing key specs
      = sharing key ((List.finRange specs.length).map fun position => specs[position]) := by
        rw [← all]
    _ = _ := by rw [sharing, List.filter_map]; rfl

/-- The first refusal in this order is the first that merging comes to. -/
theorem keyOrder_findSome?_refusal :
    (keyOrder specs).findSome? (fun position => specs[position].refusal?) =
      (specs.map (·.key)).eraseDups.findSome? fun key =>
        (mergedAt key specs).values.findSome? key.refusal? := by
  rw [keyOrder, findSome?_flatMap]
  refine findSome?_congr fun key _ => ?_
  rw [mergedAt_refusal, sharing_eq_map_positions, List.findSome?_map]
  rfl

end Order

theorem IndexQueries.assemble_eq_error_iff {asOr : Bool} {specs : List Specification}
    (nonempty : specs ≠ []) (valid : ∀ spec ∈ specs, spec.Valid) {error : QueryError} :
    assemble asOr specs = .error error ↔
      (keyOrder specs).findSome? (fun position => specs[position].refusal?) = some error := by
  have compiled : assemble asOr specs =
      ((merge specs).mapM ReducedFilter.compile).map (ofFragments asOr) := by
    rw [assemble, reduce, if_neg nonempty]
    show (merge specs).mapM ReducedFilter.compile >>= (pure <| ofFragments asOr ·) = _
    cases (merge specs).mapM ReducedFilter.compile <;> rfl
  have supported : ∀ filter ∈ merge specs,
      filter.key.type.supports filter.key.operator = true := by
    intro filter member
    obtain ⟨spec, inside, rfl⟩ := mem_merge.mp member
    exact (valid spec inside).supported
  rw [compiled, map_eq_error_iff, mapM_eq_error_iff fun filter member _ =>
    ReducedFilter.compile_eq_error_iff (supported filter member), keyOrder_findSome?_refusal,
    merge_eq, List.findSome?_map]
  rfl

/-- Specifications are assembled if there are any and each of them compiles. Otherwise the error
    is the one that the first of them gives that doesn't compile, in the order in which their
    keys are first seen. It shows the first of its values that doesn't have the form asked for,
    and hints at that form. -/
theorem assembly_error_attributed {asOr : Bool} {specs : List Specification}
    (valid : ∀ spec ∈ specs, spec.Valid) :
    ((∃ queries, IndexQueries.assemble asOr specs = .ok queries) ↔
      specs ≠ [] ∧ ∀ spec ∈ specs, ∃ fragment, spec.compile = .ok fragment) ∧
    IndexQueries.assemble asOr [] = .error (.emptyInput "specifications") ∧
    ∀ error, specs ≠ [] → IndexQueries.assemble asOr specs = .error error →
      ∃ position : Fin specs.length, specs[position].compile = .error error ∧
        (∀ other : Fin specs.length, other ≠ position →
          (∃ otherError, specs[other].compile = .error otherError) →
            Precedes specs position other) ∧
        ∃ form value, specs[position].key.valueForm? = some form ∧
          specs[position].values.find? (fun value => !form.fits value) = some value ∧
          error = .invalidValueFormat specs[position].field value form.expected ∧
          error.hint? = some form.hint := by
  refine ⟨IndexQueries.exists_assembled_iff, rfl, fun error nonempty refused => ?_⟩
  rw [IndexQueries.assemble_eq_error_iff nonempty valid, List.findSome?_eq_some_iff] at refused
  obtain ⟨before, position, after, order, refused, earlier⟩ := refused
  have fails : ∀ {position : Fin specs.length} {error}, specs[position].compile = .error error ↔
      specs[position].refusal? = some error :=
    Specification.compile_eq_error_iff (valid _ (List.getElem_mem _))
  refine ⟨position, fails.mpr refused, ?_, ?_⟩
  · -- What comes sooner doesn't fail, and the rest comes later.
    rintro other different ⟨otherError, otherFails⟩
    have pairwise : (keyOrder specs).Pairwise (Precedes specs) := keyOrder_pairwise
    have inside := mem_keyOrder other
    rw [order] at pairwise inside
    obtain ⟨_, rest, _⟩ := List.pairwise_append.mp pairwise
    rcases List.mem_append.mp inside with sooner | later
    · rw [fails, earlier other sooner] at otherFails
      cases otherFails
    · rcases List.mem_cons.mp later with same | later
      · exact absurd same different
      · exact List.rel_of_pairwise_cons rest later
  · obtain ⟨form, value, asked, first, rfl⟩ :=
      FilterKey.findSome?_refusal_eq_some_iff.mp refused
    exact ⟨form, value, asked, first, rfl, congrArg some form.valueHint_expected⟩

/-- Filters on people with a faulty date between two filters on an age, the second of which has
    a faulty interval. -/
def faultyPeopleFilters : List Specification :=
  [⟨"people", "age", none, .between, .number, ["1;5"], false⟩,
    ⟨"people", "born", none, .is, .date, ["soon"], false⟩,
    ⟨"people", "age", none, .between, .number, ["3;9", "4", "five"], false⟩]

/-- The interval is refused before the date: an age was seen before. -/
theorem faulty_people_refused :
    ∃ position error, IndexQueries.assemble false faultyPeopleFilters = .error error ∧
      faultyPeopleFilters[position].compile = .error error ∧
      Precedes faultyPeopleFilters position ⟨1, by decide⟩ ∧
      error = .invalidValueFormat "age" "4" (ValueForm.interval .number).expected ∧
      error.hint? = some (ValueForm.interval .number).hint := by
  have date : faultyPeopleFilters[1].compile =
      .error (.invalidValueFormat "born" "soon" (ValueForm.bound .date).expected) := rfl
  obtain ⟨_, _, attributed⟩ := @assembly_error_attributed false faultyPeopleFilters (by decide)
  obtain ⟨position, refused, first, _⟩ := attributed
    (.invalidValueFormat "age" "4" (ValueForm.interval .number).expected) (by decide) rfl
  have different : ⟨1, by decide⟩ ≠ position := by
    rintro rfl
    have same := refused.symm.trans date
    simp at same
  exact ⟨position, _, rfl, refused, first ⟨1, by decide⟩ different ⟨_, date⟩, rfl,
    congrArg some (ValueForm.interval .number).valueHint_expected⟩

end Winnow
