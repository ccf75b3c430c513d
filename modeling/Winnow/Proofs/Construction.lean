import Winnow.Filter.Stream
import Winnow.Proofs.FileReading
import Winnow.Proofs.Refusal

/-! # Made specifications

Most ways of making a specification check its parts. Taking a reduced filter for a specification
does not, and has nothing to check: merging keeps what was checked. So no filter comes to its
compiler with an operator that its type doesn't support.
-/

namespace Winnow

/-- The specifications that can be made, by any steps in any order. -/
inductive Specification.Made : Specification → Prop where
  /-- One is created of its parts. -/
  | create {index field : String} {operator : Operator} {type : FieldType}
      {values : List String} {spec : Specification}
      (created : create index field operator type values = .ok spec) : Made spec
  /-- One is placed in a nested object, or taken out of it. -/
  | nested {spec : Specification} (made : Made spec) (path : String) :
      Made (spec.withNestedOf path)
  /-- The flag of one is set. -/
  | flagged {spec : Specification} (made : Made spec) (valuesAsOr : Bool) :
      Made (spec.withValuesAsOr valuesAsOr)
  /-- A filter as written describes one. -/
  | described {input : FilterInput} {valuesAsOr : Bool} {spec : Specification}
      (described : input.toSpecification valuesAsOr = .ok spec) : Made spec
  /-- One is read from a document. -/
  | document {value : Json} {spec : Specification} (read : ofJson value = .ok spec) : Made spec
  /-- One is read from a text. -/
  | text {text : String} {spec : Specification} (read : ofText text = .ok spec) : Made spec
  /-- One is reduced on its own, and taken for a specification again. -/
  | alone {spec : Specification} (made : Made spec) :
      Made (ReducedFilter.ofSpecification spec).toSpecification
  /-- Some are reduced, and one of the filters is taken for a specification. -/
  | merged {specs : List Specification} {filters : List ReducedFilter} {filter : ReducedFilter}
      (made : ∀ spec ∈ specs, Made spec) (reduced : reduce specs = .ok filters)
      (member : filter ∈ filters) : Made filter.toSpecification

/-- The reduced filters of specifications that can be made. -/
inductive ReducedFilter.Made : ReducedFilter → Prop where
  /-- A specification is reduced on its own. -/
  | alone {spec : Specification} (made : spec.Made) : Made (ofSpecification spec)
  /-- Some specifications are reduced together. -/
  | merged {specs : List Specification} {filters : List ReducedFilter} {filter : ReducedFilter}
      (made : ∀ spec ∈ specs, spec.Made) (reduced : reduce specs = .ok filters)
      (member : filter ∈ filters) : Made filter

/-! ## Every way keeps what the checks establish -/

theorem FilterInput.toSpecification_valid {input : FilterInput} {valuesAsOr : Bool}
    {spec : Specification} (described : input.toSpecification valuesAsOr = .ok spec) :
    spec.Valid := by
  obtain ⟨created, made, same⟩ := bind_eq_ok_iff.mp described
  have flagged := Specification.withValuesAsOr_valid (Specification.create_valid made)
    (input.valuesAsOr.getD valuesAsOr)
  cases nested : input.nestedOf with
  | none =>
      rw [nested] at same
      cases same
      exact flagged
  | some path =>
      rw [nested] at same
      cases same
      exact Specification.withNestedOf_valid flagged path

namespace Specification

theorem ofJson_valid {value : Json} {spec : Specification} (read : ofJson value = .ok spec) :
    spec.Valid := by
  obtain ⟨input, _, refined⟩ := bind_eq_ok_iff.mp read
  cases described : input.toSpecification false with
  | error cause => simp [described, ShapeError.ofQuery] at refined
  | ok made =>
      rw [described] at refined
      cases refined
      exact FilterInput.toSpecification_valid described

theorem ofText_valid {text : String} {spec : Specification} (read : ofText text = .ok spec) :
    spec.Valid := by
  obtain ⟨⟨input, rest⟩, _, refined⟩ := bind_eq_ok_iff.mp read
  cases described : input.toSpecification false with
  | error cause => simp [described] at refined
  | ok made =>
      simp only [described] at refined
      split at refined
      · cases refined
        exact FilterInput.toSpecification_valid described
      · cases refined

end Specification

namespace ReducedFilter

theorem toSpecification_valid {specs : List Specification} (valid : ∀ spec ∈ specs, spec.Valid)
    {filters : List ReducedFilter} (reduced : reduce specs = .ok filters) {filter : ReducedFilter}
    (member : filter ∈ filters) : filter.toSpecification.Valid := by
  obtain ⟨_, rfl⟩ := reduce_eq_ok_iff.mp reduced
  have valued := values_ne_of_mem_merge valid member
  obtain ⟨spec, inside, rfl⟩ := mem_merge.mp member
  have own := valid spec inside
  exact ⟨own.index_ne, own.field_ne, valued, own.nested_ne, own.supported⟩

end ReducedFilter

namespace Specification

/-- However a specification is made, it is valid. -/
theorem Made.valid {spec : Specification} (made : spec.Made) : spec.Valid := by
  induction made with
  | create created => exact create_valid created
  | nested _ path ih => exact withNestedOf_valid ih path
  | flagged _ valuesAsOr ih => exact withValuesAsOr_valid ih valuesAsOr
  | described described => exact FilterInput.toSpecification_valid described
  | document read => exact ofJson_valid read
  | text read => exact ofText_valid read
  | alone _ ih => exact ih
  | merged _ reduced member ih => exact ReducedFilter.toSpecification_valid ih reduced member

theorem Valid.made {spec : Specification} (valid : spec.Valid) : spec.Made := by
  have created : create spec.index spec.field spec.operator spec.type spec.values =
      .ok { spec with nestedOf := none, valuesAsOr := false } := by
    simp [create, valid.index_ne, valid.field_ne, valid.values_ne, valid.supported]
  cases nested : spec.nestedOf with
  | none =>
      have same : spec = withValuesAsOr
          { spec with nestedOf := none, valuesAsOr := false } spec.valuesAsOr := by
        rw [withValuesAsOr, ← nested]
      exact same ▸ (Made.create created).flagged spec.valuesAsOr
  | some path =>
      have named : path ≠ "" := fun empty => valid.nested_ne (by rw [nested, empty])
      have same : spec = withValuesAsOr (withNestedOf
          { spec with nestedOf := none, valuesAsOr := false } path) spec.valuesAsOr := by
        rw [withValuesAsOr, withNestedOf, if_neg named, ← nested]
      exact same ▸ ((Made.create created).nested path).flagged spec.valuesAsOr

end Specification

/-! ## What is left to go wrong -/

theorem ReducedFilter.Made.valid {filter : ReducedFilter} (made : filter.Made) :
    filter.toSpecification.Valid := by
  cases made with
  | alone made => exact made.valid
  | merged made reduced member =>
      exact toSpecification_valid (fun spec inside => (made spec inside).valid) reduced member

/-- A filter of specifications that can be made is refused for nothing but its first value that
    doesn't have the form asked for. -/
theorem ReducedFilter.Made.compile_eq_error_iff {filter : ReducedFilter} (made : filter.Made)
    {error : QueryError} :
    filter.compile = .error error ↔
      ∃ form value, filter.key.valueForm? = some form ∧
        filter.values.find? (fun value => !form.fits value) = some value ∧
        error = .invalidValueFormat filter.key.field value form.expected := by
  rw [ReducedFilter.compile_eq_error_iff made.valid.supported, FilterKey.findSome?_refusal_eq_some_iff]

theorem Specification.refusal?_eq_some {spec : Specification} {error : QueryError}
    (refused : spec.refusal? = some error) :
    ∃ form value, spec.key.valueForm? = some form ∧ value ∈ spec.values ∧
      form.fits value = false ∧ error = .invalidValueFormat spec.field value form.expected := by
  obtain ⟨form, value, asked, found, rfl⟩ := FilterKey.findSome?_refusal_eq_some_iff.mp refused
  exact ⟨form, value, asked, List.mem_of_find?_eq_some found,
    by simpa using List.find?_some found, rfl⟩

theorem FilterFile.made_of_parse {text : String} {defaults : GroupDefaults} {file : FilterFile}
    (read : parse text defaults = .ok file) {group : FilterGroup} (member : group ∈ file.groups) :
    ∀ spec ∈ group.filters, spec.Made := by
  intro spec inside
  obtain ⟨_, written, _, _, each⟩ := parse_eq_ok_iff.mp read
  obtain ⟨_, _, given⟩ := exists_of_forall₂ each member
  obtain ⟨input, _, described⟩ := exists_of_forall₂ given.filters inside
  exact .described described

/-- However specifications are made, they are valid, and every valid one can be made. The filters
    that they reduce to are never refused for an operator. The groups of a filter file are refused
    for nothing but having no filter or a value that doesn't have the form asked for. -/
theorem made_specification_sound :
    (∀ spec : Specification, spec.Made ↔
      spec.index ≠ "" ∧ spec.field ≠ "" ∧ spec.values ≠ [] ∧ spec.nestedOf ≠ some "" ∧
        spec.type.supports spec.operator = true) ∧
    (∀ filter : ReducedFilter, filter.Made →
      (∀ operator type, filter.compile ≠ .error (.unsupportedOperator operator type)) ∧
      ∀ error, filter.compile = .error error ↔
        ∃ form value, filter.key.valueForm? = some form ∧
          filter.values.find? (fun value => !form.fits value) = some value ∧
          error = .invalidValueFormat filter.key.field value form.expected) ∧
    ∀ text defaults file, FilterFile.parse text defaults = .ok file →
      ∀ group ∈ file.groups, (∀ spec ∈ group.filters, spec.Made) ∧
        ∀ error, group.assemble = .error error →
          group.filters = [] ∧ error = .emptyInput "specifications" ∨
            ∃ spec ∈ group.filters, ∃ form value, spec.key.valueForm? = some form ∧
              value ∈ spec.values ∧ form.fits value = false ∧
              error = .invalidValueFormat spec.field value form.expected := by
  refine ⟨fun spec => ⟨fun made => ?_, fun valid => ?_⟩,
    fun filter made => ⟨fun operator type refused => ?_, fun _ => made.compile_eq_error_iff⟩,
    fun text defaults file read group member => ?_⟩
  · have valid := made.valid
    exact ⟨valid.index_ne, valid.field_ne, valid.values_ne, valid.nested_ne, valid.supported⟩
  · obtain ⟨index, field, values, nested, supported⟩ := valid
    exact (Specification.Valid.mk index field values nested supported).made
  · obtain ⟨_, _, _, _, same⟩ := made.compile_eq_error_iff.mp refused
    cases same
  · have made := FilterFile.made_of_parse read member
    refine ⟨made, fun error refused => ?_⟩
    by_cases empty : group.filters = []
    · rw [FilterGroup.assemble, empty] at refused
      exact .inl ⟨empty, (Except.error.inj refused).symm⟩
    · have first := (IndexQueries.assemble_eq_error_iff empty fun spec inside =>
        (made spec inside).valid).mp refused
      obtain ⟨position, _, refusal⟩ := List.exists_of_findSome?_eq_some first
      exact .inr ⟨_, List.getElem_mem position.isLt, Specification.refusal?_eq_some refusal⟩

/-- A filter file with an empty group, and a group with a value that is no number. -/
def faultyGroups : String :=
  "\x7b\"groups\":[\x7b\"filters\":[]\x7d," ++
    "\x7b\"filters\":[[\"orders\",\"total\",null,\"Is\",\"Number\",[\"x\"]]]\x7d]\x7d"

/-- Two specifications made in different ways are merged, and the value of the second is refused. -/
theorem order_total_refused :
    ∃ filter : ReducedFilter, filter.Made ∧
      filter.toSpecification =
        ⟨"orders", "total", some "lines", .is, .number, ["1", "x"], true⟩ ∧
      filter.compile = .error (.invalidValueFormat "total" "x" (ValueForm.bound .number).expected) ∧
      ∃ file, FilterFile.parse faultyGroups ⟨false, false⟩ = .ok file ∧ file.groups.length = 2 ∧
        ∀ group ∈ file.groups, (∀ spec ∈ group.filters, spec.Made) ∧
          ∀ error, group.assemble = .error error →
            group.filters = [] ∧ error = .emptyInput "specifications" ∨
              ∃ spec ∈ group.filters, ∃ form value, spec.key.valueForm? = some form ∧
                value ∈ spec.values ∧ form.fits value = false ∧
                error = .invalidValueFormat spec.field value form.expected := by
  obtain ⟨_, filters, files⟩ := made_specification_sound
  let first : Specification := ⟨"orders", "total", some "lines", .is, .number, ["1"], true⟩
  let second : Specification := ⟨"orders", "total", some "lines", .is, .number, ["x"], false⟩
  let filter : ReducedFilter := ⟨first.key, ["1", "x"], true⟩
  have created : Specification.create "orders" "total" .is .number ["1"] =
      .ok ⟨"orders", "total", none, .is, .number, ["1"], false⟩ := rfl
  have firstMade : first.Made := ((Specification.Made.create created).nested "lines").flagged true
  have read : Specification.ofText
      "[\"orders\", \"total\", \"lines\", \"is\", \"number\", [\"x\"]]" = .ok second :=
    toOption_eq_some_iff.mp (by decide +kernel)
  have secondMade : second.Made := .text read
  have each : ∀ spec ∈ [first, second], spec.Made := by
    simp only [List.forall_mem_cons, List.not_mem_nil, false_implies, implies_true, and_true]
    exact ⟨firstMade, secondMade⟩
  have made : filter.Made :=
    .merged each (toOption_eq_some_iff.mp (by decide +kernel)) (List.mem_singleton.mpr rfl)
  have parsed : FilterFile.parse faultyGroups ⟨false, false⟩ = .ok ⟨true, [⟨false, true, []⟩,
      ⟨false, true, [⟨"orders", "total", none, .is, .number, ["x"], false⟩]⟩]⟩ :=
    toOption_eq_some_iff.mp (by decide +kernel)
  obtain ⟨_, refusals⟩ := filters filter made
  exact ⟨filter, made, rfl,
    (refusals _).mpr ⟨.bound .number, "x", rfl, by decide +kernel, rfl⟩,
    _, parsed, rfl, files _ _ _ parsed⟩

end Winnow
