import Winnow.Proofs.Construction
import Winnow.Proofs.StreamReading

/-! # Specifications written down

A specification is written with the names of its operator and its type, with its flag, and with
its nested path if it has one. What is written is read as the specification again, from a document
and from a text, since every specification that can be made passes the checks of the reader.
-/

namespace Winnow

theorem Operator.ofName?_name (operator : Operator) : ofName? operator.name = some operator := by
  cases operator <;> decide +kernel

theorem FieldType.ofName?_name (type : FieldType) : ofName? type.name = some type := by
  cases type <;> decide +kernel

namespace Specification

/-- The filter that is written for a specification. -/
def asWritten (spec : Specification) : FilterInput :=
  ⟨spec.index, spec.field, spec.nestedOf, spec.operator, spec.type, spec.values,
    some spec.valuesAsOr⟩

theorem toSpecification_asWritten {spec : Specification} (valid : spec.Valid)
    (valuesAsOr : Bool) : spec.asWritten.toSpecification valuesAsOr = .ok spec := by
  obtain ⟨index, field, nestedOf, operator, type, values, flag⟩ := spec
  have created : create index field operator type values =
      .ok ⟨index, field, none, operator, type, values, false⟩ := by
    simp [create, valid.index_ne, valid.field_ne, valid.values_ne, valid.supported]
  simp only [FilterInput.toSpecification, asWritten, created]
  cases nestedOf with
  | none => rfl
  | some path =>
      -- The reader drops an empty path, which a valid specification does not have.
      have named : path ≠ "" := fun empty => valid.nested_ne (congrArg some empty)
      simp [bind, Except.bind, pure, Except.pure, withNestedOf, withValuesAsOr, named]

/-- The members of a written specification are different fields, and say what it is. -/
theorem toJson_members (spec : Specification) : ∃ members, spec.toJson = .object members ∧
    (∀ x ∈ members, (FilterField.ofName? x.1).isSome = true) ∧
    (members.map (·.1)).Nodup ∧
    ∀ key : FilterField, spec.asWritten.Takes key (members.lookup key.name) := by
  refine ⟨_, rfl, ?_, ?_, ?_⟩
  · cases spec.nestedOf <;> simp [FilterField.ofName?, FilterField.all, FilterField.name]
  · cases spec.nestedOf <;> simp
  · intro key
    cases nested : spec.nestedOf <;> cases key <;>
      simp [FilterField.name, FilterInput.Takes, asWritten, nested, Json.optionalString,
        Json.optionalBool, List.lookup_cons, Operator.ofName?_name, FieldType.ofName?_name]

theorem ofJson_toJson {spec : Specification} (valid : spec.Valid) :
    ofJson spec.toJson = .ok spec := by
  obtain ⟨members, same, _, distinct, takes⟩ := spec.toJson_members
  have read : FilterInput.ofJson (.object members) = .ok spec.asWritten :=
    (FilterInput.readMembers_finish_eq_ok_iff distinct).mpr takes
  rw [same, ofJson, read]
  exact ShapeError.ofQuery_eq_ok_iff.mpr (toSpecification_asWritten valid false)

theorem ofText_toJson {spec : Specification} (valid : spec.Valid) {layout : JsonLayout}
    (spaced : layout.Spaced) :
    ofText (String.ofList (spec.toJson.render layout 0)) = .ok spec := by
  obtain ⟨members, same, known, distinct, _⟩ := spec.toJson_members
  have read := ofJson_toJson valid
  rw [same] at read ⊢
  exact ofText_of_render spaced known distinct read

end Specification

/-- However a specification is made, what is written of it is read as the specification again, from
    a document and from a text on one line or on several. So whatever document or text a
    specification was read from, it is written in a form that is accepted and written the same. -/
theorem specification_read_back :
    (∀ spec : Specification, spec.Made →
      Specification.ofJson spec.toJson = .ok spec ∧
      Specification.ofText spec.toJson.compact = .ok spec ∧
      Specification.ofText spec.toJson.pretty = .ok spec) ∧
    (∀ document spec, Specification.ofJson document = .ok spec →
      (Specification.ofJson spec.toJson).map (·.toJson) = .ok spec.toJson) ∧
    ∀ text spec, Specification.ofText text = .ok spec →
      (Specification.ofText spec.toJson.compact).map (·.toJson.compact) =
        .ok spec.toJson.compact := by
  refine ⟨fun spec made => ⟨?_, ?_, ?_⟩, fun document spec read => ?_, fun text spec read => ?_⟩
  · exact Specification.ofJson_toJson made.valid
  · exact Specification.ofText_toJson made.valid JsonLayout.compact_spaced
  · exact Specification.ofText_toJson made.valid JsonLayout.pretty_spaced
  · rw [Specification.ofJson_toJson (Specification.ofJson_valid read)]
    rfl
  · have again := Specification.ofText_toJson (Specification.ofText_valid read)
      JsonLayout.compact_spaced
    rw [Json.compact, again]
    rfl

/-- A filter in loose spelling, with an empty nested path, without a flag and with a note. -/
def looseFilter : Json :=
  .object [("operator", .string " is_not "), ("type", .string "TEXT"), ("nestedOf", .string ""),
    ("note", .nat 1), ("values", .strings ["Ann"]), ("fieldName", .string "name"),
    ("indexName", .string "people")]

/-- The filter in loose spelling is written without path and note, and that is read again. Orders
    with a nested field are read back from one line. -/
theorem loose_filter_read_back :
    (∃ spec, Specification.ofJson looseFilter = .ok spec ∧
      spec.toJson = .object [("indexName", .string "people"), ("fieldName", .string "name"),
        ("operator", .string "IsNot"), ("type", .string "Text"), ("values", .strings ["Ann"]),
        ("evaluateValuesAsOr", .bool false)] ∧
      (Specification.ofJson spec.toJson).map (·.toJson) = .ok spec.toJson) ∧
    ∃ spec : Specification, spec.Made ∧ spec.nestedOf = some "lines" ∧
      Specification.ofText spec.toJson.compact = .ok spec := by
  obtain ⟨made, documents, _⟩ := specification_read_back
  have loose : Specification.ofJson looseFilter =
      .ok ⟨"people", "name", none, .isNot, .text, ["Ann"], false⟩ :=
    toOption_eq_some_iff.mp (by decide +kernel)
  have created : Specification.create "orders" "total" .is .number ["1"] =
      .ok ⟨"orders", "total", none, .is, .number, ["1"], false⟩ := rfl
  have nested := (Specification.Made.create created).nested "lines"
  obtain ⟨_, text, _⟩ := made _ nested
  exact ⟨⟨_, loose, rfl, documents _ _ loose⟩, _, nested, rfl, text⟩

end Winnow
