import Winnow.Filter.Specification

/-! # Valid specifications

What holds of every specification that can be made: it names an index and a field, it has a
value, its nested path is not empty, and its type supports its operator.
-/

namespace Winnow.Specification

/-- A specification that passes every check of its construction. -/
structure Valid (spec : Specification) : Prop where
  index_ne : spec.index ≠ ""
  field_ne : spec.field ≠ ""
  values_ne : spec.values ≠ []
  nested_ne : spec.nestedOf ≠ some ""
  supported : spec.type.supports spec.operator = true

instance (spec : Specification) : Decidable spec.Valid :=
  decidable_of_iff (spec.index ≠ "" ∧ spec.field ≠ "" ∧ spec.values ≠ [] ∧
      spec.nestedOf ≠ some "" ∧ spec.type.supports spec.operator = true)
    ⟨fun ⟨index, field, values, nested, supported⟩ => ⟨index, field, values, nested, supported⟩,
      fun ⟨index, field, values, nested, supported⟩ => ⟨index, field, values, nested, supported⟩⟩

theorem create_valid {index field : String} {operator : Operator} {type : FieldType}
    {values : List String} {spec : Specification}
    (created : create index field operator type values = .ok spec) : spec.Valid := by
  unfold create at created
  split at created
  · cases created
  · split at created
    · cases created
    · split at created
      · cases created
      · split at created
        · cases created
          exact ⟨‹_›, ‹_›, ‹_›, nofun, ‹_›⟩
        · cases created

theorem withNestedOf_valid {spec : Specification} (valid : spec.Valid) (path : String) :
    (spec.withNestedOf path).Valid where
  index_ne := valid.index_ne
  field_ne := valid.field_ne
  values_ne := valid.values_ne
  nested_ne := by by_cases empty : path = "" <;> simp [withNestedOf, empty]
  supported := valid.supported

theorem withValuesAsOr_valid {spec : Specification} (valid : spec.Valid) (valuesAsOr : Bool) :
    (spec.withValuesAsOr valuesAsOr).Valid :=
  ⟨valid.index_ne, valid.field_ne, valid.values_ne, valid.nested_ne, valid.supported⟩

end Winnow.Specification
