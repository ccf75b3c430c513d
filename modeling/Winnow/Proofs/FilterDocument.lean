import Winnow.FilterFile
import Winnow.Proofs.JsonText
import Winnow.Proofs.Success

/-! # Which documents are filter files

What a document has to look like to describe a filter, a group or a whole file, said without the
readers. A document that describes one is read as it, and every other is refused for its shape.
-/

namespace Winnow

namespace FilterInput

/-- What the value of a field says, if the field is there. Three fields may be left out. -/
def Takes (input : FilterInput) : FilterField → Option Json → Prop
  | .index, value? => value? = some (.string input.index)
  | .field, value? => value? = some (.string input.field)
  | .nestedOf, value? => value?.getD .null = .optionalString input.nestedOf
  | .operator, value? =>
      ∃ name, value? = some (.string name) ∧ Operator.ofName? name = some input.operator
  | .type, value? => ∃ name, value? = some (.string name) ∧ FieldType.ofName? name = some input.type
  | .values, value? => value?.getD (.array []) = .strings input.values
  | .valuesAsOr, value? => value?.getD .null = .optionalBool input.valuesAsOr

/-- A document that describes a filter. -/
inductive DescribedBy (input : FilterInput) : Json → Prop where
  /-- An object has the fields of the filter among its members. -/
  | object {members : List (String × Json)}
      (fields : ∀ key : FilterField, input.Takes key (members.lookup key.name)) :
      DescribedBy input (.object members)
  /-- An array has the first five to seven fields in their order. -/
  | array {items : List Json} (enough : 5 ≤ items.length) (few : items.length ≤ 7)
      (fields : ∀ key : FilterField,
        input.Takes key (((FilterField.all.map (·.name)).zip items).lookup key.name)) :
      DescribedBy input (.array items)

end FilterInput

namespace GroupInput

/-- A document that describes a group. -/
inductive DescribedBy (group : GroupInput) : Json → Prop where
  /-- An object has the filters and at most two flags beside them. -/
  | object {members : List (String × Json)} {filters : List Json}
      (known : ∀ name ∈ members.map (·.1), name ∈ fieldNames)
      (asOr : (members.lookup "evaluateAsOr").getD .null = .optionalBool group.asOr)
      (isRequired : (members.lookup "mandatory").getD .null = .optionalBool group.isRequired)
      (given : members.lookup "filters" = some (.array filters))
      (each : List.Forall₂ FilterInput.DescribedBy group.filters filters) :
      DescribedBy group (.object members)
  /-- An array has both flags and the filters. -/
  | array {filters : List Json}
      (each : List.Forall₂ FilterInput.DescribedBy group.filters filters) :
      DescribedBy group
        (.array [.optionalBool group.asOr, .optionalBool group.isRequired, .array filters])

end GroupInput

namespace FilterFile

/-- A document that has the form of a filter file, whatever is in it. -/
inductive HasForm : Json → Prop where
  | bare (items : List Json) : HasForm (.array items)
  | grouped {members : List (String × Json)} (groups : "groups" ∈ members.map (·.1)) :
      HasForm (.object members)

/-- The groups that a document describes, and whether it has the form with groups. -/
inductive Describes : Json → Bool → List GroupInput → Prop where
  /-- An array of filters is one group without flags. -/
  | bare {items : List Json} {filters : List FilterInput}
      (each : List.Forall₂ FilterInput.DescribedBy filters items) :
      Describes (.array items) false [⟨none, none, filters⟩]
  /-- An object has nothing but its groups. -/
  | grouped {items : List Json} {groups : List GroupInput}
      (each : List.Forall₂ GroupInput.DescribedBy groups items) :
      Describes (.object [("groups", .array items)]) true groups

end FilterFile

theorem lookup_of_notMem {members : List (String × Json)} {name : String}
    (fresh : name ∉ members.map (·.1)) : members.lookup name = none := by
  rw [List.lookup_eq_none_iff]
  intro member inside
  rw [bne_iff_ne]
  rintro rfl
  exact fresh (List.mem_map_of_mem inside)

theorem lookup_of_mem {members : List (String × Json)} (distinct : (members.map (·.1)).Nodup)
    {member : String × Json} (inside : member ∈ members) :
    members.lookup member.1 = some member.2 := by
  obtain ⟨before, after, rfl⟩ := List.append_of_mem inside
  refine List.lookup_eq_some_iff.mpr ⟨before, after, rfl, fun other earlier => ?_⟩
  rw [bne_iff_ne]
  rw [List.map_append, List.nodup_append] at distinct
  exact (distinct.2.2 _ (List.mem_map_of_mem earlier) _ List.mem_cons_self).symm

theorem forall₂_congr_left {α β : Type} {R S : α → β → Prop} {xs : List α} {ys : List β}
    (same : ∀ y ∈ ys, ∀ x, R x y ↔ S x y) : List.Forall₂ R xs ys ↔ List.Forall₂ S xs ys := by
  induction ys generalizing xs with
  | nil => rw [List.forall₂_nil_right_iff, List.forall₂_nil_right_iff]
  | cons y ys ih =>
      obtain ⟨here, others⟩ := List.forall_mem_cons.mp same
      simp only [List.forall₂_cons_right_iff, here, ih others]

/-! ## Values of one type -/

namespace Json

theorem asString_eq_ok_iff {value : Json} {s : String} :
    value.asString = .ok s ↔ value = .string s := by
  cases value <;> simp [asString]

theorem asOptionalString_eq_ok_iff {value : Json} {s : Option String} :
    value.asOptional asString = .ok s ↔ value = .optionalString s := by
  cases value <;> cases s <;> simp [asOptional, asString, optionalString, Except.map]

theorem asOptionalBool_eq_ok_iff {value : Json} {b : Option Bool} :
    value.asOptional asBool = .ok b ↔ value = .optionalBool b := by
  cases value <;> cases b <;> simp [asOptional, asBool, optionalBool, Except.map]

theorem optionalString_injective : Function.Injective optionalString := by
  intro a b same
  cases a <;> cases b <;> simp_all [optionalString]

theorem optionalBool_injective : Function.Injective optionalBool := by
  intro a b same
  cases a <;> cases b <;> simp_all [optionalBool]

theorem strings_injective : Function.Injective strings := by
  intro a b same
  have each : Function.Injective string := fun _ _ same => string.inj same
  exact each.list_map (array.inj same)

theorem asList_eq_ok_iff {α : Type} {read : Json → Except ShapeError α} {value : Json}
    {xs : List α} :
    value.asList read = .ok xs ↔
      ∃ items, value = .array items ∧ List.Forall₂ (fun x item => read item = .ok x) xs items := by
  cases value with
  | array items =>
      rw [asList, mapM_eq_ok_iff_forall₂]
      constructor
      · intro each
        exact ⟨items, rfl, each.flip⟩
      · rintro ⟨_, same, each⟩
        cases same
        exact each.flip
  | null | bool | number | string | object => simp [asList]

theorem asList_eq_ok_iff_of {α : Type} {read : Json → Except ShapeError α}
    {Describes : α → Json → Prop}
    (single : ∀ item : Json, item.NamesDistinct → ∀ x, read item = .ok x ↔ Describes x item)
    {value : Json} (distinct : value.NamesDistinct) {xs : List α} :
    value.asList read = .ok xs ↔
      ∃ items, value = .array items ∧ List.Forall₂ Describes xs items := by
  rw [asList_eq_ok_iff]
  refine exists_congr fun items => and_congr_right ?_
  rintro rfl
  cases distinct with
  | array each => exact forall₂_congr_left fun item member x => single item (each item member) x

theorem asStrings_eq_ok_iff {value : Json} {texts : List String} :
    value.asList asString = .ok texts ↔ value = .strings texts := by
  have same : ∀ items, List.Forall₂ (fun x item => asString item = .ok x) texts items ↔
      items = texts.map .string := by
    intro items
    simp only [asString_eq_ok_iff]
    rw [eq_comm, ← List.forall₂_eq_eq_eq, List.forall₂_map_left_iff]
    simp only [eq_comm]
  simp [asList_eq_ok_iff, same, strings]

end Json

theorem Operator.parse_eq_ok_iff {name : String} {operator : Operator} :
    parse name = .ok operator ↔ ofName? name = some operator := by
  unfold parse
  split <;> simp_all

theorem FieldType.parse_eq_ok_iff {name : String} {type : FieldType} :
    parse name = .ok type ↔ ofName? name = some type := by
  unfold parse
  split <;> simp_all

theorem ShapeError.ofQuery_eq_ok_iff {α : Type} {step : Except QueryError α} {x : α} :
    ofQuery step = .ok x ↔ step = .ok x := by
  cases step <;> simp [ofQuery]

/-! ## Filters -/

namespace FilterDraft

/-- What the fields read so far say of a filter. -/
def Gives (draft : FilterDraft) (input : FilterInput) : FilterField → Prop
  | .index => draft.index = some input.index
  | .field => draft.field = some input.field
  | .nestedOf => draft.nestedOf.getD none = input.nestedOf
  | .operator => draft.operator = some input.operator
  | .type => draft.type = some input.type
  | .values => draft.values.getD [] = input.values
  | .valuesAsOr => draft.valuesAsOr.getD none = input.valuesAsOr

theorem empty_gives_iff {input : FilterInput} {key : FilterField} :
    empty.Gives input key ↔ input.Takes key none := by
  cases key with
  | index | field | operator | type => simp [Gives, empty, FilterInput.Takes]
  | nestedOf =>
      cases nested : input.nestedOf <;>
        simp [Gives, empty, FilterInput.Takes, Json.optionalString, nested]
  | values =>
      simp only [Gives, empty, FilterInput.Takes, Json.strings, Option.getD_none, Json.array.injEq]
      rw [eq_comm (b := input.values), eq_comm (a := []), List.map_eq_nil_iff]
  | valuesAsOr =>
      cases flag : input.valuesAsOr <;>
        simp [Gives, empty, FilterInput.Takes, Json.optionalBool, flag]

theorem need_eq_ok_iff {α : Type} {key : FilterField} {value? : Option α} {x : α} :
    need key value? = .ok x ↔ value? = some x := by
  cases value? <;> simp [need]

theorem finish_eq_ok_iff {draft : FilterDraft} {input : FilterInput} :
    draft.finish = .ok input ↔ ∀ key, draft.Gives input key := by
  simp only [finish, bind_eq_ok_iff, need_eq_ok_iff, pure, Except.pure, Except.ok.injEq]
  constructor
  · rintro ⟨_, index, _, field, _, operator, _, type, rfl⟩ key
    cases key with
    | index => exact index
    | field => exact field
    | operator => exact operator
    | type => exact type
    | nestedOf | values | valuesAsOr => rfl
  · intro gives
    refine ⟨_, gives .index, _, gives .field, _, gives .operator, _, gives .type, ?_⟩
    have nested : draft.nestedOf.getD none = input.nestedOf := gives .nestedOf
    have values : draft.values.getD [] = input.values := gives .values
    have flag : draft.valuesAsOr.getD none = input.valuesAsOr := gives .valuesAsOr
    rw [nested, values, flag]

end FilterDraft

namespace FilterInput

theorem readOperator_eq_ok_iff {value : Json} {operator : Operator} :
    readOperator value = .ok operator ↔
      ∃ name, value = .string name ∧ Operator.ofName? name = some operator := by
  simp only [readOperator, bind_eq_ok_iff, Json.asString_eq_ok_iff, ShapeError.ofQuery_eq_ok_iff,
    Operator.parse_eq_ok_iff]

theorem readType_eq_ok_iff {value : Json} {type : FieldType} :
    readType value = .ok type ↔
      ∃ name, value = .string name ∧ FieldType.ofName? name = some type := by
  simp only [readType, bind_eq_ok_iff, Json.asString_eq_ok_iff, ShapeError.ofQuery_eq_ok_iff,
    FieldType.parse_eq_ok_iff]

theorem readField_gives {draft next : FilterDraft} {key : FilterField} {value : Json}
    (read : readField draft key value = .ok next) (input : FilterInput) (other : FilterField) :
    next.Gives input other ↔
      if other = key then input.Takes key (some value) else draft.Gives input other := by
  unfold readField at read
  split at read <;> obtain ⟨x, given, same⟩ := bind_eq_ok_iff.mp read <;> cases same
  · cases other <;> simp [FilterDraft.Gives, Takes, Json.asString_eq_ok_iff.mp given]
  · cases other <;> simp [FilterDraft.Gives, Takes, Json.asString_eq_ok_iff.mp given]
  · cases other <;> simp [FilterDraft.Gives, Takes, Json.asOptionalString_eq_ok_iff.mp given,
      Json.optionalString_injective.eq_iff]
  · obtain ⟨name, rfl, named⟩ := readOperator_eq_ok_iff.mp given
    cases other <;> simp [FilterDraft.Gives, Takes, named]
  · obtain ⟨name, rfl, named⟩ := readType_eq_ok_iff.mp given
    cases other <;> simp [FilterDraft.Gives, Takes, named]
  · cases other <;> simp [FilterDraft.Gives, Takes, Json.asStrings_eq_ok_iff.mp given,
      Json.strings_injective.eq_iff]
  · cases other <;> simp [FilterDraft.Gives, Takes, Json.asOptionalBool_eq_ok_iff.mp given,
      Json.optionalBool_injective.eq_iff]

theorem exists_readField {input : FilterInput} {key : FilterField} {value : Json}
    (takes : input.Takes key (some value)) (draft : FilterDraft) :
    ∃ next, readField draft key value = .ok next := by
  have reads : ∀ {α : Type} {step : Except ShapeError α} {x : α} (next : α → FilterDraft),
      step = .ok x → ∃ last, (step >>= fun x => pure (next x)) = .ok last :=
    fun next given => ⟨_, bind_eq_ok_iff.mpr ⟨_, given, rfl⟩⟩
  cases key with
  | index | field => exact reads _ (Json.asString_eq_ok_iff.mpr (Option.some.inj takes))
  | nestedOf => exact reads _ (Json.asOptionalString_eq_ok_iff.mpr takes)
  | operator =>
      obtain ⟨name, same, named⟩ := takes
      exact reads _ (readOperator_eq_ok_iff.mpr ⟨name, Option.some.inj same, named⟩)
  | type =>
      obtain ⟨name, same, named⟩ := takes
      exact reads _ (readType_eq_ok_iff.mpr ⟨name, Option.some.inj same, named⟩)
  | values => exact reads _ (Json.asStrings_eq_ok_iff.mpr takes)
  | valuesAsOr => exact reads _ (Json.asOptionalBool_eq_ok_iff.mpr takes)

end FilterInput

theorem FilterField.ofName?_eq_some_iff {name : String} {key : FilterField} :
    ofName? name = some key ↔ key.name = name := by
  constructor
  · intro found
    simpa using List.find?_some found
  · rintro rfl
    cases key <;> decide

theorem FilterField.name_injective : Function.Injective name := by
  intro key other same
  have found := ofName?_eq_some_iff.mpr same
  rw [ofName?_eq_some_iff.mpr rfl] at found
  exact (Option.some.inj found).symm

namespace FilterInput

/-- Members that were read say what their values do, and other fields stay as they are. -/
theorem readMembers_gives {draft last : FilterDraft} {members : List (String × Json)}
    (distinct : (members.map (·.1)).Nodup) (read : readMembers draft members = .ok last)
    (input : FilterInput) (key : FilterField) :
    last.Gives input key ↔
      match members.lookup key.name with
      | some value => input.Takes key (some value)
      | none => draft.Gives input key := by
  induction members generalizing draft with
  | nil =>
      cases read
      rfl
  | cons first rest ih =>
      obtain ⟨name, value⟩ := first
      obtain ⟨fresh, others⟩ := List.nodup_cons.mp distinct
      rw [readMembers] at read
      rw [List.lookup_cons]
      cases known : FilterField.ofName? name with
      | none =>
          have other : (key.name == name) = false := by
            rw [beq_eq_false_iff_ne]
            intro same
            rw [FilterField.ofName?_eq_some_iff.mpr same] at known
            cases known
          rw [known] at read
          rw [other, ih others read]
      | some own =>
          rw [known] at read
          obtain ⟨next, field, later⟩ := bind_eq_ok_iff.mp read
          have named := FilterField.ofName?_eq_some_iff.mp known
          have gives := readField_gives field input key
          rw [ih others later]
          -- No later member has this name, so nothing sets the field again.
          by_cases same : key = own
          · subst same
            rw [named, lookup_of_notMem fresh, beq_self_eq_true]
            rwa [if_pos rfl] at gives
          · have other : (key.name == name) = false := by
              rw [beq_eq_false_iff_ne, ← named]
              exact fun equal => same (FilterField.name_injective equal)
            rw [other]
            rw [if_neg same] at gives
            cases rest.lookup key.name with
            | none => exact gives
            | some value => rfl

theorem exists_readMembers {input : FilterInput} {members : List (String × Json)}
    (takes : ∀ member ∈ members, ∀ key : FilterField, key.name = member.1 →
      input.Takes key (some member.2)) (draft : FilterDraft) :
    ∃ last, readMembers draft members = .ok last := by
  induction members generalizing draft with
  | nil => exact ⟨draft, rfl⟩
  | cons first rest ih =>
      obtain ⟨here, later⟩ := List.forall_mem_cons.mp takes
      rw [readMembers]
      cases known : FilterField.ofName? first.1 with
      | none => exact ih later draft
      | some key =>
          obtain ⟨next, field⟩ :=
            exists_readField (here key (FilterField.ofName?_eq_some_iff.mp known)) draft
          obtain ⟨last, read⟩ := ih later next
          exact ⟨last, bind_eq_ok_iff.mpr ⟨next, field, read⟩⟩

theorem readMembers_finish_eq_ok_iff {input : FilterInput} {members : List (String × Json)}
    (distinct : (members.map (·.1)).Nodup) :
    (readMembers .empty members >>= FilterDraft.finish) = .ok input ↔
      ∀ key : FilterField, input.Takes key (members.lookup key.name) := by
  have same : ∀ {last}, readMembers .empty members = .ok last →
      (last.finish = .ok input ↔
        ∀ key : FilterField, input.Takes key (members.lookup key.name)) := by
    intro last read
    rw [FilterDraft.finish_eq_ok_iff]
    refine forall_congr' fun key => ?_
    rw [readMembers_gives distinct read]
    cases members.lookup key.name with
    | none => exact FilterDraft.empty_gives_iff
    | some value => rfl
  rw [bind_eq_ok_iff]
  constructor
  · rintro ⟨last, read, finished⟩
    exact (same read).mp finished
  · intro takes
    have each : ∀ member ∈ members, ∀ key : FilterField, key.name = member.1 →
        input.Takes key (some member.2) := by
      intro member inside key named
      have found := takes key
      rwa [named, lookup_of_mem distinct inside] at found
    obtain ⟨last, read⟩ := exists_readMembers each .empty
    exact ⟨last, read, (same read).mpr takes⟩

theorem readItems_eq_ok_iff {draft last : FilterDraft} {keys : List FilterField}
    {items : List Json} :
    readItems draft keys items = .ok last ↔
      items.length ≤ keys.length ∧ (∀ key ∈ keys.drop items.length, key.mayBeMissing) ∧
        readMembers draft ((keys.map (·.name)).zip items) = .ok last := by
  induction keys generalizing draft items with
  | nil => cases items <;> simp [readItems, readMembers]
  | cons key keys ih =>
      cases items with
      | nil =>
          have rest := @ih draft []
          rw [readItems]
          split
          · next missing => simpa [missing, readMembers] using rest
          · next needed => simp [needed]
      | cons value items =>
          have known : FilterField.ofName? key.name = some key :=
            FilterField.ofName?_eq_some_iff.mpr rfl
          rw [readItems, List.map_cons, List.zip_cons_cons, readMembers, known, bind_eq_ok_iff]
          simp only [ih, bind_eq_ok_iff, List.length_cons, Nat.add_le_add_iff_right,
            List.drop_succ_cons]
          exact ⟨fun ⟨next, field, few, missing, read⟩ => ⟨few, missing, next, field, read⟩,
            fun ⟨few, missing, next, field, read⟩ => ⟨next, field, few, missing, read⟩⟩

theorem mayBeMissing_after_iff {count : Nat} :
    (∀ key ∈ FilterField.all.drop count, key.mayBeMissing) ↔ 5 ≤ count := by
  by_cases few : count < 7
  · revert few
    decide +revert
  · have none : FilterField.all.drop count = [] := List.drop_eq_nil_iff.mpr (Nat.le_of_not_lt few)
    simp only [none, List.not_mem_nil, false_implies, implies_true, true_iff]
    omega

theorem zip_names_nodup (items : List Json) :
    (((FilterField.all.map (·.name)).zip items).map (·.1)).Nodup := by
  have names : (FilterField.all.map (·.name)).Nodup := by decide
  refine names.sublist ?_
  rw [List.zip_eq_zip_take_min, List.map_fst_zip (by simp)]
  exact List.take_sublist _ _

/-- A document is read as the filter that it describes. -/
theorem ofJson_eq_ok_iff {value : Json} (distinct : value.NamesDistinct) {input : FilterInput} :
    ofJson value = .ok input ↔ input.DescribedBy value := by
  cases value with
  | object members =>
      have names : (members.map (·.1)).Nodup := by
        cases distinct with
        | object names each => exact names
      rw [ofJson, readMembers_finish_eq_ok_iff names]
      constructor
      · exact .object
      · intro described
        cases described with
        | object fields => exact fields
  | array items =>
      have read : ofJson (.array items) = .ok input ↔
          items.length ≤ 7 ∧ 5 ≤ items.length ∧ ∀ key : FilterField,
            input.Takes key (((FilterField.all.map (·.name)).zip items).lookup key.name) := by
        rw [← readMembers_finish_eq_ok_iff (zip_names_nodup items), ← mayBeMissing_after_iff]
        simp only [ofJson, bind_eq_ok_iff, readItems_eq_ok_iff]
        exact ⟨fun ⟨draft, ⟨few, enough, read⟩, done⟩ => ⟨few, enough, draft, read, done⟩,
          fun ⟨few, enough, draft, read, done⟩ => ⟨draft, ⟨few, enough, read⟩, done⟩⟩
      rw [read]
      constructor
      · rintro ⟨few, enough, fields⟩
        exact .array enough few fields
      · intro described
        cases described with
        | array enough few fields => exact ⟨few, enough, fields⟩
  | null | bool | number | string => exact ⟨nofun, nofun⟩

end FilterInput

/-! ## Groups -/

namespace GroupInput

/-- What a field is after the members are read: what its member says, if it has one. -/
def Settles {α : Type} (read : Json → Except ShapeError α) (before after : α) :
    Option Json → Prop
  | some value => read value = .ok after
  | none => after = before

@[simp] theorem settles_some {α : Type} {read : Json → Except ShapeError α} {before after : α}
    {value : Json} : Settles read before after (some value) ↔ read value = .ok after :=
  Iff.rfl

@[simp] theorem settles_none {α : Type} {read : Json → Except ShapeError α} {before after : α} :
    Settles read before after none ↔ after = before :=
  Iff.rfl

theorem readMembers_eq_ok_iff {draft last : Draft} {members : List (String × Json)}
    (distinct : (members.map (·.1)).Nodup) :
    readMembers draft members = .ok last ↔
      (∀ name ∈ members.map (·.1), name ∈ fieldNames) ∧
        Settles (Json.asOptional Json.asBool) draft.asOr last.asOr
          (members.lookup "evaluateAsOr") ∧
        Settles (Json.asOptional Json.asBool) draft.isRequired last.isRequired
          (members.lookup "mandatory") ∧
        Settles (fun value => (value.asList FilterInput.ofJson).map some) draft.filters last.filters
          (members.lookup "filters") := by
  induction members generalizing draft with
  | nil =>
      cases draft
      cases last
      simp [readMembers, Settles, eq_comm]
  | cons first rest ih =>
      obtain ⟨name, value⟩ := first
      obtain ⟨fresh, others⟩ := List.nodup_cons.mp distinct
      have absent : rest.lookup name = none := lookup_of_notMem fresh
      rw [readMembers]
      split
      · next same =>
        subst same
        simp [bind_eq_ok_iff, ih others, List.lookup_cons, absent, fieldNames, and_left_comm]
      · split
        · next same =>
          subst same
          simp [bind_eq_ok_iff, ih others, List.lookup_cons, absent, fieldNames, and_left_comm]
        · split
          · next same =>
            subst same
            cases given : value.asList FilterInput.ofJson <;>
              simp [given, bind, Except.bind, Except.map, ih others, List.lookup_cons, absent,
                fieldNames, and_left_comm, eq_comm]
          · simp [fieldNames, *]

theorem settles_flag_iff {flag : Option Bool} {value? : Option Json} :
    Settles (Json.asOptional Json.asBool) none flag value? ↔
      value?.getD .null = .optionalBool flag := by
  cases value? with
  | none => cases flag <;> simp [Json.optionalBool]
  | some value => rw [settles_some, Json.asOptionalBool_eq_ok_iff, Option.getD_some]

theorem settles_filters_iff {filters : List FilterInput} {value? : Option Json}
    (distinct : ∀ value, value? = some value → value.NamesDistinct) :
    Settles (fun value => (value.asList FilterInput.ofJson).map some) none (some filters) value? ↔
      ∃ items, value? = some (.array items) ∧
        List.Forall₂ FilterInput.DescribedBy filters items := by
  cases value? with
  | none => simp
  | some value =>
      have read : value.asList FilterInput.ofJson = .ok filters ↔ _ :=
        Json.asList_eq_ok_iff_of (fun _ known _ => FilterInput.ofJson_eq_ok_iff known)
          (distinct value rfl)
      simp only [settles_some, map_eq_ok_iff, Option.some.injEq, exists_eq_right', read]

theorem ofJson_object_eq_ok_iff {members : List (String × Json)} {group : GroupInput} :
    ofJson (.object members) = .ok group ↔
      readMembers ⟨none, none, none⟩ members =
        .ok ⟨group.asOr, group.isRequired, some group.filters⟩ := by
  rw [ofJson, bind_eq_ok_iff]
  constructor
  · rintro ⟨⟨asOr, isRequired, filters?⟩, read, done⟩
    cases filters? with
    | none => cases done
    | some filters =>
        cases done
        exact read
  · intro read
    exact ⟨_, read, rfl⟩

theorem ofJson_array_eq_ok_iff {items : List Json} {group : GroupInput} :
    ofJson (.array items) = .ok group ↔
      ∃ filters, items = [.optionalBool group.asOr, .optionalBool group.isRequired, filters] ∧
        filters.asList FilterInput.ofJson = .ok group.filters := by
  constructor
  · intro read
    match items with
    | [] | [_] | [_, _] | _ :: _ :: _ :: _ :: _ => simp [ofJson, bind_eq_ok_iff] at read
    | [asOr, isRequired, filters] =>
        simp only [ofJson, bind_eq_ok_iff, Json.asOptionalBool_eq_ok_iff] at read
        obtain ⟨_, rfl, _, rfl, _, given, same⟩ := read
        cases same
        exact ⟨filters, rfl, given⟩
  · rintro ⟨filters, rfl, given⟩
    simp only [ofJson, bind_eq_ok_iff, Json.asOptionalBool_eq_ok_iff]
    exact ⟨_, rfl, _, rfl, _, given, rfl⟩

/-- A document is read as the group that it describes. -/
theorem ofJson_eq_ok_iff {value : Json} (distinct : value.NamesDistinct) {group : GroupInput} :
    ofJson value = .ok group ↔ group.DescribedBy value := by
  cases value with
  | object members =>
      cases distinct with
      | object names each =>
          have inside : ∀ value, members.lookup "filters" = some value → value.NamesDistinct := by
            intro value found
            obtain ⟨before, after, rfl, _⟩ := List.lookup_eq_some_iff.mp found
            exact each ("filters", value) (by simp)
          rw [ofJson_object_eq_ok_iff, readMembers_eq_ok_iff names, settles_flag_iff,
            settles_flag_iff, settles_filters_iff inside]
          constructor
          · rintro ⟨known, asOr, isRequired, items, given, each⟩
            exact .object known asOr isRequired given each
          · intro described
            cases described with
            | object known asOr isRequired given each =>
                exact ⟨known, asOr, isRequired, _, given, each⟩
  | array items =>
      have read : ∀ filters ∈ items, ∀ inputs,
          filters.asList FilterInput.ofJson = .ok inputs ↔
            ∃ each, filters = .array each ∧ List.Forall₂ FilterInput.DescribedBy inputs each := by
        cases distinct with
        | array each =>
            exact fun filters member inputs => Json.asList_eq_ok_iff_of
              (fun item known x => FilterInput.ofJson_eq_ok_iff known) (each filters member)
      rw [ofJson_array_eq_ok_iff]
      constructor
      · rintro ⟨filters, rfl, given⟩
        obtain ⟨_, rfl, each⟩ := (read filters (by simp) _).mp given
        exact .array each
      · intro described
        cases described with
        | array each => exact ⟨_, rfl, (read _ (by simp) _).mpr ⟨_, rfl, each⟩⟩
  | null | bool | number | string => exact ⟨nofun, nofun⟩

end GroupInput

/-! ## Files -/

theorem readGroups_eq_ok_iff {members : List (String × Json)}
    (distinct : (Json.object members).NamesDistinct) (inside : "groups" ∈ members.map (·.1))
    {groups : List GroupInput} :
    readGroups members = .ok groups ↔
      ∃ items, members = [("groups", .array items)] ∧
        List.Forall₂ GroupInput.DescribedBy groups items := by
  cases distinct with
  | object names each =>
      match members with
      | [] => simp at inside
      | [(name, value)] =>
          have same : "groups" = name := by simpa using inside
          subst same
          have read : value.asList GroupInput.ofJson = .ok groups ↔ _ :=
            Json.asList_eq_ok_iff_of (fun _ known _ => GroupInput.ofJson_eq_ok_iff known)
              (each ("groups", value) (by simp))
          simp [readGroups, readGroups.go, bind_eq_ok_iff, read]
      | (name, value) :: (second, other) :: rest =>
          -- A name other than "groups" is among the first two, and either is refused.
          simp only [readGroups, readGroups.go]
          split
          · next first =>
            have different : second ≠ "groups" := by
              rintro rfl
              simp [first] at names
            simp [different, bind_eq_ok_iff]
          · simp

namespace FilterFile

theorem any_groups_iff {members : List (String × Json)} :
    members.any (·.1 == "groups") = true ↔ "groups" ∈ members.map (·.1) := by
  simp

theorem hasForm_object_iff {members : List (String × Json)} :
    HasForm (.object members) ↔ "groups" ∈ members.map (·.1) := by
  constructor
  · intro form
    cases form with
    | grouped groups => exact groups
  · exact .grouped

/-- A document is read as the groups that it describes. -/
theorem readDocument_eq_ok_iff {document : Json} (distinct : document.NamesDistinct)
    {isGrouped : Bool} {groups : List GroupInput} :
    readDocument document = .ok (isGrouped, groups) ↔ Describes document isGrouped groups := by
  cases document with
  | array items =>
      have read : ∀ filters : List FilterInput,
          (Json.array items).asList FilterInput.ofJson = .ok filters ↔
            List.Forall₂ FilterInput.DescribedBy filters items := by
        intro filters
        rw [Json.asList_eq_ok_iff_of (fun _ known _ => FilterInput.ofJson_eq_ok_iff known) distinct]
        simp
      constructor
      · rw [readDocument]
        cases given : (Json.array items).asList FilterInput.ofJson with
        | error e => exact nofun
        | ok filters =>
            rintro ⟨⟩
            exact .bare ((read filters).mp given)
      · intro described
        cases described with
        | bare each => rw [readDocument, (read _).mpr each]
  | object members =>
      constructor
      · rw [readDocument]
        split
        · next found =>
          cases given : readGroups members with
          | error e => exact nofun
          | ok groups =>
              rintro ⟨⟩
              obtain ⟨items, rfl, each⟩ :=
                (readGroups_eq_ok_iff distinct (any_groups_iff.mp found)).mp given
              exact .grouped each
        · exact nofun
      · intro described
        cases described with
        | grouped each =>
            have given := (readGroups_eq_ok_iff distinct (by simp)).mpr ⟨_, rfl, each⟩
            rw [readDocument, if_pos (by simp), given]
  | null | bool | number | string => exact ⟨nofun, nofun⟩

theorem readDocument_eq_noFilters_iff {document : Json} :
    readDocument document = .error .noFilters ↔ ¬ HasForm document := by
  cases document with
  | array items =>
      have form : HasForm (.array items) := .bare items
      rw [readDocument]
      split <;> simp [form]
  | object members =>
      rw [readDocument, hasForm_object_iff, ← any_groups_iff]
      split
      · next found =>
        split <;> simp [found]
      · next missing => simp [missing]
  | null | bool | number | string => exact ⟨fun _ => nofun, fun _ => rfl⟩

theorem readDocument_eq_error {document : Json} {error : FilterFileError}
    (refused : readDocument document = .error error) :
    error = .noFilters ∨ ∃ cause, error = .shape cause := by
  unfold readDocument at refused
  split at refused
  · split at refused <;> cases refused
    exact .inr ⟨_, rfl⟩
  · split at refused
    · split at refused <;> cases refused
      exact .inr ⟨_, rfl⟩
    · cases refused
      exact .inl rfl
  · cases refused
    exact .inl rfl

theorem readDocument_eq_shape_iff {document : Json} (distinct : document.NamesDistinct) :
    (∃ cause, readDocument document = .error (.shape cause)) ↔
      HasForm document ∧ ¬ ∃ isGrouped groups, Describes document isGrouped groups := by
  have form : HasForm document ↔ readDocument document ≠ .error .noFilters := by
    rw [Ne, readDocument_eq_noFilters_iff, not_not]
  simp only [← readDocument_eq_ok_iff distinct, form]
  cases result : readDocument document with
  | ok read =>
      constructor
      · exact nofun
      · rintro ⟨_, undescribed⟩
        exact (undescribed ⟨read.1, read.2, rfl⟩).elim
  | error error =>
      rcases readDocument_eq_error result with rfl | ⟨cause, rfl⟩ <;> simp

end FilterFile

end Winnow
