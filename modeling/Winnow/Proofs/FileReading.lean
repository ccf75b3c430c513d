import Winnow.Proofs.FilterDocument

/-! # Reading filter files

A text is refused because it is no JSON, because the document has not the form of a filter file,
because something in it has the wrong shape, or because a filter describes no specification, in this
order. The filter that is named is the first such one of the file. Otherwise every group and every
filter of the document is there once, in order.
-/

namespace Winnow

/-- The group that is made from one as written. -/
structure GroupInput.Gives (defaults : GroupDefaults) (written : GroupInput) (group : FilterGroup) :
    Prop where
  /-- The filters are combined as written, or else as by default. -/
  asOr : group.asOr = written.asOr.getD defaults.asOr
  /-- A group is required unless it says otherwise. -/
  isRequired : group.isRequired = written.isRequired.getD true
  /-- Each filter describes the specification at its place. -/
  filters : List.Forall₂ (fun input spec => input.toSpecification defaults.valuesAsOr = .ok spec)
    written.filters group.filters

def GroupInput.filterAt? (groups : List GroupInput) (group position : Nat) : Option FilterInput :=
  groups[group]?.bind (·.filters[position]?)

/-- The first filter of the groups, in their order, that describes no specification. -/
structure GroupInput.FirstRefused (valuesAsOr : Bool) (groups : List GroupInput)
    (group position : Nat) (cause : QueryError) : Prop where
  /-- The filter at the position describes none. -/
  refused : ∃ input, filterAt? groups group position = some input ∧
    input.toSpecification valuesAsOr = .error cause
  /-- Every filter of an earlier group, and every earlier one of the same group, describes one. -/
  earlier : ∀ i j input, i < group ∨ i = group ∧ j < position →
    filterAt? groups i j = some input → ∃ spec, input.toSpecification valuesAsOr = .ok spec

/-! ## Traversals that know the position -/

section Positions

variable {α β ε : Type} {step : α × Nat → Except ε β} {xs : List α} {start : Nat}

theorem mapM_zipIdx_eq_error_iff {error : ε} :
    (xs.zipIdx start).mapM step = .error error ↔
      ∃ position x, xs[position]? = some x ∧ step (x, start + position) = .error error ∧
        ∀ i < position, ∀ y, xs[i]? = some y → ∃ z, step (y, start + i) = .ok z := by
  induction xs generalizing start with
  | nil => simp [pure, Except.pure]
  | cons x xs ih =>
      have shift : ∀ i, start + 1 + i = start + (i + 1) := fun i => by omega
      rw [List.zipIdx_cons, List.mapM_cons, bind_eq_error_iff, ← Nat.or_exists_add_one]
      simp only [bind_eq_error_iff, pure, Except.pure, reduceCtorEq, and_false, exists_false,
        or_false, ih, shift, Nat.forall_lt_succ_left, Nat.add_zero, List.getElem?_cons_zero,
        List.getElem?_cons_succ]
      refine or_congr (by simp) ?_
      constructor
      · rintro ⟨z, first, position, y, found, fails, earlier⟩
        refine ⟨position, y, found, fails, ?_, earlier⟩
        rintro _ ⟨⟩
        exact ⟨z, first⟩
      · rintro ⟨position, y, found, fails, first, earlier⟩
        obtain ⟨z, done⟩ := first x rfl
        exact ⟨z, done, position, y, found, fails, earlier⟩

theorem mapM_zipIdx_eq_ok_iff {Result : α → β → Prop}
    (single : ∀ x position y, step (x, position) = .ok y ↔ Result x y) {ys : List β} :
    (xs.zipIdx start).mapM step = .ok ys ↔ List.Forall₂ Result xs ys := by
  simp only [mapM_eq_ok_iff_forall₂, single]
  rw [← List.forall₂_map_left_iff, List.zipIdx_map_fst]

end Positions

namespace FilterGroup

variable {defaults : GroupDefaults} {valuesAsOr : Bool}

theorem specifications_eq_mapM (group : Nat) (start : Nat) (inputs : List FilterInput) :
    specifications group valuesAsOr start inputs =
      (inputs.zipIdx start).mapM fun entry =>
        (entry.1.toSpecification valuesAsOr).mapError (.filter group entry.2) := by
  induction inputs generalizing start with
  | nil => rfl
  | cons input rest ih =>
      rw [specifications, List.zipIdx_cons, List.mapM_cons, ih]
      cases input.toSpecification valuesAsOr <;> rfl

theorem ofInputs_eq_mapM (start : Nat) (inputs : List GroupInput) :
    ofInputs defaults start inputs =
      (inputs.zipIdx start).mapM fun entry => ofInput defaults entry.2 entry.1 := by
  induction inputs generalizing start with
  | nil => rfl
  | cons input rest ih =>
      rw [ofInputs, List.zipIdx_cons, List.mapM_cons, ih]

theorem specifications_eq_ok_iff {group start : Nat} {inputs : List FilterInput}
    {specs : List Specification} :
    specifications group valuesAsOr start inputs = .ok specs ↔
      List.Forall₂ (fun input spec => input.toSpecification valuesAsOr = .ok spec)
        inputs specs := by
  rw [specifications_eq_mapM]
  exact mapM_zipIdx_eq_ok_iff fun input position spec => mapError_eq_ok_iff

theorem exists_specifications_iff {group start : Nat} {inputs : List FilterInput} :
    (∃ specs, specifications group valuesAsOr start inputs = .ok specs) ↔
      ∀ input ∈ inputs, ∃ spec, input.toSpecification valuesAsOr = .ok spec := by
  simp only [specifications_eq_ok_iff, ← mapM_eq_ok_iff_forall₂, exists_mapM_iff]

theorem ofInput_eq_ok_iff {position : Nat} {written : GroupInput} {group : FilterGroup} :
    ofInput defaults position written = .ok group ↔ written.Gives defaults group := by
  rw [ofInput, bind_eq_ok_iff]
  constructor
  · rintro ⟨specs, read, same⟩
    cases same
    exact ⟨rfl, rfl, specifications_eq_ok_iff.mp read⟩
  · rintro ⟨asOr, isRequired, filters⟩
    refine ⟨group.filters, specifications_eq_ok_iff.mpr filters, ?_⟩
    rw [← asOr, ← isRequired]
    rfl

theorem ofInputs_eq_ok_iff {start : Nat} {written : List GroupInput} {groups : List FilterGroup} :
    ofInputs defaults start written = .ok groups ↔
      List.Forall₂ (GroupInput.Gives defaults) written groups := by
  rw [ofInputs_eq_mapM]
  exact mapM_zipIdx_eq_ok_iff fun input position group => ofInput_eq_ok_iff

theorem exists_ofInput_iff {position : Nat} {written : GroupInput} :
    (∃ group, ofInput defaults position written = .ok group) ↔
      ∀ input ∈ written.filters,
        ∃ spec, input.toSpecification defaults.valuesAsOr = .ok spec := by
  have settled : (∃ specs, specifications position defaults.valuesAsOr 0 written.filters =
      .ok specs) ↔ _ := exists_specifications_iff
  rw [← settled]
  simp only [ofInput, bind_eq_ok_iff]
  constructor
  · rintro ⟨group, specs, read, _⟩
    exact ⟨specs, read⟩
  · rintro ⟨specs, read⟩
    exact ⟨_, specs, read, rfl⟩

theorem ofInput_eq_error_iff {group : Nat} {written : GroupInput} {error : FilterFileError} :
    ofInput defaults group written = .error error ↔
      ∃ position input, written.filters[position]? = some input ∧
        (∃ cause, input.toSpecification defaults.valuesAsOr = .error cause ∧
          error = .filter group position cause) ∧
        ∀ i < position, ∀ other, written.filters[i]? = some other →
          ∃ spec, other.toSpecification defaults.valuesAsOr = .ok spec := by
  have same : ofInput defaults group written = .error error ↔
      specifications group defaults.valuesAsOr 0 written.filters = .error error := by
    simp [ofInput, bind_eq_error_iff, pure, Except.pure]
  rw [same, specifications_eq_mapM, mapM_zipIdx_eq_error_iff]
  simp only [mapError_eq_ok_iff, mapError_eq_error_iff, Nat.zero_add]

/-- Groups are refused for the first filter that describes no specification. -/
theorem ofInputs_eq_error_iff {written : List GroupInput} {error : FilterFileError} :
    ofInputs defaults 0 written = .error error ↔
      ∃ group position cause, error = .filter group position cause ∧
        GroupInput.FirstRefused defaults.valuesAsOr written group position cause := by
  rw [ofInputs_eq_mapM, mapM_zipIdx_eq_error_iff]
  simp only [Nat.zero_add, exists_ofInput_iff, ofInput_eq_error_iff]
  constructor
  · rintro ⟨group, own, here, ⟨position, input, found, ⟨cause, fails, rfl⟩, before⟩, earlier⟩
    refine ⟨group, position, cause, rfl, ⟨input, ?_, fails⟩, ?_⟩
    · simp [GroupInput.filterAt?, here, found]
    · intro i j other order inside
      obtain ⟨outer, at_, within⟩ := Option.bind_eq_some_iff.mp inside
      rcases order with less | ⟨rfl, less⟩
      · exact earlier i less outer at_ other (List.mem_of_getElem? within)
      · cases here.symm.trans at_
        exact before j less other within
  · rintro ⟨group, position, cause, rfl, ⟨input, inside, fails⟩, earlier⟩
    obtain ⟨own, here, found⟩ := Option.bind_eq_some_iff.mp inside
    refine ⟨group, own, here, ⟨position, input, found, ⟨cause, fails, rfl⟩, ?_⟩, ?_⟩
    · intro j less other within
      exact earlier group j other (.inr ⟨rfl, less⟩)
        (Option.bind_eq_some_iff.mpr ⟨own, here, within⟩)
    · intro i less outer at_ other member
      obtain ⟨j, within⟩ := List.mem_iff_getElem?.mp member
      exact earlier i j other (.inl less) (Option.bind_eq_some_iff.mpr ⟨outer, at_, within⟩)

theorem exists_firstRefused_iff {groups : List GroupInput} :
    (∃ group position cause, GroupInput.FirstRefused valuesAsOr groups group position cause) ↔
      ∃ written ∈ groups, ∃ input ∈ written.filters, ∃ cause,
        input.toSpecification valuesAsOr = .error cause := by
  constructor
  · rintro ⟨group, position, cause, ⟨input, inside, fails⟩, _⟩
    obtain ⟨written, here, found⟩ := Option.bind_eq_some_iff.mp inside
    exact ⟨written, List.mem_of_getElem? here, input, List.mem_of_getElem? found, cause, fails⟩
  · rintro ⟨written, member, input, inside, cause, fails⟩
    let defaults : GroupDefaults := ⟨false, valuesAsOr⟩
    cases result : ofInputs defaults 0 groups with
    | error error =>
        obtain ⟨group, position, cause, _, first⟩ := ofInputs_eq_error_iff.mp result
        exact ⟨group, position, cause, first⟩
    | ok made =>
        have each : ∀ entry ∈ groups.zipIdx 0,
            ∃ group, ofInput defaults entry.2 entry.1 = .ok group :=
          exists_mapM_iff.mp ⟨made, (ofInputs_eq_mapM 0 groups).symm.trans result⟩
        obtain ⟨position, here⟩ := List.mem_iff_getElem?.mp member
        obtain ⟨spec, done⟩ := exists_ofInput_iff.mp
          (each (written, position) (List.mk_mem_zipIdx_iff_getElem?.mpr here)) input inside
        cases fails.symm.trans done

end FilterGroup

namespace FilterFile

variable {text : String} {defaults : GroupDefaults}

theorem parse_eq_ok_iff {file : FilterFile} :
    parse text defaults = .ok file ↔
      ∃ document groups, Json.parse? text = some document ∧
        Describes document file.isGrouped groups ∧
        List.Forall₂ (GroupInput.Gives defaults) groups file.groups := by
  rw [parse]
  cases parsed : Json.parse? text with
  | none => simp
  | some document =>
      have read : ∀ isGrouped groups, readDocument document = .ok (isGrouped, groups) ↔ _ :=
        fun _ _ => readDocument_eq_ok_iff (Json.parse?_namesDistinct parsed)
      simp only [bind_eq_ok_iff, Prod.exists, read, FilterGroup.ofInputs_eq_ok_iff, pure,
        Except.pure, Except.ok.injEq, Option.some.injEq]
      constructor
      · rintro ⟨isGrouped, inputs, described, groups, each, rfl⟩
        exact ⟨document, inputs, rfl, described, each⟩
      · rintro ⟨_, inputs, rfl, described, each⟩
        exact ⟨file.isGrouped, inputs, described, file.groups, each, rfl⟩

theorem parse_eq_error_iff {error : FilterFileError} :
    parse text defaults = .error error ↔
      Json.parse? text = none ∧ error = .malformed ∨
        ∃ document, Json.parse? text = some document ∧
          (readDocument document = .error error ∨
            ∃ isGrouped groups, Describes document isGrouped groups ∧
              FilterGroup.ofInputs defaults 0 groups = .error error) := by
  rw [parse]
  cases parsed : Json.parse? text with
  | none => simp [eq_comm]
  | some document =>
      have read : ∀ isGrouped groups, readDocument document = .ok (isGrouped, groups) ↔ _ :=
        fun _ _ => readDocument_eq_ok_iff (Json.parse?_namesDistinct parsed)
      simp [bind_eq_error_iff, read, pure, Except.pure]

theorem parse_eq_malformed_iff :
    parse text defaults = .error .malformed ↔ Json.parse? text = none := by
  rw [parse_eq_error_iff]
  constructor
  · rintro (⟨none, _⟩ | ⟨document, _, refused | ⟨_, _, _, refused⟩⟩)
    · exact none
    · rcases readDocument_eq_error refused with same | ⟨_, same⟩ <;> cases same
    · obtain ⟨_, _, _, same, _⟩ := FilterGroup.ofInputs_eq_error_iff.mp refused
      cases same
  · exact fun none => .inl ⟨none, rfl⟩

theorem parse_eq_noFilters_iff :
    parse text defaults = .error .noFilters ↔
      ∃ document, Json.parse? text = some document ∧ ¬ HasForm document := by
  rw [parse_eq_error_iff]
  constructor
  · rintro (⟨_, same⟩ | ⟨document, parsed, refused | ⟨_, _, _, refused⟩⟩)
    · cases same
    · exact ⟨document, parsed, readDocument_eq_noFilters_iff.mp refused⟩
    · obtain ⟨_, _, _, same, _⟩ := FilterGroup.ofInputs_eq_error_iff.mp refused
      cases same
  · rintro ⟨document, parsed, formless⟩
    exact .inr ⟨document, parsed, .inl (readDocument_eq_noFilters_iff.mpr formless)⟩

theorem parse_eq_shape_iff :
    (∃ cause, parse text defaults = .error (.shape cause)) ↔
      ∃ document, Json.parse? text = some document ∧ HasForm document ∧
        ¬ ∃ isGrouped groups, Describes document isGrouped groups := by
  simp only [parse_eq_error_iff]
  constructor
  · rintro ⟨cause, ⟨_, same⟩ | ⟨document, parsed, refused | ⟨_, _, _, refused⟩⟩⟩
    · cases same
    · exact ⟨document, parsed,
        (readDocument_eq_shape_iff (Json.parse?_namesDistinct parsed)).mp ⟨cause, refused⟩⟩
    · obtain ⟨_, _, _, same, _⟩ := FilterGroup.ofInputs_eq_error_iff.mp refused
      cases same
  · rintro ⟨document, parsed, shape⟩
    obtain ⟨cause, refused⟩ :=
      (readDocument_eq_shape_iff (Json.parse?_namesDistinct parsed)).mpr shape
    exact ⟨cause, .inr ⟨document, parsed, .inl refused⟩⟩

theorem parse_eq_filter_iff {group position : Nat} {cause : QueryError} :
    parse text defaults = .error (.filter group position cause) ↔
      ∃ document isGrouped groups, Json.parse? text = some document ∧
        Describes document isGrouped groups ∧
        GroupInput.FirstRefused defaults.valuesAsOr groups group position cause := by
  rw [parse_eq_error_iff]
  constructor
  · rintro (⟨_, same⟩ | ⟨document, parsed, refused | ⟨isGrouped, groups, described, refused⟩⟩)
    · cases same
    · rcases readDocument_eq_error refused with same | ⟨_, same⟩ <;> cases same
    · obtain ⟨_, _, _, same, first⟩ := FilterGroup.ofInputs_eq_error_iff.mp refused
      cases same
      exact ⟨document, isGrouped, groups, parsed, described, first⟩
  · rintro ⟨document, isGrouped, groups, parsed, described, first⟩
    exact .inr ⟨document, parsed, .inr ⟨isGrouped, groups, described,
      FilterGroup.ofInputs_eq_error_iff.mpr ⟨group, position, cause, rfl, first⟩⟩⟩

theorem exists_parse_eq_filter_iff :
    (∃ group position cause, parse text defaults = .error (.filter group position cause)) ↔
      ∃ document isGrouped groups, Json.parse? text = some document ∧
        Describes document isGrouped groups ∧
        ∃ written ∈ groups, ∃ input ∈ written.filters, ∃ cause,
          input.toSpecification defaults.valuesAsOr = .error cause := by
  simp only [parse_eq_filter_iff, ← FilterGroup.exists_firstRefused_iff]
  constructor
  · rintro ⟨group, position, cause, document, isGrouped, groups, parsed, described, first⟩
    exact ⟨document, isGrouped, groups, parsed, described, group, position, cause, first⟩
  · rintro ⟨document, isGrouped, groups, parsed, described, group, position, cause, first⟩
    exact ⟨group, position, cause, document, isGrouped, groups, parsed, described, first⟩

end FilterFile

/-- A text that is no JSON is refused for that; else a document without the form of a filter file
    for its form; else one that describes no groups for its shape; else the first filter that
    describes no specification is named with its position and its error; else every group and
    every filter is read, in order. -/
theorem file_of_text (text : String) (defaults : GroupDefaults) :
    (FilterFile.parse text defaults = .error .malformed ↔ Json.parse? text = none) ∧
    (FilterFile.parse text defaults = .error .noFilters ↔
      ∃ document, Json.parse? text = some document ∧ ¬ FilterFile.HasForm document) ∧
    ((∃ error, FilterFile.parse text defaults = .error (.shape error)) ↔
      ∃ document, Json.parse? text = some document ∧ FilterFile.HasForm document ∧
        ¬ ∃ isGrouped groups, FilterFile.Describes document isGrouped groups) ∧
    (∀ group position cause,
      FilterFile.parse text defaults = .error (.filter group position cause) ↔
        ∃ document isGrouped groups, Json.parse? text = some document ∧
          FilterFile.Describes document isGrouped groups ∧
          GroupInput.FirstRefused defaults.valuesAsOr groups group position cause) ∧
    ((∃ group position cause,
        FilterFile.parse text defaults = .error (.filter group position cause)) ↔
      ∃ document isGrouped groups, Json.parse? text = some document ∧
        FilterFile.Describes document isGrouped groups ∧
        ∃ written ∈ groups, ∃ input ∈ written.filters, ∃ cause,
          input.toSpecification defaults.valuesAsOr = .error cause) ∧
    (∀ file, FilterFile.parse text defaults = .ok file ↔
      ∃ document groups, Json.parse? text = some document ∧
        FilterFile.Describes document file.isGrouped groups ∧
        List.Forall₂ (GroupInput.Gives defaults) groups file.groups) :=
  ⟨FilterFile.parse_eq_malformed_iff, FilterFile.parse_eq_noFilters_iff,
    FilterFile.parse_eq_shape_iff, fun _ _ _ => FilterFile.parse_eq_filter_iff,
    FilterFile.exists_parse_eq_filter_iff, fun _ => FilterFile.parse_eq_ok_iff⟩

-- The first filter has no index, but the second is not even a filter.
example : FilterFile.parse "[[\"\", \"age\", null, \"Is\", \"Text\"], 5]" ⟨false, false⟩ =
    .error (.shape .invalidType) := by
  decide +kernel

end Winnow
