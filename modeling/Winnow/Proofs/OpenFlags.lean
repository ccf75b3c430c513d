import Winnow.Proofs.Construction
import Winnow.Proofs.RunOutcome

/-! # Flags that a filter file leaves open

Defaults are for the flags that a filter file leaves open, and for nothing else. Whatever they are,
a text is refused for the same reason or read as the same groups of the same filters, where every
flag is the one that is written, or else the default. So a group that leaves no flag open is the
same group under all defaults. Other groups can have other queries, but they have some or they are
refused for the same reason too, so no default makes a file useless that was of use.
-/

namespace Winnow

/-! ## What is left without flags -/

/-- A specification without what its flag says. -/
def Specification.withoutFlag (spec : Specification) : Specification :=
  spec.withValuesAsOr false

/-- A group without what its flags say. -/
def FilterGroup.withoutFlags (group : FilterGroup) : FilterGroup where
  asOr := false
  isRequired := group.isRequired
  filters := group.filters.map Specification.withoutFlag

/-- A file without what the flags of its groups and filters say. -/
def FilterFile.withoutFlags (file : FilterFile) : FilterFile :=
  { file with groups := file.groups.map FilterGroup.withoutFlags }

namespace GroupInput

/-- The flags of a group are those that are written, or else the defaults. -/
structure FilledWith (defaults : GroupDefaults) (written : GroupInput) (group : FilterGroup) :
    Prop where
  asOr : group.asOr = written.asOr.getD defaults.asOr
  valuesAsOr : List.Forall₂
    (fun input spec => spec.valuesAsOr = input.valuesAsOr.getD defaults.valuesAsOr)
    written.filters group.filters

/-- A group that leaves no flag open, neither its own nor that of a filter. -/
structure SetsFlags (written : GroupInput) : Prop where
  asOr : written.asOr ≠ none
  valuesAsOr : ∀ input ∈ written.filters, input.valuesAsOr ≠ none

end GroupInput

/-- Two readings of the same groups as written, each under defaults of its own. -/
structure FilterFile.Refilled (defaults other : GroupDefaults) (written : List GroupInput)
    (file otherFile : FilterFile) : Prop where
  /-- They agree on all but the flags. -/
  withoutFlags : otherFile.withoutFlags = file.withoutFlags
  /-- The flags of the first are as written, or else by its defaults. -/
  filled : List.Forall₂ (GroupInput.FilledWith defaults) written file.groups
  /-- So are those of the second. -/
  otherFilled : List.Forall₂ (GroupInput.FilledWith other) written otherFile.groups
  /-- A group that leaves no flag open has the same queries in both. -/
  assembled : ∀ (position : Nat) (source : GroupInput) (group otherGroup : FilterGroup),
    written[position]? = some source → file.groups[position]? = some group →
    otherFile.groups[position]? = some otherGroup → source.SetsFlags →
    otherGroup.assemble = group.assemble

/-! ## Lists that are related entry by entry -/

theorem related_at {α β : Type} {R : α → β → Prop} {xs : List α} {ys : List β}
    (each : List.Forall₂ R xs ys) {position : Nat} {x : α} {y : β}
    (here : xs[position]? = some x) (there : ys[position]? = some y) : R x y := by
  obtain ⟨_, rfl⟩ := List.getElem?_eq_some_iff.mp here
  obtain ⟨_, rfl⟩ := List.getElem?_eq_some_iff.mp there
  exact each.get _ _

theorem forall₂_of_common {α β γ : Type} {R : α → β → Prop} {S : α → γ → Prop} {T : β → γ → Prop}
    {xs : List α} {ys : List β} {zs : List γ} (left : List.Forall₂ R xs ys)
    (right : List.Forall₂ S xs zs) (each : ∀ x ∈ xs, ∀ y z, R x y → S x z → T y z) :
    List.Forall₂ T ys zs := by
  induction left generalizing zs with
  | nil =>
      cases right
      exact .nil
  | cons first _ ih =>
      cases right with
      | cons second later =>
          obtain ⟨here, others⟩ := List.forall_mem_cons.mp each
          exact .cons (here _ _ first second) (ih later others)

/-! ## Filters under two defaults -/

namespace FilterInput

variable {input : FilterInput} {valuesAsOr other : Bool} {spec otherSpec : Specification}

theorem toSpecification_eq_map (input : FilterInput) (valuesAsOr other : Bool) :
    input.toSpecification other =
      (input.toSpecification valuesAsOr).map
        (·.withValuesAsOr (input.valuesAsOr.getD other)) := by
  rw [toSpecification, toSpecification]
  cases Specification.create input.index input.field input.operator input.type input.values with
  | error e => rfl
  | ok made => cases input.nestedOf <;> rfl

theorem toSpecification_failAlike (input : FilterInput) (valuesAsOr other : Bool) :
    FailAlike (input.toSpecification valuesAsOr) (input.toSpecification other) := by
  rw [toSpecification_eq_map input other valuesAsOr]
  exact failAlike_map _ _

theorem eq_withValuesAsOr (described : input.toSpecification valuesAsOr = .ok spec)
    (otherDescribed : input.toSpecification other = .ok otherSpec) :
    otherSpec = spec.withValuesAsOr (input.valuesAsOr.getD other) := by
  rw [toSpecification_eq_map input valuesAsOr, described] at otherDescribed
  exact (Except.ok.inj otherDescribed).symm

theorem valuesAsOr_eq (described : input.toSpecification valuesAsOr = .ok spec) :
    spec.valuesAsOr = input.valuesAsOr.getD valuesAsOr := by
  rw [eq_withValuesAsOr described described]
  rfl

end FilterInput

/-! ## Groups under two defaults -/

namespace GroupInput.Gives

variable {defaults other : GroupDefaults} {written : GroupInput} {group otherGroup : FilterGroup}

theorem filledWith (gives : written.Gives defaults group) : written.FilledWith defaults group :=
  ⟨gives.asOr, gives.filters.imp fun _ _ described => FilterInput.valuesAsOr_eq described⟩

variable (gives : written.Gives defaults group) (otherGives : written.Gives other otherGroup)

include gives otherGives

theorem filters_withoutFlag_eq :
    otherGroup.filters.map Specification.withoutFlag =
      group.filters.map Specification.withoutFlag := by
  rw [← List.forall₂_eq_eq_eq, List.forall₂_map_left_iff, List.forall₂_map_right_iff]
  apply forall₂_of_common otherGives.filters gives.filters
  intro input _ otherSpec spec otherDescribed described
  rw [FilterInput.eq_withValuesAsOr described otherDescribed]
  rfl

theorem withoutFlags_eq : otherGroup.withoutFlags = group.withoutFlags := by
  rw [FilterGroup.withoutFlags, FilterGroup.withoutFlags,
    filters_withoutFlag_eq gives otherGives, gives.isRequired, otherGives.isRequired]

/-- Defaults make no difference to a group that leaves no flag open. -/
theorem eq_of_setsFlags (sets : written.SetsFlags) : otherGroup = group := by
  have filters : List.Forall₂ (· = ·) group.filters otherGroup.filters := by
    apply forall₂_of_common gives.filters otherGives.filters
    intro input member spec otherSpec described otherDescribed
    obtain ⟨flag, set⟩ := Option.ne_none_iff_exists'.mp (sets.valuesAsOr input member)
    have own := FilterInput.valuesAsOr_eq described
    rw [FilterInput.eq_withValuesAsOr described otherDescribed, set, Option.getD_some]
    rw [set, Option.getD_some] at own
    rw [← own]
    rfl
  have asOr : otherGroup.asOr = group.asOr := by
    obtain ⟨flag, set⟩ := Option.ne_none_iff_exists'.mp sets.asOr
    rw [gives.asOr, otherGives.asOr, set, Option.getD_some, Option.getD_some]
  have isRequired : otherGroup.isRequired = group.isRequired := by
    rw [gives.isRequired, otherGives.isRequired]
  rw [List.forall₂_eq_eq_eq] at filters
  obtain ⟨_, _, _⟩ := group
  obtain ⟨_, _, _⟩ := otherGroup
  cases filters
  cases asOr
  cases isRequired
  rfl

end GroupInput.Gives

/-! ## Files under two defaults -/

section Files

variable {text : String} {defaults other : GroupDefaults} {file otherFile : FilterFile}

theorem FilterGroup.ofInput_failAlike (position : Nat) (written : GroupInput) :
    FailAlike (ofInput defaults position written) (ofInput other position written) := by
  rw [ofInput, ofInput, specifications_eq_mapM, specifications_eq_mapM]
  apply FailAlike.bind
  · apply failAlike_mapM_same
    intro entry _
    exact (entry.1.toSpecification_failAlike _ _).mapError _
  · intro _ _ _ _
    exact failAlike_ok _ _

theorem FilterGroup.ofInputs_failAlike (start : Nat) (written : List GroupInput) :
    FailAlike (ofInputs defaults start written) (ofInputs other start written) := by
  rw [ofInputs_eq_mapM, ofInputs_eq_mapM]
  apply failAlike_mapM_same
  intro entry _
  exact ofInput_failAlike entry.2 entry.1

namespace FilterFile

/-- Whether a text is read, and else why it is refused, does not depend on the defaults. -/
theorem parse_failAlike (text : String) (defaults other : GroupDefaults) :
    FailAlike (parse text defaults) (parse text other) := by
  rw [parse, parse]
  cases Json.parse? text with
  | none => exact .refl _
  | some document =>
      apply (FailAlike.refl (readDocument document)).bind
      intro read again first second
      obtain rfl := Except.ok.inj (first.symm.trans second)
      apply (FilterGroup.ofInputs_failAlike 0 read.2).bind
      intro _ _ _ _
      exact failAlike_ok _ _

theorem describes_unique {document : Json} (distinct : document.NamesDistinct)
    {isGrouped again : Bool} {groups others : List GroupInput}
    (described : Describes document isGrouped groups) (same : Describes document again others) :
    again = isGrouped ∧ others = groups := by
  rw [← readDocument_eq_ok_iff distinct] at described same
  rw [described] at same
  cases same
  exact ⟨rfl, rfl⟩

theorem withoutFlags_eq {written : List GroupInput} (form : otherFile.isGrouped = file.isGrouped)
    (gives : List.Forall₂ (GroupInput.Gives defaults) written file.groups)
    (otherGives : List.Forall₂ (GroupInput.Gives other) written otherFile.groups) :
    otherFile.withoutFlags = file.withoutFlags := by
  have same : otherFile.groups.map FilterGroup.withoutFlags =
      file.groups.map FilterGroup.withoutFlags := by
    rw [← List.forall₂_eq_eq_eq, List.forall₂_map_left_iff, List.forall₂_map_right_iff]
    apply forall₂_of_common otherGives gives
    intro _ _ otherGroup group otherGiven given
    exact given.withoutFlags_eq otherGiven
  rw [withoutFlags, withoutFlags, same, form]

theorem refilled_of_gives {written : List GroupInput} (form : otherFile.isGrouped = file.isGrouped)
    (gives : List.Forall₂ (GroupInput.Gives defaults) written file.groups)
    (otherGives : List.Forall₂ (GroupInput.Gives other) written otherFile.groups) :
    Refilled defaults other written file otherFile where
  withoutFlags := withoutFlags_eq form gives otherGives
  filled := gives.imp fun _ _ given => given.filledWith
  otherFilled := otherGives.imp fun _ _ given => given.filledWith
  assembled := by
    intro position source group otherGroup here found otherFound sets
    have given := related_at gives here found
    rw [given.eq_of_setsFlags (related_at otherGives here otherFound) sets]

theorem exists_written (read : parse text defaults = .ok file)
    (otherRead : parse text other = .ok otherFile) :
    ∃ document written, Json.parse? text = some document ∧
      Describes document file.isGrouped written ∧ otherFile.isGrouped = file.isGrouped ∧
      List.Forall₂ (GroupInput.Gives defaults) written file.groups ∧
      List.Forall₂ (GroupInput.Gives other) written otherFile.groups := by
  obtain ⟨document, written, parsed, described, gives⟩ := parse_eq_ok_iff.mp read
  obtain ⟨again, others, same, otherDescribed, otherGives⟩ := parse_eq_ok_iff.mp otherRead
  rw [parsed] at same
  obtain rfl := Option.some.inj same
  obtain ⟨form, rfl⟩ :=
    describes_unique (Json.parse?_namesDistinct parsed) described otherDescribed
  exact ⟨document, others, parsed, described, form, gives, otherGives⟩

theorem exists_refilled (read : parse text defaults = .ok file)
    (otherRead : parse text other = .ok otherFile) :
    ∃ document written, Json.parse? text = some document ∧
      Describes document file.isGrouped written ∧
      Refilled defaults other written file otherFile := by
  obtain ⟨document, written, parsed, described, form, gives, otherGives⟩ :=
    exists_written read otherRead
  exact ⟨document, written, parsed, described, refilled_of_gives form gives otherGives⟩

end FilterFile

end Files

/-! ## Queries under two defaults -/

theorem sharing_withoutFlag (key : FilterKey) (specs : List Specification) :
    sharing key (specs.map Specification.withoutFlag) =
      (sharing key specs).map Specification.withoutFlag := by
  rw [sharing, sharing, List.filter_map]
  rfl

/-- What is wrong with the first specification that is refused, key by key. -/
def firstRefusal? (specs : List Specification) : Option QueryError :=
  (specs.map (·.key)).eraseDups.findSome? fun key =>
    (sharing key specs).findSome? (·.refusal?)

theorem firstRefusal?_withoutFlag (specs : List Specification) :
    firstRefusal? (specs.map Specification.withoutFlag) = firstRefusal? specs := by
  rw [firstRefusal?, firstRefusal?, List.map_map]
  apply findSome?_congr
  intro key _
  rw [sharing_withoutFlag, List.findSome?_map]
  rfl

theorem FilterGroup.assemble_eq_error_iff {group : FilterGroup} (nonempty : group.filters ≠ [])
    (valid : ∀ spec ∈ group.filters, spec.Valid) {error : QueryError} :
    group.assemble = .error error ↔ firstRefusal? group.filters = some error := by
  rw [assemble, IndexQueries.assemble_eq_error_iff nonempty valid, keyOrder_findSome?_refusal]
  simp only [mergedAt_refusal]
  rfl

namespace GroupInput.Gives

variable {defaults other : GroupDefaults} {written : GroupInput} {group otherGroup : FilterGroup}

theorem filters_valid (gives : written.Gives defaults group) :
    ∀ spec ∈ group.filters, spec.Valid := by
  intro spec member
  obtain ⟨input, _, described⟩ := exists_of_forall₂ gives.filters member
  exact FilterInput.toSpecification_valid described

variable (gives : written.Gives defaults group) (otherGives : written.Gives other otherGroup)

include gives otherGives

theorem filters_eq_nil_iff : otherGroup.filters = [] ↔ group.filters = [] := by
  rw [← List.map_eq_nil_iff (f := Specification.withoutFlag),
    filters_withoutFlag_eq gives otherGives, List.map_eq_nil_iff]

theorem firstRefusal?_eq : firstRefusal? otherGroup.filters = firstRefusal? group.filters := by
  rw [← firstRefusal?_withoutFlag, filters_withoutFlag_eq gives otherGives,
    firstRefusal?_withoutFlag]

theorem assemble_failAlike : FailAlike group.assemble otherGroup.assemble := by
  have alsoEmpty := filters_eq_nil_iff gives otherGives
  by_cases empty : group.filters = []
  · rw [FilterGroup.assemble, FilterGroup.assemble, empty, alsoEmpty.mpr empty]
    exact .refl _
  · intro error
    rw [FilterGroup.assemble_eq_error_iff empty gives.filters_valid,
      FilterGroup.assemble_eq_error_iff (alsoEmpty.not.mpr empty) otherGives.filters_valid,
      firstRefusal?_eq gives otherGives]

theorem indices_eq {queries otherQueries : IndexQueries} (assembled : group.assemble = .ok queries)
    (otherAssembled : otherGroup.assemble = .ok otherQueries) :
    otherQueries.indices = queries.indices := by
  have same := congrArg (List.map (·.index)) (filters_withoutFlag_eq gives otherGives)
  rw [List.map_map, List.map_map] at same
  rw [IndexQueries.indices_assembled assembled, IndexQueries.indices_assembled otherAssembled]
  exact congrArg List.eraseDups same

theorem item_failAlike (index : String) :
    FailAlike (group.item index) (otherGroup.item index) := by
  rw [FilterGroup.item, FilterGroup.item]
  apply (assemble_failAlike gives otherGives).bind
  intro queries otherQueries assembled otherAssembled
  have indices := indices_eq gives otherGives assembled otherAssembled
  by_cases present : index ∈ queries.indices
  · obtain ⟨clause, found⟩ :=
      Option.isSome_iff_exists.mp (IndexQueries.get?_isSome_iff.mpr present)
    rw [← indices] at present
    obtain ⟨otherClause, otherFound⟩ :=
      Option.isSome_iff_exists.mp (IndexQueries.get?_isSome_iff.mpr present)
    rw [found, otherFound]
    exact failAlike_ok _ _
  · rw [IndexQueries.get?_eq_none_iff.mpr present]
    rw [← indices] at present
    rw [IndexQueries.get?_eq_none_iff.mpr present]
    exact .refl _

end GroupInput.Gives

namespace FilterFile

variable {defaults other : GroupDefaults} {written : List GroupInput}
  {file otherFile : FilterFile}
  (gives : List.Forall₂ (GroupInput.Gives defaults) written file.groups)
  (otherGives : List.Forall₂ (GroupInput.Gives other) written otherFile.groups)

include gives otherGives

theorem builder_failAlike (index : String) :
    FailAlike (file.builder index) (otherFile.builder index) := by
  by_cases unnamed : index = ""
  · rw [unnamed, builder_unnamed, builder_unnamed]
    exact .refl _
  · rw [builder_eq unnamed, builder_eq unnamed]
    apply FailAlike.map
    apply failAlike_mapM
    apply forall₂_of_common gives otherGives
    intro _ _ _ _ given otherGiven
    exact given.item_failAlike otherGiven index

theorem queriesJson_failAlike : FailAlike file.queriesJson otherFile.queriesJson := by
  rw [queriesJson, queriesJson]
  apply FailAlike.bind
  · apply failAlike_mapM
    apply forall₂_of_common gives otherGives
    intro _ _ _ _ given otherGiven
    exact given.assemble_failAlike otherGiven
  · intro maps otherMaps _ _
    split <;> split <;> exact failAlike_ok _ _

end FilterFile

/-! ## Commands under two defaults -/

namespace FilterSource

variable {path : String} {asOr otherAsOr : Bool} {place : Surroundings}
  {settings otherSettings : Settings}

theorem load_failAlike :
    FailAlike (load ⟨path, asOr⟩ place settings) (load ⟨path, otherAsOr⟩ place otherSettings) := by
  rw [load, load]
  cases place.tree.readAt place.workingDirectory path with
  | error e => exact .refl _
  | ok text => exact FilterFile.parse_failAlike text _ _

theorem exists_text_of_load {file otherFile : FilterFile}
    (loaded : load ⟨path, asOr⟩ place settings = .ok file)
    (otherLoaded : load ⟨path, otherAsOr⟩ place otherSettings = .ok otherFile) :
    ∃ text, place.tree.readAt place.workingDirectory path = .ok text ∧
      FilterFile.parse text (settings.filters.withOr asOr) = .ok file ∧
      FilterFile.parse text (otherSettings.filters.withOr otherAsOr) = .ok otherFile := by
  rw [load] at loaded otherLoaded
  cases stands : place.tree.readAt place.workingDirectory path with
  | error e =>
      rw [stands] at loaded
      cases loaded
  | ok text =>
      rw [stands] at loaded otherLoaded
      exact ⟨text, rfl, loaded, otherLoaded⟩

theorem file_eq (source : FilterSource) (place : Surroundings) (settings : Settings) :
    source.file place settings =
      (source.load place settings).mapError (Notice.ofFilterFile source.path) := by
  rw [file]
  cases source.load place settings <;> rfl

end FilterSource

theorem Command.orNotices_eq {α : Type} (step : Except QueryError α) :
    orNotices step = step.mapError Notice.ofQuery := by
  cases step <;> rfl

/-- A command stops at its filter file under all defaults, with the same notices, or under none. -/
theorem FilterSource.making_failAlike {path : String} {asOr otherAsOr : Bool} {place : Surroundings}
    {settings otherSettings : Settings} {α : Type} {make : FilterFile → Except QueryError α}
    (alike : ∀ {defaults other : GroupDefaults} {written : List GroupInput}
      {file otherFile : FilterFile},
      List.Forall₂ (GroupInput.Gives defaults) written file.groups →
      List.Forall₂ (GroupInput.Gives other) written otherFile.groups →
      FailAlike (make file) (make otherFile)) :
    FailAlike (FilterSource.file ⟨path, asOr⟩ place settings >>= (Command.orNotices <| make ·))
      (FilterSource.file ⟨path, otherAsOr⟩ place otherSettings >>=
        (Command.orNotices <| make ·)) := by
  rw [file_eq, file_eq]
  apply (load_failAlike.mapError _).bind
  intro file otherFile loaded otherLoaded
  rw [mapError_eq_ok_iff] at loaded otherLoaded
  obtain ⟨text, _, read, otherRead⟩ := exists_text_of_load loaded otherLoaded
  obtain ⟨_, _, _, _, _, gives, otherGives⟩ := FilterFile.exists_written read otherRead
  rw [Command.orNotices_eq, Command.orNotices_eq]
  exact (alike gives otherGives).mapError _

/-- Whatever the defaults are, a text is read or it is refused for the same reason. What is read
    differs in nothing but the flags of groups and filters that leave them open, and these are the
    defaults, so a group without open flags has the same queries. In particular, neither the option
    for OR nor the settings can make a filter file fail, be it when it is loaded, when its queries
    are compiled or when a request is built of it. -/
theorem defaults_fill_open_flags :
    (∀ (text : String) (defaults other : GroupDefaults),
      ((∃ file, FilterFile.parse text defaults = .ok file) ↔
        ∃ file, FilterFile.parse text other = .ok file) ∧
      (∀ error, FilterFile.parse text defaults = .error error ↔
        FilterFile.parse text other = .error error) ∧
      ∀ file otherFile, FilterFile.parse text defaults = .ok file →
        FilterFile.parse text other = .ok otherFile →
        ∃ document written, Json.parse? text = some document ∧
          FilterFile.Describes document file.isGrouped written ∧
          FilterFile.Refilled defaults other written file otherFile) ∧
    ∀ (path : String) (asOr otherAsOr : Bool) (place : Surroundings)
      (settings otherSettings : Settings),
      FailAlike (FilterSource.load ⟨path, asOr⟩ place settings)
        (FilterSource.load ⟨path, otherAsOr⟩ place otherSettings) ∧
      (∀ file otherFile, FilterSource.load ⟨path, asOr⟩ place settings = .ok file →
        FilterSource.load ⟨path, otherAsOr⟩ place otherSettings = .ok otherFile →
        ∃ text document written, place.tree.readAt place.workingDirectory path = .ok text ∧
          Json.parse? text = some document ∧
          FilterFile.Describes document file.isGrouped written ∧
          FilterFile.Refilled (settings.filters.withOr asOr)
            (otherSettings.filters.withOr otherAsOr) written file otherFile) ∧
      FailAlike (Command.compileJson ⟨path, asOr⟩ place settings)
        (Command.compileJson ⟨path, otherAsOr⟩ place otherSettings) ∧
      ∀ index, FailAlike (FilterSource.builder ⟨path, asOr⟩ place settings index)
        (FilterSource.builder ⟨path, otherAsOr⟩ place otherSettings index) := by
  constructor
  · intro text defaults other
    have alike := FilterFile.parse_failAlike text defaults other
    exact ⟨alike.succeed_iff, alike, fun _ _ read otherRead =>
      FilterFile.exists_refilled read otherRead⟩
  · intro path asOr otherAsOr place settings otherSettings
    refine ⟨FilterSource.load_failAlike, ?_, ?_, ?_⟩
    · intro file otherFile loaded otherLoaded
      obtain ⟨text, stands, read, otherRead⟩ :=
        FilterSource.exists_text_of_load loaded otherLoaded
      obtain ⟨document, written, parsed, described, refilled⟩ :=
        FilterFile.exists_refilled read otherRead
      exact ⟨text, document, written, stands, parsed, described, refilled⟩
    · exact FilterSource.making_failAlike fun gives otherGives =>
        FilterFile.queriesJson_failAlike gives otherGives
    · intro index
      rw [Command.builder_eq, Command.builder_eq]
      exact FilterSource.making_failAlike fun gives otherGives =>
        FilterFile.builder_failAlike gives otherGives index

/-- A filter file whose first group leaves its flags open, the one with `null`, and whose second
    group sets them. -/
def halfOpenText : String :=
  "\x7b\"groups\":[" ++
    "\x7b\"evaluateAsOr\":null,\"filters\":" ++
      "[[\"people\",\"tag\",null,\"Is\",\"Text\",[\"a\"]]]\x7d," ++
    "\x7b\"evaluateAsOr\":false,\"filters\":" ++
      "[[\"people\",\"team\",null,\"Is\",\"Text\",[\"b\",\"c\"],false]]\x7d]\x7d"

/-- A working directory with that file. -/
def halfOpenFile : Surroundings where
  tree := ⟨[(⟨true, ["work", "groups"]⟩, .text halfOpenText)]⟩
  home := ⟨true, ["home"]⟩
  workingDirectory := ⟨true, ["work"]⟩
  logDirectives := none
  isTerminal := false

/-- The groups of the file as they are written. -/
def halfOpenGroups : List GroupInput :=
  [⟨none, none, [⟨"people", "tag", none, .is, .text, ["a"], none⟩]⟩,
    ⟨some false, none, [⟨"people", "team", none, .is, .text, ["b", "c"], some false⟩]⟩]

theorem halfOpenText_described :
    ∃ document, Json.parse? halfOpenText = some document ∧
      FilterFile.Describes document true halfOpenGroups := by
  have read : ((Json.parse? halfOpenText).bind fun document =>
      (FilterFile.readDocument document).toOption) = some (true, halfOpenGroups) := by
    decide +kernel
  obtain ⟨document, parsed, described⟩ := Option.bind_eq_some_iff.mp read
  rw [toOption_eq_some_iff,
    FilterFile.readDocument_eq_ok_iff (Json.parse?_namesDistinct parsed)] at described
  exact ⟨document, parsed, described⟩

/-- The first group changes with the defaults, and the second group has the same queries. -/
theorem half_open_groups_filled :
    let settings := { Settings.standard with filters := ⟨false, true⟩ }
    ∃ file otherFile : FilterFile,
      FilterSource.load ⟨"groups", false⟩ halfOpenFile .standard = .ok file ∧
      FilterSource.load ⟨"groups", true⟩ halfOpenFile settings = .ok otherFile ∧
      FilterFile.parse halfOpenText ⟨false, false⟩ = .ok file ∧
      FilterFile.parse halfOpenText ⟨true, true⟩ = .ok otherFile ∧
      file.groups[0]? = some ⟨false, true, [taggedPeople]⟩ ∧
      otherFile.groups[0]? = some ⟨true, true, [taggedPeople.withValuesAsOr true]⟩ ∧
      otherFile.withoutFlags = file.withoutFlags ∧
      ∃ group otherGroup, file.groups[1]? = some group ∧ otherFile.groups[1]? = some otherGroup ∧
        otherGroup.assemble = group.assemble := by
  intro settings
  let closed : FilterGroup :=
    ⟨false, true, [⟨"people", "team", none, .is, .text, ["b", "c"], false⟩]⟩
  let file : FilterFile := ⟨true, [⟨false, true, [taggedPeople]⟩, closed]⟩
  let otherFile : FilterFile :=
    ⟨true, [⟨true, true, [taggedPeople.withValuesAsOr true]⟩, closed]⟩
  obtain ⟨document, parsed, described⟩ := halfOpenText_described
  have read : FilterFile.parse halfOpenText ⟨false, false⟩ = .ok file :=
    FilterFile.parse_eq_ok_iff.mpr ⟨document, halfOpenGroups, parsed, described,
      .cons ⟨rfl, rfl, .cons rfl .nil⟩ (.cons ⟨rfl, rfl, .cons rfl .nil⟩ .nil)⟩
  have otherRead : FilterFile.parse halfOpenText ⟨true, true⟩ = .ok otherFile :=
    FilterFile.parse_eq_ok_iff.mpr ⟨document, halfOpenGroups, parsed, described,
      .cons ⟨rfl, rfl, .cons rfl .nil⟩ (.cons ⟨rfl, rfl, .cons rfl .nil⟩ .nil)⟩
  have stands : halfOpenFile.tree.readAt halfOpenFile.workingDirectory "groups" =
      .ok halfOpenText := rfl
  have loaded : FilterSource.load ⟨"groups", false⟩ halfOpenFile .standard = .ok file := by
    rw [FilterSource.load, stands]
    exact read
  have otherLoaded : FilterSource.load ⟨"groups", true⟩ halfOpenFile settings = .ok otherFile := by
    rw [FilterSource.load, stands]
    exact otherRead
  obtain ⟨ofText, ofPlace⟩ := defaults_fill_open_flags
  obtain ⟨_, _, readings⟩ := ofText halfOpenText ⟨false, false⟩ ⟨true, true⟩
  obtain ⟨_, _, _, _, agree⟩ := readings file otherFile read otherRead
  obtain ⟨_, loadings, _, _⟩ := ofPlace "groups" false true halfOpenFile .standard settings
  obtain ⟨text, again, written, found, reparsed, redescribed, refilled⟩ :=
    loadings file otherFile loaded otherLoaded
  obtain rfl := Except.ok.inj (stands.symm.trans found)
  obtain rfl := Option.some.inj (parsed.symm.trans reparsed)
  obtain ⟨_, rfl⟩ := FilterFile.describes_unique (Json.parse?_namesDistinct parsed)
    described redescribed
  have assembled := refilled.assembled 1 _ closed closed rfl rfl rfl ⟨by decide, by decide⟩
  exact ⟨file, otherFile, loaded, otherLoaded, read, otherRead, rfl, rfl, agree.withoutFlags,
    closed, closed, rfl, rfl, assembled⟩

end Winnow
