import Winnow.CommandLine.Run
import Winnow.Proofs.Isolation

/-! # Requests from filter files

A request on an index takes one item from each group of a filter file, and the first group that
has none for it stops it. The item of a group depends on its filters on that index alone.
-/

namespace Winnow

theorem IndexQueries.get?_eq_none_iff {queries : IndexQueries} {index : String} :
    queries.get? index = none ↔ index ∉ queries.indices := by
  rw [← get?_isSome_iff, Bool.not_eq_true, Option.isSome_eq_false_iff, Option.isNone_iff_eq_none]

namespace FilterGroup

/-- What a group adds to a request on an index, or why it can't. -/
def item (index : String) (group : FilterGroup) : Except QueryError RequestItem := do
  let queries ← group.assemble
  match queries.get? index with
  | none => .error (.missingIndex index)
  | some clause => .ok ⟨clause, group.isRequired⟩

/-- The group without its filters on other indices. -/
def restrictedTo (index : String) (group : FilterGroup) : FilterGroup :=
  { group with filters := targeting index group.filters }

/-- The group can be assembled, and its queries have one on the index. -/
def Serves (group : FilterGroup) (index : String) : Prop :=
  ∃ queries, group.assemble = .ok queries ∧ index ∈ queries.indices

/-- Why a group doesn't serve an index. -/
inductive Refuses (group : FilterGroup) (index : String) : QueryError → Prop where
  /-- The group can't be assembled. -/
  | unassembled {error : QueryError} (refused : group.assemble = .error error) :
      Refuses group index error
  /-- The group has queries, but none on the index. -/
  | missing {queries : IndexQueries} (assembled : group.assemble = .ok queries)
      (absent : index ∉ queries.indices) : Refuses group index (.missingIndex index)

variable {group : FilterGroup} {index : String}

theorem item_eq_ok_iff {item : RequestItem} :
    group.item index = .ok item ↔
      ∃ queries clause, group.assemble = .ok queries ∧ queries.get? index = some clause ∧
        item = ⟨clause, group.isRequired⟩ := by
  rw [FilterGroup.item, bind_eq_ok_iff]
  constructor
  · rintro ⟨queries, assembled, given⟩
    cases found : queries.get? index with
    | none => simp [found] at given
    | some clause =>
        rw [found] at given
        exact ⟨queries, clause, assembled, found, (Except.ok.inj given).symm⟩
  · rintro ⟨queries, clause, assembled, found, rfl⟩
    exact ⟨queries, assembled, by rw [found]⟩

theorem exists_item_iff : (∃ item, group.item index = .ok item) ↔ group.Serves index := by
  simp only [item_eq_ok_iff, Serves, ← IndexQueries.get?_isSome_iff, Option.isSome_iff_exists]
  constructor
  · rintro ⟨_, queries, clause, assembled, found, rfl⟩
    exact ⟨queries, assembled, clause, found⟩
  · rintro ⟨queries, assembled, clause, found⟩
    exact ⟨_, queries, clause, assembled, found, rfl⟩

theorem item_eq_error_iff {error : QueryError} :
    group.item index = .error error ↔ group.Refuses index error := by
  constructor
  · intro refused
    cases assembled : group.assemble with
    | error own =>
        rw [item, assembled] at refused
        cases refused
        exact .unassembled assembled
    | ok queries =>
        cases found : queries.get? index with
        | none =>
            simp only [item, assembled, bind, Except.bind, found] at refused
            cases refused
            exact .missing assembled (IndexQueries.get?_eq_none_iff.mp found)
        | some clause =>
            rw [item_eq_ok_iff.mpr ⟨queries, clause, assembled, found, rfl⟩] at refused
            cases refused
  · intro refuses
    cases refuses with
    | unassembled refused => rw [item, refused]; rfl
    | missing assembled absent =>
        simp [item, assembled, bind, Except.bind, IndexQueries.get?_eq_none_iff.mpr absent]

theorem item_restrictedTo (serves : group.Serves index) :
    (group.restrictedTo index).item index = group.item index := by
  obtain ⟨item, given⟩ := exists_item_iff.mpr serves
  obtain ⟨queries, clause, assembled, found, rfl⟩ := item_eq_ok_iff.mp given
  have targeted : targeting index group.filters ≠ [] := by
    intro none
    have unfiltered : filtersOn index group.filters = [] := by
      rw [← filtersOn_targeting, none]
      rfl
    rw [IndexQueries.get?_assembled assembled, if_pos unfiltered] at found
    cases found
  obtain ⟨alone, ok⟩ :=
    IndexQueries.exists_assembled_filter assembled (fun key => key.index = index) targeted
  have again : targeting index (targeting index group.filters) = targeting index group.filters := by
    rw [targeting, targeting, List.filter_filter]
    simp
  have same := IndexQueries.get?_eq_of_targeting_eq assembled ok again
  rw [given, item_eq_ok_iff]
  exact ⟨alone, clause, ok, same.trans found, rfl⟩

end FilterGroup

namespace FilterFile

theorem appendGroup_eq (builder : RequestBuilder) (group : FilterGroup) :
    appendGroup builder group =
      (group.item builder.index).map fun item =>
        { builder with items := builder.items ++ [item] } := by
  unfold appendGroup FilterGroup.item
  cases group.assemble with
  | error error => rfl
  | ok queries =>
      simp only [bind, Except.bind]
      cases found : queries.get? builder.index with
      | none => exact RequestBuilder.append_absent found group.isRequired
      | some clause => exact RequestBuilder.append_present found group.isRequired

theorem foldlM_appendGroup_eq (groups : List FilterGroup) (builder : RequestBuilder) :
    groups.foldlM appendGroup builder =
      (groups.mapM (FilterGroup.item builder.index)).map fun items =>
        { builder with items := builder.items ++ items } := by
  induction groups generalizing builder with
  | nil => simp [pure, Except.pure, Except.map]
  | cons group rest ih =>
      rw [List.foldlM_cons, List.mapM_cons, appendGroup_eq]
      cases group.item builder.index with
      | error error => rfl
      | ok item =>
          show rest.foldlM appendGroup { builder with items := builder.items ++ [item] } = _
          rw [ih]
          simp only [bind, Except.bind]
          cases rest.mapM (FilterGroup.item builder.index) with
          | error error => rfl
          | ok items => simp [Except.map, pure, Except.pure]

theorem builder_eq {file : FilterFile} {index : String} (named : index ≠ "") :
    file.builder index = (file.groups.mapM (FilterGroup.item index)).map (⟨index, ·⟩) := by
  rw [builder, RequestBuilder.create, if_neg named]
  exact foldlM_appendGroup_eq file.groups ⟨index, []⟩

theorem builder_unnamed (file : FilterFile) :
    file.builder "" = .error (.invalidArgument "indexName" "can't be empty") := rfl

/-- The file without its filters on other indices. -/
def restrictedTo (index : String) (file : FilterFile) : FilterFile :=
  { file with groups := file.groups.map (·.restrictedTo index) }

variable {file : FilterFile} {index : String}

theorem exists_builder_iff :
    (∃ builder, file.builder index = .ok builder) ↔
      index ≠ "" ∧ ∀ group ∈ file.groups, group.Serves index := by
  by_cases named : index = ""
  · subst named
    simp [builder_unnamed]
  · simp only [builder_eq named, map_eq_ok_iff, ← FilterGroup.exists_item_iff, ← exists_mapM_iff]
    constructor
    · rintro ⟨_, items, collected, rfl⟩
      exact ⟨named, items, collected⟩
    · rintro ⟨_, items, collected⟩
      exact ⟨_, items, collected, rfl⟩

/-- A request without an index is refused first, then the first group that doesn't serve the
    index. -/
theorem builder_eq_error_iff {error : QueryError} :
    file.builder index = .error error ↔
      (index = "" ∧ error = .invalidArgument "indexName" "can't be empty") ∨
        index ≠ "" ∧ ∃ before group after, file.groups = before ++ group :: after ∧
          (∀ earlier ∈ before, earlier.Serves index) ∧ group.Refuses index error := by
  by_cases named : index = ""
  · subst named
    simp [builder_unnamed, eq_comm]
  · simp only [builder_eq named, map_eq_error_iff, mapM_eq_error_iff_split,
      FilterGroup.exists_item_iff, FilterGroup.item_eq_error_iff, named, false_and, false_or,
      ne_eq, not_false_eq_true, true_and]

/-- Filters on other indices don't count. -/
theorem builder_restrictedTo (serves : ∃ builder, file.builder index = .ok builder) :
    (file.restrictedTo index).builder index = file.builder index := by
  obtain ⟨named, serves⟩ := exists_builder_iff.mp serves
  rw [builder_eq named, builder_eq named, restrictedTo, List.mapM_map]
  refine congrArg _ (mapM_congr fun group member => ?_)
  exact FilterGroup.item_restrictedTo (serves group member)

theorem builder_eq_of_restrictedTo_eq {other : FilterFile}
    (serves : ∃ builder, file.builder index = .ok builder)
    (otherServes : ∃ builder, other.builder index = .ok builder)
    (same : (other.restrictedTo index).groups = (file.restrictedTo index).groups) :
    other.builder index = file.builder index := by
  have restricted : (other.restrictedTo index).builder index =
      (file.restrictedTo index).builder index := by
    rw [builder, builder, same]
  rw [← builder_restrictedTo serves, ← builder_restrictedTo otherServes, restricted]

end FilterFile

namespace FilterSource

variable {place otherPlace : Surroundings} {settings : Settings} {source other : FilterSource}
  {index : String}

theorem builder_of_load {file : FilterFile} (loaded : source.load place settings = .ok file) :
    source.builder place settings index = Command.orNotices (file.builder index) := by
  simp only [builder, FilterSource.file, loaded, bind, Except.bind, Command.orNotices]
  cases file.builder index <;> rfl

theorem documents_eq_of_builder_eq
    (same : other.builder otherPlace settings index = source.builder place settings index) :
    (∀ page size given,
      Command.searchJson other index page size given otherPlace settings =
        Command.searchJson source index page size given place settings) ∧
    ∀ name field key size,
      Command.aggregateJson other index name field key size otherPlace settings =
        Command.aggregateJson source index name field key size place settings := by
  unfold Command.searchJson Command.aggregateJson
  rw [same]
  exact ⟨fun _ _ _ => rfl, fun _ _ _ _ => rfl⟩

end FilterSource

/-- A request on an index can be built of a filter file if the index has a name and every group
    serves it. A missing name is refused first, then the first group that doesn't serve the index.
    The request is the one that the filters on the index give alone, and so is all that is printed
    of it. -/
theorem request_of_file (file : FilterFile) (index : String) :
    ((∃ builder, file.builder index = .ok builder) ↔
      index ≠ "" ∧ ∀ group ∈ file.groups, group.Serves index) ∧
    (∀ error, file.builder index = .error error ↔
      (index = "" ∧ error = .invalidArgument "indexName" "can't be empty") ∨
        index ≠ "" ∧ ∃ before group after, file.groups = before ++ group :: after ∧
          (∀ earlier ∈ before, earlier.Serves index) ∧ group.Refuses index error) ∧
    ∀ builder, file.builder index = .ok builder →
      (file.restrictedTo index).builder index = .ok builder ∧
      ∀ other, (other.restrictedTo index).groups = (file.restrictedTo index).groups →
        (∃ otherBuilder, other.builder index = .ok otherBuilder) →
        other.builder index = .ok builder ∧
        ∀ {place otherPlace : Surroundings} {settings : Settings}
          {source otherSource : FilterSource},
          source.load place settings = .ok file →
          otherSource.load otherPlace settings = .ok other →
          (∀ page size given,
            Command.searchJson otherSource index page size given otherPlace settings =
              Command.searchJson source index page size given place settings) ∧
          ∀ name field key size,
            Command.aggregateJson otherSource index name field key size otherPlace settings =
              Command.aggregateJson source index name field key size place settings := by
  refine ⟨FilterFile.exists_builder_iff, fun _ => FilterFile.builder_eq_error_iff, ?_⟩
  intro builder built
  have serves : ∃ builder, file.builder index = .ok builder := ⟨builder, built⟩
  refine ⟨(FilterFile.builder_restrictedTo serves).trans built, fun other same otherServes => ?_⟩
  have equal := FilterFile.builder_eq_of_restrictedTo_eq serves otherServes same
  refine ⟨equal.trans built, fun loaded otherLoaded => ?_⟩
  apply FilterSource.documents_eq_of_builder_eq
  rw [FilterSource.builder_of_load loaded, FilterSource.builder_of_load otherLoaded, equal]

/-- A filter on people by a tag. -/
def taggedPeople : Specification :=
  ⟨"people", "tag", none, .is, .text, ["a"], false⟩

/-- A filter on orders by their total. -/
def orderTotal : Specification :=
  ⟨"orders", "total", none, .is, .number, ["5"], false⟩

/-- Two filter files, one of which has a filter on orders in front of the one on people. -/
def twoFilterFiles : Surroundings where
  tree := ⟨[
    (⟨true, ["work", "both"]⟩, .text
      ("[[\"orders\",\"total\",null,\"Is\",\"Number\",[\"5\"]]," ++
        "[\"people\",\"tag\",null,\"Is\",\"Text\",[\"a\"]]]")),
    (⟨true, ["work", "people"]⟩, .text "[[\"people\",\"tag\",null,\"Is\",\"Text\",[\"a\"]]]")]⟩
  home := ⟨true, ["home"]⟩
  workingDirectory := ⟨true, ["work"]⟩
  logDirectives := none
  isTerminal := false

/-- The filter on orders makes no difference to a request on people. -/
theorem people_request_of_either_file :
    ∃ both people : FilterFile,
      both.groups = [⟨false, true, [orderTotal, taggedPeople]⟩] ∧
      people.groups = [⟨false, true, [taggedPeople]⟩] ∧
      people.builder "people" = both.builder "people" ∧
      (∃ builder, both.builder "people" = .ok builder) ∧
      ∀ page, Command.searchJson ⟨"people", false⟩ "people" page none [] twoFilterFiles .standard =
        Command.searchJson ⟨"both", false⟩ "people" page none [] twoFilterFiles .standard := by
  let both : FilterFile := ⟨false, [⟨false, true, [orderTotal, taggedPeople]⟩]⟩
  let people : FilterFile := ⟨false, [⟨false, true, [taggedPeople]⟩]⟩
  have loaded : FilterSource.load ⟨"both", false⟩ twoFilterFiles .standard = .ok both :=
    toOption_eq_some_iff.mp (by decide +kernel)
  have otherLoaded : FilterSource.load ⟨"people", false⟩ twoFilterFiles .standard = .ok people :=
    toOption_eq_some_iff.mp (by decide +kernel)
  have built : both.builder "people" = .ok _ := rfl
  obtain ⟨_, _, isolated⟩ := request_of_file both "people"
  obtain ⟨_, depends⟩ := isolated _ built
  obtain ⟨same, printed⟩ := depends people rfl ⟨_, rfl⟩
  obtain ⟨searches, _⟩ := printed loaded otherLoaded
  exact ⟨both, people, rfl, rfl, same.trans built.symm, ⟨_, built⟩,
    fun page => searches page none []⟩

end Winnow
