import Winnow.Proofs.RunOutcome

/-! # Clean checks

When `check` finds nothing to warn about, the settings can't make a request fail. The warnings
about sort entries are about the entries that can't be read, in order, and the first of them says
what is wrong with the whole sort order.
-/

namespace Winnow

/-! ## Warnings -/

/-- The sort entry that a warning is about, and what is wrong with it. -/
def SettingsWarning.badSort? : SettingsWarning → Option (String × QueryError)
  | invalidSort entry reason => some (entry, reason)
  | zeroPageSize | zeroAggregationSize | emptyAggregationKey => none

namespace Settings

variable {settings : Settings}

theorem ofSort?_eq_none_iff {entry : String} :
    SettingsWarning.ofSort? entry = none ↔ ∃ field, SortField.parse entry = .ok field := by
  unfold SettingsWarning.ofSort?
  cases SortField.parse entry <;> simp

theorem badSort?_ofSort? {entry other : String} {reason : QueryError} :
    (SettingsWarning.ofSort? entry).bind SettingsWarning.badSort? = some (other, reason) ↔
      other = entry ∧ SortField.parse entry = .error reason := by
  unfold SettingsWarning.ofSort?
  cases SortField.parse entry with
  | error own => simp [SettingsWarning.badSort?, eq_comm]
  | ok field => simp

theorem warnings_eq_nil_iff :
    settings.warnings = [] ↔
      settings.search.pageSize ≠ 0 ∧
        (∀ entry ∈ settings.search.sort, ∃ field, SortField.parse entry = .ok field) ∧
        settings.aggregation.size ≠ 0 ∧ Text.trim settings.aggregation.key.toList ≠ [] := by
  simp [warnings, ofSort?_eq_none_iff]

theorem badSorts_eq :
    settings.warnings.filterMap SettingsWarning.badSort? =
      settings.search.sort.filterMap fun entry =>
        (SettingsWarning.ofSort? entry).bind SettingsWarning.badSort? := by
  have aside : ∀ (condition : Prop) [Decidable condition] (warning : SettingsWarning),
      warning.badSort? = none →
      (if condition then [warning] else []).filterMap SettingsWarning.badSort? = [] := by
    intro condition _ warning other
    split <;> simp [other]
  rw [warnings, List.filterMap_append, List.filterMap_append, List.filterMap_append,
    aside _ _ rfl, aside _ _ rfl, aside _ _ rfl, List.filterMap_filterMap]
  simp

theorem badEntries_eq :
    (settings.warnings.filterMap SettingsWarning.badSort?).map (·.1) =
      settings.search.sort.filter fun entry => !CommandName.isSort entry := by
  rw [badSorts_eq, List.map_filterMap, ← List.filterMap_eq_filter]
  refine List.filterMap_congr fun entry _ => ?_
  rw [Option.guard, SettingsWarning.ofSort?]
  cases parsed : SortField.parse entry <;>
    simp [CommandName.isSort, parsed, SettingsWarning.badSort?]

theorem mem_warnings_iff {entry : String} {reason : QueryError} :
    .invalidSort entry reason ∈ settings.warnings ↔
      entry ∈ settings.search.sort ∧ SortField.parse entry = .error reason := by
  have warned : .invalidSort entry reason ∈ settings.warnings ↔
      (entry, reason) ∈ settings.warnings.filterMap SettingsWarning.badSort? := by
    rw [List.mem_filterMap]
    constructor
    · intro member
      exact ⟨_, member, rfl⟩
    · rintro ⟨warning, member, about⟩
      cases warning with
      | invalidSort =>
          cases about
          exact member
      | zeroPageSize | zeroAggregationSize | emptyAggregationKey => cases about
  rw [warned, badSorts_eq, List.mem_filterMap]
  simp only [badSort?_ofSort?]
  constructor
  · rintro ⟨other, member, rfl, refused⟩
    exact ⟨member, refused⟩
  · rintro ⟨member, refused⟩
    exact ⟨entry, member, rfl, refused⟩

theorem sortFields_eq_error_iff {error : QueryError} :
    settings.search.sortFields = .error error ↔
      ∃ before entry after, settings.warnings = before ++ .invalidSort entry error :: after ∧
        ∀ warning ∈ before, warning.badSort? = none := by
  have fails : ∀ entry ∈ settings.search.sort, ∀ reason, SortField.parse entry = .error reason ↔
      ((SettingsWarning.ofSort? entry).bind SettingsWarning.badSort?).map (·.2) =
        some reason := by
    intro entry _ reason
    rw [Option.map_eq_some_iff]
    constructor
    · intro refused
      exact ⟨_, badSort?_ofSort?.mpr ⟨rfl, refused⟩, rfl⟩
    · rintro ⟨_, warned, rfl⟩
      exact (badSort?_ofSort?.mp warned).2
  have first : settings.search.sortFields = .error error ↔
      settings.warnings.findSome? (fun warning => warning.badSort?.map (·.2)) = some error := by
    rw [SearchSettings.sortFields, mapM_eq_error_iff fails, ← List.head?_filterMap,
      ← List.head?_filterMap, ← List.map_filterMap, ← List.map_filterMap, badSorts_eq]
  rw [first, List.findSome?_eq_some_iff]
  constructor
  · rintro ⟨before, warning, after, split, about, others⟩
    cases warning with
    | invalidSort entry reason =>
        cases about
        exact ⟨before, entry, after, split, fun other inside => by simpa using others other inside⟩
    | zeroPageSize | zeroAggregationSize | emptyAggregationKey => cases about
  · rintro ⟨before, entry, after, split, others⟩
    exact ⟨before, _, after, split, rfl, fun other inside => by simp [others other inside]⟩

theorem exists_sortFields_iff :
    (∃ sort, settings.search.sortFields = .ok sort) ↔
      ∀ entry ∈ settings.search.sort, ∃ field, SortField.parse entry = .ok field :=
  exists_mapM_iff

theorem exists_sortFields_error_iff :
    (∃ error, settings.search.sortFields = .error error) ↔
      ∃ entry reason, .invalidSort entry reason ∈ settings.warnings := by
  constructor
  · rintro ⟨error, refused⟩
    obtain ⟨before, entry, after, split, _⟩ := sortFields_eq_error_iff.mp refused
    exact ⟨entry, error, by simp [split]⟩
  · rintro ⟨entry, reason, warned⟩
    obtain ⟨member, refused⟩ := mem_warnings_iff.mp warned
    rw [exists_error_iff, exists_sortFields_iff]
    intro readable
    obtain ⟨field, read⟩ := readable entry member
    rw [refused] at read
    cases read

end Settings

/-! ## Requests -/

theorem RequestBuilder.exists_aggregate_iff {builder : RequestBuilder} {name field key : String}
    {size : Nat} :
    (∃ document, builder.aggregate name field key size = .ok document) ↔
      name ≠ "" ∧ field ≠ "" ∧ key ≠ "" := by
  have needed : ∀ argument value result, needArgument argument value = .ok result ↔ value ≠ "" := by
    intro argument value result
    rw [needArgument]
    split <;> simp_all
  simp only [aggregate, bind_eq_ok_iff, needed, exists_and_left, exists_const]
  simp [pure, Except.pure]

/-- A request on an index that leaves what it can to the settings: a search without a sort order,
    or an aggregation without a name for its source. -/
inductive Command.LeavesToSettings (source : FilterSource) (index : String) : Command → Prop where
  | search (page : Nat) (size : Option Nat) :
      LeavesToSettings source index (.search source index page size [])
  /-- An aggregation, with the arguments that it can't do without. -/
  | aggregate {name field : String} (size : Option Nat) (named : name ≠ "") (taken : field ≠ "") :
      LeavesToSettings source index (.aggregate source index name field none size)

section Checked

variable {place : Surroundings} {settings : Settings} {command : Command} {source : FilterSource}
  {index : String}

/-- Settings without warnings stop no request whose groups can be collected. -/
theorem Command.LeavesToSettings.not_stops (leaves : command.LeavesToSettings source index)
    (clean : settings.warnings = []) {file : FilterFile} {builder : RequestBuilder}
    (loaded : source.load place settings = .ok file) (collected : file.builder index = .ok builder)
    {notices : List Notice} : ¬ command.Stops place settings notices := by
  obtain ⟨_, readable, _, named⟩ := Settings.warnings_eq_nil_iff.mp clean
  have collects : ¬ source.Stops place settings (·.builder index) notices := by
    intro stops
    cases stops with
    | file refused => simp [loaded] at refused
    | making again refused =>
        rw [loaded] at again
        cases again
        simp [collected] at refused
  intro stops
  cases leaves with
  | search page size =>
      cases stops with
      | sort refused =>
          obtain ⟨sort, usable⟩ := Settings.exists_sortFields_iff.mpr readable
          rw [Settings.sortFor, if_pos rfl, usable] at refused
          cases refused
      | search _ stops => exact collects stops
  | aggregate size nonempty taken =>
      cases stops with
      | aggregate stops => exact collects stops
      | arguments _ _ refused =>
          have key : settings.aggregation.key ≠ "" := by
            intro empty
            rw [empty] at named
            exact named rfl
          exact exists_error_iff.mp ⟨_, refused⟩
            (RequestBuilder.exists_aggregate_iff.mpr ⟨nonempty, taken, key⟩)

theorem Surroundings.run_check_eq_zero_iff {words : List String} {verbosity : Nat} {isPlain : Bool}
    (read : Invocation.read words = .ok ⟨verbosity, isPlain, .check⟩) :
    (place.run words).code = 0 ↔
      (∃ filter, LogFilter.ofRun verbosity place.logDirectives = .ok filter) ∧
        ∃ settings, Command.check.settings place = .ok settings ∧ settings.warnings = [] := by
  simp only [run, read]
  cases LogFilter.ofRun verbosity place.logDirectives with
  | error fault => simp
  | ok filter =>
      dsimp only
      rw [Command.run]
      cases Command.check.settings place with
      | error e => simp [Outcome.ofText]
      | ok settings => simp [Command.runWith]

end Checked

/-- Directives that let a run start break down another only if that one asked for less detail. -/
theorem LogFilter.ofRun_eq_error {verbosity other : Nat} {directives : Option String}
    {filter : LogFilter} {fault : DirectiveFault}
    (starts : ofRun verbosity directives = .ok filter)
    (fails : ofRun other directives = .error fault) : 0 < verbosity ∧ other = 0 := by
  match verbosity, other with
  | 0, 0 =>
      rw [starts] at fails
      cases fails
  | verbosity + 1, 0 => exact ⟨verbosity.succ_pos, rfl⟩
  | _, 1 | _, _ + 2 => cases fails

/-- Once a check has found nothing, each request that leaves the sort order and the name of the
    source to the settings succeeds if the groups of its filter file can be collected on its index.
    (Log directives that the check was told to pass over can still break it down.) Whatever the
    settings are, their sort order can't be used exactly if there are warnings about its entries.
    The first of them then tells why, and each is about an entry that can't be read, in order. -/
theorem clean_check_sufficient (place : Surroundings) :
    (∀ words verbosity isPlain, Invocation.read words = .ok ⟨verbosity, isPlain, .check⟩ →
      (place.run words).code = 0 →
      ∃ settings, Command.check.settings place = .ok settings ∧
        ∀ source index file builder, source.load place settings = .ok file →
          file.builder index = .ok builder →
          ∀ others detail plain command, Invocation.read others = .ok ⟨detail, plain, command⟩ →
            command.LeavesToSettings source index →
            (place.run others).code = 0 ∨
              0 < verbosity ∧ detail = 0 ∧
                ∃ fault, LogFilter.ofRun detail place.logDirectives = .error fault) ∧
    ∀ settings : Settings,
      ((∃ error, settings.search.sortFields = .error error) ↔
        ∃ entry reason, .invalidSort entry reason ∈ settings.warnings) ∧
      (∀ error, settings.search.sortFields = .error error ↔
        ∃ before entry after, settings.warnings = before ++ .invalidSort entry error :: after ∧
          ∀ warning ∈ before, warning.badSort? = none) ∧
      (settings.warnings.filterMap SettingsWarning.badSort?).map (·.1) =
        settings.search.sort.filter (fun entry => !CommandName.isSort entry) ∧
      ∀ entry reason, .invalidSort entry reason ∈ settings.warnings ↔
        entry ∈ settings.search.sort ∧ SortField.parse entry = .error reason := by
  refine ⟨?_, fun settings => ⟨settings.exists_sortFields_error_iff,
    fun _ => settings.sortFields_eq_error_iff, settings.badEntries_eq,
    fun _ _ => settings.mem_warnings_iff⟩⟩
  intro words verbosity isPlain read passes
  obtain ⟨⟨filter, starts⟩, settings, set, clean⟩ :=
    (Surroundings.run_check_eq_zero_iff read).mp passes
  refine ⟨settings, set, fun source index file builder loaded collected => ?_⟩
  intro others detail plain command other leaves
  have exactly : (place.run others).FailsExactly
      (Invocation.Fails place ⟨detail, plain, command⟩) := by
    refine Surroundings.run_failsExactly other ?_
    cases leaves with
    | search | aggregate => nofun
  cases directed : LogFilter.ofRun detail place.logDirectives with
  | error fault =>
      obtain ⟨asked, unasked⟩ := LogFilter.ofRun_eq_error starts directed
      exact .inr ⟨asked, unasked, fault, rfl⟩
  | ok otherFilter =>
      -- The request runs under the settings that were checked.
      have same : command.settings place = .ok settings := by
        cases leaves with
        | search | aggregate => exact set
      refine .inl ?_
      by_contra failed
      have fails := (exactly.notices _).mpr ⟨failed, rfl⟩
      rw [Invocation.fails_iff_of_loaded directed same] at fails
      exact leaves.not_stops clean loaded collected fails

/-- A working directory with a sort order and a filter file. -/
def sortedDirectory : Surroundings where
  tree := ⟨[
    (⟨true, ["work", ".esq.toml"]⟩, .text "[search]\nsort = [\"age:desc\"]\n"),
    (⟨true, ["work", "people"]⟩, .text "[[\"people\",\"tag\",null,\"Is\",\"Text\",[\"a\"]]]")]⟩
  home := ⟨true, ["home"]⟩
  workingDirectory := ⟨true, ["work"]⟩
  logDirectives := none
  isTerminal := false

theorem sorted_directory_serves :
    (sortedDirectory.run ["check"]).code = 0 ∧
    (sortedDirectory.run ["search", "people", "--index", "people"]).code = 0 ∧
    (sortedDirectory.run ["aggregate", "people", "--index", "people", "--name", "ages", "--field",
      "age"]).code = 0 := by
  let source : FilterSource := ⟨"people", false⟩
  have read : Invocation.read ["check"] = .ok ⟨0, false, .check⟩ :=
    toOption_eq_some_iff.mp (by decide +kernel)
  have passes : (sortedDirectory.run ["check"]).code = 0 := by decide +kernel
  obtain ⟨settings, set, serves⟩ := (clean_check_sufficient sortedDirectory).1 _ _ _ read passes
  obtain rfl : settings = ⟨⟨false, false⟩, ⟨10, ["age:desc"]⟩, ⟨1000, "key"⟩⟩ := by
    have found : (Command.check.settings sortedDirectory).toOption =
        some ⟨⟨false, false⟩, ⟨10, ["age:desc"]⟩, ⟨1000, "key"⟩⟩ := by decide +kernel
    rw [set] at found
    exact Option.some.inj found
  have loaded : source.load sortedDirectory ⟨⟨false, false⟩, ⟨10, ["age:desc"]⟩, ⟨1000, "key"⟩⟩ =
      .ok ⟨false, [⟨false, true, [taggedPeople]⟩]⟩ := toOption_eq_some_iff.mp (by decide +kernel)
  have search : Invocation.read ["search", "people", "--index", "people"] =
      .ok ⟨0, false, .search source "people" 0 none []⟩ :=
    toOption_eq_some_iff.mp (by decide +kernel)
  have aggregate : Invocation.read
      ["aggregate", "people", "--index", "people", "--name", "ages", "--field", "age"] =
        .ok ⟨0, false, .aggregate source "people" "ages" "age" none none⟩ :=
    toOption_eq_some_iff.mp (by decide +kernel)
  have served := serves source "people" _ _ loaded rfl
  refine ⟨passes, ?_, ?_⟩
  · rcases served _ _ _ _ search (.search 0 none) with succeeds | ⟨asked, _⟩
    · exact succeeds
    · cases asked
  · rcases served _ _ _ _ aggregate (.aggregate none (by decide) (by decide)) with
      succeeds | ⟨asked, _⟩
    · exact succeeds
    · cases asked

end Winnow
