import Winnow.Proofs.FileForms
import Winnow.Proofs.PrintedQuery

/-! # Failing runs

A run that fails prints nothing but why, at whatever stage it fails, and a run that succeeds has
nothing to report. So a document is printed whole or not at all.
-/

namespace Winnow

/-- Notices that report a failure. What went wrong comes first, and hints may follow. -/
inductive Notice.ReportFailure : List Notice → Prop where
  | error (text : String) (hints : List Notice) : ReportFailure (.error text :: hints)
  | breakdown (text : String) : ReportFailure [.breakdown text]

/-! ## Stages -/

/-- Why a command stops at its filter file, of which something is to be made. -/
inductive FilterSource.Stops {α : Type} (place : Surroundings) (settings : Settings)
    (source : FilterSource) (make : FilterFile → Except QueryError α) : List Notice → Prop where
  /-- The file can't be read or is refused, be it for its text, its shape or one of its filters. -/
  | file {error : FilterFileError} (refused : source.load place settings = .error error) :
      Stops place settings source make (Notice.ofFilterFile source.path error)
  /-- Nothing can be made of the file. -/
  | making {file : FilterFile} {error : QueryError} (loaded : source.load place settings = .ok file)
      (refused : make file = .error error) :
      Stops place settings source make (Notice.ofQuery error)

/-- Why a command stops under its settings, with the notices on it. Each stage is reached only if
    those before it succeed. -/
inductive Command.Stops (place : Surroundings) (settings : Settings) :
    Command → List Notice → Prop where
  /-- The queries of the groups can't be made. -/
  | queries {source : FilterSource} {notices : List Notice}
      (stops : source.Stops place settings FilterFile.queriesJson notices) :
      Stops place settings (.compile source) notices
  /-- The sort order that is set can't be used. -/
  | sort {source : FilterSource} {index : String} {page : Nat} {size : Option Nat}
      {given : List SortField} {error : QueryError}
      (refused : settings.sortFor given = .error error) :
      Stops place settings (.search source index page size given) (Notice.ofQuery error)
  /-- The groups can't be collected for a search. -/
  | search {source : FilterSource} {index : String} {page : Nat} {size : Option Nat}
      {given sort : List SortField} {notices : List Notice}
      (sorted : settings.sortFor given = .ok sort)
      (stops : source.Stops place settings (·.builder index) notices) :
      Stops place settings (.search source index page size given) notices
  /-- The groups can't be collected for an aggregation. -/
  | aggregate {source : FilterSource} {index name field : String} {key : Option String}
      {size : Option Nat} {notices : List Notice}
      (stops : source.Stops place settings (·.builder index) notices) :
      Stops place settings (.aggregate source index name field key size) notices
  /-- An argument of the aggregation is missing. -/
  | arguments {source : FilterSource} {index name field : String} {key : Option String}
      {size : Option Nat} {file : FilterFile} {builder : RequestBuilder} {error : QueryError}
      (loaded : source.load place settings = .ok file)
      (collected : file.builder index = .ok builder)
      (refused : builder.aggregate name field (key.getD settings.aggregation.key)
        (size.getD settings.aggregation.size) = .error error) :
      Stops place settings (.aggregate source index name field key size) (Notice.ofQuery error)
  /-- Something stands where a settings file is to be written. -/
  | present {inHome : Bool} (stands : place.tree.has (initTarget inHome place).1 = true) :
      Stops place settings (.init inHome false)
        [.error ("configuration file already exists: " ++ (initTarget inHome place).1.text),
          .hint "use --force to overwrite"]
  /-- The settings file can't be written. -/
  | unwritten {inHome force : Bool} {error : FileError}
      (wanted : force = true ∨ place.tree.has (initTarget inHome place).1 = false)
      (refused : (place.tree.write (initTarget inHome place).1
        (initTarget inHome place).2.template).1 = .error error) :
      Stops place settings (.init inHome force)
        [.error ("failed to write " ++ (initTarget inHome place).1.text ++ ": " ++ error.message)]

/-- Why a run fails, with the notices on it. -/
inductive Invocation.Fails (place : Surroundings) (invocation : Invocation) :
    List Notice → Prop where
  /-- The log directives break it down. -/
  | breakdown {fault : DirectiveFault}
      (broken : LogFilter.ofRun invocation.verbosity place.logDirectives = .error fault) :
      Fails place invocation [.breakdown "the log directives are cut inside a character"]
  /-- The settings can't be loaded. -/
  | settings {filter : LogFilter} {error : ConfigurationError}
      (directed : LogFilter.ofRun invocation.verbosity place.logDirectives = .ok filter)
      (unloaded : invocation.command.settings place = .error error) :
      Fails place invocation [.error ("failed to load configuration: " ++ error.message)]
  /-- The command stops. -/
  | command {filter : LogFilter} {settings : Settings} {notices : List Notice}
      (directed : LogFilter.ofRun invocation.verbosity place.logDirectives = .ok filter)
      (loaded : invocation.command.settings place = .ok settings)
      (stops : invocation.command.Stops place settings notices) : Fails place invocation notices

namespace Invocation

variable {place : Surroundings} {invocation : Invocation} {settings : Settings}
  {notices : List Notice}

theorem fails_iff_of_broken {fault : DirectiveFault}
    (broken : LogFilter.ofRun invocation.verbosity place.logDirectives = .error fault) :
    invocation.Fails place notices ↔
      notices = [.breakdown "the log directives are cut inside a character"] := by
  constructor
  · intro fails
    cases fails with
    | breakdown => rfl
    | settings directed | command directed =>
        rw [broken] at directed
        cases directed
  · rintro rfl
    exact .breakdown broken

variable {filter : LogFilter}
  (directed : LogFilter.ofRun invocation.verbosity place.logDirectives = .ok filter)

include directed

theorem fails_iff_of_unloaded {error : ConfigurationError}
    (unloaded : invocation.command.settings place = .error error) :
    invocation.Fails place notices ↔
      notices = [.error ("failed to load configuration: " ++ error.message)] := by
  constructor
  · intro fails
    cases fails with
    | breakdown broken =>
        rw [directed] at broken
        cases broken
    | settings _ refused =>
        rw [unloaded] at refused
        cases refused
        rfl
    | command _ loaded =>
        rw [unloaded] at loaded
        cases loaded
  · rintro rfl
    exact .settings directed unloaded

theorem fails_iff_of_loaded (loaded : invocation.command.settings place = .ok settings) :
    invocation.Fails place notices ↔ invocation.command.Stops place settings notices := by
  constructor
  · intro fails
    cases fails with
    | breakdown broken =>
        rw [directed] at broken
        cases broken
    | settings _ unloaded =>
        rw [loaded] at unloaded
        cases unloaded
    | command _ again stops =>
        rw [loaded] at again
        cases again
        exact stops
  · exact .command directed loaded

end Invocation

section Reports

variable {place : Surroundings} {settings : Settings} {notices : List Notice}

theorem Notice.withHint_reportFailure (message : String) (hint? : Option String) :
    ReportFailure (withHint message hint?) :=
  .error message _

theorem FilterSource.Stops.reportFailure {α : Type} {source : FilterSource}
    {make : FilterFile → Except QueryError α} (stops : source.Stops place settings make notices) :
    Notice.ReportFailure notices := by
  cases stops with
  | file | making => exact Notice.withHint_reportFailure _ _

theorem Command.Stops.reportFailure {command : Command}
    (stops : command.Stops place settings notices) : Notice.ReportFailure notices := by
  cases stops with
  | queries stops | search _ stops | aggregate stops => exact stops.reportFailure
  | sort | arguments => exact Notice.withHint_reportFailure _ _
  | present | unwritten => exact .error _ _

theorem Invocation.Fails.reportFailure {invocation : Invocation}
    (fails : invocation.Fails place notices) : Notice.ReportFailure notices := by
  cases fails with
  | breakdown => exact .breakdown _
  | settings => exact .error _ _
  | command _ _ stops => exact stops.reportFailure

end Reports

/-! ## Commands -/

namespace Command

variable {place : Surroundings} {settings : Settings} {notices : List Notice}

theorem orNotices_eq_error_iff {α : Type} {step : Except QueryError α} :
    orNotices step = .error notices ↔
      ∃ error, step = .error error ∧ notices = Notice.ofQuery error := by
  cases step <;> simp [orNotices, eq_comm]

theorem file_eq_error_iff {source : FilterSource} :
    source.file place settings = .error notices ↔
      ∃ error, source.load place settings = .error error ∧
        notices = Notice.ofFilterFile source.path error := by
  unfold FilterSource.file
  cases source.load place settings <;> simp [eq_comm]

theorem making_eq_error_iff {α : Type} {source : FilterSource}
    {make : FilterFile → Except QueryError α} :
    (do orNotices (make (← source.file place settings))) = .error notices ↔
      source.Stops place settings make notices := by
  rw [bind_eq_error_iff, file_eq_error_iff]
  simp only [file_eq_ok_iff, orNotices_eq_error_iff]
  constructor
  · rintro (⟨error, refused, rfl⟩ | ⟨file, loaded, error, refused, rfl⟩)
    · exact .file refused
    · exact .making loaded refused
  · intro stops
    cases stops with
    | file refused => exact .inl ⟨_, refused, rfl⟩
    | making loaded refused => exact .inr ⟨_, loaded, _, refused, rfl⟩

theorem builder_eq {source : FilterSource} {index : String} :
    source.builder place settings index =
      (do orNotices ((← source.file place settings).builder index)) := by
  unfold FilterSource.builder
  cases source.file place settings with
  | error notices => rfl
  | ok file =>
      simp only [bind, Except.bind, orNotices]
      cases file.builder index <;> rfl

theorem builder_eq_error_iff {source : FilterSource} {index : String} :
    source.builder place settings index = .error notices ↔
      source.Stops place settings (·.builder index) notices := by
  rw [builder_eq]
  exact making_eq_error_iff

theorem builder_eq_ok_iff {source : FilterSource} {index : String} {builder : RequestBuilder} :
    source.builder place settings index = .ok builder ↔
      ∃ file, source.load place settings = .ok file ∧ file.builder index = .ok builder := by
  simp only [builder_eq, bind_eq_ok_iff, file_eq_ok_iff, orNotices_eq_ok_iff]

theorem compileJson_eq_error_iff {source : FilterSource} :
    compileJson source place settings = .error notices ↔
      (compile source).Stops place settings notices := by
  rw [compileJson, making_eq_error_iff]
  constructor
  · exact .queries
  · intro stops
    cases stops with
    | queries stops => exact stops

theorem searchJson_eq_error_iff {source : FilterSource} {index : String} {page : Nat}
    {size : Option Nat} {given : List SortField} :
    searchJson source index page size given place settings = .error notices ↔
      (search source index page size given).Stops place settings notices := by
  rw [searchJson, bind_eq_error_iff, orNotices_eq_error_iff]
  simp only [orNotices_eq_ok_iff, bind_eq_error_iff, builder_eq_error_iff]
  constructor
  · rintro (⟨error, refused, rfl⟩ | ⟨sort, sorted, stops | ⟨_, _, done⟩⟩)
    · exact .sort refused
    · exact .search sorted stops
    · cases done
  · intro stops
    cases stops with
    | sort refused => exact .inl ⟨_, refused, rfl⟩
    | search sorted stops => exact .inr ⟨_, sorted, .inl stops⟩

theorem aggregateJson_eq_error_iff {source : FilterSource} {index name field : String}
    {key : Option String} {size : Option Nat} :
    aggregateJson source index name field key size place settings = .error notices ↔
      (aggregate source index name field key size).Stops place settings notices := by
  rw [aggregateJson, bind_eq_error_iff, builder_eq_error_iff]
  simp only [builder_eq_ok_iff, orNotices_eq_error_iff]
  constructor
  · rintro (stops | ⟨builder, ⟨file, loaded, collected⟩, error, refused, rfl⟩)
    · exact .aggregate stops
    · exact .arguments loaded collected refused
  · intro stops
    cases stops with
    | aggregate stops => exact .inl stops
    | arguments loaded collected refused =>
        exact .inr ⟨_, ⟨_, loaded, collected⟩, _, refused, rfl⟩

theorem writeSettings_eq_error_iff {inHome force : Bool} :
    (writeSettings force (initTarget inHome place).1 (initTarget inHome place).2 place.tree).1 =
        .error notices ↔ (init inHome force).Stops place settings notices := by
  rw [writeSettings]
  constructor
  · intro refused
    split at refused
    · next stands =>
      obtain ⟨present, unforced⟩ := Bool.and_eq_true_iff.mp stands
      obtain rfl : force = false := by simpa using unforced
      cases refused
      exact .present present
    · next wanted =>
      obtain ⟨error, unwritten, rfl⟩ := mapError_eq_error_iff.mp refused
      refine .unwritten ?_ unwritten
      cases force <;> simp_all
  · intro stops
    cases stops with
    | present stands => rw [stands]; rfl
    | unwritten wanted refused =>
        rw [if_neg]
        · exact mapError_eq_error_iff.mpr ⟨_, refused, rfl⟩
        · rcases wanted with rfl | absent
          · simp
          · simp [absent]

end Command

/-! ## Groups that can't be taken -/

namespace Command

/-- The filter file of a command. -/
def source? : Command → Option FilterSource
  | compile source | search source _ _ _ _ | aggregate source _ _ _ _ _ => some source
  | init _ _ | check | config => none

/-- What a command needs of each group of its filter file. -/
def Takes (group : FilterGroup) : Command → Prop
  | compile _ => ∃ queries, group.assemble = .ok queries
  | search _ index _ _ _ | aggregate _ index _ _ _ _ => group.Serves index
  | init _ _ | check | config => True

theorem exists_queriesJson_iff {file : FilterFile} :
    (∃ document, file.queriesJson = .ok document) ↔
      ∀ group ∈ file.groups, ∃ queries, group.assemble = .ok queries := by
  rw [← exists_mapM_iff]
  unfold FilterFile.queriesJson
  cases file.groups.mapM FilterGroup.assemble with
  | error e => simp [bind, Except.bind]
  | ok maps =>
      simp only [bind, Except.bind, Except.ok.injEq, exists_eq', iff_true]
      split <;> exact ⟨_, rfl⟩

variable {place : Surroundings} {settings : Settings} {command : Command} {source : FilterSource}
  {file : FilterFile} {group : FilterGroup}

/-- One group that it can't take stops a command, whatever it makes of the others. -/
theorem exists_stops_of_group (reads : command.source? = some source)
    (loaded : source.load place settings = .ok file) (member : group ∈ file.groups)
    (untaken : ¬ command.Takes group) : ∃ notices, command.Stops place settings notices := by
  have uncollected : ∀ {index}, ¬ group.Serves index →
      ∃ error, file.builder index = .error error := by
    intro index unserved
    rw [exists_error_iff, FilterFile.exists_builder_iff]
    exact fun all => unserved (all.2 group member)
  cases command with
  | compile _ =>
      obtain rfl := Option.some.inj reads
      have unmade : ∃ error, file.queriesJson = .error error := by
        rw [exists_error_iff, exists_queriesJson_iff]
        exact fun all => untaken (all group member)
      obtain ⟨error, refused⟩ := unmade
      exact ⟨_, .queries (.making loaded refused)⟩
  | search _ index page size given =>
      obtain rfl := Option.some.inj reads
      obtain ⟨error, refused⟩ := uncollected untaken
      -- An unusable sort order stops the search before the file is looked at.
      cases sorted : settings.sortFor given with
      | error unsorted => exact ⟨_, .sort sorted⟩
      | ok sort => exact ⟨_, .search sorted (.making loaded refused)⟩
  | aggregate _ index name field key size =>
      obtain rfl := Option.some.inj reads
      obtain ⟨error, refused⟩ := uncollected untaken
      exact ⟨_, .aggregate (.making loaded refused)⟩
  | init | check | config => cases reads

end Command

/-! ## Outcomes -/

namespace Outcome

variable {place : Surroundings} {events : List LogEvent}

/-- A run fails with the notices that it is to fail with and prints nothing, or it succeeds and has
    no notices. -/
structure FailsExactly (outcome : Outcome) (fails : List Notice → Prop) : Prop where
  /-- It fails with these notices and with no others. -/
  notices : ∀ notices, fails notices ↔ outcome.code ≠ 0 ∧ outcome.notices = notices
  /-- It prints nothing if it fails. -/
  silent : outcome.code ≠ 0 → outcome.stdout = ""
  /-- It has nothing to report if it succeeds. -/
  clean : outcome.code = 0 → outcome.notices = []

theorem FailsExactly.congr {outcome : Outcome} {fails others : List Notice → Prop}
    (exactly : outcome.FailsExactly fails) (same : ∀ notices, others notices ↔ fails notices) :
    outcome.FailsExactly others :=
  ⟨fun notices => (same notices).trans (exactly.notices notices), exactly.silent, exactly.clean⟩

theorem failsExactly_of_code {outcome : Outcome} (failed : outcome.code ≠ 0)
    (silent : outcome.stdout = "") : outcome.FailsExactly (· = outcome.notices) := by
  refine ⟨fun notices => ?_, fun _ => silent, fun succeeds => absurd succeeds failed⟩
  simp [failed, eq_comm]

theorem ofText_failsExactly (result : Except (List Notice) String) :
    (ofText place events result).FailsExactly (result = .error ·) := by
  cases result with
  | error notices =>
      refine (failsExactly_of_code Nat.one_ne_zero rfl).congr fun others => ?_
      simp [ofText, eq_comm]
  | ok text => exact ⟨fun _ => by simp [ofText], fun failed => absurd rfl failed, fun _ => rfl⟩

theorem ofJson_failsExactly {highlighter? : Option Highlighter}
    (result : Except (List Notice) Json) :
    (ofJson place highlighter? events result).FailsExactly (result = .error ·) :=
  (ofText_failsExactly _).congr fun _ => map_eq_error_iff.symm

theorem ofInit_failsExactly {highlighter? : Option Highlighter} {inHome force : Bool}
    (settings : Settings) :
    (ofInit place highlighter? inHome force).FailsExactly
      ((Command.init inHome force).Stops place settings) := by
  have stops := fun notices =>
    @Command.writeSettings_eq_error_iff place settings notices inHome force
  rw [ofInit]
  dsimp only
  rcases written : Command.writeSettings force (Command.initTarget inHome place).1
      (Command.initTarget inHome place).2 place.tree with ⟨notices | _, tree⟩
  · refine (failsExactly_of_code Nat.one_ne_zero rfl).congr fun others => ?_
    rw [← stops, written]
    simp [eq_comm]
  · refine ⟨fun others => ?_, fun failed => absurd rfl failed, fun _ => rfl⟩
    rw [← stops, written]
    simp

end Outcome

theorem Command.runWith_failsExactly {place : Surroundings} {highlighter? : Option Highlighter}
    {settings : Settings} {command : Command} (other : command ≠ .check) :
    (command.runWith place highlighter? settings).FailsExactly (command.Stops place settings) := by
  cases command with
  | compile source =>
      exact (Outcome.ofJson_failsExactly _).congr fun _ => compileJson_eq_error_iff.symm
  | search source index page size given =>
      exact (Outcome.ofJson_failsExactly _).congr fun _ => searchJson_eq_error_iff.symm
  | aggregate source index name field key size =>
      exact (Outcome.ofJson_failsExactly _).congr fun _ => aggregateJson_eq_error_iff.symm
  | init inHome force => exact Outcome.ofInit_failsExactly settings
  | check => exact absurd rfl other
  | config =>
      refine (Outcome.ofText_failsExactly (.ok _)).congr fun notices => ?_
      exact ⟨nofun, nofun⟩

namespace Surroundings

variable {place : Surroundings} {words : List String} {invocation : Invocation}

theorem run_failsExactly (read : Invocation.read words = .ok invocation)
    (other : invocation.command ≠ .check) :
    (place.run words).FailsExactly (invocation.Fails place) := by
  simp only [run, read]
  cases directed : LogFilter.ofRun invocation.verbosity place.logDirectives with
  | error fault =>
      exact (Outcome.failsExactly_of_code (Nat.succ_ne_zero _) rfl).congr fun _ =>
        Invocation.fails_iff_of_broken directed
  | ok filter =>
      dsimp only
      rw [Command.run]
      cases found : invocation.command.settings place with
      | error e =>
          exact (Outcome.failsExactly_of_code Nat.one_ne_zero rfl).congr fun _ =>
            Invocation.fails_iff_of_unloaded directed found
      | ok settings =>
          have whole : (invocation.command.runWith place (place.highlighter? invocation.isPlain)
              settings).FailsExactly (invocation.command.Stops place settings) :=
            Command.runWith_failsExactly other
          -- Which events are shown makes no difference to how a run fails.
          have same := fun notices => @Invocation.fails_iff_of_loaded place invocation settings
            notices filter directed found
          exact ⟨fun notices => (same notices).trans (whole.notices notices), whole.silent,
            whole.clean⟩

/-- A run that stops at a group fails, unless it has failed before. -/
theorem run_fails_of_group {settings : Settings} {source : FilterSource} {file : FilterFile}
    {group : FilterGroup} (read : Invocation.read words = .ok invocation)
    (reads : invocation.command.source? = some source)
    (set : invocation.command.settings place = .ok settings)
    (loaded : source.load place settings = .ok file) (member : group ∈ file.groups)
    (untaken : ¬ invocation.command.Takes group) : (place.run words).Fails := by
  have other : invocation.command ≠ .check := by
    intro same
    rw [same] at reads
    cases reads
  have exactly : (place.run words).FailsExactly (invocation.Fails place) :=
    run_failsExactly read other
  have fails : ∃ notices, invocation.Fails place notices := by
    cases directed : LogFilter.ofRun invocation.verbosity place.logDirectives with
    | error fault => exact ⟨_, .breakdown directed⟩
    | ok filter =>
        obtain ⟨notices, stops⟩ := Command.exists_stops_of_group reads loaded member untaken
        exact ⟨notices, .command directed set stops⟩
  obtain ⟨notices, fails⟩ := fails
  have failed := (exactly.notices notices).mp fails
  exact ⟨failed.1, exactly.silent failed.1⟩

end Surroundings

/-- A run of any command but `check` prints nothing if it fails, and reports why: the failure comes
    first among its notices, which are those of the stage that failed. If it succeeds it has no
    notices, and a command on a filter file prints the document that it builds, with a line break
    behind it. So one group that can't be taken keeps all others from being printed. -/
theorem run_all_or_nothing (place : Surroundings) {words : List String} {invocation : Invocation}
    (read : Invocation.read words = .ok invocation) (other : invocation.command ≠ .check) :
    ((place.run words).code ≠ 0 →
      (place.run words).stdout = "" ∧ Notice.ReportFailure (place.run words).notices) ∧
    ((place.run words).code = 0 → (place.run words).notices = []) ∧
    (∀ notices, invocation.Fails place notices ↔
      (place.run words).code ≠ 0 ∧ (place.run words).notices = notices) ∧
    (invocation.command.filterPath?.isSome = true → (place.run words).code = 0 →
      ∃ settings document, invocation.command.settings place = .ok settings ∧
        invocation.command.Builds place settings document ∧
        Json.parse? document.pretty = some document ∧
        unstyled (place.run words).stdout = document.pretty ++ "\n" ∧
        ((place.isTerminal && !invocation.isPlain) = false →
          (place.run words).stdout = document.pretty ++ "\n")) ∧
    ∀ settings source file before last, invocation.command.settings place = .ok settings →
      invocation.command.source? = some source → source.load place settings = .ok file →
      file.groups = before ++ [last] → ¬ invocation.command.Takes last →
      (place.run words).code ≠ 0 ∧ (place.run words).stdout = "" := by
  have exactly : (place.run words).FailsExactly (invocation.Fails place) :=
    Surroundings.run_failsExactly read other
  refine ⟨fun failed => ⟨exactly.silent failed, ?_⟩, exactly.clean, exactly.notices,
    fun onFile succeeds => ?_, ?_⟩
  · exact ((exactly.notices _).mpr ⟨failed, rfl⟩).reportFailure
  · obtain ⟨settings, document, found, builds, shown⟩ :=
      Surroundings.exists_builds_of_run read onFile succeeds
    have plain := builds.plain (Command.settings_fits found) (Command.size_lt_of_read read)
    refine ⟨settings, document, found, builds, Json.parse?_pretty plain, ?_, fun uncoloured => ?_⟩
    · rw [shown, Json.unstyled_print plain]
    · rw [shown, Surroundings.highlighter?_of_uncoloured uncoloured, Json.print_uncoloured]
  · intro settings source file before last set reads loaded split untaken
    have member : last ∈ file.groups := by simp [split]
    exact Surroundings.run_fails_of_group read reads set loaded member untaken

/-- A working directory with a filter file that can be compiled, and with one whose last group
    can't be. -/
def brokenLastGroup : Surroundings where
  tree := ⟨[
    (⟨true, ["work", "sound"]⟩, .text "[[\"people\",\"tag\",null,\"Is\",\"Text\",[\"a\"]]]"),
    (⟨true, ["work", "broken"]⟩, .text
      ("\x7b\"groups\":[\x7b\"filters\":[[\"people\",\"tag\",null,\"Is\",\"Text\",[\"a\"]]]\x7d," ++
        "\x7b\"filters\":[[\"people\",\"age\",null,\"Is\",\"Number\",[\"old\"]]]\x7d]\x7d"))]⟩
  home := ⟨true, ["home"]⟩
  workingDirectory := ⟨true, ["work"]⟩
  logDirectives := none
  isTerminal := false

/-- The first group of the broken file could be printed, and is not. -/
theorem broken_last_group_silent :
    ((brokenLastGroup.run ["compile", "broken"]).code ≠ 0 ∧
      (brokenLastGroup.run ["compile", "broken"]).stdout = "" ∧
      Notice.ReportFailure (brokenLastGroup.run ["compile", "broken"]).notices) ∧
    (brokenLastGroup.run ["compile", "sound"]).code = 0 ∧
    (brokenLastGroup.run ["compile", "sound"]).notices = [] ∧
    ∃ document : Json,
      (brokenLastGroup.run ["compile", "sound"]).stdout = document.pretty ++ "\n" := by
  have read : Invocation.read ["compile", "broken"] = .ok ⟨0, false, .compile ⟨"broken", false⟩⟩ :=
    toOption_eq_some_iff.mp (by decide +kernel)
  have readSound : Invocation.read ["compile", "sound"] =
      .ok ⟨0, false, .compile ⟨"sound", false⟩⟩ := toOption_eq_some_iff.mp (by decide +kernel)
  obtain ⟨fails, _, _, _, stops⟩ := run_all_or_nothing brokenLastGroup read nofun
  obtain ⟨_, succeeds, _, prints, _⟩ := run_all_or_nothing brokenLastGroup readSound nofun
  have loaded : FilterSource.load ⟨"broken", false⟩ brokenLastGroup .standard =
      .ok ⟨true, [⟨false, true, [taggedPeople]⟩,
        ⟨false, true, [⟨"people", "age", none, .is, .number, ["old"], false⟩]⟩]⟩ :=
    toOption_eq_some_iff.mp (by decide +kernel)
  have set : Command.settings brokenLastGroup (.compile ⟨"broken", false⟩) = .ok .standard :=
    toOption_eq_some_iff.mp (by decide +kernel)
  have failed := stops .standard _ _ [_] _ set rfl loaded rfl
    (by rintro ⟨queries, made⟩; cases made)
  have sound : (brokenLastGroup.run ["compile", "sound"]).code = 0 := by decide +kernel
  obtain ⟨_, document, _, _, _, _, plain⟩ := prints rfl sound
  exact ⟨⟨failed.1, failed.2, (fails failed.1).2⟩, sound, succeeds sound, document, plain rfl⟩

end Winnow
