import Winnow.Proofs.Colouring
import Winnow.Proofs.CountRange
import Winnow.Proofs.QueryDocument

/-! # Printed queries

What is printed of a query is read back as the query, with every name and value in its place. The
same goes for the output of the commands on filter files, once colours are taken off.
-/

namespace Winnow

/-- What a command builds of its filter file. -/
inductive Command.Builds (place : Surroundings) (settings : Settings) : Command → Json → Prop where
  /-- The queries of every group. -/
  | compile {source : FilterSource} {file : FilterFile} {document : Json}
      (loaded : source.load place settings = .ok file) (built : file.queriesJson = .ok document) :
      Builds place settings (.compile source) document
  /-- A search request, sorted and paged as given or else as set. -/
  | search {source : FilterSource} {index : String} {page : Nat} {size : Option Nat}
      {given sort : List SortField} {file : FilterFile} {builder : RequestBuilder}
      (loaded : source.load place settings = .ok file)
      (sorted : settings.sortFor given = .ok sort) (collected : file.builder index = .ok builder) :
      Builds place settings (.search source index page size given)
        (builder.search page (size.getD settings.search.pageSize) sort)
  /-- An aggregation request, keyed and paged as given or else as set. -/
  | aggregate {source : FilterSource} {index name field : String} {key : Option String}
      {size : Option Nat} {file : FilterFile} {builder : RequestBuilder} {document : Json}
      (loaded : source.load place settings = .ok file) (collected : file.builder index = .ok builder)
      (built : builder.aggregate name field (key.getD settings.aggregation.key)
        (size.getD settings.aggregation.size) = .ok document) :
      Builds place settings (.aggregate source index name field key size) document

/-! ## Output -/

namespace Json

theorem print_uncoloured (v : Json) : v.print none = v.pretty ++ "\n" := by
  simp only [print, DocumentFormat.print, trimEnd_pretty, String.ofList_toList]

/-- The output of a document is its text on several lines, whether in colours or not. -/
theorem unstyled_print {depth : Nat} {v : Json} (plain : v.Plain depth)
    (highlighter? : Option Highlighter) : unstyled (v.print highlighter?) = v.pretty ++ "\n" := by
  have bare : '\x1b' ∉ v.pretty.toList := by
    rw [pretty, String.toList_ofList]
    exact JsonText.render_bare JsonLayout.pretty_spaced plain 0
  have styled : Styled (v.print highlighter?).toList (v.pretty ++ "\n").toList := by
    have feed : Styled "\n".toList "\n".toList := .of_shown (by decide)
    cases highlighter? with
    | none =>
        rw [print_uncoloured, String.toList_append]
        exact (Styled.of_shown bare).append feed
    | some highlighter =>
        simp only [print, DocumentFormat.print, trimEnd_pretty, String.ofList_toList,
          String.toList_append]
        exact (DocumentFormat.highlight_styled .json highlighter bare).append feed
  have enough : (v.print highlighter?).toList.length < (v.print highlighter?).length + 1 := by
    rw [String.length_toList]
    exact Nat.lt_succ_self _
  rw [unstyled, styled.withoutStyles_eq enough, String.ofList_toList]

end Json

/-! ## Other colours -/

/-- The same surroundings, where something else colours documents. -/
def Surroundings.colouredBy (place : Surroundings) (highlighter : Highlighter) : Surroundings :=
  { place with highlighter }

/-- Outcomes that differ in nothing but what is printed. -/
structure Outcome.SameReport (outcome other : Outcome) : Prop where
  code : other.code = outcome.code
  notices : other.notices = outcome.notices
  events : other.events = outcome.events
  tree : other.tree = outcome.tree

section Recoloured

variable (place : Surroundings) (highlighter : Highlighter) (first second : Option Highlighter)

theorem Outcome.ofText_sameReport (events : List LogEvent)
    {result other : Except (List Notice) String}
    (same : other.map (fun _ => ()) = result.map fun _ => ()) :
    (ofText place events result).SameReport
      (ofText (place.colouredBy highlighter) events other) := by
  cases result <;> cases other <;> cases same <;> exact ⟨rfl, rfl, rfl, rfl⟩

theorem Outcome.ofJson_sameReport (events : List LogEvent) (result : Except (List Notice) Json) :
    (ofJson place first events result).SameReport
      (ofJson (place.colouredBy highlighter) second events result) := by
  apply ofText_sameReport
  cases result <;> rfl

theorem Command.runWith_sameReport (settings : Settings) (command : Command) :
    (command.runWith place first settings).SameReport
      (command.runWith (place.colouredBy highlighter) second settings) := by
  cases command with
  | compile | search | aggregate =>
      exact Outcome.ofJson_sameReport place highlighter first second _ _
  | init inHome force =>
      have target : initTarget inHome (place.colouredBy highlighter) =
          initTarget inHome place := rfl
      have tree : (place.colouredBy highlighter).tree = place.tree := rfl
      simp only [runWith, Outcome.ofInit, target, tree]
      rcases writeSettings force (initTarget inHome place).1 (initTarget inHome place).2 place.tree
        with ⟨notices | _, tree⟩ <;> exact ⟨rfl, rfl, rfl, rfl⟩
  | check | config => exact ⟨rfl, rfl, rfl, rfl⟩

/-- What colours documents makes no difference to a run but to how its result looks. -/
theorem Surroundings.run_sameReport (words : List String) :
    (place.run words).SameReport ((place.colouredBy highlighter).run words) := by
  rw [run, run]
  cases Invocation.read words with
  | error stop => cases stop <;> exact ⟨rfl, rfl, rfl, rfl⟩
  | ok invocation =>
      have directed : (place.colouredBy highlighter).logDirectives = place.logDirectives := rfl
      have set : invocation.command.settings (place.colouredBy highlighter) =
          invocation.command.settings place := by cases invocation.command <;> rfl
      simp only [directed, Command.run, set]
      cases LogFilter.ofRun invocation.verbosity place.logDirectives with
      | error fault => exact ⟨rfl, rfl, rfl, rfl⟩
      | ok filter =>
          cases invocation.command.settings place with
          | error e => exact ⟨rfl, rfl, rfl, rfl⟩
          | ok settings =>
              have same := invocation.command.runWith_sameReport place highlighter
                (place.highlighter? invocation.isPlain)
                ((place.colouredBy highlighter).highlighter? invocation.isPlain) settings
              have events := congrArg (List.filter filter.shows) same.events
              exact ⟨same.code, same.notices, events, same.tree⟩

end Recoloured

/-! ## Commands -/

theorem FilterSource.load_valid {source : FilterSource} {place : Surroundings}
    {settings : Settings} {file : FilterFile} (loaded : source.load place settings = .ok file) :
    file.Valid := by
  unfold load at loaded
  split at loaded
  · cases loaded
  · exact FilterFile.parse_valid loaded

namespace Command

variable {place : Surroundings} {settings : Settings} {command : Command} {document : Json}

theorem orNotices_eq_ok_iff {α : Type} {step : Except QueryError α} {x : α} :
    orNotices step = .ok x ↔ step = .ok x := by
  cases step <;> simp [orNotices]

/-- Whatever a command builds can be read back from its text. -/
theorem Builds.plain (builds : command.Builds place settings document) (set : settings.Fits)
    (asked : ∀ n ∈ command.size?, n < wordLimit) : document.Plain JsonText.maxDepth := by
  cases builds with
  | compile loaded built =>
      exact ((FilterSource.load_valid loaded).queriesJson_plain built).deeper (by decide)
  | @search _ _ page _ _ _ _ _ loaded sorted collected =>
      exact ((FilterSource.load_valid loaded).builder_formed collected).search_plain page
        (getD_lt_wordLimit set.pageSize asked) _ |>.deeper (by decide)
  | aggregate loaded collected built =>
      exact ((FilterSource.load_valid loaded).builder_formed collected).aggregate_plain
        (getD_lt_wordLimit set.size asked) built |>.deeper (by decide)

theorem file_eq_ok_iff {source : FilterSource} {file : FilterFile} :
    source.file place settings = .ok file ↔ source.load place settings = .ok file := by
  unfold FilterSource.file
  cases source.load place settings <;> simp

theorem exists_builder_of_file {source : FilterSource} {index : String} {builder : RequestBuilder}
    (collected : source.builder place settings index = .ok builder) :
    ∃ file, source.load place settings = .ok file ∧ file.builder index = .ok builder := by
  obtain ⟨file, read, found⟩ := bind_eq_ok_iff.mp collected
  have loaded := file_eq_ok_iff.mp read
  rw [FilterSource.builder_of_load loaded, orNotices_eq_ok_iff] at collected
  exact ⟨file, loaded, collected⟩

theorem exists_builds_of_runWith {highlighter? : Option Highlighter}
    (onFile : command.filterPath?.isSome = true)
    (succeeds : (command.runWith place highlighter? settings).code = 0) :
    ∃ document, command.Builds place settings document ∧
      (command.runWith place highlighter? settings).stdout = document.print highlighter? := by
  have printed : ∀ {events : List LogEvent} {result : Except (List Notice) Json},
      (Outcome.ofJson place highlighter? events result).code = 0 →
        ∃ document, result = .ok document ∧
          (Outcome.ofJson place highlighter? events result).stdout =
            document.print highlighter? := by
    intro events result zero
    cases result with
    | error notices => cases zero
    | ok document => exact ⟨document, rfl, rfl⟩
  cases command with
  | compile source =>
      obtain ⟨document, result, shown⟩ := printed succeeds
      obtain ⟨file, read, built⟩ := bind_eq_ok_iff.mp result
      exact ⟨document, .compile (file_eq_ok_iff.mp read) (orNotices_eq_ok_iff.mp built), shown⟩
  | search source index page size given =>
      obtain ⟨document, result, shown⟩ := printed succeeds
      obtain ⟨sort, sorted, result⟩ := bind_eq_ok_iff.mp result
      obtain ⟨builder, collected, same⟩ := bind_eq_ok_iff.mp result
      obtain rfl := Except.ok.inj same
      obtain ⟨file, loaded, collected⟩ := exists_builder_of_file collected
      exact ⟨_, .search loaded (orNotices_eq_ok_iff.mp sorted) collected, shown⟩
  | aggregate source index name field key size =>
      obtain ⟨document, result, shown⟩ := printed succeeds
      obtain ⟨builder, collected, built⟩ := bind_eq_ok_iff.mp result
      obtain ⟨file, loaded, collected⟩ := exists_builder_of_file collected
      exact ⟨document, .aggregate loaded collected (orNotices_eq_ok_iff.mp built), shown⟩
  | init | check | config => cases onFile

end Command

theorem Surroundings.exists_builds_of_run {place : Surroundings} {words : List String}
    {invocation : Invocation} (read : Invocation.read words = .ok invocation)
    (onFile : invocation.command.filterPath?.isSome = true)
    (succeeds : (place.run words).code = 0) :
    ∃ settings document, invocation.command.settings place = .ok settings ∧
      invocation.command.Builds place settings document ∧
      (place.run words).stdout = document.print (place.highlighter? invocation.isPlain) := by
  have outcome : (place.run words).code = 0 →
      (invocation.command.run place (place.highlighter? invocation.isPlain)).code = 0 ∧
        (place.run words).stdout =
          (invocation.command.run place (place.highlighter? invocation.isPlain)).stdout := by
    simp only [run, read]
    cases LogFilter.ofRun invocation.verbosity place.logDirectives with
    | error fault => exact nofun
    | ok filter => exact fun succeeds => ⟨succeeds, rfl⟩
  obtain ⟨succeeds, same⟩ := outcome succeeds
  rw [same]
  unfold Command.run at succeeds ⊢
  cases found : invocation.command.settings place with
  | error e => simp [found, Outcome.ofText] at succeeds
  | ok settings =>
      rw [found] at succeeds
      obtain ⟨document, builds, shown⟩ := Command.exists_builds_of_runWith onFile succeeds
      exact ⟨settings, document, rfl, builds, shown⟩

/-- Compiled filters, index maps and requests are read back from their texts as they were built.
    A run of a command on a filter file that succeeds prints such a text with a line break behind
    it, in which nothing but escape codes are added for colours. -/
theorem printed_query_read_back :
    (∀ filter : ReducedFilter, filter.Made → ∀ fragment, filter.compile = .ok fragment →
      Json.parse? fragment.query.toJson.pretty = some fragment.query.toJson) ∧
    (∀ asOr specs queries, (∀ spec ∈ specs, spec.Valid) →
      IndexQueries.assemble asOr specs = .ok queries →
      Json.parse? queries.toJson.pretty = some queries.toJson) ∧
    ∀ place words invocation, Invocation.read words = .ok invocation →
      invocation.command.filterPath?.isSome = true → (place.run words).code = 0 →
      ∃ settings document, invocation.command.settings place = .ok settings ∧
        invocation.command.Builds place settings document ∧
        unstyled (place.run words).stdout = document.pretty ++ "\n" ∧
        Json.parse? (unstyled (place.run words).stdout) = some document ∧
        ((place.isTerminal && !invocation.isPlain) = false →
          (place.run words).stdout = document.pretty ++ "\n" ∧
          Json.parse? (place.run words).stdout = some document) := by
  refine ⟨fun filter made fragment compiled => ?_, fun asOr specs queries valid assembled => ?_,
    fun place words invocation read onFile succeeds => ?_⟩
  · obtain ⟨compilable, rfl⟩ := ReducedFilter.compile_eq_ok_iff.mp compiled
    have formed := ReducedFilter.clause_formed compilable made.valid.values_ne
    exact Json.parse?_pretty (formed.toJson_plain.deeper (by decide))
  · exact Json.parse?_pretty ((IndexQueries.assembled_plain valid assembled).deeper (by decide))
  · obtain ⟨settings, document, found, builds, shown⟩ :=
      Surroundings.exists_builds_of_run read onFile succeeds
    have plain := builds.plain (Command.settings_fits found) (Command.size_lt_of_read read)
    have again := Json.parse?_pretty_line plain
    have bare : unstyled (place.run words).stdout = document.pretty ++ "\n" := by
      rw [shown, Json.unstyled_print plain]
    refine ⟨settings, document, found, builds, bare, bare ▸ again, fun uncoloured => ?_⟩
    rw [shown, Surroundings.highlighter?_of_uncoloured uncoloured, Json.print_uncoloured]
    exact ⟨rfl, again⟩

/-- A filter whose names and values have to be escaped, or look like parts of a query. -/
def escapedName : Specification :=
  ⟨"a\"]\\", "b\n😀", none, .is, .text, ["\x1b[0m", "must"], false⟩

/-- A file with this filter, and a terminal. -/
def escapedNames : Surroundings where
  tree := ⟨[(⟨true, ["work", "filters"]⟩, .text
    "[[\"a\\\"]\\\\\", \"b\\n😀\", null, \"Is\", \"Text\", [\"\\u001b[0m\", \"must\"]]]")]⟩
  home := ⟨true, ["home"]⟩
  workingDirectory := ⟨true, ["work"]⟩
  logDirectives := none
  isTerminal := true

theorem escaped_names_read_back :
    (∃ filter fragment, filter.Made ∧ ReducedFilter.compile filter = .ok fragment ∧
      Json.parse? fragment.query.toJson.pretty = some fragment.query.toJson) ∧
    (∃ queries, IndexQueries.assemble true [escapedName] = .ok queries ∧
      Json.parse? queries.toJson.pretty = some queries.toJson) ∧
    (∀ highlighter, ∃ document,
      ((escapedNames.colouredBy highlighter).run ["search", "filters", "-i", "a\"]\\"]).code = 0 ∧
      Json.parse? (unstyled ((escapedNames.colouredBy highlighter).run
        ["search", "filters", "-i", "a\"]\\"]).stdout) = some document) ∧
    ∃ document, (escapedNames.run ["--plain", "compile", "filters"]).code = 0 ∧
      Json.parse? (escapedNames.run ["--plain", "compile", "filters"]).stdout = some document := by
  have valid : ∀ spec ∈ [escapedName], spec.Valid := by decide
  obtain ⟨fragments, maps, runs⟩ := printed_query_read_back
  have made : (ReducedFilter.ofSpecification escapedName).Made :=
    .alone (valid _ (List.mem_singleton_self _)).made
  have coloured : ∀ highlighter, ((escapedNames.colouredBy highlighter).run
      ["search", "filters", "-i", "a\"]\\"]).code = 0 := by
    intro highlighter
    rw [(Surroundings.run_sameReport escapedNames highlighter _).code]
    decide +kernel
  have plain : (escapedNames.run ["--plain", "compile", "filters"]).code = 0 := by
    decide +kernel
  have readBack : ∀ highlighter, ∃ document, Json.parse? (unstyled
      ((escapedNames.colouredBy highlighter).run ["search", "filters", "-i", "a\"]\\"]).stdout) =
        some document := by
    intro highlighter
    obtain ⟨_, request, _, _, _, again, _⟩ := runs (escapedNames.colouredBy highlighter) _
      ⟨0, false, .search ⟨"filters", false⟩ "a\"]\\" 0 none []⟩
      (toOption_eq_some_iff.mp (by decide +kernel)) rfl (coloured highlighter)
    exact ⟨request, again⟩
  obtain ⟨_, queries, _, _, _, _, uncoloured⟩ := runs escapedNames _
    ⟨0, true, .compile ⟨"filters", false⟩⟩
    (toOption_eq_some_iff.mp (by decide +kernel)) rfl plain
  exact ⟨⟨_, _, made, rfl, fragments _ made _ rfl⟩, ⟨_, rfl, maps true _ _ valid rfl⟩,
    fun highlighter => (readBack highlighter).imp fun _ again => ⟨coloured highlighter, again⟩,
    queries, plain, (uncoloured rfl).2⟩

end Winnow
