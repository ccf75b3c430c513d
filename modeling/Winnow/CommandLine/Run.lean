import Winnow.CommandLine.Command
import Winnow.Log.Filter
import Winnow.Log.History
import Winnow.Settings.Configuration
import Winnow.Settings.Printer
import Winnow.Settings.Template
import Winnow.Settings.Warning
import Winnow.Style.Highlight

/-! # Running commands

A run is a function from the files and the words of a command line to an outcome. Only
the `init` command changes a file, and a command that fails prints nothing but notices.
-/

namespace Winnow

/-- What a run finds. -/
structure Surroundings where
  tree : FileTree
  home : FilePath
  workingDirectory : FilePath
  /-- The log directives that are set. -/
  logDirectives : Option String
  /-- Whether the output goes to a terminal. -/
  isTerminal : Bool
  /-- What colours documents. -/
  highlighter : Highlighter := .uniform
  deriving Inhabited

/-- What colours the output, if it is to be in colours at all. -/
def Surroundings.highlighter? (place : Surroundings) (isPlain : Bool) : Option Highlighter :=
  if place.isTerminal && !isPlain then some place.highlighter else none

theorem Surroundings.highlighter?_of_uncoloured {place : Surroundings} {isPlain : Bool}
    (uncoloured : (place.isTerminal && !isPlain) = false) : place.highlighter? isPlain = none := by
  rw [highlighter?, uncoloured]
  rfl

/-- A line for the user that is no result. -/
inductive Notice where
  /-- What went wrong. -/
  | error (text : String)
  /-- How to mend it. -/
  | hint (text : String)
  /-- What broke the run down. -/
  | breakdown (text : String)
  deriving DecidableEq, Inhabited

namespace Notice

/-- The written form of a notice. -/
def text : Notice → String
  | error text => "error: " ++ text
  | hint text => "hint: " ++ text
  | breakdown text => "breakdown: " ++ text

/-- An error, with a hint if there is one. -/
def withHint (message : String) (hint? : Option String) : List Notice :=
  error message :: (hint?.map hint).toList

def ofQuery (e : QueryError) : List Notice :=
  withHint e.message e.hint?

/-- The notices of a filter file that was refused. -/
def ofFilterFile (path : String) (e : FilterFileError) : List Notice :=
  withHint (e.message path) e.hint?

end Notice

/-- What comes of a run. All that it prints is taken to arrive, as if its output were never
    closed. -/
structure Outcome where
  /-- The exit code: 0 for success, 1 for failure, 2 for misuse, 101 for a breakdown. -/
  code : Nat
  /-- What is printed as a result. -/
  stdout : String
  /-- What is printed for the user beside the result. -/
  notices : List Notice
  /-- What is reported on the run itself. -/
  events : List LogEvent
  /-- The files after the run. -/
  tree : FileTree
  deriving Inhabited

/-! ## Printing -/

/-- A document as it is printed: without blanks at its end, with a line break, and in
    colours if there is something to colour it. -/
def DocumentFormat.print (format : DocumentFormat) (highlighter? : Option Highlighter)
    (text : String) : String :=
  let trimmed := String.ofList (Text.trimEnd text.toList)
  match highlighter? with
  | some highlighter => format.highlight trimmed highlighter ++ "\n"
  | none => trimmed ++ "\n"

/-- A JSON document as it is printed. -/
def Json.print (highlighter? : Option Highlighter) (value : Json) : String :=
  DocumentFormat.json.print highlighter? value.pretty

/-! ## Commands on filter files -/

namespace FilterSource

/-- Reads and parses the filter file. -/
def load (source : FilterSource) (place : Surroundings) (settings : Settings) :
    Except FilterFileError FilterFile :=
  match place.tree.readAt place.workingDirectory source.path with
  | .error e => .error (.unreadable e)
  | .ok text => FilterFile.parse text (settings.filters.withOr source.asOr)

/-- The filter file, or the notices on why it was refused. -/
def file (source : FilterSource) (place : Surroundings) (settings : Settings) :
    Except (List Notice) FilterFile :=
  match source.load place settings with
  | .ok file => .ok file
  | .error e => .error (Notice.ofFilterFile source.path e)

/-- A request builder for an index with every group of the filter file. -/
def builder (source : FilterSource) (place : Surroundings) (settings : Settings)
    (index : String) : Except (List Notice) RequestBuilder := do
  match (← source.file place settings).builder index with
  | .ok builder => return builder
  | .error e => .error (Notice.ofQuery e)

end FilterSource

/-- The queries of every group: one map for a bare array, an array of maps otherwise. -/
def FilterFile.queriesJson (file : FilterFile) : Except QueryError Json := do
  match file.isGrouped, ← file.groups.mapM FilterGroup.assemble with
  | false, [queries] => return queries.toJson
  | _, maps => return .array (maps.map IndexQueries.toJson)

/-- The sort order of a search: as given, else as set. -/
def Settings.sortFor (settings : Settings) (given : List SortField) :
    Except QueryError (List SortField) :=
  if given = [] then settings.search.sortFields else .ok given

namespace Command

/-- A query result, or the notices on its error. -/
def orNotices {α : Type} : Except QueryError α → Except (List Notice) α
  | .ok x => .ok x
  | .error e => .error (Notice.ofQuery e)

/-- The document that `compile` prints. -/
def compileJson (source : FilterSource) (place : Surroundings) (settings : Settings) :
    Except (List Notice) Json := do
  orNotices (← source.file place settings).queriesJson

/-- The document that `search` prints. Faults of the sort order come first. -/
def searchJson (source : FilterSource) (index : String) (page : Nat) (size : Option Nat)
    (given : List SortField) (place : Surroundings) (settings : Settings) :
    Except (List Notice) Json := do
  let sort ← orNotices (settings.sortFor given)
  let builder ← source.builder place settings index
  return builder.search page (size.getD settings.search.pageSize) sort

/-- The document that `aggregate` prints. -/
def aggregateJson (source : FilterSource) (index name field : String) (key : Option String)
    (size : Option Nat) (place : Surroundings) (settings : Settings) :
    Except (List Notice) Json := do
  let builder ← source.builder place settings index
  orNotices (builder.aggregate name field (key.getD settings.aggregation.key)
    (size.getD settings.aggregation.size))

/-! ## The report on the settings -/

/-- The lines on the settings files in force. -/
def fileLines (palette : Palette) (home : FilePath) : List String → List String
  | [] =>
      [palette.paint .dim "No configuration files found, using defaults.",
       "Run 'esq init' to create a configuration file."]
  | files =>
      palette.paint .subheader "Config files (highest precedence first):"
        :: files.map fun path =>
          let scope := if Configuration.isHomeFile home path then "(global)" else "(local)"
          "  " ++ path ++ " " ++ palette.paint .dim scope

/-- Texts in order, each once. -/
def sortedOnce (texts : List String) : List String :=
  let insert (text : String) (sorted : List String) : List String :=
    sorted.takeWhile (· < text) ++ text :: (sorted.dropWhile (· < text)).filter (· != text)
  texts.foldr insert []

/-- The lines on the warnings, with one hint per kind. -/
def warningLines (palette : Palette) : List SettingsWarning → List String
  | [] => [palette.paint .success "No issues found."]
  | warnings =>
      palette.paint .warning ("Warnings (" ++ toString warnings.length ++ "):")
        :: warnings.map (fun warning => "  - " ++ warning.message)
        ++ "" :: palette.paint .subheader "Hints:"
        :: (sortedOnce (warnings.map SettingsWarning.hint)).map ("  - " ++ ·)

/-- Lines with their line breaks. -/
def unlines (lines : List String) : String :=
  String.join (lines.map (· ++ "\n"))

/-- The report on the settings in force. -/
def report (palette : Palette) (place : Surroundings) (settings : Settings) : String :=
  let files := Configuration.discover place.tree place.home place.workingDirectory.text
  unlines ([palette.paint .header "Configuration", ""] ++ fileLines palette place.home files
    ++ "" :: warningLines palette settings.warnings)

/-! ## New settings files -/

/-- The settings file that `init` writes, and what it is for. -/
def initTarget (inHome : Bool) (place : Surroundings) : FilePath × SettingsScope :=
  if inHome ∨ place.home = place.workingDirectory then (Configuration.homeFile place.home, .home)
  else (place.workingDirectory.child Configuration.fileName, .project)

/-- What `init` prints. -/
def initText (highlighter? : Option Highlighter) (path : FilePath) (scope : SettingsScope) :
    String :=
  let palette : Palette := ⟨highlighter?.isSome⟩
  unlines [palette.paint .success "Created" ++ " " ++ path.text, "",
      palette.paint .subheader "Configuration written:"]
    ++ DocumentFormat.toml.print highlighter? scope.template

/-- Writes a new settings file, and gives the files that are left. -/
def writeSettings (force : Bool) (path : FilePath) (scope : SettingsScope) (tree : FileTree) :
    Except (List Notice) Unit × FileTree :=
  if tree.has path && !force then
    (.error [.error ("configuration file already exists: " ++ path.text),
      .hint "use --force to overwrite"], tree)
  else
    let (result, tree) := tree.write path scope.template
    (result.mapError fun e => [.error ("failed to write " ++ path.text ++ ": " ++ e.message)], tree)

end Command

/-! ## Outcomes -/

namespace Outcome

/-- The outcome of a command that only prints. -/
def ofText (place : Surroundings) (events : List LogEvent) :
    Except (List Notice) String → Outcome
  | .ok text => ⟨0, text, [], events, place.tree⟩
  | .error notices => ⟨1, "", notices, events, place.tree⟩

/-- The outcome of a command that prints a JSON document. -/
def ofJson (place : Surroundings) (highlighter? : Option Highlighter) (events : List LogEvent)
    (result : Except (List Notice) Json) : Outcome :=
  ofText place events (result.map (Json.print highlighter?))

def ofInit (place : Surroundings) (highlighter? : Option Highlighter) (inHome force : Bool) :
    Outcome :=
  let (path, scope) := Command.initTarget inHome place
  match Command.writeSettings force path scope place.tree with
  | (.ok (), tree) => ⟨0, Command.initText highlighter? path scope, [], [], tree⟩
  | (.error notices, tree) => ⟨1, "", notices, [], tree⟩

end Outcome

namespace Command

/-- What a command reports on its working. -/
def events (place : Surroundings) (settings : Settings) : Command → List LogEvent
  | compile source =>
      match source.load place settings with
      | .ok file => .loaded source.path file :: History.ofGroups file.groups
      | .error _ => []
  | search source index _ _ given =>
      match settings.sortFor given, source.load place settings with
      | .ok _, .ok file => .loaded source.path file :: History.ofRequest index file
      | _, _ => []
  | aggregate source index _ _ _ _ =>
      match source.load place settings with
      | .ok file => .loaded source.path file :: History.ofRequest index file
      | .error _ => []
  | init _ _ | check | config => []

/-- Runs a command under settings that were loaded. -/
def runWith (place : Surroundings) (highlighter? : Option Highlighter) (settings : Settings)
    (command : Command) : Outcome :=
  let events := command.events place settings
  match command with
  | compile source => .ofJson place highlighter? events (compileJson source place settings)
  | search source index page size given =>
      .ofJson place highlighter? events (searchJson source index page size given place settings)
  | aggregate source index name field key size =>
      .ofJson place highlighter? events
        (aggregateJson source index name field key size place settings)
  | init inHome force => .ofInit place highlighter? inHome force
  | check =>
      ⟨if settings.warnings = [] then 0 else 1, report ⟨highlighter?.isSome⟩ place settings, [],
        events, place.tree⟩
  | config =>
      .ofText place events
        (.ok (DocumentFormat.toml.print highlighter? (String.ofList settings.render)))

/-- The settings that a command runs under. A broken settings file stops every command but
    `init`, which does not look at settings. -/
def settings (place : Surroundings) : Command → Except ConfigurationError Settings
  | init _ _ => .ok .standard
  | compile _ | search _ _ _ _ _ | aggregate _ _ _ _ _ _ | check | config =>
      (Configuration.load place.tree place.home place.workingDirectory.text).map (·.settings)

/-- Runs a command. -/
def run (place : Surroundings) (highlighter? : Option Highlighter) (command : Command) : Outcome :=
  match command.settings place with
  | .ok settings => command.runWith place highlighter? settings
  | .error e =>
      .ofText place [] (.error [.error ("failed to load configuration: " ++ e.message)])

end Command

/-- The version of the program. -/
def versionText : String :=
  "esq 0.1.0\n"

/-- Runs the words of a command line. The events of the outcome are those that are shown.
    A run whose log directives cannot even be cut into parts ends before it starts.

    Of runs that ask for help, and of those whose words can't be read, the outcome has the exit code
    alone. What they print is for the argument parser to say, and it is left out. -/
def Surroundings.run (place : Surroundings) (words : List String) : Outcome :=
  match Invocation.read words with
  | .error .help => ⟨0, "", [], [], place.tree⟩
  | .error .version => ⟨0, versionText, [], [], place.tree⟩
  | .error .misuse => ⟨2, "", [], [], place.tree⟩
  | .ok invocation =>
      match LogFilter.ofRun invocation.verbosity place.logDirectives with
      | .error _ =>
          ⟨101, "", [.breakdown "the log directives are cut inside a character"], [], place.tree⟩
      | .ok filter =>
          let outcome := invocation.command.run place (place.highlighter? invocation.isPlain)
          { outcome with events := outcome.events.filter filter.shows }

end Winnow
