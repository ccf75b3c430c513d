import Winnow.CommandLine.Options
import Winnow.Decimal.Digits
import Winnow.Query.Sort

/-! # Commands

What a command line asks for: one of six commands, and how much detail to report.
-/

namespace Winnow

/-- A filter file, and how its filters are combined. -/
structure FilterSource where
  /-- The path as written. -/
  path : String
  /-- Whether OR is asked for where the file does not say. -/
  asOr : Bool
  deriving DecidableEq, Inhabited

/-- A command. -/
inductive Command where
  /-- Prints the queries per index of a filter file. -/
  | compile (source : FilterSource)
  /-- Prints a search request for one index. -/
  | search (source : FilterSource) (index : String) (page : Nat) (size : Option Nat)
      (sort : List SortField)
  /-- Prints an aggregation request for one index. -/
  | aggregate (source : FilterSource) (index name field : String) (key : Option String)
      (size : Option Nat)
  /-- Writes a new settings file. -/
  | init (inHome force : Bool)
  /-- Reports on the settings files. -/
  | check
  /-- Prints the settings in force. -/
  | config
  deriving DecidableEq, Inhabited

/-- What a command line asks for. -/
structure Invocation where
  /-- How often more detail was asked for. -/
  verbosity : Nat
  /-- Whether colours were declined. -/
  isPlain : Bool
  command : Command
  deriving DecidableEq, Inhabited

/-- The names of the commands. -/
inductive CommandName where
  | compile
  | search
  | aggregate
  | init
  | check
  | config
  deriving DecidableEq, Inhabited

namespace CommandName

def all : List CommandName :=
  [compile, search, aggregate, init, check, config]

/-- The word for a command. -/
def text : CommandName → String
  | compile => "compile"
  | search => "search"
  | aggregate => "aggregate"
  | init => "init"
  | check => "check"
  | config => "config"

def ofText? (s : String) : Option CommandName :=
  all.find? (·.text == s)

/-- The options that every command has. -/
def sharedOptions : List OptionSpec :=
  [.switch "verbose" (some 'v') .count, .switch "plain" none .flag, .switch "help" (some 'h') .help]

/-- Whether a value is a natural number that a request can hold. -/
def isCount (s : String) : Bool :=
  (Digits.parseWord? s).isSome

/-- Whether a value is a sort entry. -/
def isSort (s : String) : Bool :=
  match SortField.parse s with
  | .ok _ => true
  | .error _ => false

/-- An option with a value of any form. -/
def textOption (long : String) (short : Option Char) : OptionSpec :=
  ⟨long, short, .value, fun _ => true⟩

/-- An option with a natural number. -/
def countOption (long : String) (short : Char) : OptionSpec :=
  ⟨long, some short, .value, isCount⟩

/-- The options and arguments of a command. -/
def spec : CommandName → CommandSpec
  | compile => ⟨.switch "or" none .flag :: sharedOptions, [], 1⟩
  | search =>
      ⟨[.switch "or" none .flag, textOption "index" (some 'i'), countOption "page" 'p',
          countOption "size" 'n', ⟨"sort", some 's', .values, isSort⟩] ++ sharedOptions,
        ["index"], 1⟩
  | aggregate =>
      ⟨[.switch "or" none .flag, textOption "index" (some 'i'), textOption "name" none,
          textOption "field" (some 'f'), textOption "key" (some 'k'), countOption "size" 'n']
          ++ sharedOptions,
        ["index", "name", "field"], 1⟩
  | init => ⟨[.switch "global" none .flag, .switch "force" none .flag] ++ sharedOptions, [], 0⟩
  | check | config => ⟨sharedOptions, [], 0⟩

end CommandName

namespace Command

/-- The filter file that was given. -/
def sourceOf (given : Given) : FilterSource :=
  ⟨given.arguments.headD "", given.has "or"⟩

/-- The number that was given for an option. -/
def countOf (given : Given) (name : String) : Option Nat :=
  (given.value? name).bind Digits.parseWord?

/-- The sort entries that were given. -/
def sortOf (given : Given) : List SortField :=
  (given.values "sort").filterMap fun s => (SortField.parse s).toOption

/-- The command that was given. -/
def ofGiven (given : Given) : CommandName → Command
  | .compile => compile (sourceOf given)
  | .search =>
      search (sourceOf given) ((given.value? "index").getD "") ((countOf given "page").getD 0)
        (countOf given "size") (sortOf given)
  | .aggregate =>
      aggregate (sourceOf given) ((given.value? "index").getD "")
        ((given.value? "name").getD "") ((given.value? "field").getD "") (given.value? "key")
        (countOf given "size")
  | .init => init (given.has "global") (given.has "force")
  | .check => check
  | .config => config

/-- The path of the filter file that a command reads. -/
def filterPath? : Command → Option String
  | compile source | search source _ _ _ _ | aggregate source _ _ _ _ _ => some source.path
  | init _ _ | check | config => none

end Command

namespace Invocation

/-- The options in front of the command. -/
def frontSpec : CommandSpec :=
  ⟨CommandName.sharedOptions ++ [.switch "version" (some 'V') .version], [], 0⟩

/-- What asking for help on commands leads to: at most one command may be named. -/
def helpOn : List String → OptionStop
  | [] => .help
  | [name] =>
      if (CommandName.ofText? name).isSome ∨ name = "help" then .help else .misuse
  | _ => .misuse

/-- How often more detail was asked for: what stands behind the command counts, else what
    stands in front of it. -/
def verbosityOf (front behind : Given) : Nat :=
  if behind.has "verbose" then behind.count "verbose" else front.count "verbose"

/-- What the words of a command line ask for. -/
def read (words : List String) : Except OptionStop Invocation := do
  let (front, rest) ← frontSpec.readFront .nothing words
  match rest with
  | [] => .error .misuse
  | word :: rest =>
      match CommandName.ofText? word with
      | none => .error (if word = "help" then helpOn rest else .misuse)
      | some name =>
          let behind ← name.spec.read rest
          return {
            verbosity := verbosityOf front behind
            isPlain := front.has "plain" || behind.has "plain"
            command := Command.ofGiven behind name }

end Invocation

end Winnow
