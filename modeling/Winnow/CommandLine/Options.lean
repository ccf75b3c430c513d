/-! # Options and arguments

The words of a command line are read from left to right against a list of options, and
the first fault ends the reading. Options are written `--long value`, `--long=value`,
`-s value`, `-svalue` or `-s=value`; short flags may share a dash. Behind `--` every word
is an argument.
-/

namespace Winnow

/-- What an option does. -/
inductive OptionKind where
  /-- Asks for help, whatever else is written. -/
  | help
  /-- Asks for the version, whatever else is written. -/
  | version
  /-- Is on or off, and may be written once. -/
  | flag
  /-- Counts how often it is written. -/
  | count
  /-- Takes a value, and may be written once. -/
  | value
  /-- Takes a value each time it is written. -/
  | values
  deriving DecidableEq, Inhabited

/-- An option that a command has. -/
structure OptionSpec where
  long : String
  /-- The short name, if there is one. -/
  short : Option Char
  /-- What the option does. -/
  kind : OptionKind
  /-- Which values it takes. -/
  accepts : String → Bool

namespace OptionSpec

/-- An option without a value. -/
def switch (long : String) (short : Option Char) (kind : OptionKind) : OptionSpec :=
  ⟨long, short, kind, fun _ => true⟩

/-- Whether a value belongs to the option. -/
def takesValue (option : OptionSpec) : Bool :=
  option.kind == .value || option.kind == .values

/-- Whether the option may be written again. -/
def mayRepeat (option : OptionSpec) : Bool :=
  option.kind == .count || option.kind == .values

end OptionSpec

/-- Why the reading of a command line ended early. -/
inductive OptionStop where
  | help
  | version
  /-- A word does not fit. -/
  | misuse
  deriving DecidableEq, Inhabited

/-- What was written on a command line. -/
structure Given where
  /-- The options by their long names, with their values, in order. -/
  options : List (String × String)
  /-- The arguments, in order. -/
  arguments : List String
  deriving DecidableEq, Inhabited

namespace Given

/-- Nothing was written. -/
def nothing : Given := ⟨[], []⟩

/-- Whether an option was written. -/
def has (given : Given) (name : String) : Bool :=
  given.options.any (·.1 == name)

/-- How often an option was written. -/
def count (given : Given) (name : String) : Nat :=
  (given.options.filter (·.1 == name)).length

def value? (given : Given) (name : String) : Option String :=
  given.options.lookup name

/-- The values of an option. -/
def values (given : Given) (name : String) : List String :=
  (given.options.filter (·.1 == name)).map (·.2)

/-- Adds an option, with its value if it takes one. -/
def add (given : Given) (option : OptionSpec) (value : String) : Except OptionStop Given :=
  match option.kind with
  | .help => .error .help
  | .version => .error .version
  | _ =>
      if (given.has option.long && !option.mayRepeat) || !option.accepts value then
        .error .misuse
      else .ok { given with options := given.options ++ [(option.long, value)] }

end Given

/-- The options and arguments of a command. -/
structure CommandSpec where
  options : List OptionSpec
  /-- The options that have to be written. -/
  required : List String
  /-- The number of arguments, all of which have to be written. -/
  arguments : Nat

namespace CommandSpec

/-- The value behind a short option in its own word, without an equals sign. -/
def attachedValue : List Char → List Char
  | '=' :: value => value
  | value => value

/-- Reads the short options that share a dash. The last one may wait for its value. -/
def readShort (spec : CommandSpec) (given : Given) :
    List Char → Except OptionStop (Given × Option OptionSpec)
  | [] => .ok (given, none)
  | c :: rest =>
      match spec.options.find? (·.short == some c) with
      | none => .error .misuse
      | some option =>
          if option.takesValue then
            if rest = [] then .ok (given, some option)
            else do
              return (← given.add option (String.ofList (attachedValue rest)), none)
          else do spec.readShort (← given.add option "") rest

/-- Reads a long option. It may wait for its value. -/
def readLong (spec : CommandSpec) (given : Given) (s : List Char) :
    Except OptionStop (Given × Option OptionSpec) :=
  let name := String.ofList (s.takeWhile (· != '='))
  match spec.options.find? (·.long == name), s.dropWhile (· != '=') with
  | none, _ => .error .misuse
  | some option, [] =>
      if option.takesValue then .ok (given, some option)
      else do return (← given.add option "", none)
  | some option, _ :: value =>
      if option.takesValue then do return (← given.add option (String.ofList value), none)
      else .error .misuse

/-- Adds an argument. No argument is empty. -/
def addArgument (spec : CommandSpec) (given : Given) (word : String) :
    Except OptionStop Given :=
  if word = "" ∨ spec.arguments ≤ given.arguments.length then .error .misuse
  else .ok { given with arguments := given.arguments ++ [word] }

/-- Whether a word is read as options. -/
def isOption (word : String) : Bool :=
  match word.toList with
  | '-' :: _ :: _ => true
  | _ => false

/-- Reads one word of options. -/
def readOption (spec : CommandSpec) (given : Given) (word : String) :
    Except OptionStop (Given × Option OptionSpec) :=
  match word.toList with
  | '-' :: '-' :: name => spec.readLong given name
  | '-' :: cluster => spec.readShort given cluster
  | _ => .error .misuse

/-- Reads the words of a command, the first of which may be the value that an option waits
    for. -/
def readWords (spec : CommandSpec) (given : Given) (waiting : Option OptionSpec) :
    List String → Except OptionStop Given
  | [] => if waiting.isSome then .error .misuse else .ok given
  | word :: rest =>
      match waiting with
      | some option =>
          if isOption word then .error .misuse
          else do spec.readWords (← given.add option word) none rest
      | none =>
          if word = "--" then rest.foldlM spec.addArgument given
          else if isOption word then do
            let (given, waiting) ← spec.readOption given word
            spec.readWords given waiting rest
          else do spec.readWords (← spec.addArgument given word) none rest

/-- Reads the options in front of the first word that is none. None of them may wait for a
    value. -/
def readFront (spec : CommandSpec) (given : Given) :
    List String → Except OptionStop (Given × List String)
  | [] => .ok (given, [])
  | word :: rest =>
      if isOption word then do
        let (given, waiting) ← spec.readOption given word
        if waiting.isSome then .error .misuse else spec.readFront given rest
      else .ok (given, word :: rest)

/-- Reads a command and checks that nothing is missing. -/
def read (spec : CommandSpec) (words : List String) : Except OptionStop Given := do
  let given ← spec.readWords .nothing none words
  if spec.required.all given.has && given.arguments.length == spec.arguments then return given
  else .error .misuse

end CommandSpec

end Winnow
