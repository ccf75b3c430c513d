import Winnow.CommandLine.Run
import Winnow.Proofs.FileReading

/-! # The two forms of filter files

An array of filters, and an object whose only group has these filters and nothing else, are read
as the same group or refused for the same reason. Requests are the same for both, and the queries
differ only in that the second form has them in an array.
-/

namespace Winnow

namespace JsonText

/-- A text stands for a value, with containers nested at most `depth` deep. -/
def Reads (depth : Nat) (text : String) (v : Json) : Prop :=
  ∃ rest, value depth text.toList = some (v, rest) ∧ skipSpace rest = []

theorem parse?_eq_some_of_reads {text : String} {v : Json} (reads : Reads maxDepth text v) :
    Json.parse? text = some v := by
  obtain ⟨rest, read, space⟩ := reads
  rw [Json.parse?, read]
  simp [space]

theorem Reads.deeper {depth deeper : Nat} {text : String} {v : Json}
    (reads : Reads depth text v) (deep : depth ≤ deeper) : Reads deeper text v := by
  obtain ⟨rest, read, space⟩ := reads
  refine ⟨rest, ?_, space⟩
  have nothing : Closes [] := nofun
  simpa using value_append nothing deep read

section Single

variable {depth : Nat} {s rest behind : List Char} {v : Json}

theorem container_single {α : Type} {close : Char} {item : Scan α} {x : α} {c : Char}
    (visible : isSpace c = false) (inside : c ≠ close) (apart : close ≠ ',')
    (read : item (c :: s) = some (x, behind)) (closed : skipSpace behind = close :: rest) :
    container close item (c :: s) = some ([x], rest) := by
  have first : skipSpace (c :: s) = c :: s := List.dropWhile_cons_of_neg (by simp [visible])
  rw [container, first]
  simp only [if_neg inside]
  exact itemsUpTo_eq_some_iff.mpr ⟨x, behind, read, .inr ⟨apart, closed, rfl⟩⟩

theorem value_array_single {c : Char} (visible : isSpace c = false) (inside : c ≠ ']')
    (read : value depth (c :: s) = some (v, behind)) (closed : skipSpace behind = ']' :: rest) :
    value (depth + 1) ('[' :: c :: s) = some (.array [v], rest) := by
  show ((container ']' (value depth) (c :: s)).map _) = _
  rw [container_single visible inside (by decide) read closed]
  rfl

theorem member_quoted (name : String) (read : value depth s = some (v, behind)) :
    member (value depth) (quoted name ++ ':' :: s) = some ((name, v), behind) := by
  have first : skipSpace (quoted name ++ ':' :: s) = quoted name ++ ':' :: s := rfl
  have colon : skipSpace (':' :: s) = ':' :: s := rfl
  simp only [member, first, string_quoted, colon, read, Option.map_some]

theorem value_object_single (name : String) (read : value depth s = some (v, behind))
    (closed : skipSpace behind = '\x7d' :: rest) :
    value (depth + 1) ('\x7b' :: (quoted name ++ ':' :: s)) = some (.object [(name, v)], rest) := by
  show ((container '\x7d' (member (value depth)) (quoted name ++ ':' :: s)).map _) = _
  have named : container '\x7d' (member (value depth)) (quoted name ++ ':' :: s) =
      some ([(name, v)], rest) :=
    container_single rfl (by decide) (by decide) (member_quoted name read) closed
  rw [named]
  rfl

end Single

end JsonText

namespace FilterFile

/-- The text with groups that has the filters of a text in its only group. -/
def wrapped (text : String) : String :=
  "\x7b\"groups\":[\x7b\"filters\":" ++ text ++ "\x7d]\x7d"

theorem wrapped_toList (text : String) :
    (wrapped text).toList =
      '\x7b' :: (JsonText.quoted "groups" ++ ':' :: '[' ::
        '\x7b' :: (JsonText.quoted "filters" ++
          ':' :: (text.toList ++ ['\x7d', ']', '\x7d']))) := by
  have front : ("\x7b\"groups\":[\x7b\"filters\":" : String).toList =
      '\x7b' :: (JsonText.quoted "groups" ++ ':' :: '[' ::
        '\x7b' :: (JsonText.quoted "filters" ++ [':'])) := by decide
  have back : ("\x7d]\x7d" : String).toList = ['\x7d', ']', '\x7d'] := by decide
  unfold wrapped
  rw [String.toList_append, String.toList_append (t := text), front, back]
  -- `simp` would take the names apart.
  generalize JsonText.quoted "groups" = groups
  generalize JsonText.quoted "filters" = filters
  simp

theorem parse?_wrapped {depth : Nat} {text : String} {filters : Json}
    (shallow : depth + 3 ≤ JsonText.maxDepth) (reads : JsonText.Reads depth text filters) :
    Json.parse? (wrapped text) =
      some (.object [("groups", .array [.object [("filters", filters)]])]) := by
  obtain ⟨rest, read, space⟩ := reads
  have closes : JsonText.Closes ['\x7d', ']', '\x7d'] := by
    rintro _ ⟨⟩
    rfl
  have closed : JsonText.skipSpace (rest ++ ['\x7d', ']', '\x7d']) = ['\x7d', ']', '\x7d'] := by
    rw [closes.skipSpace_append, space]
    rfl
  obtain ⟨further, limit⟩ := Nat.exists_eq_add_of_le' shallow
  have inner := JsonText.value_append closes (Nat.le_add_left depth further) read
  have group := JsonText.value_object_single "filters" inner closed
  have groups := JsonText.value_array_single rfl (by decide) group rfl
  have document := JsonText.value_object_single "groups" groups rfl
  refine JsonText.parse?_eq_some_of_reads ⟨[], ?_, rfl⟩
  rw [limit, wrapped_toList]
  exact document

theorem readDocument_wrapped (items : List Json) :
    readDocument (.object [("groups", .array [.object [("filters", .array items)]])]) =
      (readDocument (.array items)).map fun read => (true, read.2) := by
  have group : GroupInput.ofJson (.object [("filters", .array items)]) =
      ((Json.array items).asList FilterInput.ofJson).map fun filters => ⟨none, none, filters⟩ := by
    simp only [GroupInput.ofJson, GroupInput.readMembers]
    cases (Json.array items).asList FilterInput.ofJson <;> rfl
  have groups : readGroups [("groups", .array [.object [("filters", .array items)]])] =
      ((Json.array items).asList FilterInput.ofJson).map
        fun filters => [⟨none, none, filters⟩] := by
    show (do
      let groups ← (Json.array [.object [("filters", .array items)]]).asList GroupInput.ofJson
      Except.ok groups) = _
    rw [Json.asList, List.mapM_cons, group]
    cases (Json.array items).asList FilterInput.ofJson <;> rfl
  rw [readDocument, readDocument, groups, if_pos (by simp)]
  cases (Json.array items).asList FilterInput.ofJson <;> rfl

theorem parse_wrapped {depth : Nat} {text : String} {items : List Json}
    (shallow : depth + 3 ≤ JsonText.maxDepth) (reads : JsonText.Reads depth text (.array items))
    (defaults : GroupDefaults) :
    parse (wrapped text) defaults =
      (parse text defaults).map fun file => { file with isGrouped := true } := by
  have bare := JsonText.parse?_eq_some_of_reads (reads.deeper (Nat.le_of_add_right_le shallow))
  rw [parse, parse, parse?_wrapped shallow reads, bare]
  simp only [readDocument_wrapped]
  cases readDocument (.array items) with
  | error e => rfl
  | ok read =>
      obtain ⟨isGrouped, groups⟩ := read
      simp only [Except.map, bind, Except.bind]
      cases FilterGroup.ofInputs defaults 0 groups <;> rfl

/-- An array of filters is refused for its shape or for a filter of its only group, or it is read
    as one required group in the default mode. -/
theorem parse_bare {text : String} {items : List Json}
    (parsed : Json.parse? text = some (.array items)) (defaults : GroupDefaults) :
    (∃ specs, parse text defaults = .ok ⟨false, [⟨defaults.asOr, true, specs⟩]⟩) ∨
    (∃ error, parse text defaults = .error (.shape error)) ∨
    (∃ position cause, parse text defaults = .error (.filter 0 position cause)) := by
  rw [parse, parsed]
  simp only [readDocument]
  cases (Json.array items).asList FilterInput.ofJson with
  | error e => exact .inr (.inl ⟨e, rfl⟩)
  | ok filters =>
      simp only [bind, Except.bind, FilterGroup.ofInputs, FilterGroup.ofInput]
      cases result : FilterGroup.specifications 0 defaults.valuesAsOr 0 filters with
      | ok specs => exact .inl ⟨specs, rfl⟩
      | error e =>
          rw [FilterGroup.specifications_eq_mapM, mapM_zipIdx_eq_error_iff] at result
          obtain ⟨position, input, _, fails, _⟩ := result
          obtain ⟨cause, _, rfl⟩ := mapError_eq_error_iff.mp fails
          exact .inr (.inr ⟨_, cause, rfl⟩)

end FilterFile

/-! ## Runs -/

namespace Outcome

/-- Two runs give the same result: the exit code and what is printed. -/
def SameResult (outcome other : Outcome) : Prop :=
  outcome.code = other.code ∧ outcome.stdout = other.stdout

/-- A run succeeds and prints a document. -/
def Prints (outcome : Outcome) (highlighter? : Option Highlighter) (document : Json) : Prop :=
  outcome.code = 0 ∧ outcome.stdout = document.print highlighter?

/-- A run fails and prints nothing. -/
def Fails (outcome : Outcome) : Prop :=
  outcome.code ≠ 0 ∧ outcome.stdout = ""

/-- The second run prints in an array what the first one prints, or both fail alike. -/
def InArray (highlighter? : Option Highlighter) (outcome other : Outcome) : Prop :=
  (∃ document, outcome.Prints highlighter? document ∧
      other.Prints highlighter? (.array [document])) ∨
    outcome.Fails ∧ outcome.SameResult other

variable {place otherPlace : Surroundings} {highlighter? : Option Highlighter}
  {events otherEvents : List LogEvent} {result otherResult : Except (List Notice) Json}

theorem ofJson_sameResult (same : otherResult.toOption = result.toOption) :
    (ofJson place highlighter? events result).SameResult
      (ofJson otherPlace highlighter? otherEvents otherResult) := by
  cases result <;> cases otherResult <;> cases same <;> exact ⟨rfl, rfl⟩

theorem ofJson_inArray
    (same : otherResult.toOption = result.toOption.map fun document => .array [document]) :
    (ofJson place highlighter? events result).InArray highlighter?
      (ofJson place highlighter? otherEvents otherResult) := by
  cases result with
  | error notices =>
      cases otherResult with
      | error others => exact .inr ⟨⟨Nat.one_ne_zero, rfl⟩, rfl, rfl⟩
      | ok document => cases same
  | ok document =>
      cases otherResult with
      | error others => cases same
      | ok other =>
          cases same
          exact .inl ⟨document, ⟨rfl, rfl⟩, rfl, rfl⟩

end Outcome

/-- Two filter files have the same filters, the second one with groups. -/
structure FilterSource.InBothForms (place : Surroundings) (text : String)
    (source other : FilterSource) : Prop where
  /-- OR is asked for with both or with neither. -/
  asOr : other.asOr = source.asOr
  /-- The first file has the filters as they stand. -/
  bare : place.tree.readAt place.workingDirectory source.path = .ok text
  /-- The second has them in a group. -/
  grouped : place.tree.readAt place.workingDirectory other.path = .ok (FilterFile.wrapped text)

namespace FilterSource.InBothForms

variable {place : Surroundings} {text : String} {source other : FilterSource} {depth : Nat}
  {items : List Json} {settings : Settings}

section

variable (forms : InBothForms place text source other) (shallow : depth + 3 ≤ JsonText.maxDepth)
  (reads : JsonText.Reads depth text (.array items))

include forms shallow reads

theorem load_eq :
    other.load place settings =
      (source.load place settings).map fun file => { file with isGrouped := true } := by
  rw [load, load, forms.bare, forms.grouped, forms.asOr]
  exact FilterFile.parse_wrapped shallow reads _

theorem builder_toOption_eq (index : String) :
    (other.builder place settings index).toOption =
      (source.builder place settings index).toOption := by
  simp only [builder, FilterSource.file, forms.load_eq shallow reads]
  cases source.load place settings with
  | error e => rfl
  | ok file => rfl

theorem searchJson_toOption_eq {index : String} {page : Nat} {size : Option Nat}
    {given : List SortField} :
    (Command.searchJson other index page size given place settings).toOption =
      (Command.searchJson source index page size given place settings).toOption := by
  simp only [Command.searchJson, toOption_bind, forms.builder_toOption_eq shallow reads]

theorem aggregateJson_toOption_eq {index name field : String} {key : Option String}
    {size : Option Nat} :
    (Command.aggregateJson other index name field key size place settings).toOption =
      (Command.aggregateJson source index name field key size place settings).toOption := by
  simp only [Command.aggregateJson, toOption_bind, forms.builder_toOption_eq shallow reads]

theorem compileJson_toOption_eq :
    (Command.compileJson other place settings).toOption =
      (Command.compileJson source place settings).toOption.map fun queries => .array [queries] := by
  have parsed := JsonText.parse?_eq_some_of_reads (reads.deeper (Nat.le_of_add_right_le shallow))
  have loaded : source.load place settings =
      FilterFile.parse text (settings.filters.withOr source.asOr) := by
    rw [load, forms.bare]
  simp only [Command.compileJson, FilterSource.file, forms.load_eq shallow reads, loaded]
  rcases FilterFile.parse_bare parsed (settings.filters.withOr source.asOr) with
    ⟨specs, read⟩ | ⟨e, read⟩ | ⟨position, cause, read⟩
  · rw [read]
    show (Command.orNotices (FilterFile.queriesJson ⟨true, [_]⟩)).toOption =
      (Command.orNotices (FilterFile.queriesJson ⟨false, [_]⟩)).toOption.map _
    simp only [FilterFile.queriesJson, List.mapM_cons]
    cases FilterGroup.assemble ⟨_, true, specs⟩ <;> rfl
  · rw [read]
    rfl
  · rw [read]
    rfl

end

end FilterSource.InBothForms

/-- What two commands give is related if it is under the same settings and if failures are. -/
theorem Surroundings.run_related {place : Surroundings} {words otherWords : List String}
    {verbosity : Nat} {isPlain : Bool} {command other : Command}
    (asked : Invocation.read words = .ok ⟨verbosity, isPlain, command⟩)
    (otherAsked : Invocation.read otherWords = .ok ⟨verbosity, isPlain, other⟩)
    {R : Outcome → Outcome → Prop}
    (failed : ∀ {a b}, a.Fails → a.SameResult b → R a b)
    (shown : ∀ {a b} events otherEvents, R a b →
      R { a with events } { b with events := otherEvents })
    (sameSettings : other.settings place = command.settings place)
    (runs : ∀ settings, R
      (command.runWith place (place.highlighter? isPlain) settings)
      (other.runWith place (place.highlighter? isPlain) settings)) :
    R (place.run words) (place.run otherWords) := by
  simp only [Surroundings.run, asked, otherAsked]
  cases LogFilter.ofRun verbosity place.logDirectives with
  | error e => exact failed ⟨by simp, rfl⟩ ⟨rfl, rfl⟩
  | ok filter =>
      refine shown _ _ ?_
      rw [Command.run, Command.run, sameSettings]
      cases command.settings place with
      | error e => exact failed ⟨Nat.one_ne_zero, rfl⟩ ⟨rfl, rfl⟩
      | ok settings => exact runs settings

/-- An array of filters that is nested three levels below the limit is read as it would be as the
    only group of a file, up to the form: both give one required group in the default mode, or are
    refused for the same shape or the same filter. So a search or an aggregation gives the same
    result for both files, and the queries that are printed for the second one are those for the
    first in an array. -/
theorem file_of_wrapped {depth : Nat} {text : String} {items : List Json}
    (shallow : depth + 3 ≤ JsonText.maxDepth) (reads : JsonText.Reads depth text (.array items)) :
    (∀ defaults : GroupDefaults,
      (∃ specs, FilterFile.parse text defaults = .ok ⟨false, [⟨defaults.asOr, true, specs⟩]⟩ ∧
        FilterFile.parse (FilterFile.wrapped text) defaults =
          .ok ⟨true, [⟨defaults.asOr, true, specs⟩]⟩) ∨
      (∃ error, FilterFile.parse text defaults = .error (.shape error) ∧
        FilterFile.parse (FilterFile.wrapped text) defaults = .error (.shape error)) ∨
      ∃ position cause, FilterFile.parse text defaults = .error (.filter 0 position cause) ∧
        FilterFile.parse (FilterFile.wrapped text) defaults = .error (.filter 0 position cause)) ∧
    ∀ (place : Surroundings) (source other : FilterSource),
      FilterSource.InBothForms place text source other →
      (∀ settings queries, Command.compileJson source place settings = .ok queries ↔
        Command.compileJson other place settings = .ok (.array [queries])) ∧
      ∀ words otherWords verbosity isPlain,
        (∀ index page size sort,
          Invocation.read words =
            .ok ⟨verbosity, isPlain, .search source index page size sort⟩ →
          Invocation.read otherWords =
            .ok ⟨verbosity, isPlain, .search other index page size sort⟩ →
          (place.run words).SameResult (place.run otherWords)) ∧
        (∀ index name field key size,
          Invocation.read words =
            .ok ⟨verbosity, isPlain, .aggregate source index name field key size⟩ →
          Invocation.read otherWords =
            .ok ⟨verbosity, isPlain, .aggregate other index name field key size⟩ →
          (place.run words).SameResult (place.run otherWords)) ∧
        (Invocation.read words = .ok ⟨verbosity, isPlain, .compile source⟩ →
          Invocation.read otherWords = .ok ⟨verbosity, isPlain, .compile other⟩ →
          (place.run words).InArray (place.highlighter? isPlain) (place.run otherWords)) := by
  refine ⟨fun defaults => ?_, fun place source other forms => ⟨fun settings queries => ?_,
    fun words otherWords verbosity isPlain => ⟨?_, ?_, ?_⟩⟩⟩
  · have parsed := JsonText.parse?_eq_some_of_reads (reads.deeper (Nat.le_of_add_right_le shallow))
    rw [FilterFile.parse_wrapped shallow reads]
    rcases FilterFile.parse_bare parsed defaults with ⟨specs, read⟩ | ⟨e, read⟩ | ⟨_, cause, read⟩
    · exact .inl ⟨specs, read, by rw [read]; rfl⟩
    · exact .inr (.inl ⟨e, read, by rw [read]; rfl⟩)
    · exact .inr (.inr ⟨_, cause, read, by rw [read]; rfl⟩)
  · rw [← toOption_eq_some_iff, ← toOption_eq_some_iff, forms.compileJson_toOption_eq shallow reads,
      Option.map_eq_some_iff]
    constructor
    · exact fun printed => ⟨queries, printed, rfl⟩
    · rintro ⟨_, printed, same⟩
      cases same
      exact printed
  · intro index page size sort asked otherAsked
    exact Surroundings.run_related asked otherAsked (fun _ same => same) (fun _ _ same => same) rfl
      fun settings => Outcome.ofJson_sameResult (forms.searchJson_toOption_eq shallow reads)
  · intro index name field key size asked otherAsked
    exact Surroundings.run_related asked otherAsked (fun _ same => same) (fun _ _ same => same) rfl
      fun settings => Outcome.ofJson_sameResult (forms.aggregateJson_toOption_eq shallow reads)
  · intro asked otherAsked
    exact Surroundings.run_related (R := Outcome.InArray (place.highlighter? isPlain))
      asked otherAsked (fun fails same => .inr ⟨fails, same⟩)
      (fun _ _ same => same) rfl
      fun settings => Outcome.ofJson_inArray (forms.compileJson_toOption_eq shallow reads)

/-- A filter on people. -/
def peopleFilterText : String :=
  "[[\"people\", \"tag\", null, \"Is\", \"Text\", [\"a\"]]]"

/-- What the text stands for. -/
def peopleFilterItems : List Json :=
  [.array [.string "people", .string "tag", .null, .string "Is", .string "Text",
    .array [.string "a"]]]

/-- A working directory with the filter in both forms. -/
def bothForms : Surroundings where
  tree := ⟨[(⟨true, ["work", "bare"]⟩, .text peopleFilterText),
    (⟨true, ["work", "grouped"]⟩, .text (FilterFile.wrapped peopleFilterText))]⟩
  home := ⟨true, ["home"]⟩
  workingDirectory := ⟨true, ["work"]⟩
  logDirectives := none
  isTerminal := false

/-- Both forms of the filter give the same search, and their queries differ by an array. -/
theorem people_search_of_both_forms :
    (∃ specs, FilterFile.parse peopleFilterText ⟨true, false⟩ = .ok ⟨false, [⟨true, true, specs⟩]⟩ ∧
      FilterFile.parse (FilterFile.wrapped peopleFilterText) ⟨true, false⟩ =
        .ok ⟨true, [⟨true, true, specs⟩]⟩) ∧
    (bothForms.run ["search", "bare", "-i", "people"]).SameResult
      (bothForms.run ["search", "grouped", "-i", "people"]) ∧
    ∃ queries, (bothForms.run ["compile", "bare"]).Prints none queries ∧
      (bothForms.run ["compile", "grouped"]).Prints none (.array [queries]) := by
  have reads : JsonText.Reads 3 peopleFilterText (.array peopleFilterItems) := by
    refine ⟨[], ?_, rfl⟩
    cbv
  have forms : FilterSource.InBothForms bothForms peopleFilterText ⟨"bare", false⟩
      ⟨"grouped", false⟩ :=
    ⟨rfl, toOption_eq_some_iff.mp (by decide +kernel),
      toOption_eq_some_iff.mp (by decide +kernel)⟩
  obtain ⟨parsed, runs⟩ := file_of_wrapped (by decide) reads
  obtain ⟨_, commands⟩ := runs _ _ _ forms
  obtain ⟨searches, _, _⟩ := commands ["search", "bare", "-i", "people"]
    ["search", "grouped", "-i", "people"] 0 false
  obtain ⟨_, _, compiles⟩ := commands ["compile", "bare"] ["compile", "grouped"] 0 false
  have accepted : (FilterFile.parse peopleFilterText ⟨true, false⟩).toOption.isSome = true := by
    decide +kernel
  refine ⟨?_, searches "people" 0 none [] (toOption_eq_some_iff.mp (by decide +kernel))
    (toOption_eq_some_iff.mp (by decide +kernel)), ?_⟩
  · rcases parsed ⟨true, false⟩ with read | ⟨_, refused, _⟩ | ⟨_, _, refused, _⟩
    · exact read
    · rw [refused] at accepted
      cases accepted
    · rw [refused] at accepted
      cases accepted
  · rcases compiles (toOption_eq_some_iff.mp (by decide +kernel))
      (toOption_eq_some_iff.mp (by decide +kernel)) with printed | ⟨⟨failed, _⟩, _⟩
    · exact printed
    · exact absurd (by decide +kernel) failed

end Winnow
