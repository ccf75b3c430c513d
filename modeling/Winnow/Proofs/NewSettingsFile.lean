import Winnow.Proofs.Discovery
import Winnow.Proofs.FileForms
import Winnow.Proofs.RunHistory
import Winnow.Settings.Template

/-! # New settings files

The file that `init` writes changes no result. All of its lines are comments, so it sets nothing and
is no root, wherever it enters the list of the files in force. And what can't be read as a filter
file for want of a file can't be read from the template either.
-/

namespace Winnow

/-! ## Commented texts -/

namespace TomlText

theorem skipGap_comment {line rest : List Char} (plain : ∀ c ∈ line, isPlain c = true) :
    skipGap true (line ++ '\n' :: rest) = skipGap false rest := by
  induction line with
  | nil => rfl
  | cons c line ih =>
      have here := plain c List.mem_cons_self
      rw [List.cons_append, skipGap, if_pos rfl, if_pos here]
      · exact ih fun other member => plain other (List.mem_cons_of_mem _ member)
      · rintro rfl
        cases here
      · rintro _ rfl
        cases here

theorem parse?_of_skipGap {text : String} (gap : skipGap false text.toList = some []) :
    Toml.parse? text = some [] := by
  have unmarked : skipMark text.toList = text.toList := by
    unfold skipMark
    split
    · next mark =>
      rw [mark] at gap
      cases gap
    · rfl
  rw [Toml.parse?, unmarked]
  have none : statements (text.toList.length + 1) text.toList = some [] := by
    rw [statements, gap]
  simp only [none]
  rfl

end TomlText

namespace SettingsScope

theorem skipGap_commented {line : String} {rest : List Char}
    (plain : ∀ c ∈ line.toList, TomlText.isPlain c = true) :
    TomlText.skipGap false ((commented line).toList ++ '\n' :: rest) =
      TomlText.skipGap false rest := by
  rw [commented]
  split
  · next kept =>
    rcases kept with rfl | marked
    · rfl
    · obtain ⟨more, same⟩ := List.head?_eq_some_iff.mp marked
      rw [same] at plain ⊢
      exact TomlText.skipGap_comment fun c member => plain c (List.mem_cons_of_mem _ member)
  · have spaced : ∀ c ∈ ' ' :: line.toList, TomlText.isPlain c = true :=
      List.forall_mem_cons.mpr ⟨rfl, plain⟩
    rw [String.toList_append]
    exact TomlText.skipGap_comment spaced

theorem skipGap_lines {lines : List String}
    (plain : ∀ line ∈ lines, ∀ c ∈ line.toList, TomlText.isPlain c = true) :
    TomlText.skipGap false (String.join (lines.map fun line => commented line ++ "\n")).toList =
      some [] := by
  induction lines with
  | nil => rfl
  | cons line lines ih =>
      obtain ⟨first, later⟩ := List.forall_mem_cons.mp plain
      rw [List.map_cons, String.join_cons, String.toList_append, String.toList_append,
        List.append_assoc]
      exact (skipGap_commented first).trans (ih later)

theorem head?_lines {line : String} (marked : line.toList.head? = some '#') (lines : List String) :
    (String.join ((line :: lines).map fun line => commented line ++ "\n")).toList.head? =
      some '#' := by
  rw [List.map_cons, String.join_cons, String.toList_append, String.toList_append, commented,
    if_pos (.inr marked), List.append_assoc, List.head?_append, marked, Option.some_or]

theorem head?_template (scope : SettingsScope) : scope.template.toList.head? = some '#' := by
  cases scope with
  | project | home => exact head?_lines (by decide) _

theorem plain_sample (scope : SettingsScope) :
    ∀ line ∈ scope.sample, ∀ c ∈ line.toList, TomlText.isPlain c = true := by
  have plain : (scope.sample.all fun line => line.toList.all TomlText.isPlain) = true := by
    cases scope <;> decide +kernel
  intro line member
  exact List.all_eq_true.mp (List.all_eq_true.mp plain line member)

theorem parse_template (scope : SettingsScope) :
    SettingsLayer.parse scope.template = .ok .empty := by
  have gap : TomlText.skipGap false scope.template.toList = some [] :=
    skipGap_lines scope.plain_sample
  rw [SettingsLayer.parse, TomlText.parse?_of_skipGap gap]
  rfl

end SettingsScope

/-- What starts with a comment is no filter file. -/
theorem FilterFile.parse_marked {text : String} (marked : text.toList.head? = some '#')
    (defaults : GroupDefaults) : parse text defaults = .error .malformed := by
  obtain ⟨rest, starts⟩ := List.head?_eq_some_iff.mp marked
  have unread : Json.parse? text = none := by
    rw [Json.parse?, starts]
    rfl
  rw [parse, unread]

/-! ## One file more -/

/-- A tree has a text that another one does not have, and else the same. -/
structure FileTree.Gains (before after : FileTree) (target : FilePath) (contents : String) : Prop
    where
  /-- Nothing stood in its place. -/
  absent : before.entry? target = none
  /-- It stands there now, and all else is as it was. -/
  entry : ∀ path, after.entry? path =
    if path = target then some (.text contents) else before.entry? path

/-- What a written path finds once there is a text more. -/
inductive FileTree.Finds (before after : FileTree) (target : FilePath) (contents : String)
    (workingDirectory : FilePath) (written : String) : Prop where
  /-- The text, where there was nothing. -/
  | new (leads : before.resolve workingDirectory written = .ok target)
      (missed : before.hasFileAt workingDirectory written = false)
      (unread : before.readAt workingDirectory written = .error .notFound)
      (reads : after.readAt workingDirectory written = .ok contents)
  /-- What it found before. -/
  | old
      (file : after.hasFileAt workingDirectory written = before.hasFileAt workingDirectory written)
      (reads : after.readAt workingDirectory written = before.readAt workingDirectory written)
  /-- No way, as before, but maybe for another reason. -/
  | astray {error other : FileError} (missed : before.hasFileAt workingDirectory written = false)
      (misses : after.hasFileAt workingDirectory written = false)
      (unread : before.readAt workingDirectory written = .error error)
      (unreadable : after.readAt workingDirectory written = .error other)

namespace FileTree.Gains

variable {before after : FileTree} {target : FilePath} {contents : String}

section

variable (gains : before.Gains after target contents)

include gains

theorem follow_toOption (place : FilePath) (parts : List String) :
    (after.follow place parts).toOption = (before.follow place parts).toOption := by
  induction parts generalizing place with
  | nil => rfl
  | cons part rest ih =>
      rw [follow, follow, gains.entry]
      by_cases here : place = target
      · -- Neither nothing nor a text leads further.
        rw [if_pos here, here, gains.absent]
        rfl
      rw [if_neg here]
      cases before.entry? place with
      | none => rfl
      | some entry =>
          cases entry with
          | directory =>
              dsimp only
              split
              · rfl
              · exact ih _
          | text | binary | closed => rfl

theorem resolve_eq_ok_iff {workingDirectory place : FilePath} {written : String} :
    after.resolve workingDirectory written = .ok place ↔
      before.resolve workingDirectory written = .ok place := by
  rw [resolve, resolve]
  split
  · exact Iff.rfl
  split
  · exact Iff.rfl
  rw [← toOption_eq_some_iff, gains.follow_toOption, toOption_eq_some_iff]

theorem finds (workingDirectory : FilePath) (written : String) :
    Finds before after target contents workingDirectory written := by
  have leads := fun place => @resolve_eq_ok_iff _ _ _ _ gains workingDirectory place written
  cases found : before.resolve workingDirectory written with
  | error error =>
      cases again : after.resolve workingDirectory written with
      | ok place =>
          rw [(leads place).mp again] at found
          cases found
      | error other =>
          refine @Finds.astray _ _ _ _ _ _ error other ?_ ?_ ?_ ?_
          · rw [hasFileAt, found]
          · rw [hasFileAt, again]
          · rw [readAt, found]
            rfl
          · rw [readAt, again]
            rfl
  | ok place =>
      have again := (leads place).mpr found
      by_cases here : place = target
      · subst here
        refine .new found ?_ ?_ ?_
        · rw [hasFileAt, found]
          simp only [isFile, gains.absent]
        · rw [readAt, found]
          show before.read place = _
          rw [read, gains.absent]
        · rw [readAt, again]
          show after.read place = _
          rw [read, gains.entry, if_pos rfl]
      · refine .old ?_ ?_
        · rw [hasFileAt, hasFileAt, found, again]
          simp only [isFile, gains.entry, if_neg here]
        · rw [readAt, readAt, found, again]
          show after.read place = before.read place
          rw [read, read, gains.entry, if_neg here]

theorem hasFileAt {workingDirectory : FilePath} {written : String}
    (file : before.hasFileAt workingDirectory written = true) :
    after.hasFileAt workingDirectory written = true := by
  cases gains.finds workingDirectory written with
  | old same => exact same.trans file
  | new _ missed | astray missed =>
      rw [missed] at file
      cases file

end

end FileTree.Gains

/-! ## Settings -/

namespace Configuration

variable {tree before after : FileTree} {target home : FilePath} {contents directory path : String}

theorem hasFileAt_of_mem_discover (member : path ∈ discover tree home directory) :
    tree.hasFileAt .openStart path = true := by
  rw [discover] at member
  dsimp only at member
  split at member
  · exact (mem_of_mem_upToRoot member).2
  · next extended =>
    rcases List.mem_append.mp member with above | last
    · exact (mem_of_mem_upToRoot above).2
    · rw [not_or, not_or] at extended
      rw [List.mem_singleton.mp last]
      simpa using extended.2.1

theorem hasFileAt_of_isHomeFile (gains : before.Gains after target contents)
    (isHome : isHomeFile home path = true)
    (stands : before.hasFileAt .openStart (homeFile home).text = true)
    (file : after.hasFileAt .openStart path = true) : before.hasFileAt .openStart path = true := by
  have same : FilePath.ofText path = homeFile home := beq_iff_eq.mp isHome
  have again : FilePath.ofText (homeFile home).text = FilePath.ofText path := by
    rw [← same]
    exact FilePath.ofText_text fun name => FilePath.isName_of_mem_ofText
  cases gains.finds .openStart path with
  | new leads missed =>
      rw [FileTree.hasFileAt] at stands
      split at stands
      · next place found =>
        rw [FileTree.resolve_congr again found leads, FileTree.isFile, gains.absent] at stands
        cases stands
      · cases stands
  | old same => rwa [same] at file
  | astray _ misses =>
      rw [misses] at file
      cases file

section

variable (gains : before.Gains after target contents)
  (blank : SettingsLayer.parse contents = .ok .empty)

include gains blank

theorem isRoot_eq_of_gains (path : String) : isRoot after path = isRoot before path := by
  cases gains.finds .openStart path with
  | new leads missed unread reads =>
      simp only [isRoot, textAt, unread, reads, blank]
      rfl
  | old file reads => rw [isRoot, isRoot, textAt, textAt, reads]
  | astray missed misses unread unreadable => simp only [isRoot, textAt, unread, unreadable]

theorem upToRoot_eq_of_gains (paths : List String) :
    upToRoot before paths =
      ((upToRoot after paths).1.filter (before.hasFileAt .openStart),
        (upToRoot after paths).2) := by
  induction paths with
  | nil => rfl
  | cons path rest ih =>
      rw [upToRoot, upToRoot, ih, isRoot_eq_of_gains gains blank]
      by_cases file : before.hasFileAt .openStart path = true
      · rw [if_pos file, if_pos (gains.hasFileAt file)]
        split <;> simp [file]
      · -- What is no file is no root either, so the walk goes on with the new file or without it.
        have onward : isRoot before path = false := by
          rw [Bool.eq_false_iff]
          intro root
          obtain ⟨text, readable⟩ := exists_textAt (isRoot_iff.mp root).1
          exact file (hasFileAt_of_textAt readable)
        rw [if_neg file, onward, if_neg Bool.false_ne_true]
        split <;> simp [file]

/-- The files in force are those that were in force, with the new one among them or not. -/
theorem discover_eq_of_gains :
    discover before home directory =
      (discover after home directory).filter (before.hasFileAt .openStart) := by
  have inside := fun path => @mem_of_mem_upToRoot after (candidates directory) path
  rw [discover, discover, upToRoot_eq_of_gains gains blank]
  generalize upToRoot after (candidates directory) = walked at inside ⊢
  obtain ⟨files, stopped⟩ := walked
  dsimp only at inside ⊢
  by_cases stands : before.hasFileAt .openStart (homeFile home).text = true
  · -- A file that is listed as that of the home directory stood before.
    have listed : (files.filter (before.hasFileAt .openStart)).any (isHomeFile home) =
        files.any (isHomeFile home) := by
      rw [Bool.eq_iff_iff, List.any_eq_true, List.any_eq_true]
      constructor
      · rintro ⟨path, member, isHome⟩
        exact ⟨path, (List.mem_filter.mp member).1, isHome⟩
      · rintro ⟨path, member, isHome⟩
        refine ⟨path, List.mem_filter.mpr ⟨member, ?_⟩, isHome⟩
        exact hasFileAt_of_isHomeFile gains isHome stands (inside path member).2
    rw [listed, stands, gains.hasFileAt stands]
    split
    · rfl
    · simp [stands]
  · rw [if_pos (.inr (.inl (by simpa using stands)))]
    split <;> simp [stands]

theorem findSome?_discover {β : Type} {f g : String → Option β}
    (fresh : ∀ path, textAt after path = .ok contents → f path = none)
    (same : ∀ path, textAt after path = textAt before path → f path = g path) :
    (discover after home directory).findSome? f = (discover before home directory).findSome? g := by
  have inside := fun path => @hasFileAt_of_mem_discover after home directory path
  rw [discover_eq_of_gains gains blank]
  generalize discover after home directory = files at inside ⊢
  induction files with
  | nil => rfl
  | cons path rest ih =>
      have later := ih fun other member => inside other (List.mem_cons_of_mem _ member)
      rw [List.findSome?_cons, later]
      cases gains.finds .openStart path with
      | new _ missed _ reads =>
          rw [fresh path reads, List.filter_cons_of_neg (by simp [missed])]
      | old file reads =>
          have stood := inside path List.mem_cons_self
          rw [file] at stood
          rw [same path reads, List.filter_cons_of_pos stood, List.findSome?_cons]
      | astray _ misses =>
          rw [inside path List.mem_cons_self] at misses
          cases misses

theorem findSome?_fault_eq_of_gains :
    (discover after home directory).findSome? (fault? after) =
      (discover before home directory).findSome? (fault? before) := by
  refine findSome?_discover gains blank (fun path reads => ?_) fun path reads => ?_
  · rw [fault?, reads]
    simp only [blank]
  · rw [fault?, fault?, reads]

theorem findSome?_layerAt_eq_of_gains {α : Type} (setting : Setting α) :
    ((discover after home directory).map (layerAt after)).findSome? setting.ofLayer =
      ((discover before home directory).map (layerAt before)).findSome? setting.ofLayer := by
  rw [List.findSome?_map, List.findSome?_map]
  refine findSome?_discover gains blank (fun path reads => ?_) fun path reads => ?_
  · rw [Function.comp_apply, layerAt, reads]
    simp only [blank]
    cases setting <;> rfl
  · rw [Function.comp_apply, Function.comp_apply, layerAt, layerAt, reads]

/-- What is loaded is the same but for where it comes from. -/
theorem load_settings_eq_of_gains :
    (load after home directory).map (·.settings) =
      (load before home directory).map (·.settings) := by
  have faults := @findSome?_fault_eq_of_gains _ _ _ home _ directory gains blank
  cases loaded : load before home directory with
  | error e =>
      rw [load_eq_error_iff.mpr (faults.trans (load_eq_error_iff.mp loaded))]
  | ok configuration =>
      cases again : load after home directory with
      | error e =>
          rw [load_eq_error_iff.mpr (faults.symm.trans (load_eq_error_iff.mp again))] at loaded
          cases loaded
      | ok other =>
          have same : other.settings = configuration.settings := by
            refine Setting.ext fun setting => ?_
            rw [value_of_load again, value_of_load loaded,
              findSome?_layerAt_eq_of_gains gains blank]
          exact congrArg Except.ok same

end

end Configuration

/-! ## Runs -/

/-- Two places where a filter file is the same or can be used in neither. -/
def FilterSource.SameFile (source : FilterSource) (place other : Surroundings) : Prop :=
  ∀ settings, (source.load other settings).toOption = (source.load place settings).toOption

theorem FilterSource.toOption_file (source : FilterSource) (place : Surroundings)
    (settings : Settings) :
    (source.file place settings).toOption = (source.load place settings).toOption := by
  unfold FilterSource.file
  cases source.load place settings <;> rfl

namespace FilterSource.SameFile

variable {place other : Surroundings} {source : FilterSource} (same : source.SameFile place other)
  (settings : Settings)

include same

theorem file_toOption :
    (source.file other settings).toOption = (source.file place settings).toOption := by
  rw [toOption_file, toOption_file, same settings]

theorem compileJson_toOption : (Command.compileJson source other settings).toOption =
    (Command.compileJson source place settings).toOption := by
  simp only [Command.compileJson, toOption_bind, same.file_toOption]

theorem builder_toOption (index : String) : (source.builder other settings index).toOption =
    (source.builder place settings index).toOption := by
  simp only [FilterSource.builder, toOption_bind, same.file_toOption]

theorem searchJson_toOption (index : String) (page : Nat) (size : Option Nat)
    (given : List SortField) :
    (Command.searchJson source index page size given other settings).toOption =
      (Command.searchJson source index page size given place settings).toOption := by
  simp only [Command.searchJson, toOption_bind, same.builder_toOption]

theorem aggregateJson_toOption (index name field : String) (key : Option String)
    (size : Option Nat) :
    (Command.aggregateJson source index name field key size other settings).toOption =
      (Command.aggregateJson source index name field key size place settings).toOption := by
  simp only [Command.aggregateJson, toOption_bind, same.builder_toOption]

end FilterSource.SameFile

namespace Launch

variable {before after : FileTree} {target : FilePath} {contents : String} {launch : Launch}

theorem sameFile_of_gains (gains : before.Gains after target contents)
    (unfit : ∀ defaults, FilterFile.parse contents defaults = .error .malformed)
    (source : FilterSource) : source.SameFile (launch.place before) (launch.place after) := by
  intro settings
  simp only [FilterSource.load, place_tree, place_workingDirectory]
  cases gains.finds launch.workingDirectory source.path with
  | new _ _ unread reads =>
      simp only [unread, reads, unfit]
      rfl
  | old _ reads => rw [reads]
  | astray _ _ unread unreadable =>
      simp only [unread, unreadable]
      rfl

theorem runWith_sameResult {command : Command}
    (sameFile : ∀ source : FilterSource, source.SameFile (launch.place before) (launch.place after))
    (onFile : command.filterPath?.isSome = true) (highlighter? : Option Highlighter)
    (settings : Settings) :
    (command.runWith (launch.place before) highlighter? settings).SameResult
      (command.runWith (launch.place after) highlighter? settings) := by
  cases command with
  | compile source =>
      exact Outcome.ofJson_sameResult ((sameFile source).compileJson_toOption settings)
  | search source index page size given =>
      exact Outcome.ofJson_sameResult
        ((sameFile source).searchJson_toOption settings index page size given)
  | aggregate source index name field key size =>
      exact Outcome.ofJson_sameResult
        ((sameFile source).aggregateJson_toOption settings index name field key size)
  | init | check | config => cases onFile

theorem settings_eq_of_gains {command : Command} (gains : before.Gains after target contents)
    (blank : SettingsLayer.parse contents = .ok .empty) :
    command.settings (launch.place after) = command.settings (launch.place before) := by
  have loads := fun home directory =>
    @Configuration.load_settings_eq_of_gains before after target home contents directory gains blank
  cases command with
  | init inHome force => rfl
  | compile | search | aggregate | check | config =>
      simp only [Command.settings, place_tree, place_home, place_workingDirectory, loads]

theorem outcome_sameResult_of_gains {invocation : Invocation}
    (gains : before.Gains after target contents)
    (blank : SettingsLayer.parse contents = .ok .empty)
    (unfit : ∀ defaults, FilterFile.parse contents defaults = .error .malformed)
    (read : Invocation.read launch.words = .ok invocation)
    (onFile : invocation.command.filterPath?.isSome = true) :
    (launch.outcome before).SameResult (launch.outcome after) := by
  simp only [outcome, Surroundings.run, read, place_logDirectives,
    place_highlighter? _ after before]
  cases LogFilter.ofRun invocation.verbosity launch.logDirectives with
  | error fault => exact ⟨rfl, rfl⟩
  | ok filter =>
      simp only [Command.run, settings_eq_of_gains gains blank]
      cases invocation.command.settings (launch.place before) with
      | error e => exact ⟨rfl, rfl⟩
      | ok settings => exact runWith_sameResult (sameFile_of_gains gains unfit) onFile _ settings

end Launch

/-- A new settings file changes nothing. If `init` succeeds where nothing stood, then whatever
    directory settings are loaded for, they are the same as before, or fail to load for the same
    reason. And each run on a filter file, wherever it is started, prints the same as before and
    has the same exit code. -/
theorem new_settings_file_neutral (init : Launch) (tree : FileTree) {target : FilePath}
    {scope : SettingsScope} {force : Bool} (writes : init.Writes target scope force)
    (absent : tree.entry? target = none) (succeeds : (init.outcome tree).code = 0) :
    (∀ home directory,
      (Configuration.load (init.outcome tree).tree home directory).map (·.settings) =
        (Configuration.load tree home directory).map (·.settings)) ∧
    ∀ (launch : Launch) (invocation : Invocation),
      Invocation.read launch.words = .ok invocation →
      invocation.command.filterPath?.isSome = true →
      (launch.outcome tree).SameResult (launch.outcome (init.outcome tree).tree) := by
  have gains : tree.Gains (init.outcome tree).tree target scope.template := by
    rcases writes.outcome_cases tree with ⟨failed, _⟩ | ⟨_, _, entry⟩
    · exact absurd succeeds failed
    · exact ⟨absent, entry⟩
  have blank := scope.parse_template
  have unfit := FilterFile.parse_marked scope.head?_template
  exact ⟨fun _ _ => Configuration.load_settings_eq_of_gains gains blank,
    fun _ _ read onFile => Launch.outcome_sameResult_of_gains gains blank unfit read onFile⟩

/-- The new file is found, and the queries that are printed stay what they were. -/
theorem compile_unchanged_by_init :
    ((atWork ["init"]).outcome bothForms.tree).code = 0 ∧
    (Configuration.load ((atWork ["init"]).outcome bothForms.tree).tree ⟨true, ["home"]⟩
      "/work").map (·.settings) = .ok .standard ∧
    ((atWork ["init"]).outcome bothForms.tree).tree.hasFileAt .openStart "/work/.esq.toml" = true ∧
    ((atWork ["compile", "bare"]).outcome bothForms.tree).SameResult
      ((atWork ["compile", "bare"]).outcome ((atWork ["init"]).outcome bothForms.tree).tree) := by
  have read : Invocation.read (atWork ["init"]).words = .ok ⟨0, false, .init false false⟩ :=
    toOption_eq_some_iff.mp (by decide +kernel)
  have readCompile : Invocation.read (atWork ["compile", "bare"]).words =
      .ok ⟨0, false, .compile ⟨"bare", false⟩⟩ := toOption_eq_some_iff.mp (by decide +kernel)
  have succeeds : ((atWork ["init"]).outcome bothForms.tree).code = 0 := by decide +kernel
  obtain ⟨loads, runs⟩ := new_settings_file_neutral (atWork ["init"]) bothForms.tree
    (.project read (by decide)) (by decide +kernel) succeeds
  have before : (Configuration.load bothForms.tree ⟨true, ["home"]⟩ "/work").map (·.settings) =
      .ok .standard := toOption_eq_some_iff.mp (by decide +kernel)
  exact ⟨succeeds, (loads _ _).trans before, by decide +kernel, runs _ _ readCompile rfl⟩

end Winnow
