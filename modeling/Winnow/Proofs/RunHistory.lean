import Winnow.CommandLine.Run
import Winnow.Proofs.FileWriting
import Winnow.Proofs.Success

/-! # Run histories

Runs one after the other on the same files. Only `init` touches them: it writes the one settings
file that its scope calls for, or nothing. So whatever stands at a path in the end has stood there
from the start or is a template, and without `--force` nothing that stands is lost.
-/

namespace Winnow

/-! ## One run -/

section Runs

variable {place : Surroundings} {words : List String} {verbosity : Nat} {isPlain : Bool}

theorem Outcome.ofText_tree (events : List LogEvent) (result : Except (List Notice) String) :
    (ofText place events result).tree = place.tree := by
  cases result <;> rfl

theorem Command.run_tree {command : Command} (highlighter? : Option Highlighter)
    (other : ∀ inHome force, command ≠ .init inHome force) :
    (command.run place highlighter?).tree = place.tree := by
  rw [run]
  cases command.settings place with
  | error e => exact Outcome.ofText_tree _ _
  | ok settings =>
      cases command with
      | compile | search | aggregate | config => exact Outcome.ofText_tree _ _
      | check => rfl
      | init inHome force => exact absurd rfl (other inHome force)

theorem Surroundings.run_tree
    (other : ∀ verbosity isPlain inHome force,
      Invocation.read words ≠ .ok ⟨verbosity, isPlain, .init inHome force⟩) :
    (place.run words).tree = place.tree := by
  rw [run]
  cases read : Invocation.read words with
  | error stop => cases stop <;> rfl
  | ok invocation =>
      dsimp only
      cases LogFilter.ofRun invocation.verbosity place.logDirectives with
      | error fault => rfl
      | ok filter =>
          refine Command.run_tree _ ?_
          intro inHome force same
          refine other invocation.verbosity invocation.isPlain inHome force ?_
          rw [read, ← same]

theorem Command.writeSettings_eq_ok_iff {force : Bool} {path : FilePath} {scope : SettingsScope}
    {tree after : FileTree} :
    writeSettings force path scope tree = (.ok (), after) ↔
      (force = true ∨ tree.has path = false) ∧
        tree.write path scope.template = (.ok (), after) := by
  rw [writeSettings, Prod.ext_iff, Prod.ext_iff]
  cases force <;> cases tree.has path <;> simp [mapError_eq_ok_iff]

theorem Command.writeSettings_refused {force : Bool} {path : FilePath} {scope : SettingsScope}
    {tree : FileTree} {notices : List Notice}
    (refused : (writeSettings force path scope tree).1 = .error notices) :
    (writeSettings force path scope tree).2 = tree := by
  rw [writeSettings] at refused ⊢
  split
  · rfl
  · next wanted =>
    rw [if_neg wanted] at refused
    obtain ⟨error, unwritten, _⟩ := mapError_eq_error_iff.mp refused
    exact FileTree.write_refused unwritten

theorem Surroundings.run_init_cases {inHome force : Bool}
    (read : Invocation.read words = .ok ⟨verbosity, isPlain, .init inHome force⟩) :
    (place.run words).code ≠ 0 ∧ (place.run words).tree = place.tree ∨
      (place.run words).code = 0 ∧
        (force = true ∨ place.tree.has (Command.initTarget inHome place).1 = false) ∧
        place.tree.write (Command.initTarget inHome place).1
          (Command.initTarget inHome place).2.template = (.ok (), (place.run words).tree) := by
  simp only [run, read]
  cases LogFilter.ofRun verbosity place.logDirectives with
  | error fault => exact .inl ⟨Nat.succ_ne_zero _, rfl⟩
  | ok filter =>
      simp only [Command.run, Command.settings, Command.runWith, Outcome.ofInit]
      rcases written : Command.writeSettings force (Command.initTarget inHome place).1
          (Command.initTarget inHome place).2 place.tree with ⟨notices | _, after⟩
      · refine .inl ⟨Nat.one_ne_zero, ?_⟩
        have kept := Command.writeSettings_refused (congrArg Prod.fst written)
        rwa [written] at kept
      · exact .inr ⟨rfl, Command.writeSettings_eq_ok_iff.mp written⟩

end Runs

/-! ## Runs one after the other -/

/-- A run, but for the files that it finds. -/
structure Launch where
  home : FilePath
  workingDirectory : FilePath
  logDirectives : Option String
  isTerminal : Bool
  highlighter : Highlighter := .uniform
  words : List String

namespace Launch

variable {launch : Launch} {tree : FileTree} {path target : FilePath} {scope : SettingsScope}
  {force : Bool}

/-- What a run finds together with some files. -/
def place (launch : Launch) (tree : FileTree) : Surroundings :=
  ⟨tree, launch.home, launch.workingDirectory, launch.logDirectives, launch.isTerminal,
    launch.highlighter⟩

@[simp] theorem place_tree : (launch.place tree).tree = tree := rfl

@[simp] theorem place_home : (launch.place tree).home = launch.home := rfl

@[simp] theorem place_workingDirectory :
    (launch.place tree).workingDirectory = launch.workingDirectory := rfl

@[simp] theorem place_logDirectives :
    (launch.place tree).logDirectives = launch.logDirectives := rfl

theorem place_highlighter? (isPlain : Bool) (tree other : FileTree) :
    (launch.place tree).highlighter? isPlain = (launch.place other).highlighter? isPlain := rfl

/-- What comes of a run on some files. -/
def outcome (launch : Launch) (tree : FileTree) : Outcome :=
  (launch.place tree).run launch.words

/-- The settings file that a run is to write, what it is for, and whether it may replace one. -/
inductive Writes (launch : Launch) : FilePath → SettingsScope → Bool → Prop where
  /-- The file in the home directory, by request or because the run is there. -/
  | home {verbosity : Nat} {isPlain inHome force : Bool}
      (read : Invocation.read launch.words = .ok ⟨verbosity, isPlain, .init inHome force⟩)
      (there : inHome = true ∨ launch.workingDirectory = launch.home) :
      Writes launch (launch.home.child Configuration.fileName) .home force
  /-- The file in the working directory. -/
  | project {verbosity : Nat} {isPlain force : Bool}
      (read : Invocation.read launch.words = .ok ⟨verbosity, isPlain, .init false force⟩)
      (away : launch.workingDirectory ≠ launch.home) :
      Writes launch (launch.workingDirectory.child Configuration.fileName) .project force

theorem exists_writes {verbosity : Nat} {isPlain inHome : Bool}
    (read : Invocation.read launch.words = .ok ⟨verbosity, isPlain, .init inHome force⟩) :
    ∃ target scope, launch.Writes target scope force := by
  by_cases there : inHome = true ∨ launch.workingDirectory = launch.home
  · exact ⟨_, _, .home read there⟩
  · rw [not_or, Bool.not_eq_true] at there
    obtain ⟨rfl, away⟩ := there
    exact ⟨_, _, .project read away⟩

theorem Writes.initTarget_eq (writes : launch.Writes target scope force) (tree : FileTree) :
    ∃ verbosity isPlain inHome,
      Invocation.read launch.words = .ok ⟨verbosity, isPlain, .init inHome force⟩ ∧
        Command.initTarget inHome (launch.place tree) = (target, scope) := by
  cases writes with
  | home read there => exact ⟨_, _, _, read, if_pos (there.imp_right Eq.symm)⟩
  | project read away =>
      refine ⟨_, _, _, read, if_neg ?_⟩
      rintro (asked | there)
      · cases asked
      · exact away there.symm

/-- A run that is to write a settings file fails and leaves the files alone, or puts the template in
    its place, which is free unless the run may replace what stands there. -/
theorem Writes.outcome_cases (writes : launch.Writes target scope force) (tree : FileTree) :
    (launch.outcome tree).code ≠ 0 ∧ (launch.outcome tree).tree = tree ∨
      (launch.outcome tree).code = 0 ∧ (force = true ∨ tree.entry? target = none) ∧
        ∀ path, FileTree.entry? (launch.outcome tree).tree path =
          if path = target then some (.text scope.template) else tree.entry? path := by
  obtain ⟨verbosity, isPlain, inHome, read, same⟩ := writes.initTarget_eq tree
  have ran := @Surroundings.run_init_cases (launch.place tree) launch.words _ _ _ _ read
  rw [same] at ran
  refine ran.imp_right ?_
  rintro ⟨succeeds, free, written⟩
  refine ⟨succeeds, free.imp_right fun absent => ?_, fun _ => FileTree.entry?_write written⟩
  simpa [FileTree.has] using absent

theorem tree_of_not_writes (idle : ∀ target scope force, ¬ launch.Writes target scope force)
    (tree : FileTree) : (launch.outcome tree).tree = tree := by
  refine Surroundings.run_tree ?_
  intro verbosity isPlain inHome force read
  obtain ⟨target, scope, writes⟩ := exists_writes read
  exact idle target scope force writes

theorem entry?_outcome (launch : Launch) (tree : FileTree) (path : FilePath) :
    FileTree.entry? (launch.outcome tree).tree path = tree.entry? path ∨
      ∃ scope force, launch.Writes path scope force ∧ (force = true ∨ tree.entry? path = none) ∧
        FileTree.entry? (launch.outcome tree).tree path = some (.text scope.template) := by
  by_cases asked : ∃ target scope force, launch.Writes target scope force
  · obtain ⟨target, scope, force, writes⟩ := asked
    rcases writes.outcome_cases tree with ⟨_, same⟩ | ⟨_, free, stands⟩
    · rw [same]
      exact .inl rfl
    · by_cases here : path = target
      · subst here
        exact .inr ⟨scope, force, writes, free, (stands path).trans (if_pos rfl)⟩
      · exact .inl ((stands path).trans (if_neg here))
  · rw [tree_of_not_writes fun target scope force writes => asked ⟨target, scope, force, writes⟩]
    exact .inl rfl

theorem keeps {entry : FileEntry} (unforced : ∀ target scope, ¬ launch.Writes target scope true)
    (stands : tree.entry? path = some entry) :
    FileTree.entry? (launch.outcome tree).tree path = some entry := by
  rcases launch.entry?_outcome tree path with kept | ⟨scope, force, writes, free, _⟩
  · exact kept.trans stands
  · rcases free with rfl | absent
    · exact absurd writes (unforced path scope)
    · rw [stands] at absent
      cases absent

end Launch

namespace FileTree

variable {tree : FileTree} {launches : List Launch} {path : FilePath} {entry : FileEntry}

/-- The files after some runs, one after the other. -/
def afterRuns (tree : FileTree) (launches : List Launch) : FileTree :=
  launches.foldl (fun tree launch => (launch.outcome tree).tree) tree

/-- What stands at a path after some runs has stood there from the start, or is the template that
    one of them was to write there. -/
theorem entry?_afterRuns (tree : FileTree) (launches : List Launch) (path : FilePath) :
    entry? (tree.afterRuns launches) path = tree.entry? path ∨
      ∃ launch ∈ launches, ∃ scope force, launch.Writes path scope force ∧
        entry? (tree.afterRuns launches) path = some (.text scope.template) := by
  -- The last run to write there decides, so a write of the first counts only if no later one does.
  induction launches generalizing tree with
  | nil => exact .inl rfl
  | cons launch rest ih =>
      rcases ih (launch.outcome tree).tree with same | ⟨later, member, scope, force, writes, stands⟩
      · rcases launch.entry?_outcome tree path with kept | ⟨scope, force, writes, _, stands⟩
        · exact .inl (same.trans kept)
        · exact .inr ⟨launch, List.mem_cons_self, scope, force, writes, same.trans stands⟩
      · exact .inr ⟨later, List.mem_cons_of_mem _ member, scope, force, writes, stands⟩

theorem afterRuns_keeps
    (unforced : ∀ launch ∈ launches, ∀ target scope, ¬ launch.Writes target scope true)
    (stands : tree.entry? path = some entry) :
    entry? (tree.afterRuns launches) path = some entry := by
  induction launches generalizing tree with
  | nil => exact stands
  | cons launch rest ih =>
      refine ih (fun later member => unforced later (List.mem_cons_of_mem _ member)) ?_
      exact Launch.keeps (unforced launch List.mem_cons_self) stands

end FileTree

/-- Only runs of `init` change files, and each of them changes at most the settings file that its
    scope calls for. It keeps what stands there unless it may replace it, leaves all files alone if
    it fails, and has put the template there if it succeeds. After any number of runs each path
    holds what it held at the start or such a template, and if no run may replace anything, all
    that stood at the start still stands. -/
theorem runs_write_settings_only :
    (∀ (launch : Launch) (tree : FileTree),
      (∀ verbosity isPlain inHome force,
        Invocation.read launch.words ≠ .ok ⟨verbosity, isPlain, .init inHome force⟩) →
      (launch.outcome tree).tree = tree) ∧
    (∀ (launch : Launch) (tree : FileTree) (verbosity : Nat) (isPlain inHome force : Bool),
      Invocation.read launch.words = .ok ⟨verbosity, isPlain, .init inHome force⟩ →
      ∃ target scope, launch.Writes target scope force ∧
        (∀ path, path ≠ target →
          FileTree.entry? (launch.outcome tree).tree path = tree.entry? path) ∧
        (force = false → ∀ path entry, tree.entry? path = some entry →
          FileTree.entry? (launch.outcome tree).tree path = some entry) ∧
        ((launch.outcome tree).code ≠ 0 → (launch.outcome tree).tree = tree) ∧
        ((launch.outcome tree).code = 0 →
          FileTree.entry? (launch.outcome tree).tree target = some (.text scope.template))) ∧
    ∀ (tree : FileTree) (launches : List Launch),
      (∀ path, FileTree.entry? (tree.afterRuns launches) path = tree.entry? path ∨
        ∃ launch ∈ launches, ∃ scope force, launch.Writes path scope force ∧
          FileTree.entry? (tree.afterRuns launches) path = some (.text scope.template)) ∧
      ((∀ launch ∈ launches, ∀ target scope, ¬ launch.Writes target scope true) →
        ∀ path entry, tree.entry? path = some entry →
          FileTree.entry? (tree.afterRuns launches) path = some entry) := by
  refine ⟨fun launch tree other => Surroundings.run_tree other, ?_, fun tree launches =>
    ⟨tree.entry?_afterRuns launches, fun unforced _ _ stands =>
      FileTree.afterRuns_keeps unforced stands⟩⟩
  intro launch tree verbosity isPlain inHome force read
  obtain ⟨target, scope, writes⟩ := Launch.exists_writes read
  refine ⟨target, scope, writes, ?_⟩
  rcases writes.outcome_cases tree with ⟨failed, same⟩ | ⟨succeeds, _, stands⟩
  · rw [same]
    exact ⟨fun _ _ => rfl, fun _ _ _ present => present, fun _ => rfl,
      fun succeeds => absurd succeeds failed⟩
  · refine ⟨fun path elsewhere => (stands path).trans (if_neg elsewhere), ?_,
      fun failed => absurd succeeds failed, fun _ => (stands target).trans (if_pos rfl)⟩
    intro unforced path entry present
    refine Launch.keeps ?_ present
    intro other scope forced
    obtain ⟨_, _, _, again, _⟩ := forced.initTarget_eq tree
    rw [read, unforced] at again
    cases again

/-- A working directory with some notes, and a home directory. -/
def notesTree : FileTree :=
  ⟨[(⟨true, ["work", "notes"]⟩, .text "esq"), (⟨true, ["home"]⟩, .directory)]⟩

/-- A run where the notes are. -/
def atWork (words : List String) : Launch where
  home := ⟨true, ["home"]⟩
  workingDirectory := ⟨true, ["work"]⟩
  logDirectives := none
  isTerminal := false
  words := words

theorem notes_kept_by_runs :
    ((atWork ["config"]).outcome notesTree).tree = notesTree ∧
    (∃ target scope, (atWork ["init"]).Writes target scope false ∧
      FileTree.entry? ((atWork ["init"]).outcome notesTree).tree target =
        some (.text scope.template)) ∧
    FileTree.entry? (notesTree.afterRuns [atWork ["init"], atWork ["init"]])
      ⟨true, ["work", "notes"]⟩ = some (.text "esq") := by
  have readConfig : Invocation.read ["config"] = .ok ⟨0, false, .config⟩ :=
    toOption_eq_some_iff.mp (by decide +kernel)
  have read : Invocation.read ["init"] = .ok ⟨0, false, .init false false⟩ :=
    toOption_eq_some_iff.mp (by decide +kernel)
  obtain ⟨idle, init, history⟩ := runs_write_settings_only
  obtain ⟨target, scope, writes, _, _, _, put⟩ := init (atWork ["init"]) notesTree _ _ _ _ read
  refine ⟨idle _ _ ?_, ⟨target, scope, writes, put (by decide +kernel)⟩,
    (history notesTree _).2 ?_ _ _ (by decide +kernel)⟩
  · intro verbosity isPlain inHome force same
    rw [show (atWork ["config"]).words = ["config"] from rfl, readConfig] at same
    cases same
  · intro launch member target scope forced
    obtain rfl : launch = atWork ["init"] := by simpa using member
    obtain ⟨_, _, _, again, _⟩ := forced.initTarget_eq notesTree
    rw [show (atWork ["init"]).words = ["init"] from rfl, read] at again
    cases again

end Winnow
