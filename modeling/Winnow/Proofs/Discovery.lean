import Mathlib.Data.List.Nodup
import Winnow.Proofs.Success
import Winnow.Proofs.WrittenPath
import Winnow.Settings.Configuration

/-! # Which settings are in force

The settings files of a directory are those in it and above it up to the first root, or else
the one in the home directory after them. The first of them that can't be used is the error. If
all can be used, each setting comes from the first that sets it. What stands beyond a root does
not count, whether it can be used or not.
-/

namespace Winnow

/-- The settings, by the type of their values. -/
inductive Setting : Type → Type 1 where
  | asOr : Setting Bool
  | valuesAsOr : Setting Bool
  | pageSize : Setting Nat
  | sort : Setting (List String)
  | size : Setting Nat
  | key : Setting String

namespace Setting

variable {α : Type}

/-- What a layer sets it to. -/
def ofLayer (layer : SettingsLayer) : Setting α → Option α
  | asOr => layer.asOr
  | valuesAsOr => layer.valuesAsOr
  | pageSize => layer.pageSize
  | sort => layer.sort
  | size => layer.size
  | key => layer.key

/-- The value that it has. -/
def valueIn (settings : Settings) : Setting α → α
  | asOr => settings.filters.asOr
  | valuesAsOr => settings.filters.valuesAsOr
  | pageSize => settings.search.pageSize
  | sort => settings.search.sort
  | size => settings.aggregation.size
  | key => settings.aggregation.key

theorem ext {settings other : Settings}
    (same : ∀ {α : Type} (setting : Setting α), setting.valueIn settings = setting.valueIn other) :
    settings = other := by
  obtain ⟨⟨asOr, valuesAsOr⟩, ⟨pageSize, sort⟩, ⟨size, key⟩⟩ := settings
  obtain rfl := same .asOr
  obtain rfl := same .valuesAsOr
  obtain rfl := same .pageSize
  obtain rfl := same .sort
  obtain rfl := same .size
  obtain rfl := same .key
  rfl

theorem valueIn_override (setting : Setting α) (layer : SettingsLayer) (settings : Settings) :
    setting.valueIn (layer.override settings) =
      (setting.ofLayer layer).getD (setting.valueIn settings) := by
  obtain ⟨_, filters, search, aggregation⟩ := layer
  cases setting with
  | asOr | valuesAsOr => cases filters <;> rfl
  | pageSize | sort => cases search <;> rfl
  | size | key => cases aggregation <;> rfl

/-- Overriding from the weakest layer on leaves each setting with the value of the first layer
    that sets it. -/
theorem valueIn_ofLayers (setting : Setting α) (layers : List SettingsLayer) :
    setting.valueIn (.ofLayers layers) =
      (layers.findSome? setting.ofLayer).getD (setting.valueIn .standard) := by
  induction layers with
  | nil => rfl
  | cons layer rest ih =>
      have step := setting.valueIn_override layer (.ofLayers rest)
      rw [ih] at step
      rw [List.findSome?_cons]
      refine step.trans ?_
      cases setting.ofLayer layer <;> rfl

end Setting

namespace Configuration

/-! ## Single files -/

section Files

variable (tree : FileTree)

/-- Why a settings file can't be used, unless it can. -/
def fault? (path : String) : Option ConfigurationError :=
  match textAt tree path with
  | .error why => some (.unreadable path why)
  | .ok text =>
      match SettingsLayer.parse text with
      | .error why => some (.refused path why)
      | .ok _ => none

/-- What a settings file says. One that can't be used says nothing. -/
def layerAt (path : String) : SettingsLayer :=
  match textAt tree path with
  | .error _ => .empty
  | .ok text =>
      match SettingsLayer.parse text with
      | .error _ => .empty
      | .ok layer => layer

/-- A settings file can be used and declares that it is the last. -/
def DeclaresRoot (path : String) : Prop :=
  fault? tree path = none ∧ (layerAt tree path).isRoot = some true

variable {tree}

theorem isRoot_iff {path : String} : isRoot tree path = true ↔ DeclaresRoot tree path := by
  rw [isRoot, DeclaresRoot, fault?, layerAt]
  cases textAt tree path with
  | error why => simp
  | ok text => cases parsed : SettingsLayer.parse text <;> simp [parsed]

theorem readLayer_eq_ok_iff {path : String} {file : String × SettingsLayer} :
    readLayer (path, textAt tree path) = .ok file ↔
      fault? tree path = none ∧ file = (path, layerAt tree path) := by
  rw [fault?, layerAt]
  cases textAt tree path with
  | error why => simp [readLayer]
  | ok text => cases parsed : SettingsLayer.parse text <;> simp [readLayer, parsed, eq_comm]

theorem readLayer_eq_error_iff {path : String} {error : ConfigurationError} :
    readLayer (path, textAt tree path) = .error error ↔ fault? tree path = some error := by
  rw [fault?]
  cases textAt tree path with
  | error why => simp [readLayer]
  | ok text => cases parsed : SettingsLayer.parse text <;> simp [readLayer, parsed]

end Files

/-! ## The walk -/

section Walk

variable (tree : FileTree)

/-- The settings files in a directory and above it, nearest first. -/
def filesAbove (directory : String) : List String :=
  (candidates directory).filter (tree.hasFileAt .openStart)

/-- The files that are in force, among those above a directory and the one in the home
    directory. -/
inductive InForce (home : FilePath) (above : List String) : List String → Prop where
  /-- The nearest root is the last. -/
  | root {nearer : List String} {path : String} {beyond : List String} :
      above = nearer ++ path :: beyond → (∀ other ∈ nearer, ¬ DeclaresRoot tree other) →
      DeclaresRoot tree path → InForce home above (nearer ++ [path])
  /-- Without a root, a file in the home directory that is not listed yet comes last. -/
  | home : (∀ path ∈ above, ¬ DeclaresRoot tree path) →
      tree.hasFileAt .openStart (homeFile home).text = true →
      homeFile home ∉ above.map FilePath.ofText → InForce home above (above ++ [(homeFile home).text])
  /-- Otherwise these are all. -/
  | above : (∀ path ∈ above, ¬ DeclaresRoot tree path) →
      (tree.hasFileAt .openStart (homeFile home).text = true →
        homeFile home ∈ above.map FilePath.ofText) →
      InForce home above above

variable {tree}

theorem upToRoot_cases (tree : FileTree) (paths : List String) :
    (∃ nearer path beyond,
      paths.filter (tree.hasFileAt .openStart) = nearer ++ path :: beyond ∧
        (∀ other ∈ nearer, ¬ DeclaresRoot tree other) ∧ DeclaresRoot tree path ∧
        upToRoot tree paths = (nearer ++ [path], true)) ∨
      (∀ path ∈ paths.filter (tree.hasFileAt .openStart), ¬ DeclaresRoot tree path) ∧
        upToRoot tree paths = (paths.filter (tree.hasFileAt .openStart), false) := by
  induction paths with
  | nil => exact .inr ⟨by simp, rfl⟩
  | cons first rest ih =>
      rw [upToRoot]
      by_cases file : tree.hasFileAt .openStart first = true
      · rw [if_pos file, List.filter_cons_of_pos file]
        by_cases declares : DeclaresRoot tree first
        · rw [if_pos (isRoot_iff.mpr declares)]
          exact .inl ⟨[], first, _, rfl, by simp, declares, rfl⟩
        · rw [if_neg fun root => declares (isRoot_iff.mp root)]
          rcases ih with ⟨nearer, path, beyond, split, before, root, walked⟩ | ⟨none, walked⟩
          · refine .inl ⟨first :: nearer, path, beyond, by rw [split]; rfl, ?_, root, ?_⟩
            · exact List.forall_mem_cons.mpr ⟨declares, before⟩
            · rw [walked]
              rfl
          · refine .inr ⟨List.forall_mem_cons.mpr ⟨declares, none⟩, ?_⟩
            rw [walked]
      · rw [if_neg file, List.filter_cons_of_neg file]
        exact ih

theorem any_isHomeFile {home : FilePath} {files : List String} :
    files.any (isHomeFile home) = true ↔ homeFile home ∈ files.map FilePath.ofText := by
  simp only [List.any_eq_true, List.mem_map, isHomeFile, beq_iff_eq]

theorem inForce_discover (tree : FileTree) (home : FilePath) (directory : String) :
    InForce tree home (filesAbove tree directory) (discover tree home directory) := by
  rw [discover]
  rcases upToRoot_cases tree (candidates directory) with
    ⟨nearer, path, beyond, split, before, root, walked⟩ | ⟨none, walked⟩
  · rw [walked]
    exact .root split before root
  · rw [walked]
    dsimp only
    split
    · rename_i whole
      refine .above none fun file => ?_
      rcases whole with stopped | missing | listed
      · contradiction
      · simp [file] at missing
      · exact any_isHomeFile.mp listed
    · rename_i extended
      rw [not_or, not_or] at extended
      obtain ⟨_, file, unlisted⟩ := extended
      exact .home none (by simpa using file) fun listed => unlisted (any_isHomeFile.mpr listed)

end Walk

/-! ## Where the files stand -/

section Places

variable {tree : FileTree} {home : FilePath} {directory : String}

theorem isName_fileName : FilePath.IsName fileName := by
  decide

theorem isAbsolute_iff_of_mem_candidates {path : String} (member : path ∈ candidates directory) :
    FilePath.IsAbsolute path ↔ FilePath.IsAbsolute directory := by
  obtain ⟨above, written, rfl⟩ := List.mem_map.mp member
  exact (FilePath.isAbsolute_writtenChild_iff isName_fileName).trans
    (FilePath.isAbsolute_iff_of_mem_writtenAncestors written)

theorem map_ofText_candidates (absolute : FilePath.IsAbsolute directory) :
    (candidates directory).map FilePath.ofText =
      (FilePath.ofText directory).upward.map (·.child fileName) := by
  have enough := FilePath.length_names_le absolute
  rw [candidates, ← FilePath.map_ofText_writtenAncestors absolute enough, List.map_map,
    List.map_map]
  refine List.map_congr_left fun above written => ?_
  have upwards := (FilePath.isAbsolute_iff_of_mem_writtenAncestors written).mpr absolute
  exact FilePath.ofText_writtenChild upwards isName_fileName

theorem child_injective (name : String) : Function.Injective (FilePath.child · name) := by
  rintro ⟨fromRoot, names⟩ ⟨_, others⟩ same
  simpa [FilePath.child] using same

theorem filesAbove_nodup (absolute : FilePath.IsAbsolute directory) :
    ((filesAbove tree directory).map FilePath.ofText).Nodup := by
  have distinct : ((candidates directory).map FilePath.ofText).Nodup := by
    rw [map_ofText_candidates absolute]
    exact (FilePath.upward_nodup _).map (child_injective fileName)
  exact distinct.sublist (List.filter_sublist.map _)

theorem ofText_homeFile (home : String) :
    FilePath.ofText (homeFile (FilePath.ofText home)).text = homeFile (FilePath.ofText home) := by
  refine FilePath.ofText_text fun name member => ?_
  rcases List.mem_append.mp member with above | last
  · exact FilePath.isName_of_mem_ofText above
  · rw [List.mem_singleton.mp last]
    exact isName_fileName

theorem InForce.nodup {home : String} {above files : List String}
    (inForce : InForce tree (FilePath.ofText home) above files)
    (distinct : (above.map FilePath.ofText).Nodup) : (files.map FilePath.ofText).Nodup := by
  cases inForce with
  | @root nearer path beyond split _ _ =>
      rw [split, List.append_cons] at distinct
      exact distinct.sublist ((List.sublist_append_left _ beyond).map _)
  | home _ _ unlisted =>
      rw [List.map_append, List.map_singleton, ofText_homeFile, ← List.concat_eq_append]
      exact distinct.concat unlisted
  | above _ _ => exact distinct

theorem resolve_candidate (absolute : FilePath.IsAbsolute directory)
    (forward : ".." ∉ (FilePath.ofText directory).names) {path : String}
    (member : path ∈ candidates directory) {place : FilePath}
    (found : tree.resolve .openStart path = .ok place) : place = FilePath.ofText path := by
  have stands : FilePath.ofText path ∈ (FilePath.ofText directory).upward.map (·.child fileName) :=
    map_ofText_candidates absolute ▸ List.mem_map_of_mem member
  obtain ⟨above, upwards, same⟩ := List.mem_map.mp stands
  have onward : ".." ∉ (FilePath.ofText path).names := by
    rw [← same]
    rintro back
    rcases List.mem_append.mp back with inside | last
    · exact forward ((FilePath.mem_upward.mp upwards).2.mem inside)
    · exact absurd last (by decide)
  exact FileTree.resolve_eq_ok ((isAbsolute_iff_of_mem_candidates member).mpr absolute) onward found

end Places

/-! ## Loading -/

section Loading

variable {tree : FileTree} {home : FilePath} {directory : String}

theorem load_eq : load tree home directory =
    ((discover tree home directory).mapM fun path => readLayer (path, textAt tree path)).map
      ofLayers := by
  rw [load, ofFiles, List.mapM_map]
  rfl

/-- Loading fails with what is wrong with the first file that can't be used. -/
theorem load_eq_error_iff {error : ConfigurationError} :
    load tree home directory = .error error ↔
      (discover tree home directory).findSome? (fault? tree) = some error := by
  rw [load_eq, map_eq_error_iff]
  exact mapM_eq_error_iff fun _ _ _ => readLayer_eq_error_iff

theorem load_eq_ok_iff {configuration : Configuration} :
    load tree home directory = .ok configuration ↔
      (∀ path ∈ discover tree home directory, fault? tree path = none) ∧
        configuration =
          ofLayers ((discover tree home directory).map fun path => (path, layerAt tree path)) := by
  rw [load_eq, map_eq_ok_iff]
  simp only [mapM_eq_ok_iff fun _ _ _ => readLayer_eq_ok_iff]
  constructor
  · rintro ⟨_, ⟨usable, rfl⟩, rfl⟩
    exact ⟨usable, rfl⟩
  · rintro ⟨usable, rfl⟩
    exact ⟨_, ⟨usable, rfl⟩, rfl⟩

/-- The value that files give a setting: that of the first that sets it, or else the standard
    one. -/
inductive Gives (tree : FileTree) {α : Type} (setting : Setting α) : List String → α → Prop where
  /-- A file sets it and none before it does. -/
  | first {stronger : List String} {path : String} {weaker : List String} {value : α} :
      (∀ other ∈ stronger, setting.ofLayer (layerAt tree other) = none) →
      setting.ofLayer (layerAt tree path) = some value →
      Gives tree setting (stronger ++ path :: weaker) value
  /-- No file sets it. -/
  | standard {files : List String} :
      (∀ path ∈ files, setting.ofLayer (layerAt tree path) = none) →
      Gives tree setting files (setting.valueIn .standard)

theorem gives_findSome? (tree : FileTree) {α : Type} (setting : Setting α) (files : List String) :
    Gives tree setting files (((files.map (layerAt tree)).findSome? setting.ofLayer).getD
      (setting.valueIn .standard)) := by
  rw [List.findSome?_map]
  cases found : files.findSome? (setting.ofLayer ∘ layerAt tree) with
  | none => exact .standard (List.findSome?_eq_none_iff.mp found)
  | some value =>
      obtain ⟨stronger, path, weaker, rfl, set, unset⟩ := List.findSome?_eq_some_iff.mp found
      exact .first unset set

theorem value_of_load {configuration : Configuration}
    (loaded : load tree home directory = .ok configuration) {α : Type} (setting : Setting α) :
    setting.valueIn configuration.settings =
      (((discover tree home directory).map (layerAt tree)).findSome? setting.ofLayer).getD
        (setting.valueIn .standard) := by
  obtain ⟨_, rfl⟩ := load_eq_ok_iff.mp loaded
  rw [ofLayers, Setting.valueIn_ofLayers, List.map_map]
  rfl

end Loading

/-! ## What is beyond a root -/

section Beyond

variable {tree other : FileTree} {home otherHome : FilePath} {directory : String}

/-- Two trees hold the same at a written path. -/
def SameAt (tree other : FileTree) (path : String) : Prop :=
  tree.hasFileAt .openStart path = other.hasFileAt .openStart path ∧
    textAt tree path = textAt other path

theorem SameAt.isRoot_eq {path : String} (same : SameAt tree other path) :
    isRoot tree path = isRoot other path := by
  rw [isRoot, isRoot, same.2]

theorem exists_textAt {path : String} (usable : fault? tree path = none) :
    ∃ text, textAt tree path = .ok text := by
  cases found : textAt tree path with
  | error why => simp [fault?, found] at usable
  | ok text => exact ⟨text, rfl⟩

theorem hasFileAt_of_textAt {path text : String} (readable : textAt tree path = .ok text) :
    tree.hasFileAt .openStart path = true := by
  obtain ⟨place, found, contents⟩ := bind_eq_ok_iff.mp readable
  rw [FileTree.hasFileAt, found]
  unfold FileTree.read at contents
  split at contents
  case h_5 entry => simp [FileTree.isFile, entry]
  all_goals contradiction

theorem mem_of_mem_upToRoot {paths : List String} {path : String}
    (member : path ∈ (upToRoot tree paths).1) :
    path ∈ paths ∧ tree.hasFileAt .openStart path = true := by
  rw [← List.mem_filter]
  rcases upToRoot_cases tree paths with
    ⟨nearer, root, beyond, split, _, _, walked⟩ | ⟨_, walked⟩
  · rw [walked] at member
    rw [split, List.append_cons]
    exact List.mem_append_left _ member
  · rwa [walked] at member

theorem upToRoot_congr {paths : List String} (same : ∀ path ∈ paths, SameAt tree other path) :
    upToRoot tree paths = upToRoot other paths := by
  induction paths with
  | nil => rfl
  | cons path rest ih =>
      obtain ⟨first, later⟩ := List.forall_mem_cons.mp same
      rw [upToRoot, upToRoot, first.1, first.isRoot_eq, ih later]

theorem upToRoot_append_root {nearer beyond : List String} {root : String}
    (declares : DeclaresRoot tree root) :
    upToRoot tree (nearer ++ root :: beyond) = ((upToRoot tree (nearer ++ [root])).1, true) := by
  induction nearer with
  | nil =>
      obtain ⟨text, readable⟩ := exists_textAt declares.1
      have file := hasFileAt_of_textAt readable
      simp [upToRoot, file, isRoot_iff.mpr declares]
  | cons path rest ih =>
      rw [List.cons_append, List.cons_append, upToRoot, upToRoot, ih]
      split
      · split <;> rfl
      · rfl

theorem discover_of_root {nearer beyond : List String} {root : String}
    (split : candidates directory = nearer ++ root :: beyond) (declares : DeclaresRoot tree root) :
    discover tree home directory = (upToRoot tree (nearer ++ [root])).1 := by
  rw [discover, split, upToRoot_append_root declares]
  exact if_pos (.inl rfl)

/-- Whatever stands beyond a root or at home, the configuration is the same. -/
theorem load_of_root {nearer beyond : List String} {root : String}
    (split : candidates directory = nearer ++ root :: beyond) (declares : DeclaresRoot tree root)
    (same : ∀ path ∈ nearer ++ [root], SameAt tree other path) :
    load other otherHome directory = load tree home directory := by
  have shared := same root (List.mem_append_right _ List.mem_cons_self)
  have declaresThere : DeclaresRoot other root := by
    rw [← isRoot_iff, ← shared.isRoot_eq]
    exact isRoot_iff.mpr declares
  rw [load, load, discover_of_root split declares, discover_of_root split declaresThere,
    ← upToRoot_congr same]
  refine congrArg ofFiles (List.map_congr_left fun path member => ?_)
  rw [(same path (mem_of_mem_upToRoot member).1).2]

end Beyond

end Configuration

open Winnow.Configuration in
/-- What is loaded for a directory, from its settings files and those of its ancestors and of the
    home directory. -/
theorem configuration_in_force (tree : FileTree) (home directory : String)
    (absolute : FilePath.IsAbsolute directory) :
    let files := discover tree (.ofText home) directory
    -- The files are those of the directory and its ancestors, up to the nearest root, or else
    -- the one in the home directory after them.
    (candidates directory).map FilePath.ofText =
        (FilePath.ofText directory).upward.map (·.child fileName) ∧
      (".." ∉ (FilePath.ofText directory).names → ∀ path ∈ candidates directory, ∀ place,
        tree.resolve .openStart path = .ok place → place = FilePath.ofText path) ∧
      InForce tree (.ofText home) (filesAbove tree directory) files ∧
      (files.map FilePath.ofText).Nodup ∧
      -- The first that can't be used is the error, and else each setting has its first value.
      (∀ usable path rest error, files = usable ++ path :: rest →
        (∀ other ∈ usable, fault? tree other = none) → fault? tree path = some error →
        load tree (.ofText home) directory = .error error) ∧
      ((∀ path ∈ files, fault? tree path = none) →
        ∃ configuration, load tree (.ofText home) directory = .ok configuration ∧
          configuration.sources = files ∧
          ∀ {α : Type} (setting : Setting α),
            Gives tree setting files (setting.valueIn configuration.settings)) ∧
      -- What stands beyond a root does not count, and what can't be used is none.
      (∀ nearer root beyond, candidates directory = nearer ++ root :: beyond →
        DeclaresRoot tree root → ∀ other otherHome,
        (∀ path ∈ nearer ++ [root], SameAt tree other path) →
        load other otherHome directory = load tree (.ofText home) directory) ∧
      ∀ path error, fault? tree path = some error → isRoot tree path = false := by
  intro files
  have inForce := inForce_discover tree (.ofText home) directory
  refine ⟨map_ofText_candidates absolute, ?_, inForce, inForce.nodup (filesAbove_nodup absolute),
    ?_, ?_, ?_, ?_⟩
  · intro forward path member place found
    exact resolve_candidate absolute forward member found
  · intro usable path rest error split before faulty
    refine load_eq_error_iff.mpr (List.findSome?_eq_some_iff.mpr ?_)
    exact ⟨usable, path, rest, split, faulty, before⟩
  · intro usable
    have loaded := load_eq_ok_iff.mpr ⟨usable, rfl⟩
    refine ⟨_, loaded, ?_, fun setting => ?_⟩
    · simp [ofLayers, files, Function.comp_def]
    · rw [value_of_load loaded]
      exact gives_findSome? tree setting files
  · intro nearer root beyond split declares other otherHome same
    exact load_of_root split declares same
  · intro path error faulty
    rw [Bool.eq_false_iff]
    intro root
    simp [(isRoot_iff.mp root).1] at faulty

/-- A project with a root, in a directory whose settings can't be used. -/
def rootedProject : FileTree :=
  ⟨[(⟨true, [".esq.toml"]⟩, .text "root ="),
    (⟨true, ["p", ".esq.toml"]⟩, .text "root = true\n[search]\npage_size = 9\nsort = 'age'\n"),
    (⟨true, ["p", "u", ".esq.toml"]⟩, .text "[search]\npage_size = 3\n"),
    (⟨true, ["h", ".esq.toml"]⟩, .text "[search]\npage_size = 1\n")]⟩

open Winnow.Configuration in
/-- The broken file is beyond the root. -/
theorem rooted_project_in_force :
    fault? rootedProject "/.esq.toml" = some (.refused "/.esq.toml" .malformed) ∧
      ∃ configuration, load rootedProject (.ofText "/h") "/p/u" = .ok configuration ∧
        configuration.sources = ["/p/u/.esq.toml", "/p/.esq.toml"] ∧
        configuration.settings = ⟨⟨false, false⟩, ⟨3, ["age"]⟩, ⟨1000, "key"⟩⟩ := by
  have files : discover rootedProject (.ofText "/h") "/p/u" =
      ["/p/u/.esq.toml", "/p/.esq.toml"] := by decide +kernel
  have usable : ∀ path ∈ discover rootedProject (.ofText "/h") "/p/u",
      fault? rootedProject path = none := by
    rw [files]
    decide +kernel
  have values : (load rootedProject (.ofText "/h") "/p/u").toOption.map (·.settings) =
      some ⟨⟨false, false⟩, ⟨3, ["age"]⟩, ⟨1000, "key"⟩⟩ := by decide +kernel
  obtain ⟨_, _, _, _, _, succeeds, _, _⟩ :=
    configuration_in_force rootedProject "/h" "/p/u" (by decide)
  obtain ⟨configuration, loaded, sources, _⟩ := succeeds usable
  rw [loaded] at values
  exact ⟨by decide +kernel, configuration, loaded, sources.trans files, Option.some.inj values⟩

end Winnow
