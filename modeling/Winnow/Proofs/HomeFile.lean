import Winnow.Proofs.Discovery

/-! # The rank of the home directory

The settings file of the home directory comes after all others but those of the directories above
it. These come after it when the walk meets it and goes on, and then it overrides them. To all
others it gives way.
-/

namespace Winnow

namespace Configuration

section HomeFile

variable {tree : FileTree} {home directory : String}

/-- The settings files of the directories above a directory, nearest first. -/
def filesOver (place : FilePath) : List FilePath :=
  place.above.map (·.child fileName)

theorem length_lt_of_mem_filesOver {place path : FilePath} (member : path ∈ filesOver place) :
    path.parent.names.length < place.names.length := by
  obtain ⟨upper, above, rfl⟩ := List.mem_map.mp member
  rw [FilePath.parent_child]
  exact FilePath.length_lt_of_mem_above above

theorem filesAbove_pairwise (tree : FileTree) (absolute : FilePath.IsAbsolute directory) :
    (filesAbove tree directory).Pairwise fun near far =>
      FilePath.ofText far ∈ filesOver (FilePath.ofText near).parent := by
  have ordered : ((candidates directory).map FilePath.ofText).Pairwise fun near far =>
      far ∈ filesOver near.parent := by
    rw [map_ofText_candidates absolute, List.pairwise_map]
    refine (FilePath.upward_pairwise _).imp fun above => ?_
    rw [FilePath.parent_child]
    exact List.mem_map_of_mem above
  exact (List.pairwise_map.mp ordered).filter _

theorem isAbsolute_of_met (absolute : FilePath.IsAbsolute directory ∨ FilePath.IsAbsolute home)
    (met : homeFile (.ofText home) ∈ (filesAbove tree directory).map FilePath.ofText) :
    FilePath.IsAbsolute directory := by
  rcases absolute with there | fromRoot
  · exact there
  · obtain ⟨path, member, same⟩ := List.mem_map.mp met
    refine (isAbsolute_iff_of_mem_candidates (List.mem_filter.mp member).1).mp ?_
    rw [← FilePath.fromRoot_ofText, same]
    exact fromRoot.fromRoot

theorem mem_of_append_singleton_eq {α : Type} {entries before after : List α} {last entry : α}
    (split : entries ++ [last] = before ++ entry :: after) (nonempty : after ≠ []) :
    entry ∈ entries := by
  obtain ⟨middle, final, rfl⟩ := (List.eq_nil_or_concat' after).resolve_left nonempty
  have regrouped : entries ++ [last] = (before ++ entry :: middle) ++ [final] := by
    rw [split, List.append_assoc, List.cons_append]
  rw [(List.append_inj' regrouped rfl).1]
  exact List.mem_append_right _ List.mem_cons_self

section Position

variable {stronger weaker : List String} {path : String}

/-- What comes after the file of the home directory was met by the walk, as it was. -/
theorem InForce.met_of_weaker {above : List String}
    (inForce : InForce tree (.ofText home) above (stronger ++ path :: weaker))
    (own : FilePath.ofText path = homeFile (.ofText home)) (weak : weaker ≠ []) :
    ¬ DeclaresRoot tree path ∧ stronger ++ path :: weaker <+: above := by
  generalize split : stronger ++ path :: weaker = files at inForce
  cases inForce with
  | @root nearer root beyond whole before declares =>
      refine ⟨before path (mem_of_append_singleton_eq split.symm weak), beyond, ?_⟩
      rw [whole, List.append_assoc, List.singleton_append]
  | home _ _ unlisted =>
      refine absurd ?_ unlisted
      rw [← own]
      exact List.mem_map_of_mem (mem_of_append_singleton_eq split.symm weak)
  | above none _ =>
      refine ⟨none path (split ▸ ?_), List.prefix_rfl⟩
      exact List.mem_append_right _ List.mem_cons_self

theorem mem_filesOver_of_weaker
    (absolute : FilePath.IsAbsolute directory ∨ FilePath.IsAbsolute home)
    (split : discover tree (.ofText home) directory = stronger ++ path :: weaker)
    (own : FilePath.ofText path = homeFile (.ofText home)) {other : String}
    (member : other ∈ weaker) : FilePath.ofText other ∈ filesOver (.ofText home) := by
  have inForce := inForce_discover tree (.ofText home) directory
  rw [split] at inForce
  obtain ⟨_, walked⟩ := inForce.met_of_weaker own (List.ne_nil_of_mem member)
  have met : homeFile (.ofText home) ∈ (filesAbove tree directory).map FilePath.ofText := by
    rw [← own]
    exact List.mem_map_of_mem (walked.mem (by simp))
  have ordered := (filesAbove_pairwise tree (isAbsolute_of_met absolute met)).sublist walked.sublist
  have later := (List.pairwise_cons.mp (List.pairwise_append.mp ordered).2.1).1 other member
  rwa [own, homeFile, FilePath.parent_child] at later

theorem weaker_ne_nil_iff
    (absolute : FilePath.IsAbsolute directory ∨ FilePath.IsAbsolute home)
    (split : discover tree (.ofText home) directory = stronger ++ path :: weaker)
    (own : FilePath.ofText path = homeFile (.ofText home)) :
    weaker ≠ [] ↔ ¬ DeclaresRoot tree path ∧
      homeFile (.ofText home) ∈ (filesAbove tree directory).map FilePath.ofText ∧
      ∃ other ∈ filesAbove tree directory, FilePath.ofText other ∈ filesOver (.ofText home) := by
  have inForce := inForce_discover tree (.ofText home) directory
  rw [split] at inForce
  constructor
  · intro weak
    obtain ⟨goesOn, walked⟩ := inForce.met_of_weaker own weak
    obtain ⟨other, member⟩ := List.exists_mem_of_ne_nil weaker weak
    refine ⟨goesOn, ?_, other, walked.mem ?_, mem_filesOver_of_weaker absolute split own member⟩
    · rw [← own]
      exact List.mem_map_of_mem (walked.mem (by simp))
    · exact List.mem_append_right _ (List.mem_cons_of_mem _ member)
  · rintro ⟨goesOn, met, other, member, upper⟩ rfl
    generalize whole : stronger ++ [path] = files at inForce
    cases inForce with
    | root _ _ declares =>
        have same := (List.append_inj' whole rfl).2
        rw [List.singleton_inj.mp same] at goesOn
        exact goesOn declares
    | home _ _ unlisted => exact unlisted met
    | above _ _ =>
        -- The other file would stand before the one of the home directory, and so below it.
        have ordered := filesAbove_pairwise tree (isAbsolute_of_met absolute met)
        have lower := length_lt_of_mem_filesOver upper
        rw [← whole] at ordered member
        rcases List.mem_append.mp member with before | last
        · have higher := length_lt_of_mem_filesOver
            ((List.pairwise_append.mp ordered).2.2 other before path List.mem_cons_self)
          rw [own, homeFile, FilePath.parent_child] at higher
          omega
        · rw [List.mem_singleton.mp last, own, homeFile, FilePath.parent_child] at lower
          exact lt_irrefl _ lower

theorem findSome?_of_set {α : Type} {setting : Setting α} {files : List String}
    (set : ∃ other ∈ stronger, setting.ofLayer (layerAt tree other) ≠ none) :
    ((stronger ++ files).map (layerAt tree)).findSome? setting.ofLayer =
      (stronger.map (layerAt tree)).findSome? setting.ofLayer := by
  obtain ⟨other, member, sets⟩ := set
  rw [List.map_append, List.findSome?_append, Option.or_of_isSome]
  rw [List.findSome?_isSome_iff]
  exact ⟨_, List.mem_map_of_mem member, Option.isSome_iff_ne_none.mpr sets⟩

theorem findSome?_of_unset {α : Type} {setting : Setting α} {value : α}
    (unset : ∀ other ∈ stronger, setting.ofLayer (layerAt tree other) = none)
    (set : setting.ofLayer (layerAt tree path) = some value) :
    ((stronger ++ path :: weaker).map (layerAt tree)).findSome? setting.ofLayer = some value := by
  have none : (stronger.map (layerAt tree)).findSome? setting.ofLayer = none := by
    rw [List.findSome?_map]
    exact List.findSome?_eq_none_iff.mpr unset
  rw [List.map_append, List.findSome?_append, none, List.map_cons, List.findSome?_cons, set]
  rfl

end Position

end HomeFile

end Configuration

open Winnow.Configuration in
/-- Where the file of the home directory stands among the files in force, and what it gives way
    to. -/
theorem home_file_rank (tree : FileTree) (home directory : String)
    (absolute : FilePath.IsAbsolute directory ∨ FilePath.IsAbsolute home)
    {stronger weaker : List String} {path : String}
    (split : discover tree (.ofText home) directory = stronger ++ path :: weaker)
    (own : FilePath.ofText path = homeFile (.ofText home)) :
    -- Only files of the directories above the home directory come after it, and they do if the
    -- walk meets it and goes on to one of them.
    (∀ other ∈ weaker, FilePath.ofText other ∈ filesOver (.ofText home)) ∧
      (weaker ≠ [] ↔ ¬ DeclaresRoot tree path ∧
        homeFile (.ofText home) ∈ (filesAbove tree directory).map FilePath.ofText ∧
        ∃ other ∈ filesAbove tree directory, FilePath.ofText other ∈ filesOver (.ofText home)) ∧
      -- It gives way to the files before it, and overrides those after it.
      ∀ configuration, load tree (.ofText home) directory = .ok configuration →
        ∀ {α : Type} (setting : Setting α),
          ((∃ other ∈ stronger, setting.ofLayer (layerAt tree other) ≠ none) →
            Gives tree setting stronger (setting.valueIn configuration.settings)) ∧
          ∀ value, (∀ other ∈ stronger, setting.ofLayer (layerAt tree other) = none) →
            setting.ofLayer (layerAt tree path) = some value →
            setting.valueIn configuration.settings = value := by
  refine ⟨fun other member => mem_filesOver_of_weaker absolute split own member,
    weaker_ne_nil_iff absolute split own, ?_⟩
  intro configuration loaded α setting
  rw [value_of_load loaded, split]
  constructor
  · intro set
    rw [findSome?_of_set set]
    exact gives_findSome? tree setting stronger
  · intro value unset set
    rw [findSome?_of_unset unset set, Option.getD_some]

/-- A home directory below one with settings. -/
def sharedHome : FileTree :=
  ⟨[(⟨true, ["home", ".esq.toml"]⟩, .text "[search]\npage_size = 9\n"),
    (⟨true, ["home", "u", ".esq.toml"]⟩, .text "[search]\npage_size = 3\n")]⟩

open Winnow.Configuration in
/-- In the home directory its file is the strongest. -/
theorem shared_home_file_rank :
    FilePath.ofText "/home/.esq.toml" ∈ filesOver (.ofText "/home/u") ∧
      ∀ configuration, load sharedHome (.ofText "/home/u") "/home/u" = .ok configuration →
        configuration.settings.search.pageSize = 3 := by
  have split : discover sharedHome (.ofText "/home/u") "/home/u" =
      [] ++ "/home/u/.esq.toml" :: ["/home/.esq.toml"] := by decide +kernel
  obtain ⟨upper, _, overrides⟩ :=
    home_file_rank sharedHome "/home/u" "/home/u" (.inl (by decide)) split (by decide +kernel)
  refine ⟨upper _ List.mem_cons_self, fun configuration loaded => ?_⟩
  refine (overrides configuration loaded .pageSize).2 3 (by simp) ?_
  decide +kernel

open Winnow.Configuration in
/-- The file of the home directory is not the last, and overrides the one that is. -/
theorem shared_home_file_not_last :
    discover sharedHome (.ofText "/home/u") "/home/u" =
        ["/home/u/.esq.toml", "/home/.esq.toml"] ∧
      FilePath.ofText "/home/u/.esq.toml" = homeFile (.ofText "/home/u") ∧
      Setting.pageSize.ofLayer (layerAt sharedHome "/home/.esq.toml") = some 9 ∧
      (load sharedHome (.ofText "/home/u") "/home/u").toOption.map
        (·.settings.search.pageSize) = some 3 := by
  decide +kernel

end Winnow
