import Winnow.CommandLine.Run
import Winnow.Proofs.Discovery

/-! # The range of counts

Every count that is read has at most 64 bits, whether it stands on the command line or in a
settings file. So has every count that a command runs with.
-/

namespace Winnow

theorem Digits.parseWord?_lt {s : String} {n : Nat} (read : parseWord? s = some n) :
    n < wordLimit := by
  simp only [parseWord?, Option.ite_none_right_eq_some, Option.some.injEq] at read
  obtain ⟨⟨_, _, bounded⟩, rfl⟩ := read
  exact bounded

namespace Toml

theorem asCount_lt {value : Toml} {n : Nat} (read : value.asCount = .ok n) : n < wordLimit := by
  cases value with
  | integer m =>
      simp only [asCount] at read
      split at read
      · next bounded =>
        obtain rfl := Except.ok.inj read
        omega
      · split at read <;> cases read
  | _ => cases read

/-- What holds of a section without keys, and is kept by each key, holds of every section. -/
theorem asSection_keeps {σ : Type} {Keeps : σ → Prop}
    {set : σ → String → Toml → Except ShapeError σ}
    (single : ∀ draft key value next, Keeps draft → set draft key value = .ok next → Keeps next)
    {fields : List String} {start last : σ} (first : Keeps start) {value : Toml}
    (read : asSection fields set start value = .ok last) : Keeps last := by
  have each : ∀ draft (entry : String × Toml) next, Keeps draft →
      set draft entry.1 entry.2 = .ok next → Keeps next :=
    fun draft entry next => single draft entry.1 entry.2 next
  cases value with
  | table entries => exact foldlM_keeps each first read
  | array items => exact foldlM_keeps each first read
  | _ => cases read

theorem asSection_count_lt {σ : Type} {count : σ → Option Nat}
    {set : σ → String → Toml → Except ShapeError σ}
    (single : ∀ draft key value next, set draft key value = .ok next →
      count next = count draft ∨ ∃ n, value.asCount = .ok n ∧ count next = some n)
    {fields : List String} {start last : σ} (unset : count start = none) {value : Toml}
    (read : asSection fields set start value = .ok last) : ∀ n ∈ count last, n < wordLimit := by
  refine @asSection_keeps σ (fun draft => ∀ n ∈ count draft, n < wordLimit) set
    (fun draft key value next kept done => ?_) fields start last (by simp [unset]) value read
  rcases single draft key value next done with same | ⟨n, counted, same⟩
  · rwa [same]
  · rw [same]
    rintro _ ⟨⟩
    exact asCount_lt counted

end Toml

theorem getD_lt_wordLimit {asked : Option Nat} {otherwise : Nat} (usual : otherwise < wordLimit)
    (each : ∀ n ∈ asked, n < wordLimit) : asked.getD otherwise < wordLimit := by
  cases asked with
  | none => exact usual
  | some n => exact each n rfl

/-! ## Settings files -/

/-- The counts that a layer sets have 64 bits. -/
structure SettingsLayer.Fits (layer : SettingsLayer) : Prop where
  pageSize : ∀ n ∈ layer.pageSize, n < wordLimit
  size : ∀ n ∈ layer.size, n < wordLimit

theorem SearchLayer.pageSize_lt {value : Toml} {layer : SearchLayer}
    (read : ofToml value = .ok layer) : ∀ n ∈ layer.pageSize, n < wordLimit := by
  refine @Toml.asSection_count_lt SearchLayer (·.pageSize) set
    (fun draft key value next done => ?_) keys empty layer rfl value read
  unfold set at done
  split at done
  · obtain ⟨n, counted, same⟩ := bind_eq_ok_iff.mp done
    cases same
    exact .inr ⟨n, counted, rfl⟩
  · split at done
    · obtain ⟨_, _, same⟩ := bind_eq_ok_iff.mp done
      cases same
      exact .inl rfl
    · cases done

theorem AggregationLayer.size_lt {value : Toml} {layer : AggregationLayer}
    (read : ofToml value = .ok layer) : ∀ n ∈ layer.size, n < wordLimit := by
  refine @Toml.asSection_count_lt AggregationLayer (·.size) set
    (fun draft key value next done => ?_) keys empty layer rfl value read
  unfold set at done
  split at done
  · obtain ⟨n, counted, same⟩ := bind_eq_ok_iff.mp done
    cases same
    exact .inr ⟨n, counted, rfl⟩
  · split at done
    · obtain ⟨_, _, same⟩ := bind_eq_ok_iff.mp done
      cases same
      exact .inl rfl
    · cases done

namespace SettingsLayer

theorem empty_fits : empty.Fits :=
  ⟨nofun, nofun⟩

theorem ofToml_fits {value : Toml} {layer : SettingsLayer} (read : ofToml value = .ok layer) :
    layer.Fits := by
  refine Toml.asSection_keeps (fun draft key value next kept done => ?_) empty_fits read
  unfold set at done
  split at done
  · obtain ⟨_, _, same⟩ := bind_eq_ok_iff.mp done
    cases same
    exact ⟨kept.pageSize, kept.size⟩
  split at done
  · obtain ⟨_, _, same⟩ := bind_eq_ok_iff.mp done
    cases same
    exact ⟨kept.pageSize, kept.size⟩
  split at done
  · obtain ⟨_, search, same⟩ := bind_eq_ok_iff.mp done
    cases same
    exact ⟨SearchLayer.pageSize_lt search, kept.size⟩
  split at done
  · obtain ⟨_, aggregation, same⟩ := bind_eq_ok_iff.mp done
    cases same
    exact ⟨kept.pageSize, AggregationLayer.size_lt aggregation⟩
  · cases done

theorem parse_fits {text : String} {layer : SettingsLayer} (read : parse text = .ok layer) :
    layer.Fits := by
  unfold parse at read
  split at read
  · cases read
  · split at read
    · next given =>
      cases read
      exact ofToml_fits given
    · cases read

end SettingsLayer

/-! ## Commands -/

/-- The counts that commands take from settings have 64 bits. -/
structure Settings.Fits (settings : Settings) : Prop where
  pageSize : settings.search.pageSize < wordLimit
  size : settings.aggregation.size < wordLimit

namespace Settings

theorem standard_fits : standard.Fits :=
  ⟨by decide, by decide⟩

theorem override_fits {layer : SettingsLayer} {settings : Settings} (own : layer.Fits)
    (before : settings.Fits) : (layer.override settings).Fits where
  pageSize :=
    (Setting.pageSize.valueIn_override layer settings).trans_lt
      (getD_lt_wordLimit before.pageSize own.pageSize)
  size :=
    (Setting.size.valueIn_override layer settings).trans_lt
      (getD_lt_wordLimit before.size own.size)

theorem ofLayers_fits {layers : List SettingsLayer} (each : ∀ layer ∈ layers, layer.Fits) :
    (ofLayers layers).Fits := by
  induction layers with
  | nil => exact standard_fits
  | cons layer rest ih =>
      obtain ⟨own, others⟩ := List.forall_mem_cons.mp each
      exact override_fits own (ih others)

end Settings

namespace Configuration

theorem layerAt_fits (tree : FileTree) (path : String) : (layerAt tree path).Fits := by
  unfold layerAt
  split
  · exact SettingsLayer.empty_fits
  · split
    · exact SettingsLayer.empty_fits
    · next read => exact SettingsLayer.parse_fits read

theorem load_fits {tree : FileTree} {home : FilePath} {directory : String}
    {configuration : Configuration} (loaded : load tree home directory = .ok configuration) :
    configuration.settings.Fits := by
  obtain ⟨_, rfl⟩ := load_eq_ok_iff.mp loaded
  refine Settings.ofLayers_fits fun layer member => ?_
  rw [List.map_map] at member
  obtain ⟨path, _, rfl⟩ := List.mem_map.mp member
  exact layerAt_fits tree path

end Configuration

namespace Command

theorem settings_fits {place : Surroundings} {command : Command} {settings : Settings}
    (loaded : command.settings place = .ok settings) : settings.Fits := by
  cases command with
  | init inHome force =>
      cases loaded
      exact Settings.standard_fits
  | _ =>
      obtain ⟨configuration, found, rfl⟩ := map_eq_ok_iff.mp loaded
      exact Configuration.load_fits found

/-- The number of hits or buckets that a command asks for. -/
def size? : Command → Option Nat
  | search _ _ _ size _ => size
  | aggregate _ _ _ _ _ size => size
  | compile _ | init _ _ | check | config => none

theorem countOf_lt (given : Given) (name : String) : ∀ n ∈ countOf given name, n < wordLimit := by
  intro n found
  obtain ⟨written, _, read⟩ := Option.bind_eq_some_iff.mp found
  exact Digits.parseWord?_lt read

theorem size_lt_of_read {words : List String} {invocation : Invocation}
    (read : Invocation.read words = .ok invocation) :
    ∀ n ∈ invocation.command.size?, n < wordLimit := by
  obtain ⟨⟨front, rest⟩, _, read⟩ := bind_eq_ok_iff.mp read
  cases rest with
  | nil => cases read
  | cons word rest =>
      dsimp only at read
      split at read
      · cases read
      · next name _ =>
        obtain ⟨behind, _, same⟩ := bind_eq_ok_iff.mp read
        cases same
        cases name with
        | search | aggregate => exact countOf_lt behind "size"
        | compile | init | check | config => exact nofun

end Command

end Winnow
