import Winnow.Proofs.Discovery
import Winnow.Proofs.Interleaving
import Winnow.Proofs.SettingsText

/-! # Precedence of layers

The settings of several layers are made by overriding, from the weakest layer to the strongest. What
comes of it is said from the other end: a setting has the value of the first layer that sets it. So
a layer that sets nothing can stand anywhere, a layer that stands again behind itself says nothing
new, and layers at the end can be put together into one.
-/

namespace Winnow

namespace Settings

theorem valueIn_ofLayers_append {α : Type} (setting : Setting α)
    (stronger weaker : List SettingsLayer) :
    setting.valueIn (ofLayers (stronger ++ weaker)) =
      (stronger.findSome? setting.ofLayer).getD (setting.valueIn (ofLayers weaker)) := by
  rw [setting.valueIn_ofLayers, setting.valueIn_ofLayers, List.findSome?_append]
  cases stronger.findSome? setting.ofLayer <;> rfl

end Settings

/-! ## Layers that set nothing -/

/-- The sections of the layer are missing or empty. Whether it is a root does not matter. -/
structure SettingsLayer.Silent (layer : SettingsLayer) : Prop where
  filters : ∀ part ∈ layer.filters, part = .empty
  search : ∀ part ∈ layer.search, part = .empty
  aggregation : ∀ part ∈ layer.aggregation, part = .empty

namespace SettingsLayer

variable {layer : SettingsLayer}

theorem silent_iff :
    layer.Silent ↔ ∀ {α : Type} (setting : Setting α), setting.ofLayer layer = none := by
  obtain ⟨_, filters, search, aggregation⟩ := layer
  constructor
  · rintro ⟨noFilters, noSearch, noAggregation⟩ α setting
    cases setting with
    | asOr | valuesAsOr =>
        refine Option.bind_eq_none_iff.mpr fun part given => ?_
        rw [noFilters part given]
        rfl
    | pageSize | sort =>
        refine Option.bind_eq_none_iff.mpr fun part given => ?_
        rw [noSearch part given]
        rfl
    | size | key =>
        refine Option.bind_eq_none_iff.mpr fun part given => ?_
        rw [noAggregation part given]
        rfl
  · intro unset
    refine ⟨?_, ?_, ?_⟩
    · rintro ⟨asOr, valuesAsOr⟩ ⟨⟩
      obtain rfl : asOr = none := unset .asOr
      obtain rfl : valuesAsOr = none := unset .valuesAsOr
      rfl
    · rintro ⟨pageSize, sort⟩ ⟨⟩
      obtain rfl : pageSize = none := unset .pageSize
      obtain rfl : sort = none := unset .sort
      rfl
    · rintro ⟨size, key⟩ ⟨⟩
      obtain rfl : size = none := unset .size
      obtain rfl : key = none := unset .key
      rfl

theorem Silent.override_eq (silent : layer.Silent) (settings : Settings) :
    layer.override settings = settings := by
  apply Setting.ext
  intro α setting
  rw [setting.valueIn_override, silent_iff.mp silent setting, Option.getD_none]

end SettingsLayer

namespace Settings

/-- Layers that set nothing may stand anywhere between the others. -/
theorem ofLayers_of_interleaved {layers silent mixed : List SettingsLayer}
    (interleaved : Interleaves layers silent mixed) (each : ∀ layer ∈ silent, layer.Silent) :
    ofLayers mixed = ofLayers layers := by
  induction interleaved with
  | nil => rfl
  | @left layer _ _ _ _ ih => exact congrArg layer.override (ih each)
  | @right layer _ _ all _ ih =>
      obtain ⟨here, later⟩ := List.forall_mem_cons.mp each
      exact (here.override_eq (ofLayers all)).trans (ih later)

/-! ## Layers that stand again, or for others -/

theorem ofLayers_repeated (before between after : List SettingsLayer) (layer : SettingsLayer) :
    ofLayers (before ++ layer :: between ++ layer :: after) =
      ofLayers (before ++ layer :: between ++ after) := by
  apply Setting.ext
  intro α setting
  have again : setting.valueIn (ofLayers (layer :: after)) =
      (setting.ofLayer layer).getD (setting.valueIn (ofLayers after)) :=
    setting.valueIn_override layer (ofLayers after)
  rw [valueIn_ofLayers_append, valueIn_ofLayers_append, again]
  cases set : setting.ofLayer layer with
  | none => rw [Option.getD_none]
  | some value =>
      -- Where it stands first it is reached unless a stronger layer was.
      have reached : ((before ++ layer :: between).findSome? setting.ofLayer).isSome := by
        rw [List.findSome?_isSome_iff]
        exact ⟨layer, by simp, by rw [set]; rfl⟩
      obtain ⟨found, first⟩ := Option.isSome_iff_exists.mp reached
      rw [first, Option.getD_some, Option.getD_some]

theorem ofLayers_condensed {stronger weaker : List SettingsLayer} {whole : SettingsLayer}
    (sets : ∀ {α : Type} (setting : Setting α),
      setting.ofLayer whole = some (setting.valueIn (ofLayers weaker))) :
    ofLayers (stronger ++ [whole]) = ofLayers (stronger ++ weaker) := by
  apply Setting.ext
  intro α setting
  have single : setting.valueIn (ofLayers [whole]) = setting.valueIn (ofLayers weaker) := by
    rw [setting.valueIn_ofLayers, List.findSome?_singleton, sets, Option.getD_some]
  rw [valueIn_ofLayers_append, valueIn_ofLayers_append, single]

theorem ofLayer_layer (settings : Settings) {α : Type} (setting : Setting α) :
    setting.ofLayer settings.layer = some (setting.valueIn settings) := by
  cases setting <;> rfl

end Settings

open Winnow.Configuration in
/-- Each setting of some files has the value of the first file that sets it, or else the standard
    one. Files set nothing exactly if their sections are missing or empty, and such files may stand
    anywhere between the others. A layer that stands again behind itself, in any file, changes
    nothing. A file that sets everything as the last files do can take their place, and there is a
    layer for such a file. -/
theorem settings_by_precedence :
    (∀ (files : List (String × SettingsLayer)) {α : Type} (setting : Setting α),
      setting.valueIn (ofLayers files).settings =
        (files.findSome? fun file => setting.ofLayer file.2).getD (setting.valueIn .standard)) ∧
    (∀ layer : SettingsLayer,
      layer.Silent ↔ ∀ {α : Type} (setting : Setting α), setting.ofLayer layer = none) ∧
    (∀ files silent mixed : List (String × SettingsLayer), Interleaves files silent mixed →
      (∀ file ∈ silent, file.2.Silent) →
      (ofLayers mixed).settings = (ofLayers files).settings) ∧
    (∀ (before between after : List (String × SettingsLayer)) (path again : String)
      (layer : SettingsLayer),
      (ofLayers (before ++ (path, layer) :: between ++ (again, layer) :: after)).settings =
        (ofLayers (before ++ (path, layer) :: between ++ after)).settings) ∧
    (∀ (stronger weaker : List (String × SettingsLayer)) (whole : String × SettingsLayer),
      (∀ {α : Type} (setting : Setting α),
        setting.ofLayer whole.2 = some (setting.valueIn (ofLayers weaker).settings)) →
      (ofLayers (stronger ++ weaker)).settings = (ofLayers (stronger ++ [whole])).settings) ∧
    ∀ (settings : Settings) {α : Type} (setting : Setting α),
      setting.ofLayer settings.layer = some (setting.valueIn settings) := by
  refine ⟨fun files α setting => ?_, fun layer => SettingsLayer.silent_iff, ?_, ?_, ?_,
    Settings.ofLayer_layer⟩
  · rw [ofLayers, setting.valueIn_ofLayers, List.findSome?_map]
    rfl
  · intro files silent mixed interleaved each
    refine Settings.ofLayers_of_interleaved (interleaved.map (·.2)) fun layer member => ?_
    obtain ⟨file, inside, rfl⟩ := List.mem_map.mp member
    exact each file inside
  · intro before between after path again layer
    simpa [ofLayers] using Settings.ofLayers_repeated (before.map (·.2)) (between.map (·.2))
      (after.map (·.2)) layer
  · intro stronger weaker whole sets
    simpa [ofLayers] using (@Settings.ofLayers_condensed (stronger.map (·.2)) _ _ sets).symm

/-- An empty sort order in front of another. -/
def sortedFiles : List (String × SettingsLayer) :=
  [("/a/b/.esq.toml", ⟨none, none, some ⟨none, some []⟩, none⟩),
    ("/a/.esq.toml", ⟨none, none, some ⟨some 5, some ["id"]⟩, some ⟨none, some "bucket"⟩⟩)]

open Winnow.Configuration in
/-- The empty order prevails, whether a root without settings stands in front of it, the first file
    stands again at the end, or a file with all settings takes the place of the second. -/
theorem empty_sort_prevails :
    (ofLayers sortedFiles).settings = ⟨⟨false, false⟩, ⟨5, []⟩, ⟨1000, "bucket"⟩⟩ ∧
    (ofLayers (("/.esq.toml", ⟨some true, some .empty, none, none⟩) :: sortedFiles)).settings =
      (ofLayers sortedFiles).settings ∧
    (ofLayers (sortedFiles ++ [("/.esq.toml", ⟨none, none, some ⟨none, some []⟩, none⟩)])).settings =
      (ofLayers sortedFiles).settings ∧
    (ofLayers sortedFiles).settings =
      (ofLayers (sortedFiles.take 1 ++
        [("/.esq.toml", (ofLayers (sortedFiles.drop 1)).settings.layer)])).settings := by
  obtain ⟨_, silentIff, interleaved, repeated, condensed, whole⟩ := settings_by_precedence
  refine ⟨rfl, ?_, ?_, ?_⟩
  · apply interleaved sortedFiles _ _ (.right (.left (.left .nil)))
    rw [List.forall_mem_singleton, silentIff]
    intro α setting
    cases setting <;> rfl
  · exact repeated [] (sortedFiles.drop 1) [] "/a/b/.esq.toml" "/.esq.toml" _
  · exact condensed (sortedFiles.take 1) (sortedFiles.drop 1) _ (whole _)

end Winnow
