import Winnow.CommandLine.Run
import Winnow.Proofs.TomlValue

/-! # Printed settings

The text of settings is read as a document of three sections that set everything, so the settings
that a file with this text gives are those that were printed.
-/

namespace Winnow

namespace TomlText

/-! ## Statements -/

/-- A name that needs no quotes as a key. -/
def BareKey (name : String) : Prop :=
  name.toList ≠ [] ∧ name.toList.all isKeyChar = true

instance (name : String) : Decidable (BareKey name) :=
  inferInstanceAs (Decidable (_ ∧ _))

theorem BareKey.starts {name : String} (bare : BareKey name) :
    ∃ first more, name.toList = first :: more ∧ isKeyChar first = true := by
  obtain ⟨first, more, same⟩ := List.exists_cons_of_ne_nil bare.1
  exact ⟨first, more, same, List.all_eq_true.mp bare.2 first (same ▸ List.mem_cons_self)⟩

theorem keyPart_bare {name : String} {rest : List Char} (bare : BareKey name)
    (stops : Stops isKeyChar rest) : keyPart (name.toList ++ rest) = some (name, rest) := by
  have inside := List.all_eq_true.mp bare.2
  obtain ⟨first, more, same, own⟩ := bare.starts
  unfold keyPart
  split
  · next double =>
    rw [same] at double
    rw [(List.cons.inj double).1] at own
    cases own
  · next single =>
    rw [same] at single
    rw [(List.cons.inj single).1] at own
    cases own
  · rw [stops.takeWhile_run inside]
    split
    · next none => exact absurd none bare.1
    · rw [stops.dropWhile_run inside, String.ofList_toList]

theorem key_bare {name : String} {rest : List Char} (bare : BareKey name)
    (stops : Stops isKeyChar rest) (undotted : (skipSpace rest).head? ≠ some '.') :
    key (name.toList ++ rest) = some (([], name), skipSpace rest) := by
  have visible : skipSpace (name.toList ++ rest) = name.toList ++ rest := by
    obtain ⟨first, more, same, own⟩ := bare.starts
    rw [same]
    exact skipSpace_visible (visible_of own (by decide)) _
  have parts : ∀ fuel, keyParts (fuel + 1) (name.toList ++ rest) =
      some (([], name), skipSpace rest) := by
    intro fuel
    rw [keyParts, keyPart_bare bare stops]
    simp only
    split
    · next same => simp [same] at undotted
    · rfl
  rw [key, visible, parts]
  rfl

/-- A text is read as a statement in front of a line break. -/
structure States (written : List Char) (statement? : TomlStatement) : Prop where
  /-- The text starts with no space or line break. -/
  visible : ∃ first more, written = first :: more ∧ Visible first
  /-- The text is read up to the line break. -/
  read : ∀ rest, statement (written ++ '\n' :: rest) = some (statement?, '\n' :: rest)

/-- Lines that are empty or hold a statement each. -/
inductive Lines : List Char → List TomlStatement → Prop where
  | nil : Lines [] []
  /-- An empty line in front. -/
  | blank {s : List Char} {statements : List TomlStatement} (later : Lines s statements) :
      Lines ('\n' :: s) statements
  /-- A line with a statement in front. -/
  | line {written s : List Char} {first : TomlStatement} {statements : List TomlStatement}
      (states : States written first) (later : Lines s statements) :
      Lines (written ++ '\n' :: s) (first :: statements)

theorem statements_break (fuel : Nat) (s : List Char) :
    statements fuel ('\n' :: s) = statements fuel s := by
  cases fuel <;> rfl

theorem statements_of_lines {s : List Char} {found : List TomlStatement} (lines : Lines s found)
    {fuel : Nat} (enough : s.length < fuel) : statements fuel s = some found := by
  -- Only lines with a statement use up fuel, and each of them has a character at least.
  induction lines generalizing fuel with
  | nil =>
      obtain ⟨fuel, rfl⟩ := Nat.exists_eq_add_of_lt enough
      rfl
  | blank later ih =>
      rw [statements_break]
      exact ih (Nat.lt_of_succ_lt enough)
  | @line written s first found states later ih =>
      obtain ⟨c, more, rfl, visible⟩ := states.visible
      obtain ⟨fuel, rfl⟩ := Nat.exists_eq_add_of_lt enough
      have read := states.read s
      have others : statements ((c :: more ++ '\n' :: s).length + fuel) ('\n' :: s) =
          some found := by
        rw [statements_break]
        refine ih ?_
        simp only [List.length_append, List.length_cons]
        omega
      have next : skipSpace ('\n' :: s) = '\n' :: s := rfl
      rw [List.cons_append] at read others ⊢
      rw [statements, skipGap_visible visible]
      simp only [read, next]
      rw [if_pos (show atLineEnd ('\n' :: s) = true from rfl), others]
      rfl

theorem statement_header {s rest : List Char} {path : List String} {name : String}
    (single : s.head? ≠ some '[') (read : key s = some ((path, name), ']' :: rest)) :
    statement ('[' :: s) = some (.openTable path name, rest) := by
  unfold statement
  split
  · next same => simp [(List.cons.inj same).2] at single
  · next same =>
    rw [← (List.cons.inj same).2, read]
    rfl
  · next other => exact absurd rfl (other s)

theorem statement_entry {s behind rest : List Char} {name : List String × String} {v : Toml}
    (noHeader : s.head? ≠ some '[') (read : key s = some (name, '=' :: behind))
    (equals : value maxDepth (skipSpace behind) = some (v, rest)) :
    statement s = some (.assign name.1 name.2 v, rest) := by
  unfold statement
  split
  · simp at noHeader
  · simp at noHeader
  · have equalsSign : skipSpace ('=' :: behind) = '=' :: behind := rfl
    simp [entry, read, equalsSign, equals]

section Named

variable {name : String} (bare : BareKey name)

include bare

theorem BareKey.head?_ne (rest : List Char) : (name.toList ++ rest).head? ≠ some '[' := by
  obtain ⟨first, more, same, own⟩ := bare.starts
  rw [same]
  rintro ⟨⟩
  cases own

theorem states_header : States ('[' :: (name.toList ++ [']'])) (.openTable [] name) where
  visible := ⟨'[', _, rfl, by decide⟩
  read rest := by
    have stops : Stops isKeyChar (']' :: '\n' :: rest) := stops_cons.mpr (by decide)
    have read := key_bare bare stops (by simp [skipSpace, isSpace])
    rw [List.cons_append, List.append_assoc]
    exact statement_header (bare.head?_ne _) read

theorem states_entry {written : List Char} {v : Toml} (is : Written maxDepth written v) :
    States (name.toList ++ [' ', '=', ' '] ++ written) (.assign [] name v) where
  visible := by
    obtain ⟨first, more, same, own⟩ := bare.starts
    rw [same]
    exact ⟨first, _, rfl, visible_of own (by decide)⟩
  read rest := by
    have stops : Stops isKeyChar (' ' :: '=' :: ' ' :: (written ++ '\n' :: rest)) :=
      stops_cons.mpr (by decide)
    have read := key_bare bare stops (by simp [skipSpace, isSpace])
    have space : skipSpace (' ' :: (written ++ '\n' :: rest)) = written ++ '\n' :: rest := by
      obtain ⟨first, more, rfl, visible⟩ := is.visible
      exact (List.dropWhile_cons_of_pos rfl).trans (skipSpace_visible visible _)
    rw [List.append_assoc, List.append_assoc]
    refine statement_entry (bare.head?_ne _) read ?_
    rw [space]
    exact is.read ⟨'\n', rest, rfl, by decide⟩

theorem Lines.header {s : List Char} {found : List TomlStatement} (later : Lines s found) :
    Lines (TomlText.header name ++ s) (.openTable [] name :: found) := by
  have line := Lines.line (states_header bare) later
  simpa [TomlText.header] using line

theorem Lines.entry {written s : List Char} {v : Toml} {found : List TomlStatement}
    (is : Written maxDepth written v) (later : Lines s found) :
    Lines (TomlText.line name written ++ s) (.assign [] name v :: found) := by
  have line := Lines.line (states_entry bare is) later
  simpa [TomlText.line] using line

end Named

end TomlText

namespace Settings

open TomlText

/-- What the lines of printed settings state. -/
def statements (settings : Settings) : List TomlStatement :=
  [.openTable [] "filters",
    .assign [] "evaluate_as_or" (.boolean settings.filters.asOr),
    .assign [] "evaluate_values_as_or" (.boolean settings.filters.valuesAsOr),
    .openTable [] "search",
    .assign [] "page_size" (.integer settings.search.pageSize),
    .assign [] "sort" (.array (settings.search.sort.map .string)),
    .openTable [] "aggregation",
    .assign [] "size" (.integer settings.aggregation.size),
    .assign [] "key" (.string settings.aggregation.key)]

/-- The document of printed settings. -/
def document (settings : Settings) : List (String × Toml) :=
  [("filters", .table
      [("evaluate_as_or", .boolean settings.filters.asOr),
        ("evaluate_values_as_or", .boolean settings.filters.valuesAsOr)]),
    ("search", .table
      [("page_size", .integer settings.search.pageSize),
        ("sort", .array (settings.search.sort.map .string))]),
    ("aggregation", .table
      [("size", .integer settings.aggregation.size),
        ("key", .string settings.aggregation.key)])]

/-- A layer that sets everything. -/
def layer (settings : Settings) : SettingsLayer where
  isRoot := none
  filters := some ⟨some settings.filters.asOr, some settings.filters.valuesAsOr⟩
  search := some ⟨some settings.search.pageSize, some settings.search.sort⟩
  aggregation := some ⟨some settings.aggregation.size, some settings.aggregation.key⟩

variable (settings : Settings)

theorem lines_render : Lines settings.render settings.statements := by
  have sections : settings.render =
      header "filters" ++ (line "evaluate_as_or" (truth settings.filters.asOr) ++
        (line "evaluate_values_as_or" (truth settings.filters.valuesAsOr) ++
          '\n' :: (header "search" ++ (line "page_size" (Digits.text settings.search.pageSize) ++
            (line "sort" (quotedList settings.search.sort) ++
              '\n' :: (header "aggregation" ++
                (line "size" (Digits.text settings.aggregation.size) ++
                  (line "key" (quoted settings.aggregation.key) ++ [])))))))) := by
    simp only [render, List.append_assoc, List.cons_append, List.append_nil]
  rw [sections]
  refine .header (by decide) (.entry (by decide) (written_truth _ _)
    (.entry (by decide) (written_truth _ _) (.blank ?search)))
  refine .header (by decide) (.entry (by decide) (written_text _ _)
    (.entry (by decide) (written_quotedList _ _) (.blank ?aggregation)))
  exact .header (by decide) (.entry (by decide) (written_text _ _)
    (.entry (by decide) (written_quoted _ _) .nil))

theorem parse?_render : Toml.parse? (String.ofList settings.render) = some settings.document := by
  have read : TomlText.statements (settings.render.length + 1) settings.render =
      some settings.statements := statements_of_lines settings.lines_render (Nat.lt_succ_self _)
  have mark : skipMark settings.render = settings.render := rfl
  rw [Toml.parse?, String.toList_ofList, mark]
  simp only [read]
  rfl

theorem asCount_integer {n : Nat} (fits : n < wordLimit) :
    (Toml.integer n).asCount = .ok n := by
  have inside : (0 : Int) ≤ n ∧ (n : Int) < (wordLimit : Nat) := by omega
  rw [Toml.asCount, if_pos inside, Int.toNat_natCast]

theorem asStrings_array (texts : List String) :
    (Toml.array (texts.map .string)).asStrings = .ok texts := by
  have each : ∀ text ∈ texts, (Toml.string? ∘ Toml.string) text = some (id text) :=
    fun _ _ => rfl
  rw [Toml.asStrings, List.mapM_map, mapM_eq_some_map each, List.map_id]

theorem visit_cons {σ : Type} {set : σ → String → Toml → Except ShapeError σ}
    {draft next last : σ} {key : String} {value : Toml} {rest : List (String × Toml)}
    (here : set draft key value = .ok next)
    (later : rest.foldlM (fun draft (key, value) => set draft key value) next = .ok last) :
    ((key, value) :: rest).foldlM (fun draft (key, value) => set draft key value) draft =
      .ok last := by
  rw [List.foldlM_cons]
  show (set draft key value >>= _) = _
  rw [here]
  exact later

section Order

variable {first second third : String} {v₁ v₂ v₃ : Toml}

theorem byKey_pair (sorted : ¬ second < first) :
    Toml.byKey [(first, v₁), (second, v₂)] = [(first, v₁), (second, v₂)] := by
  simp only [Toml.byKey, Toml.insertByKey, List.foldr_cons, List.foldr_nil, if_neg sorted]

theorem byKey_swap (less : second < first) :
    Toml.byKey [(first, v₁), (second, v₂)] = [(second, v₂), (first, v₁)] := by
  simp only [Toml.byKey, Toml.insertByKey, List.foldr_cons, List.foldr_nil, if_pos less]

theorem byKey_rotate (less : third < first) (least : third < second)
    (sorted : ¬ second < first) :
    Toml.byKey [(first, v₁), (second, v₂), (third, v₃)] =
      [(third, v₃), (first, v₁), (second, v₂)] := by
  simp only [Toml.byKey, Toml.insertByKey, List.foldr_cons, List.foldr_nil, if_pos least,
    if_pos less, if_neg sorted]

end Order

theorem filters_ofToml (asOr valuesAsOr : Bool) :
    FilterLayer.ofToml (.table [("evaluate_as_or", .boolean asOr),
      ("evaluate_values_as_or", .boolean valuesAsOr)]) = .ok ⟨some asOr, some valuesAsOr⟩ := by
  rw [FilterLayer.ofToml, Toml.asSection, byKey_pair (by decide)]
  rfl

theorem search_ofToml {pageSize : Nat} (fits : pageSize < wordLimit) (sort : List String) :
    SearchLayer.ofToml (.table [("page_size", .integer pageSize),
      ("sort", .array (sort.map .string))]) = .ok ⟨some pageSize, some sort⟩ := by
  have first : SearchLayer.set .empty "page_size" (.integer pageSize) =
      .ok ⟨some pageSize, none⟩ := by
    rw [SearchLayer.set, if_pos rfl, asCount_integer fits]
    rfl
  have second : SearchLayer.set ⟨some pageSize, none⟩ "sort" (.array (sort.map .string)) =
      .ok ⟨some pageSize, some sort⟩ := by
    rw [SearchLayer.set, if_neg (by decide), if_pos rfl, asStrings_array]
    rfl
  rw [SearchLayer.ofToml, Toml.asSection, byKey_pair (by decide)]
  exact visit_cons first (visit_cons second rfl)

theorem aggregation_ofToml {size : Nat} (fits : size < wordLimit) (key : String) :
    AggregationLayer.ofToml (.table [("size", .integer size), ("key", .string key)]) =
      .ok ⟨some size, some key⟩ := by
  have first : AggregationLayer.set .empty "key" (.string key) = .ok ⟨none, some key⟩ := by
    rw [AggregationLayer.set, if_neg (by decide), if_pos rfl]
    rfl
  have second : AggregationLayer.set ⟨none, some key⟩ "size" (.integer size) =
      .ok ⟨some size, some key⟩ := by
    rw [AggregationLayer.set, if_pos rfl, asCount_integer fits]
    rfl
  rw [AggregationLayer.ofToml, Toml.asSection, byKey_swap (by decide)]
  exact visit_cons first (visit_cons second rfl)

variable {settings}

theorem ofToml_document (pageFits : settings.search.pageSize < wordLimit)
    (sizeFits : settings.aggregation.size < wordLimit) :
    SettingsLayer.ofToml (.table settings.document) = .ok settings.layer := by
  have aggregation : SettingsLayer.set .empty "aggregation"
      (.table [("size", .integer settings.aggregation.size),
        ("key", .string settings.aggregation.key)]) =
      .ok { SettingsLayer.empty with aggregation := settings.layer.aggregation } := by
    rw [SettingsLayer.set, if_neg (by decide), if_neg (by decide), if_neg (by decide), if_pos rfl,
      aggregation_ofToml sizeFits]
    rfl
  have filters : SettingsLayer.set
      { SettingsLayer.empty with aggregation := settings.layer.aggregation } "filters"
      (.table [("evaluate_as_or", .boolean settings.filters.asOr),
        ("evaluate_values_as_or", .boolean settings.filters.valuesAsOr)]) =
      .ok { settings.layer with search := none } := by
    rw [SettingsLayer.set, if_neg (by decide), if_pos rfl, filters_ofToml]
    rfl
  have search : SettingsLayer.set { settings.layer with search := none } "search"
      (.table [("page_size", .integer settings.search.pageSize),
        ("sort", .array (settings.search.sort.map .string))]) = .ok settings.layer := by
    rw [SettingsLayer.set, if_neg (by decide), if_neg (by decide), if_pos rfl,
      search_ofToml pageFits]
    rfl
  -- The sections are visited in the order of their names, not in the order of the text.
  rw [SettingsLayer.ofToml, Toml.asSection, document,
    byKey_rotate (by decide) (by decide) (by decide)]
  exact visit_cons aggregation (visit_cons filters (visit_cons search rfl))

theorem parse_eq_ok {text : String} {entries : List (String × Toml)} {layer : SettingsLayer}
    (parsed : Toml.parse? text = some entries)
    (made : SettingsLayer.ofToml (.table entries) = .ok layer) :
    SettingsLayer.parse text = .ok layer := by
  rw [SettingsLayer.parse, parsed]
  simp only [made]

theorem parse_render (pageFits : settings.search.pageSize < wordLimit)
    (sizeFits : settings.aggregation.size < wordLimit) :
    SettingsLayer.parse (String.ofList settings.render) = .ok settings.layer :=
  parse_eq_ok settings.parse?_render (ofToml_document pageFits sizeFits)

theorem ofLayers_layer : Settings.ofLayers [settings.layer] = settings := rfl

/-! ## The text that is printed -/

theorem trimEnd_append_break {s : List Char} {last : Char} (visible : isBlank last = false) :
    Text.trimEnd (s ++ [last, '\n']) = s ++ [last] := by
  have feed : isBlank '\n' = true := by decide
  simp [Text.trimEnd, visible, feed]

theorem quoted_ends (text : String) :
    ∃ front last, quoted text = front ++ [last] ∧ isBlank last = false := by
  rw [quoted]
  cases quoting text.toList with
  | basic => exact ⟨'"' :: escapedLine text.toList, '"', rfl, by decide⟩
  | literal => exact ⟨'\'' :: text.toList, '\'', rfl, by decide⟩
  | basicLines =>
      exact ⟨_, '"', (List.append_assoc _ ['"', '"'] ['"']).symm, by decide⟩
  | literalLines =>
      exact ⟨_, '\'', (List.append_assoc _ ['\'', '\''] ['\'']).symm, by decide⟩

/-- Nothing is trimmed from settings but the last line break, and that is printed again. -/
theorem print_render (settings : Settings) :
    DocumentFormat.toml.print none (String.ofList settings.render) =
      String.ofList settings.render := by
  obtain ⟨front, last, same, visible⟩ := quoted_ends settings.aggregation.key
  obtain ⟨body, written⟩ : ∃ body, settings.render = body ++ [last, '\n'] := by
    simp only [render, TomlText.line, same, List.append_assoc, List.cons_append, List.nil_append]
    simp only [← List.append_assoc, ← List.cons_append]
    exact ⟨_, rfl⟩
  rw [DocumentFormat.print, String.toList_ofList, written, trimEnd_append_break visible]
  show String.ofList (body ++ [last]) ++ String.ofList ['\n'] = _
  rw [← String.ofList_append, List.append_assoc]
  rfl

end Settings

/-- The text of settings can be read, and the settings of a file with this text are those that
    were printed. So are the settings of a file with the text that the command prints. -/
theorem settings_of_printed (settings : Settings)
    (pageFits : settings.search.pageSize < wordLimit)
    (sizeFits : settings.aggregation.size < wordLimit) :
    (∃ layer, SettingsLayer.parse (String.ofList settings.render) = .ok layer ∧
      Settings.ofLayers [layer] = settings) ∧
    ∀ place, ∃ layer,
      SettingsLayer.parse (Command.runWith place none settings .config).stdout = .ok layer ∧
        Settings.ofLayers [layer] = settings := by
  have read := Settings.parse_render pageFits sizeFits
  refine ⟨⟨_, read, Settings.ofLayers_layer⟩, fun place => ⟨_, ?_, Settings.ofLayers_layer⟩⟩
  rw [← Settings.print_render] at read
  exact read

/-- Settings with the largest and the smallest count, and with texts for each form of a string. -/
def intricateSettings : Settings where
  filters := ⟨true, false⟩
  search := ⟨18446744073709551615,
    ["", "C:\\name", "first \"name\"\nsecond 'name'", "\"\"\"\" or\\\n''", "'''\"\"\"\"\t\r\n\x07"]⟩
  aggregation := ⟨0, "'key' or \"\"\"\x07"⟩

theorem intricate_settings_printed :
    intricateSettings.search.pageSize < wordLimit ∧
    intricateSettings.aggregation.size < wordLimit ∧
    (∃ layer, SettingsLayer.parse (String.ofList intricateSettings.render) = .ok layer ∧
      Settings.ofLayers [layer] = intricateSettings) ∧
    ∀ place, ∃ layer,
      SettingsLayer.parse (Command.runWith place none intricateSettings .config).stdout =
        .ok layer ∧
        Settings.ofLayers [layer] = intricateSettings :=
  ⟨by decide, by decide, settings_of_printed intricateSettings (by decide) (by decide)⟩

end Winnow
