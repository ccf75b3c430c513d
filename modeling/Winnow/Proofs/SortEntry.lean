import Winnow.Proofs.Splitting
import Winnow.Proofs.Success
import Winnow.Proofs.Trimming
import Winnow.Query.Sort

/-! # Sort entries and their texts

A text is a sort entry if nothing but a field is left of it between its blanks, or if a direction
stands behind its last colon and a field before it. Fields of entries are never empty and have no
blanks at their ends, and every such field can be written with either direction and read back. So
the text of an entry that was read is the canonical one: it is read as the same entry.
-/

namespace Winnow

namespace SortDirection

/-- The names of a direction, the short one first. -/
def names : SortDirection → List String
  | ascending => ["asc", "ascending"]
  | descending => ["desc", "descending"]

theorem parse_eq_ok_iff {s : String} {direction : SortDirection} :
    parse s = .ok direction ↔
      String.ofList (Text.lowerAscii (Text.trim s.toList)) ∈ direction.names := by
  rw [parse]
  generalize String.ofList (Text.lowerAscii (Text.trim s.toList)) = wanted
  split
  · next short =>
    rcases short with rfl | rfl <;> cases direction <;> decide
  · next other =>
    split
    · next long =>
      rcases long with rfl | rfl <;> cases direction <;> decide
    · next unknown =>
      cases direction <;> simp_all [names]

theorem exists_names_iff {name : String} :
    (∃ direction : SortDirection, name ∈ direction.names) ↔
      name ∈ ["asc", "ascending", "desc", "descending"] := by
  have all : ["asc", "ascending", "desc", "descending"] = ascending.names ++ descending.names := rfl
  rw [all, List.mem_append]
  constructor
  · intro ⟨direction, named⟩
    cases direction with
    | ascending => exact .inl named
    | descending => exact .inr named
  · intro named
    rcases named with named | named
    · exact ⟨ascending, named⟩
    · exact ⟨descending, named⟩

theorem parse_name (direction : SortDirection) : parse direction.name = .ok direction := by
  cases direction <;> rfl

theorem name_trimmed (direction : SortDirection) : Text.Trimmed direction.name.toList := by
  cases direction <;> decide

theorem name_ne_nil (direction : SortDirection) : direction.name.toList ≠ [] := by
  cases direction <;> decide

theorem colon_not_mem_name (direction : SortDirection) : ':' ∉ direction.name.toList := by
  cases direction <;> decide

end SortDirection

namespace SortField

/-- How an entry is written between the blanks at the ends of its text. -/
inductive WrittenAs (entry : SortField) : List Char → Prop where
  /-- A field without a colon is sorted on in ascending order. -/
  | bare {field : List Char} (unmarked : ':' ∉ field) (present : field ≠ [])
      (same : entry = ⟨String.ofList field, .ascending⟩) : WrittenAs entry field
  /-- The direction stands behind the last colon. -/
  | directed {before after : List Char} (unmarked : ':' ∉ after)
      (named : String.ofList (Text.lowerAscii (Text.trim after)) ∈ entry.direction.names)
      (present : Text.trim before ≠ []) (same : entry.field = String.ofList (Text.trim before)) :
      WrittenAs entry (before ++ ':' :: after)

variable {s : String} {entry : SortField}

theorem parse_of_bare (unmarked : ':' ∉ Text.trim s.toList) :
    parse s = .ok entry ↔
      Text.trim s.toList ≠ [] ∧ entry = ⟨String.ofList (Text.trim s.toList), .ascending⟩ := by
  rw [parse, Text.cutLast_eq_none_iff.mpr unmarked, Ne, ← String.ofList_eq_empty_iff]
  exact unless_eq_ok_iff

theorem parse_of_directed {before after : List Char}
    (cut : Text.trim s.toList = before ++ ':' :: after) (unmarked : ':' ∉ after) :
    parse s = .ok entry ↔
      SortDirection.parse (String.ofList after) = .ok entry.direction ∧
        Text.trim before ≠ [] ∧ entry.field = String.ofList (Text.trim before) := by
  rw [parse, cut, Text.cutLast_append before unmarked, Ne, ← String.ofList_eq_empty_iff,
    bind_eq_ok_iff]
  simp only [bind_eq_ok_iff]
  constructor
  · intro ⟨direction, named, _, given, made⟩
    cases given
    obtain ⟨present, rfl⟩ := unless_eq_ok_iff.mp made
    exact ⟨named, present, rfl⟩
  · intro ⟨named, present, same⟩
    refine ⟨entry.direction, named, _, rfl, unless_eq_ok_iff.mpr ⟨present, ?_⟩⟩
    rw [← same]

theorem WrittenAs.parse_eq {text : List Char} (written : entry.WrittenAs text)
    (between : Text.trim s.toList = text) : parse s = .ok entry := by
  cases written with
  | bare unmarked present same =>
      rw [← between] at unmarked present same
      exact (parse_of_bare unmarked).mpr ⟨present, same⟩
  | directed unmarked named present same =>
      apply (parse_of_directed between unmarked).mpr
      refine ⟨SortDirection.parse_eq_ok_iff.mpr ?_, present, same⟩
      rw [String.toList_ofList]
      exact named

/-- A text is read as the entry that is written between its blanks. -/
theorem parse_eq_ok_iff : parse s = .ok entry ↔ entry.WrittenAs (Text.trim s.toList) := by
  constructor
  · intro read
    cases cut : Text.cutLast ':' (Text.trim s.toList) with
    | none =>
        have unmarked := Text.cutLast_eq_none_iff.mp cut
        obtain ⟨present, same⟩ := (parse_of_bare unmarked).mp read
        exact .bare unmarked present same
    | some parts =>
        obtain ⟨before, after⟩ := parts
        obtain ⟨between, unmarked⟩ := Text.cutLast_eq_some_iff.mp cut
        obtain ⟨named, present, same⟩ := (parse_of_directed between unmarked).mp read
        rw [SortDirection.parse_eq_ok_iff, String.toList_ofList] at named
        rw [between]
        exact .directed unmarked named present same
  · intro written
    exact written.parse_eq rfl

theorem WrittenAs.field_trimmed {text : List Char} (written : entry.WrittenAs (Text.trim text)) :
    entry.field ≠ "" ∧ Text.Trimmed entry.field.toList := by
  generalize between : Text.trim text = whole at written
  cases written with
  | bare _ present same =>
      rw [same, String.toList_ofList, ← between]
      rw [← between] at present
      exact ⟨String.ofList_eq_empty_iff.not.mpr present, Text.trim_trimmed text⟩
  | directed _ _ present same =>
      rw [same, String.toList_ofList]
      exact ⟨String.ofList_eq_empty_iff.not.mpr present, Text.trim_trimmed _⟩

/-- An entry with a trimmed field is what its text is read as. -/
theorem text_writtenAs (present : entry.field ≠ "") (trimmed : Text.Trimmed entry.field.toList) :
    entry.WrittenAs (Text.trim entry.text.toList) := by
  have whole : entry.text.toList = entry.field.toList ++ ':' :: entry.direction.name.toList := by
    rw [text, String.toList_append, String.toList_append, List.append_assoc]
    rfl
  have nonempty : entry.field.toList ≠ [] := by
    rw [Ne, ← String.ofList_eq_empty_iff, String.ofList_toList]
    exact present
  have ends : Text.Trimmed entry.text.toList := by
    rw [whole]
    exact trimmed.append_cons entry.direction.name_trimmed nonempty entry.direction.name_ne_nil ':'
  rw [ends.trim_eq, whole]
  apply WrittenAs.directed entry.direction.colon_not_mem_name
  · exact SortDirection.parse_eq_ok_iff.mp entry.direction.parse_name
  · rw [trimmed.trim_eq]
    exact nonempty
  · rw [trimmed.trim_eq, String.ofList_toList]

theorem parse_text (present : entry.field ≠ "") (trimmed : Text.Trimmed entry.field.toList) :
    parse entry.text = .ok entry :=
  parse_eq_ok_iff.mpr (text_writtenAs present trimmed)

theorem exists_parse_iff :
    (∃ entry, parse s = .ok entry) ↔
      Text.trim s.toList ≠ [] ∧ ':' ∉ Text.trim s.toList ∨
        ∃ before after, Text.trim s.toList = before ++ ':' :: after ∧ ':' ∉ after ∧
          String.ofList (Text.lowerAscii (Text.trim after)) ∈
            ["asc", "ascending", "desc", "descending"] ∧
          ∃ c ∈ before, isBlank c = false := by
  simp only [parse_eq_ok_iff, ← SortDirection.exists_names_iff, ← Text.trim_ne_nil_iff]
  constructor
  · intro ⟨entry, written⟩
    generalize Text.trim s.toList = whole at written
    cases written with
    | bare unmarked present same => exact .inl ⟨present, unmarked⟩
    | directed unmarked named present same =>
        exact .inr ⟨_, _, rfl, unmarked, ⟨_, named⟩, present⟩
  · intro readable
    rcases readable with ⟨present, unmarked⟩ | ⟨before, after, between, unmarked, named, present⟩
    · exact ⟨_, .bare unmarked present rfl⟩
    · obtain ⟨direction, named⟩ := named
      rw [between]
      exact ⟨⟨String.ofList (Text.trim before), direction⟩, .directed unmarked named present rfl⟩

end SortField

/-- The field of an entry that was read is not empty and has no blanks at its ends, and the text of
    the entry is read as the same entry. Every field of this kind can be written with a direction
    and read back. A text is an entry exactly if, without the blanks at its ends, it is not empty
    and has no colon, or behind its last colon a direction is named in any case and between any
    blanks, and not all before that colon is blank. -/
theorem sort_entry_canonical :
    (∀ (s : String) (entry : SortField), SortField.parse s = .ok entry →
      entry.field ≠ "" ∧ Text.Trimmed entry.field.toList ∧
        SortField.parse entry.text = .ok entry) ∧
    (∀ (field : String) (direction : SortDirection), field ≠ "" → Text.Trimmed field.toList →
      SortField.parse (SortField.text ⟨field, direction⟩) = .ok ⟨field, direction⟩) ∧
    ∀ s : String, (∃ entry, SortField.parse s = .ok entry) ↔
      Text.trim s.toList ≠ [] ∧ ':' ∉ Text.trim s.toList ∨
        ∃ before after, Text.trim s.toList = before ++ ':' :: after ∧ ':' ∉ after ∧
          String.ofList (Text.lowerAscii (Text.trim after)) ∈
            ["asc", "ascending", "desc", "descending"] ∧
          ∃ c ∈ before, isBlank c = false := by
  refine ⟨?_, ?_, fun s => SortField.exists_parse_iff⟩
  · intro s entry read
    obtain ⟨present, trimmed⟩ := (SortField.parse_eq_ok_iff.mp read).field_trimmed
    exact ⟨present, trimmed, SortField.parse_text present trimmed⟩
  · intro field direction present trimmed
    exact SortField.parse_text present trimmed

/-- Colons and blanks inside a field stay, and so do colons at its ends. -/
theorem colons_read_back :
    SortField.parse "\u3000meta: created :\tDesc " = .ok ⟨"meta: created", .descending⟩ ∧
    SortField.parse "meta: created:desc" = .ok ⟨"meta: created", .descending⟩ ∧
    SortField.parse "::ends::asc" = .ok ⟨"::ends:", .ascending⟩ := by
  obtain ⟨canonical, undone, _⟩ := sort_entry_canonical
  have read : SortField.parse "\u3000meta: created :\tDesc " =
      .ok ⟨"meta: created", .descending⟩ := toOption_eq_some_iff.mp (by decide +kernel)
  obtain ⟨_, _, again⟩ := canonical _ _ read
  exact ⟨read, again, undone "::ends:" .ascending (by decide) (by decide)⟩

end Winnow
