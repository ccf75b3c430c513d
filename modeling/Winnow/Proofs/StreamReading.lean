import Winnow.Filter.Stream
import Winnow.Proofs.FilterDocument
import Winnow.Proofs.JsonPrinting

/-! # Filters read from printed text

A filter that is read straight from a text goes without the document in between. Where the text
is that of an object whose members are known and differ, both ways lead to the same filter.
-/

namespace Winnow

namespace JsonStream

open JsonText

variable {α β : Type}

/-- A reader without the reasons for which it fails. -/
def asScan (read : Reader α) : Scan α :=
  fun s => (read s).toOption

theorem eq_ok_of_asScan {read : Reader α} {s rest : List Char} {x : α}
    (found : asScan read s = some (x, rest)) : read s = .ok (x, rest) :=
  toOption_eq_some_iff.mp found

theorem string_ignoresSpace : IgnoresSpace (asScan string) := by
  intro gap s spaces
  simp only [asScan, string, skipSpace_gap spaces]

theorem written_string (text : String) : Written (asScan string) (quoted text) text := by
  refine ⟨⟨'"', _, rfl, by decide⟩, fun {tail} _ => ?_⟩
  show (ofScan (JsonText.string (quoted text ++ tail))).toOption = _
  rw [string_quoted]
  rfl

theorem written_bool (layout : JsonLayout) (level : Nat) (b : Bool) :
    Written (asScan bool) ((Json.bool b).render layout level) b := by
  cases b with
  | false => exact ⟨⟨'f', _, rfl, by decide⟩, fun _ => rfl⟩
  | true => exact ⟨⟨'t', _, rfl, by decide⟩, fun _ => rfl⟩

theorem written_null (read : Reader α) (layout : JsonLayout) (level : Nat) :
    Written (asScan (optional read)) (Json.null.render layout level) (none : Option α) :=
  ⟨⟨'n', _, rfl, by decide⟩, fun _ => rfl⟩

theorem written_some {read : Reader α} {written : List Char} {x : α}
    (is : Written (asScan read) written x) (other : written.head? ≠ some 'n') :
    Written (asScan (optional read)) written (some x) := by
  obtain ⟨first, more, rfl, visible⟩ := is.starts
  refine ⟨is.starts, fun {tail} ends => ?_⟩
  have found := eq_ok_of_asScan (is.read ends)
  rw [List.cons_append] at found ⊢
  unfold asScan optional
  rw [skipSpace_visible visible]
  split
  · next null =>
    cases null
    exact absurd rfl other
  · rw [found]
    rfl

theorem written_optionalString (layout : JsonLayout) (level : Nat) (text : Option String) :
    Written (asScan (optional string)) ((Json.optionalString text).render layout level) text := by
  cases text with
  | none => exact written_null string layout level
  | some text => exact written_some (written_string text) nofun

theorem written_optionalBool (layout : JsonLayout) (level : Nat) (flag : Option Bool) :
    Written (asScan (optional bool)) ((Json.optionalBool flag).render layout level) flag := by
  cases flag with
  | none => exact written_null bool layout level
  | some b => exact written_some (written_bool layout level b) (by cases b <;> nofun)

theorem written_of_read {read : Reader α} {other : Reader β} {written : List Char} {x : α} {y : β}
    (is : Written (asScan read) written x)
    (turned : ∀ s rest, read s = .ok (x, rest) → other s = .ok (y, rest)) :
    Written (asScan other) written y := by
  refine ⟨is.starts, fun {tail} ends => ?_⟩
  rw [asScan, turned _ _ (eq_ok_of_asScan (is.read ends))]
  rfl

/-! ## Arrays -/

theorem asScan_itemsUpTo (item : Reader α) (fuel : Nat) (s : List Char) :
    asScan (JsonStream.itemsUpTo item fuel) s = JsonText.itemsUpTo ']' (asScan item) fuel s := by
  induction fuel generalizing s with
  | zero => rfl
  | succ fuel ih =>
      rw [asScan, JsonStream.itemsUpTo, toOption_bind, JsonText.itemsUpTo]
      cases found : item s with
      | error e => simp [asScan, found, Except.toOption]
      | ok read =>
          obtain ⟨x, rest⟩ := read
          simp only [asScan, found, Except.toOption, Option.bind_some]
          cases skipSpace rest with
          | nil => rfl
          | cons c behind =>
              by_cases comma : c = ','
              · subst comma
                simp only [if_true, ← ih behind, asScan]
                cases JsonStream.itemsUpTo item fuel behind <;> rfl
              by_cases closed : c = ']'
              · subst closed
                rfl
              · simp [comma, closed]

theorem asScan_list {item : Reader α} {s more : List Char} {first : Char}
    (inside : skipSpace s = first :: more) (notClosed : first ≠ ']') :
    asScan (list item) ('[' :: s) =
      JsonText.itemsUpTo ']' (asScan item) ((first :: more).length + 1) (first :: more) := by
  have bracket : skipSpace ('[' :: s) = '[' :: s := rfl
  rw [← asScan_itemsUpTo]
  simp only [asScan, list, bracket, inside]
  split
  · next same => exact absurd (List.cons.inj same).1 notClosed
  · rfl

theorem written_strings {layout : JsonLayout} (spaced : layout.Spaced) (level : Nat)
    (texts : List String) :
    Written (asScan (list string)) ((Json.strings texts).render layout level) texts := by
  refine ⟨by cases texts <;> exact ⟨'[', _, rfl, by decide⟩, fun {tail} _ => ?_⟩
  cases texts with
  | nil => rfl
  | cons text rest =>
      let others := rest.flatMap fun other => ',' :: layout.lineBreak (level + 1) ++ quoted other
      have whole : (Json.strings (text :: rest)).render layout level ++ tail =
          '[' :: (layout.lineBreak (level + 1) ++
            (quoted text ++ (others ++ (layout.lineBreak level ++ ']' :: tail)))) := by
        simp [others, Json.strings, Json.render, renderItems_eq_flatMap, List.flatMap_map]
      have enough : rest.length <
          (quoted text ++ (others ++ (layout.lineBreak level ++ ']' :: tail))).length + 1 := by
        have entries : rest.length ≤ others.length := length_le_entries rest _ quoted
        rw [List.length_append, List.length_append]
        omega
      rw [whole, asScan_list (skipSpace_gap (spaced.lineBreak (level + 1)) _) (by decide)]
      exact itemsUpTo_written (.inl rfl) string_ignoresSpace (spaced.lineBreak (level + 1))
        (spaced.lineBreak level) (fun other _ => written_string other) enough tail

end JsonStream

namespace FilterStream

open JsonText JsonStream

theorem field_ignoresSpace (draft : FilterDraft) (key : FilterField) :
    IgnoresSpace (asScan (field draft key)) := by
  intro gap s spaces
  cases key <;>
    simp only [asScan, field, named, JsonStream.string, JsonStream.bool, JsonStream.optional,
      list, skipSpace_gap spaces]

theorem written_named {α : Type} {parse : String → Except QueryError α} {name : String} {x : α}
    (parsed : parse name = .ok x) : Written (asScan (named parse)) (quoted name) x := by
  refine written_of_read (written_string name) fun s rest found => ?_
  simp [named, found, parsed, bind, Except.bind, pure, Except.pure]

theorem written_field {layout : JsonLayout} (spaced : layout.Spaced) (level : Nat)
    {draft next : FilterDraft} {key : FilterField} {value : Json}
    (read : FilterInput.readField draft key value = .ok next) :
    Written (asScan (field draft key)) (value.render layout level) next := by
  -- Each field has a reader of its own for its value and puts what that reads into the draft.
  have put : ∀ {α : Type} {reader : Reader α} {x : α} (set : α → FilterDraft),
      Written (asScan reader) (value.render layout level) x →
      (∀ s, field draft key s = reader s >>= fun found => pure (set found.1, found.2)) →
      Written (asScan (field draft key)) (value.render layout level) (set x) := by
    intro α reader x set is same
    refine written_of_read is fun s rest found => ?_
    rw [same, found]
    rfl
  unfold FilterInput.readField at read
  split at read <;> obtain ⟨x, given, same⟩ := bind_eq_ok_iff.mp read <;> cases same
  · cases Json.asString_eq_ok_iff.mp given
    exact put (fun x => { draft with index := some x }) (written_string x)
      fun _ => rfl
  · cases Json.asString_eq_ok_iff.mp given
    exact put (fun x => { draft with field := some x }) (written_string x)
      fun _ => rfl
  · cases Json.asOptionalString_eq_ok_iff.mp given
    exact put (fun x => { draft with nestedOf := some x }) (written_optionalString layout level x)
      fun _ => rfl
  · obtain ⟨name, rfl, known⟩ := FilterInput.readOperator_eq_ok_iff.mp given
    exact put (fun x => { draft with operator := some x })
      (written_named (Operator.parse_eq_ok_iff.mpr known)) fun _ => rfl
  · obtain ⟨name, rfl, known⟩ := FilterInput.readType_eq_ok_iff.mp given
    exact put (fun x => { draft with type := some x })
      (written_named (FieldType.parse_eq_ok_iff.mpr known)) fun _ => rfl
  · cases Json.asStrings_eq_ok_iff.mp given
    exact put (fun x => { draft with values := some x }) (written_strings spaced level x)
      fun _ => rfl
  · cases Json.asOptionalBool_eq_ok_iff.mp given
    exact put (fun x => { draft with valuesAsOr := some x }) (written_optionalBool layout level x)
      fun _ => rfl

theorem has_readField {draft next : FilterDraft} {key : FilterField} {value : Json}
    (read : FilterInput.readField draft key value = .ok next) (other : FilterField) :
    next.has other = (other == key || draft.has other) := by
  unfold FilterInput.readField at read
  split at read <;> obtain ⟨x, _, same⟩ := bind_eq_ok_iff.mp read <;> cases same <;>
    cases other <;> rfl

theorem membersUpTo_gap {gap : List Char} (spaces : ∀ c ∈ gap, isSpace c = true) (fuel : Nat)
    (draft : FilterDraft) (s : List Char) :
    membersUpTo member fuel draft (gap ++ s) = membersUpTo member fuel draft s := by
  cases fuel with
  | zero => rfl
  | succ fuel => rw [membersUpTo, membersUpTo, skipSpace_gap spaces]

theorem exists_first {draft last : FilterDraft} {m : String × Json} {rest : List (String × Json)}
    (known : ∀ x ∈ m :: rest, ∃ key, FilterField.ofName? x.1 = some key ∧ draft.has key = false)
    (read : FilterInput.readMembers draft (m :: rest) = .ok last) :
    ∃ key next, FilterField.ofName? m.1 = some key ∧ draft.has key = false ∧
      FilterInput.readField draft key m.2 = .ok next ∧
      FilterInput.readMembers next rest = .ok last := by
  obtain ⟨key, named, fresh⟩ := known m List.mem_cons_self
  rw [FilterInput.readMembers, named] at read
  obtain ⟨next, field, later⟩ := bind_eq_ok_iff.mp read
  exact ⟨key, next, named, fresh, field, later⟩

section Members

variable {layout : JsonLayout} (spaced : layout.Spaced) (level : Nat)

include spaced

theorem member_written {draft next : FilterDraft} {key : FilterField} {m : String × Json}
    (known : FilterField.ofName? m.1 = some key) (fresh : draft.has key = false)
    (read : FilterInput.readField draft key m.2 = .ok next) {tail : List Char}
    (ends : Ends tail) :
    member draft m.1 (layout.colon ++ (m.2.render layout level ++ tail)) = .ok (next, tail) := by
  obtain ⟨gap, colon, spaces⟩ := spaced.colon
  have value : field draft key (gap ++ (m.2.render layout level ++ tail)) = .ok (next, tail) := by
    apply eq_ok_of_asScan
    rw [field_ignoresSpace draft key gap _ spaces]
    exact (written_field spaced level read).read ends
  rw [colon, member, known]
  simp only [fresh, Bool.false_eq_true, if_false]
  exact value

theorem membersUpTo_member {draft next : FilterDraft} {key : FilterField} {m : String × Json}
    (known : FilterField.ofName? m.1 = some key) (fresh : draft.has key = false)
    (read : FilterInput.readField draft key m.2 = .ok next) {gap behind : List Char}
    (spaces : ∀ c ∈ gap, isSpace c = true) (ends : Ends behind) (fuel : Nat) :
    membersUpTo member (fuel + 1) draft (gap ++ (memberText layout level m ++ behind)) =
      match skipSpace behind with
      | ',' :: rest => membersUpTo member fuel next rest
      | '\x7d' :: rest => .ok (next, rest)
      | _ => .error .malformed := by
  have name : skipSpace (memberText layout level m ++ behind) =
      quoted m.1 ++ (layout.colon ++ (m.2.render layout level ++ behind)) := by
    simp only [memberText, List.append_assoc]
    rfl
  have value := member_written spaced level known fresh read ends
  rw [membersUpTo, skipSpace_gap spaces, name]
  show (ofScan (JsonText.string (quoted m.1 ++ _)) >>= fun found => _) = _
  rw [string_quoted]
  simp only [ofScan, bind, Except.bind, value]
  rfl

/-- Members of different fields are read as in the document. -/
theorem membersUpTo_written {draft last : FilterDraft} {m : String × Json}
    {rest : List (String × Json)}
    (known : ∀ x ∈ m :: rest, ∃ key, FilterField.ofName? x.1 = some key ∧ draft.has key = false)
    (distinct : ((m :: rest).map (·.1)).Nodup)
    (read : FilterInput.readMembers draft (m :: rest) = .ok last) {fuel : Nat}
    (enough : rest.length < fuel) {gap back : List Char} (spaces : ∀ c ∈ gap, isSpace c = true)
    (backSpaces : ∀ c ∈ back, isSpace c = true) (tail : List Char) :
    membersUpTo member fuel draft (gap ++ (memberText layout level m ++
      (rest.flatMap (fun x => ',' :: gap ++ memberText layout level x) ++
        (back ++ '\x7d' :: tail)))) = .ok (last, tail) := by
  induction rest generalizing m draft fuel with
  | nil =>
      obtain ⟨key, next, named, fresh, field, later⟩ := exists_first known read
      obtain ⟨fuel, rfl⟩ := Nat.exists_eq_add_of_lt enough
      cases later
      have ends := ends_close (.inr rfl) backSpaces tail
      have closed : skipSpace (back ++ '\x7d' :: tail) = '\x7d' :: tail := by
        rw [skipSpace_gap backSpaces]
        rfl
      rw [List.flatMap_nil, List.nil_append,
        membersUpTo_member spaced level named fresh field spaces ends, closed]
      rfl
  | cons second rest ih =>
      obtain ⟨key, next, named, fresh, field, later⟩ := exists_first known read
      obtain ⟨fuel, rfl⟩ := Nat.exists_eq_add_of_lt enough
      obtain ⟨single, others⟩ := List.nodup_cons.mp distinct
      -- The names differ, so the fields of the members behind are still not there.
      have behind : ∀ x ∈ second :: rest,
          ∃ key, FilterField.ofName? x.1 = some key ∧ next.has key = false := by
        intro x member
        obtain ⟨own, ownNamed, ownFresh⟩ := known x (List.mem_cons_of_mem _ member)
        refine ⟨own, ownNamed, ?_⟩
        have other : own ≠ key := by
          rintro rfl
          have same := FilterField.ofName?_eq_some_iff.mp named
          rw [FilterField.ofName?_eq_some_iff.mp ownNamed] at same
          exact single (List.mem_map.mpr ⟨x, member, same⟩)
        rw [has_readField field, beq_eq_false_iff_ne.mpr other, ownFresh, Bool.or_false]
      have ends : Ends (',' :: (gap ++ (memberText layout level second ++
          (rest.flatMap (fun x => ',' :: gap ++ memberText layout level x) ++
            (back ++ '\x7d' :: tail))))) := by
        rintro c ⟨⟩
        decide
      have fewer : rest.length < rest.length + 1 + fuel := by omega
      have onward := ih behind others later fewer
      rw [List.flatMap_cons, List.append_assoc, List.append_assoc, List.cons_append,
        membersUpTo_member spaced level named fresh field spaces ends]
      exact onward

theorem members_written {last : FilterDraft} {members : List (String × Json)}
    (known : ∀ x ∈ members, (FilterField.ofName? x.1).isSome = true)
    (distinct : (members.map (·.1)).Nodup)
    (read : FilterInput.readMembers .empty members = .ok last) (tail : List Char) :
    ∃ inside, (Json.object members).render layout level ++ tail = '\x7b' :: inside ∧
      JsonStream.members member .empty inside = .ok (last, tail) := by
  cases members with
  | nil =>
      cases read
      exact ⟨'\x7d' :: tail, rfl, rfl⟩
  | cons m rest =>
      have fresh : ∀ x ∈ m :: rest,
          ∃ key, FilterField.ofName? x.1 = some key ∧ FilterDraft.empty.has key = false := by
        intro x member
        obtain ⟨key, named⟩ := Option.isSome_iff_exists.mp (known x member)
        exact ⟨key, named, by cases key <;> rfl⟩
      let behind := rest.flatMap (fun x => ',' :: layout.lineBreak (level + 1) ++
        memberText layout (level + 1) x) ++ (layout.lineBreak level ++ '\x7d' :: tail)
      have first : skipSpace (layout.lineBreak (level + 1) ++
          (memberText layout (level + 1) m ++ behind)) =
            memberText layout (level + 1) m ++ behind :=
        skipSpace_gap (spaced.lineBreak (level + 1)) _
      have enough : rest.length < (memberText layout (level + 1) m ++ behind).length + 1 := by
        have entries := length_le_entries rest (layout.lineBreak (level + 1))
          (memberText layout (level + 1))
        simp only [behind, List.length_append]
        omega
      have given := membersUpTo_written spaced (level + 1) fresh distinct read enough
        (spaced.lineBreak (level + 1)) (spaced.lineBreak level) tail
      rw [membersUpTo_gap (spaced.lineBreak (level + 1))] at given
      refine ⟨layout.lineBreak (level + 1) ++ (memberText layout (level + 1) m ++ behind), ?_, ?_⟩
      · rw [render_object]
        simp [behind]
      · rw [JsonStream.members, first]
        exact given

theorem filter_written {input : FilterInput} {members : List (String × Json)}
    (known : ∀ x ∈ members, (FilterField.ofName? x.1).isSome = true)
    (distinct : (members.map (·.1)).Nodup)
    (read : FilterInput.ofJson (.object members) = .ok input) (tail : List Char) :
    filter ((Json.object members).render layout level ++ tail) = .ok (input, tail) := by
  obtain ⟨last, given, finished⟩ := bind_eq_ok_iff.mp read
  obtain ⟨inside, text, found⟩ := members_written spaced level known distinct given tail
  have brace : skipSpace ('\x7b' :: inside) = '\x7b' :: inside := rfl
  simp only [filter, text, brace, found, bind, Except.bind, finished]
  rfl

end Members

end FilterStream

/-- A specification is read from the text of an object as from the object. -/
theorem Specification.ofText_of_render {layout : JsonLayout} (spaced : layout.Spaced)
    {members : List (String × Json)}
    (known : ∀ x ∈ members, (FilterField.ofName? x.1).isSome = true)
    (distinct : (members.map (·.1)).Nodup) {spec : Specification}
    (read : ofJson (.object members) = .ok spec) :
    ofText (String.ofList ((Json.object members).render layout 0)) = .ok spec := by
  obtain ⟨input, given, refined⟩ := bind_eq_ok_iff.mp read
  have described := ShapeError.ofQuery_eq_ok_iff.mp refined
  have found := FilterStream.filter_written spaced 0 known distinct given []
  rw [List.append_nil] at found
  rw [ofText, String.toList_ofList, found]
  simp only [bind, Except.bind, described]
  rfl

end Winnow
