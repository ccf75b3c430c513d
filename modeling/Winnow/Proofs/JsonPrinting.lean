import Mathlib.Data.List.Basic
import Winnow.Json.Printer
import Winnow.Proofs.Digits
import Winnow.Proofs.JsonText
import Winnow.Proofs.Trimming

/-! # Printed JSON values

A value is read back from its text in every layout that adds nothing but space, whatever its
strings are. The names in each of its objects have to differ, its numbers have to be natural
numbers of 64 bits, and its containers must not nest too deep.
-/

namespace Winnow

/-- The layout adds nothing but space to the punctuation. -/
structure JsonLayout.Spaced (layout : JsonLayout) : Prop where
  lineBreak : ∀ depth, ∀ c ∈ layout.lineBreak depth, JsonText.isSpace c = true
  colon : ∃ gap, layout.colon = ':' :: gap ∧ ∀ c ∈ gap, JsonText.isSpace c = true

theorem JsonLayout.compact_spaced : compact.Spaced where
  lineBreak _ := nofun
  colon := ⟨[], rfl, nofun⟩

theorem JsonLayout.pretty_spaced : pretty.Spaced where
  lineBreak depth c member := by
    rcases List.mem_cons.mp member with rfl | space
    · rfl
    · rw [List.eq_of_mem_replicate space]
      rfl
  colon := ⟨[' '], rfl, List.forall_mem_singleton.mpr rfl⟩

/-- A value whose text can be read back, with containers nested at most `depth` deep. -/
inductive Json.Plain : Nat → Json → Prop where
  | null {depth : Nat} : Plain depth .null
  | bool {depth : Nat} (b : Bool) : Plain depth (.bool b)
  /-- A natural number of 64 bits. -/
  | nat {depth n : Nat} (fits : n < wordLimit) : Plain depth (.nat n)
  | string {depth : Nat} (s : String) : Plain depth (.string s)
  /-- An array is a level above its items. -/
  | array {depth : Nat} {items : List Json} (each : ∀ item ∈ items, Plain depth item) :
      Plain (depth + 1) (.array items)
  /-- An object is a level above its members, whose names differ. -/
  | object {depth : Nat} {members : List (String × Json)} (distinct : (members.map (·.1)).Nodup)
      (each : ∀ member ∈ members, Plain depth member.2) : Plain (depth + 1) (.object members)

theorem Json.Plain.deeper {depth deeper : Nat} {v : Json} (plain : v.Plain depth)
    (deep : depth ≤ deeper) : v.Plain deeper := by
  induction plain generalizing deeper with
  | null => exact .null
  | bool b => exact .bool b
  | nat fits => exact .nat fits
  | string s => exact .string s
  | array each ih =>
      obtain ⟨deeper, rfl⟩ := Nat.exists_eq_add_of_lt deep
      exact .array fun item member => ih item member (by omega)
  | object distinct each ih =>
      obtain ⟨deeper, rfl⟩ := Nat.exists_eq_add_of_lt deep
      exact .object distinct fun member inside => ih member inside (by omega)

/-! ## Numbers -/

namespace Digits

theorem le_foldFrom (acc : Nat) (digits : List Nat) : acc ≤ foldFrom acc digits := by
  induction digits generalizing acc with
  | nil => exact Nat.le_refl acc
  | cons d digits ih =>
      have step : acc ≤ acc * 10 + d := by omega
      exact Nat.le_trans step (ih (acc * 10 + d))

end Digits

namespace Double

theorem round_le (n : Nat) : round n ≤ 2 * n := by
  unfold round
  dsimp only
  split
  · omega
  · next many =>
    have nonzero : n ≠ 0 := by
      rintro rfl
      exact many (by decide)
    -- Rounding up adds one unit in the last place, and the unit is no more than the number.
    have unit : Nat.pow 2 (n.log2 + 1 - 53) ≤ n :=
      Nat.le_trans (Nat.pow_le_pow_right (by decide) (by omega)) (Nat.log2_self_le nonzero)
    have below : n / Nat.pow 2 (n.log2 + 1 - 53) * Nat.pow 2 (n.log2 + 1 - 53) ≤ n :=
      Nat.div_mul_le_self _ _
    split
    · rw [Nat.add_mul]
      omega
    · omega

theorem productOverflows_word {n : Nat} (fits : n < wordLimit) :
    productOverflows n 0 = false := by
  have one : round (Nat.pow 10 (0 : Int).toNat) = 1 := by decide
  have outer := round_le (round n * 1)
  have inner := round_le n
  have far : 4 * wordLimit < limit := by decide +kernel
  unfold productOverflows
  rw [one]
  simp only [Int.lt_irrefl, or_false]
  split
  · rfl
  · rw [if_neg (by decide), decide_eq_false_iff_not]
    omega

end Double

namespace JsonText

/-- What may follow a value: space, a comma or the end of a container. -/
def Ends (tail : List Char) : Prop :=
  ∀ c ∈ tail.head?, c ∈ [' ', '\n', '\t', '\r', ',', ']', '\x7d']

theorem Ends.stops {tail : List Char} (ends : Ends tail) {isKind : Char → Bool}
    (others : [' ', '\n', '\t', '\r', ',', ']', '\x7d'].any isKind = false) :
    Stops isKind tail :=
  fun c first => Bool.eq_false_iff.mpr (List.any_eq_false.mp others c (ends c first))

theorem Ends.head?_ne {tail : List Char} (ends : Ends tail) {c : Char}
    (other : c ∉ [' ', '\n', '\t', '\r', ',', ']', '\x7d']) : tail.head? ≠ some c :=
  fun first => other (ends c first)

theorem mem_of_isSpace {c : Char} (space : isSpace c = true) :
    c ∈ [' ', '\n', '\t', '\r', ',', ']', '\x7d'] := by
  simp only [isSpace, Bool.or_eq_true, beq_iff_eq] at space
  rcases space with ((rfl | rfl) | rfl) | rfl <;> decide

theorem takeBelowWord_eq {acc : Nat} {digits : List Nat}
    (fits : Digits.foldFrom acc digits < wordLimit) :
    NumberToken.takeBelowWord acc digits = (Digits.foldFrom acc digits, []) := by
  induction digits generalizing acc with
  | nil => rfl
  | cons d digits ih =>
      have below : acc * 10 + d < wordLimit :=
        Nat.lt_of_le_of_lt (Digits.le_foldFrom _ digits) fits
      rw [NumberToken.takeBelowWord, if_pos below]
      exact ih fits

theorem fits_of_word {digits : List Nat} (fits : Digits.toNat digits < wordLimit) :
    NumberToken.fits ⟨false, digits, [], 0⟩ = true := by
  have whole := takeBelowWord_eq fits
  simp only [NumberToken.fits, whole, NumberToken.takeBelowWord]
  simpa [Digits.toNat] using Double.productOverflows_word fits

namespace NumberToken

theorem span_text {tail : List Char} (ends : Ends tail) (n : Nat) :
    Digits.span (Digits.text n ++ tail) = ((Digits.text n).map Digits.value, tail) := by
  have stops : Stops Digits.isDigit tail := ends.stops (by decide)
  rw [Digits.span, stops.takeWhile_run fun _ => Digits.isDigit_of_mem_text,
    stops.dropWhile_run fun _ => Digits.isDigit_of_mem_text]

theorem scanWhole_text {tail : List Char} (ends : Ends tail) (n : Nat) :
    scanWhole (Digits.text n ++ tail) = some ((Digits.text n).map Digits.value, tail) := by
  unfold scanWhole
  rw [span_text ends]
  split
  · next same => simp [Digits.text_ne_nil] at same
  · next second more _ same =>
    obtain ⟨c, others, written, zero, behind⟩ := List.map_eq_cons_iff.mp (Prod.mk.inj same).1
    have digit : Digits.isDigit c = true :=
      Digits.isDigit_of_mem_text (n := n) (written ▸ List.mem_cons_self)
    -- A zero in front is all of the text, so nothing stands behind it.
    rcases Nat.eq_zero_or_pos n with rfl | positive
    · have zeroText : Digits.text 0 = ['0'] := by decide
      rw [zeroText] at written
      cases written
      cases behind
    · refine absurd ?_ (Digits.head?_text_ne positive)
      rw [written, Digits.eq_zero_of_value digit zero]
      rfl
  · next same => rw [same]

theorem scanExponent_of_ne {s : List Char} (lower : s.head? ≠ some 'e')
    (upper : s.head? ≠ some 'E') : scanExponent s = some (0, s) := by
  cases s with
  | nil => rfl
  | cons c s => exact if_neg (by simp_all)

theorem scan_text {tail : List Char} (ends : Ends tail) (n : Nat) :
    scan (Digits.text n ++ tail) = some (⟨false, (Digits.text n).map Digits.value, [], 0⟩, tail) := by
  have unsigned : (Digits.text n ++ tail).head? ≠ some '-' := by
    obtain ⟨c, more, same, digit⟩ := Digits.exists_cons_text n
    rw [same]
    rintro ⟨⟩
    exact absurd digit (by decide)
  have fraction := scanFraction_of_ne (ends.head?_ne (by decide) : tail.head? ≠ some '.')
  have exponent := scanExponent_of_ne (ends.head?_ne (by decide) : tail.head? ≠ some 'e')
    (ends.head?_ne (by decide))
  rw [scan_of_ne unsigned, scanUnsigned, scanWhole_text ends]
  simp only [Option.bind_eq_bind, Option.bind_some, fraction, exponent]

end NumberToken

theorem number_text {n : Nat} (fits : n < wordLimit) {tail : List Char} (ends : Ends tail) :
    number (Digits.text n ++ tail) = some (.ofNat n, tail) := by
  have value := Digits.toNat_text n
  have small : NumberToken.fits ⟨false, (Digits.text n).map Digits.value, [], 0⟩ = true :=
    fits_of_word (by rwa [value])
  simp [number, NumberToken.scan_text ends, small, NumberToken.value, value, Decimal.ofNat]

/-! ## Containers -/

/-- A text is read as something in front of all that may follow a value. -/
structure Written {α : Type} (item : Scan α) (written : List Char) (x : α) : Prop where
  /-- The text starts with no space, and it ends no container. -/
  starts : ∃ first more, written = first :: more ∧
    first ∉ [' ', '\n', '\t', '\r', ']', '\x7d']
  /-- The text is read up to its end. -/
  read : ∀ {tail}, Ends tail → item (written ++ tail) = some (x, tail)

/-- Space in front makes no difference. -/
def IgnoresSpace {α : Type} (item : Scan α) : Prop :=
  ∀ gap s, (∀ c ∈ gap, isSpace c = true) → item (gap ++ s) = item s

theorem skipSpace_gap {gap : List Char} (spaces : ∀ c ∈ gap, isSpace c = true) (s : List Char) :
    skipSpace (gap ++ s) = skipSpace s :=
  List.dropWhile_append_of_pos spaces

theorem skipSpace_visible {first : Char} (visible : first ∉ [' ', '\n', '\t', '\r', ']', '\x7d'])
    (more : List Char) : skipSpace (first :: more) = first :: more := by
  refine List.dropWhile_cons_of_neg fun space => ?_
  simp_all [isSpace]

theorem value_ignoresSpace (depth : Nat) : IgnoresSpace (value depth) := by
  intro gap s spaces
  cases depth <;> simp only [value, skipSpace_gap spaces]

theorem member_ignoresSpace {α : Type} (item : Scan α) : IgnoresSpace (member item) := by
  intro gap s spaces
  simp only [member, skipSpace_gap spaces]

section Entries

variable {α : Type} {close : Char} {item : Scan α} {gap back : List Char}
  {text : α → List Char}

theorem ends_close (closes : close = ']' ∨ close = '\x7d')
    (backSpaces : ∀ c ∈ back, isSpace c = true) (tail : List Char) :
    Ends (back ++ close :: tail) := by
  intro c first
  cases back with
  | nil =>
      cases first
      rcases closes with rfl | rfl <;> decide
  | cons space back =>
      cases first
      exact mem_of_isSpace (backSpaces c List.mem_cons_self)

theorem itemsUpTo_gap (ignores : IgnoresSpace item) (spaces : ∀ c ∈ gap, isSpace c = true)
    (fuel : Nat) (s : List Char) :
    itemsUpTo close item fuel (gap ++ s) = itemsUpTo close item fuel s := by
  cases fuel with
  | zero => rfl
  | succ fuel => rw [itemsUpTo, itemsUpTo, ignores gap s spaces]

theorem itemsUpTo_written (closes : close = ']' ∨ close = '\x7d') (ignores : IgnoresSpace item)
    (spaces : ∀ c ∈ gap, isSpace c = true) (backSpaces : ∀ c ∈ back, isSpace c = true)
    {x : α} {xs : List α} (each : ∀ y ∈ x :: xs, Written item (text y) y) {fuel : Nat}
    (enough : xs.length < fuel) (tail : List Char) :
    itemsUpTo close item fuel
      (text x ++ (xs.flatMap (fun y => ',' :: gap ++ text y) ++ (back ++ close :: tail))) =
        some (x :: xs, tail) := by
  have apart : close ≠ ',' := by rcases closes with rfl | rfl <;> decide
  induction xs generalizing x fuel with
  | nil =>
      obtain ⟨fuel, rfl⟩ := Nat.exists_eq_add_of_lt enough
      have closed : skipSpace (back ++ close :: tail) = close :: tail := by
        rw [skipSpace_gap backSpaces]
        rcases closes with rfl | rfl <;> rfl
      exact itemsUpTo_eq_some_iff.mpr ⟨x, _,
        (each x List.mem_cons_self).read (ends_close closes backSpaces tail),
        .inr ⟨apart, closed, rfl⟩⟩
  | cons y ys ih =>
      obtain ⟨fuel, rfl⟩ := Nat.exists_eq_add_of_lt enough
      have later := @ih y (fun z member => each z (List.mem_cons_of_mem _ member))
        (ys.length + 1 + fuel) (by omega)
      -- The comma ends the first entry, and the space behind it is skipped before the next.
      have comma : Ends (',' :: (gap ++ (text y ++
          (ys.flatMap (fun y => ',' :: gap ++ text y) ++ (back ++ close :: tail))))) := by
        rintro c ⟨⟩
        decide
      rw [List.flatMap_cons, List.append_assoc, List.append_assoc, List.cons_append]
      refine itemsUpTo_eq_some_iff.mpr ⟨x, _, (each x List.mem_cons_self).read comma,
        .inl ⟨_, y :: ys, rfl, ?_, rfl⟩⟩
      rw [itemsUpTo_gap ignores spaces]
      exact later

theorem length_le_entries (xs : List α) (gap : List Char) (text : α → List Char) :
    xs.length ≤ (xs.flatMap fun y => ',' :: gap ++ text y).length := by
  induction xs with
  | nil => exact Nat.zero_le _
  | cons x xs ih =>
      rw [List.flatMap_cons, List.length_append, List.length_append, List.length_cons]
      simp only [List.length_cons]
      omega

theorem container_written (closes : close = ']' ∨ close = '\x7d') (ignores : IgnoresSpace item)
    (spaces : ∀ c ∈ gap, isSpace c = true) (backSpaces : ∀ c ∈ back, isSpace c = true)
    {x : α} {xs : List α} (each : ∀ y ∈ x :: xs, Written item (text y) y) (tail : List Char) :
    container close item (gap ++
      (text x ++ (xs.flatMap (fun y => ',' :: gap ++ text y) ++ (back ++ close :: tail)))) =
        some (x :: xs, tail) := by
  obtain ⟨first, more, written, visible⟩ := (each x List.mem_cons_self).starts
  have inside : first ≠ close := by
    rintro rfl
    rcases closes with rfl | rfl <;> exact visible (by decide)
  -- Each entry behind the first has a comma, so the fuel is not used up before the end.
  have enough : xs.length < (more ++ (xs.flatMap (fun y => ',' :: gap ++ text y) ++
      (back ++ close :: tail))).length + 1 := by
    have entries := length_le_entries xs gap text
    rw [List.length_append, List.length_append]
    omega
  have read := itemsUpTo_written closes ignores spaces backSpaces each enough tail
  rw [container, skipSpace_gap spaces]
  rw [written, List.cons_append] at read ⊢
  rw [skipSpace_visible visible]
  simp only [if_neg inside]
  exact read

end Entries

section Values

variable {layout : JsonLayout} {depth : Nat}

theorem written_scalar {first : Char} {more : List Char} {v : Json}
    (starts : first ∉ [' ', '\n', '\t', '\r', ']', '\x7d', '[', '\x7b'])
    (read : ∀ {tail}, Ends tail → scalar (first :: more ++ tail) = some (v, tail)) :
    Written (value depth) (first :: more) v := by
  have visible : first ∉ [' ', '\n', '\t', '\r', ']', '\x7d'] := fun member =>
    starts (List.mem_append_left ['[', '\x7b'] member)
  refine ⟨⟨first, more, rfl, visible⟩, fun ends => ?_⟩
  rw [value_of_scalar, List.cons_append, skipSpace_visible visible]
  · exact read ends
  all_goals
    rw [List.cons_append, skipSpace_visible visible]
    rintro ⟨⟩
    exact starts (by decide)

theorem scalar_text {n : Nat} (fits : n < wordLimit) {tail : List Char} (ends : Ends tail) :
    scalar (Digits.text n ++ tail) = some (.nat n, tail) := by
  obtain ⟨first, more, same, digit⟩ := Digits.exists_cons_text n
  have read := number_text fits ends
  rw [same, List.cons_append] at read ⊢
  unfold scalar
  split
  iterate 5 next letter => simp_all <;> exact absurd digit (by decide)
  · rw [read]
    rfl

theorem written_text {n : Nat} (fits : n < wordLimit) :
    Written (value depth) (Digits.text n) (.nat n) := by
  obtain ⟨first, more, same, digit⟩ := Digits.exists_cons_text n
  rw [same]
  refine written_scalar (fun member => ?_) fun ends => same ▸ scalar_text fits ends
  have others : [' ', '\n', '\t', '\r', ']', '\x7d', '[', '\x7b'].any Digits.isDigit = false := by
    decide
  exact List.any_eq_false.mp others first member digit

theorem renderItems_eq_flatMap (layout : JsonLayout) (level : Nat) (items : List Json) :
    Json.renderItems layout level items =
      items.flatMap fun item => ',' :: layout.lineBreak level ++ item.render layout level := by
  induction items with
  | nil => rfl
  | cons item rest ih => rw [Json.renderItems, ih, List.flatMap_cons]

/-- The text of a member at a level. -/
def memberText (layout : JsonLayout) (level : Nat) (m : String × Json) : List Char :=
  quoted m.1 ++ (layout.colon ++ m.2.render layout level)

theorem renderMembers_eq_flatMap (layout : JsonLayout) (level : Nat)
    (members : List (String × Json)) :
    Json.renderMembers layout level members =
      members.flatMap fun m => ',' :: layout.lineBreak level ++ memberText layout level m := by
  induction members with
  | nil => rfl
  | cons m rest ih =>
      rw [Json.renderMembers, ih, List.flatMap_cons]
      simp only [memberText, List.append_assoc, List.cons_append]

theorem render_nat (layout : JsonLayout) (level n : Nat) :
    (Json.nat n).render layout level = Digits.text n := by
  simp [Json.nat, Json.render, numeral, Decimal.ofNat]

theorem render_object (layout : JsonLayout) (level : Nat) (m : String × Json)
    (rest : List (String × Json)) :
    (Json.object (m :: rest)).render layout level =
      '\x7b' :: (layout.lineBreak (level + 1) ++ (memberText layout (level + 1) m ++
        (rest.flatMap (fun m => ',' :: layout.lineBreak (level + 1) ++
          memberText layout (level + 1) m) ++ (layout.lineBreak level ++ ['\x7d'])))) := by
  rw [Json.render, renderMembers_eq_flatMap, memberText]
  simp only [List.append_assoc, List.cons_append]

theorem written_quoted (text : String) : Written (value depth) (quoted text) (.string text) := by
  refine written_scalar (by decide) fun {tail} _ => ?_
  show (string (quoted text ++ tail)).map _ = _
  rw [string_quoted]
  rfl

theorem written_member {level : Nat} (spaced : layout.Spaced) {m : String × Json}
    (is : Written (value depth) (m.2.render layout level) m.2) :
    Written (member (value depth)) (memberText layout level m) m := by
  obtain ⟨gap, colon, spaces⟩ := spaced.colon
  refine ⟨⟨'"', _, rfl, by decide⟩, fun {tail} ends => ?_⟩
  have first : skipSpace (memberText layout level m ++ tail) =
      quoted m.1 ++ (':' :: (gap ++ (m.2.render layout level ++ tail))) := by
    rw [memberText, colon]
    simp only [List.append_assoc, List.cons_append]
    rfl
  have mark : ∀ s, skipSpace (':' :: s) = ':' :: s := fun _ => rfl
  have read := is.read ends
  simp only [member, first, string_quoted, mark, value_ignoresSpace depth gap _ spaces, read,
    Option.map_some]

theorem setMember_fresh {members : List (String × Json)} {name : String} {v : Json}
    (fresh : name ∉ members.map (·.1)) : setMember members name v = members ++ [(name, v)] := by
  induction members with
  | nil => rfl
  | cons m rest ih =>
      rw [List.map_cons, List.mem_cons, not_or] at fresh
      rw [setMember, if_neg (Ne.symm fresh.1), ih fresh.2]
      rfl

theorem objectOf_eq {members : List (String × Json)} (distinct : (members.map (·.1)).Nodup) :
    objectOf members = .object members := by
  -- By induction on the members that are left, for any that are set before them.
  suffices added : ∀ before : List (String × Json),
      ((before ++ members).map (·.1)).Nodup →
        members.foldl (fun members m => setMember members m.1 m.2) before = before ++ members from
    congrArg Json.object (added [] distinct)
  clear distinct
  induction members with
  | nil => exact fun before _ => (List.append_nil before).symm
  | cons m rest ih =>
      intro before distinct
      have fresh : m.1 ∉ before.map (·.1) := by
        rw [List.map_append, List.nodup_append] at distinct
        exact fun seen => distinct.2.2 _ seen _ List.mem_cons_self rfl
      rw [List.append_cons] at distinct ⊢
      rw [List.foldl_cons, setMember_fresh fresh, ih _ distinct]

/-- The text of a value is read as the value. -/
theorem written_render (spaced : layout.Spaced) {v : Json} (plain : v.Plain depth) (level : Nat) :
    Written (value depth) (v.render layout level) v := by
  induction plain generalizing level with
  | null => exact written_scalar (by decide) fun _ => rfl
  | bool b => cases b <;> exact written_scalar (by decide) fun _ => rfl
  | @nat depth n fits =>
      rw [render_nat]
      exact written_text fits
  | string s => exact written_quoted s
  | @array depth items each ih =>
      refine ⟨by cases items <;> exact ⟨'[', _, rfl, by decide⟩, fun {tail} _ => ?_⟩
      cases items with
      | nil => rfl
      | cons item rest =>
          have inside := container_written (.inl rfl) (value_ignoresSpace depth)
            (spaced.lineBreak (level + 1)) (spaced.lineBreak level)
            (fun y member => ih y member (level + 1)) tail
          rw [Json.render, renderItems_eq_flatMap]
          simp only [List.append_assoc, List.cons_append, List.nil_append] at inside ⊢
          show (container ']' (value depth) _).map _ = _
          rw [inside]
          rfl
  | @object depth members distinct each ih =>
      refine ⟨by cases members <;> exact ⟨'\x7b', _, rfl, by decide⟩, fun {tail} _ => ?_⟩
      cases members with
      | nil => rfl
      | cons m rest =>
          have inside := container_written (.inr rfl) (member_ignoresSpace (value depth))
            (spaced.lineBreak (level + 1)) (spaced.lineBreak level)
            (fun y member => written_member spaced (ih y member (level + 1))) tail
          rw [render_object]
          simp only [List.append_assoc, List.cons_append, List.nil_append] at inside ⊢
          show (container '\x7d' (member (value depth)) _).map _ = _
          rw [inside, Option.map_some]
          simp only [objectOf_eq distinct]

end Values

/-! ## Escape characters -/

theorem escaped_bare (c : Char) : '\x1b' ∉ escaped c := by
  unfold escaped
  split
  iterate 7 decide
  · split
    · next control =>
      have digits : ∀ n < 32, '\x1b' ∉ ['\\', 'u', '0', '0', hexChar (n / 16), hexChar (n % 16)] := by
        decide
      exact digits c.toNat control
    · next visible =>
      rw [List.mem_singleton]
      rintro rfl
      exact visible (by decide)

theorem quoted_bare (s : String) : '\x1b' ∉ quoted s := by
  simp [quoted, escaped_bare]

theorem text_bare (n : Nat) : '\x1b' ∉ Digits.text n :=
  fun member => absurd (Digits.isDigit_of_mem_text member) (by decide)

theorem entries_bare {α : Type} {gap : List Char} {text : α → List Char} {xs : List α}
    (spaces : '\x1b' ∉ gap) (each : ∀ x ∈ xs, '\x1b' ∉ text x) :
    '\x1b' ∉ xs.flatMap fun x => ',' :: gap ++ text x := by
  intro escape
  obtain ⟨x, member, inside⟩ := List.mem_flatMap.mp escape
  simp [spaces, each x member] at inside

/-- No text of a value holds an escape character, so nothing in it is taken for a style. -/
theorem render_bare {layout : JsonLayout} (spaced : layout.Spaced) {depth : Nat} {v : Json}
    (plain : v.Plain depth) (level : Nat) : '\x1b' ∉ v.render layout level := by
  have breaks : ∀ level, '\x1b' ∉ layout.lineBreak level :=
    fun level member => absurd (spaced.lineBreak level _ member) (by decide)
  have colon : '\x1b' ∉ layout.colon := by
    obtain ⟨gap, same, spaces⟩ := spaced.colon
    rw [same, List.mem_cons, not_or]
    exact ⟨by decide, fun member => absurd (spaces _ member) (by decide)⟩
  induction plain generalizing level with
  | null => simp [Json.render]
  | bool b => cases b <;> simp [Json.render]
  | @nat depth n fits =>
      rw [render_nat]
      exact text_bare n
  | string s => exact quoted_bare s
  | @array depth items each ih =>
      cases items with
      | nil => simp [Json.render]
      | cons item rest =>
          have first := ih item List.mem_cons_self (level + 1)
          have others := entries_bare (breaks (level + 1)) fun item member =>
            ih item (List.mem_cons_of_mem _ member) (level + 1)
          rw [Json.render, renderItems_eq_flatMap]
          simp only [List.mem_append, List.mem_cons, List.not_mem_nil, breaks, first, others,
            Char.reduceEq, or_self, not_false_eq_true]
  | @object depth members distinct each ih =>
      have texts : ∀ m ∈ members, '\x1b' ∉ memberText layout (level + 1) m := fun m member => by
        simp [memberText, quoted_bare, colon, ih m member (level + 1)]
      cases members with
      | nil => simp [Json.render]
      | cons m rest =>
          have others := entries_bare (breaks (level + 1)) fun m member =>
            texts m (List.mem_cons_of_mem _ member)
          rw [render_object]
          simp only [List.mem_append, List.mem_cons, List.not_mem_nil, breaks,
            texts m List.mem_cons_self, others, Char.reduceEq, or_self, not_false_eq_true]

end JsonText

namespace Json

theorem parse?_of_render {layout : JsonLayout} (spaced : layout.Spaced) {v : Json}
    (plain : v.Plain JsonText.maxDepth) {text : String} (gap : List Char)
    (written : text.toList = v.render layout 0 ++ gap)
    (spaces : ∀ c ∈ gap, JsonText.isSpace c = true) : parse? text = some v := by
  have ends : JsonText.Ends gap := fun c first =>
    JsonText.mem_of_isSpace (spaces c (List.mem_of_mem_head? first))
  have nothing : JsonText.skipSpace gap = [] := List.dropWhile_eq_nil_iff.mpr spaces
  rw [parse?, written, (JsonText.written_render spaced plain 0).read ends]
  simp [nothing]

/-- The text of a value on several lines is read as the value. -/
theorem parse?_pretty {v : Json} (plain : v.Plain JsonText.maxDepth) :
    parse? v.pretty = some v :=
  parse?_of_render JsonLayout.pretty_spaced plain [] (by simp [pretty]) nofun

theorem parse?_pretty_line {v : Json} (plain : v.Plain JsonText.maxDepth) :
    parse? (v.pretty ++ "\n") = some v :=
  parse?_of_render JsonLayout.pretty_spaced plain ['\n'] (by simp [pretty])
    (List.forall_mem_singleton.mpr rfl)

/-! ## The end of a text -/

theorem isBlank_of_isDigit {c : Char} (digit : Digits.isDigit c = true) : isBlank c = false := by
  have bounds := Digits.bounds_of_isDigit digit
  have others : ∀ n < 58, 48 ≤ n → CodeRange.covers blankRanges n = false := by decide
  exact others c.toNat (by omega) bounds.1

theorem getLast?_numeral (n : Decimal) :
    ∀ last ∈ (JsonText.numeral n).getLast?, isBlank last = false := by
  obtain ⟨front, k, same⟩ : ∃ front k, JsonText.numeral n = front ++ Digits.text k := by
    simp only [JsonText.numeral]
    generalize (if n.negative then ['-'] else []) = sign
    by_cases zero : n.exponent = 0
    · exact ⟨sign, n.mantissa, by simp [zero]⟩
    by_cases negative : n.exponent < 0
    · exact ⟨sign ++ Digits.text n.mantissa ++ ['e', '-'], n.exponent.natAbs,
        by simp [zero, negative]⟩
    · exact ⟨sign ++ Digits.text n.mantissa ++ ['e'], n.exponent.natAbs, by simp [zero, negative]⟩
  intro last ends
  rw [same, List.getLast?_append_of_ne_nil _ (Digits.text_ne_nil k)] at ends
  exact isBlank_of_isDigit (Digits.isDigit_of_mem_text (List.mem_of_getLast? ends))

theorem getLast?_render (layout : JsonLayout) (level : Nat) (v : Json) :
    ∀ last ∈ (v.render layout level).getLast?, isBlank last = false := by
  have closed : ∀ {front : List Char} {c : Char}, isBlank c = false →
      ∀ last ∈ (front ++ [c]).getLast?, isBlank last = false := by
    rintro front c visible last ends
    rw [List.getLast?_concat] at ends
    cases ends
    exact visible
  cases v with
  | null => exact @closed ['n', 'u', 'l'] 'l' (by decide)
  | bool b =>
      cases b with
      | true => exact @closed ['t', 'r', 'u'] 'e' (by decide)
      | false => exact @closed ['f', 'a', 'l', 's'] 'e' (by decide)
  | number n => exact getLast?_numeral n
  | string s => exact closed (by decide)
  | array items =>
      cases items with
      | nil => exact @closed ['['] ']' (by decide)
      | cons item rest =>
          rw [render]
          exact closed (by decide)
  | object members =>
      cases members with
      | nil => exact @closed ['\x7b'] '\x7d' (by decide)
      | cons m rest =>
          rw [render]
          exact closed (by decide)

theorem trimEnd_pretty (v : Json) : Text.trimEnd v.pretty.toList = v.pretty.toList := by
  rw [pretty, String.toList_ofList]
  exact Text.trimEnd_eq_self_iff.mpr (getLast?_render .pretty 0 v)

end Json

end Winnow
