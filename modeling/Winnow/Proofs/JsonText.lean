import Winnow.Json.Parser
import Winnow.Json.Printer
import Winnow.Proofs.Scanning

/-! # What a JSON text is read as

A value is read the same if a closing brace follows it and if containers may nest deeper. No name
occurs twice in an object that was read. A string that was printed is read as itself.
-/

namespace Winnow

/-- No object in the value has two members of one name. -/
inductive Json.NamesDistinct : Json → Prop where
  /-- There is nothing in the null value. -/
  | null : NamesDistinct .null
  /-- Or in a truth value. -/
  | bool (b : Bool) : NamesDistinct (.bool b)
  /-- Or in a number. -/
  | number (n : Decimal) : NamesDistinct (.number n)
  /-- Or in a string. -/
  | string (s : String) : NamesDistinct (.string s)
  /-- An array has members of objects only inside its items. -/
  | array {items : List Json} (each : ∀ item ∈ items, NamesDistinct item) :
      NamesDistinct (.array items)
  /-- The names of an object differ. -/
  | object {members : List (String × Json)} (distinct : (members.map (·.1)).Nodup)
      (each : ∀ member ∈ members, NamesDistinct member.2) : NamesDistinct (.object members)

namespace JsonText

open Text

/-- Nothing follows, or a closing brace. -/
def Closes (tail : List Char) : Prop :=
  Stops (· != '\x7d') tail

theorem Closes.stops {tail : List Char} (closes : Closes tail) {isKind : Char → Bool}
    (other : isKind '\x7d' = false) : Stops isKind tail := by
  intro c first
  have brace : c = '\x7d' := by simpa using closes c first
  rw [brace, other]

theorem Closes.head?_append_ne {s tail : List Char} (closes : Closes tail) {c : Char}
    (other : c ≠ '\x7d') (different : s.head? ≠ some c) : (s ++ tail).head? ≠ some c := by
  cases s with
  | nil =>
      intro first
      exact other (by simpa using closes c first)
  | cons => exact different

theorem Closes.skipSpace_append {tail : List Char} (closes : Closes tail) (s : List Char) :
    skipSpace (s ++ tail) = skipSpace s ++ tail :=
  Stops.dropWhile_append (closes.stops rfl) s

/-! ## Strings -/

section Tail

variable {s rest : List Char} (tail : List Char)

theorem hexQuad_append {n : Nat} (read : hexQuad s = some (n, rest)) :
    hexQuad (s ++ tail) = some (n, rest ++ tail) := by
  unfold hexQuad at read
  split at read
  · next a b c d rest' =>
      simp only [Option.bind_eq_bind, Option.bind_eq_some_iff, Option.some.injEq,
        Prod.mk.injEq] at read
      obtain ⟨va, ha, vb, hb, vc, hc, vd, hd, rfl, rfl⟩ := read
      simp [hexQuad, ha, hb, hc, hd]
  · cases read

theorem numericEscape_append {c : Char} (read : numericEscape s = some (c, rest)) :
    numericEscape (s ++ tail) = some (c, rest ++ tail) := by
  unfold numericEscape at read ⊢
  cases first : hexQuad s with
  | none => simp [first] at read
  | some quad =>
      obtain ⟨unit, behind⟩ := quad
      rw [first] at read
      rw [hexQuad_append tail first]
      simp only at read ⊢
      split at read
      · cases read
      · next low =>
          rw [if_neg low]
          split at read
          · next high =>
              rw [if_pos high]
              split at read
              · next behind =>
                  cases second : hexQuad behind with
                  | none => simp [second] at read
                  | some quad =>
                      obtain ⟨unit, last⟩ := quad
                      simp only [second] at read
                      simp only [List.cons_append, hexQuad_append tail second]
                      split at read
                      · next paired =>
                          simp only [Option.some.injEq, Prod.mk.injEq] at read
                          rw [if_pos paired, read.1, read.2]
                      · cases read
              · cases read
          · next high =>
              cases read
              rw [if_neg high]

theorem escape_append {c : Char} (read : escape s = some (c, rest)) :
    escape (s ++ tail) = some (c, rest ++ tail) := by
  cases s with
  | nil => cases read
  | cons letter s =>
      rw [escape] at read
      rw [List.cons_append, escape]
      split at read
      · next byNumber => rw [if_pos byNumber, numericEscape_append tail read]
      · next byLetter =>
          obtain ⟨meant, found, same⟩ := Option.map_eq_some_iff.mp read
          cases same
          rw [if_neg byLetter, found]
          rfl

theorem stringChar_append {c : Char} (read : stringChar s = some (c, rest)) :
    stringChar (s ++ tail) = some (c, rest ++ tail) := by
  cases s with
  | nil => cases read
  | cons first s =>
      rw [stringChar] at read
      rw [List.cons_append, stringChar]
      split at read
      · next escaped => rw [if_pos escaped, escape_append tail read]
      · next plain =>
          split at read
          · cases read
          · next printable =>
              cases read
              rw [if_neg plain, if_neg printable]

theorem stringBody_quote (rest : List Char) : stringBody ('"' :: rest) = some ([], rest) := by
  rw [stringBody]

theorem stringBody_step {c : Char} (unquoted : s.head? ≠ some '"')
    (read : stringChar s = some (c, rest)) :
    stringBody s = (stringBody rest).map fun (cs, rest) => (c :: cs, rest) := by
  rw [stringBody.eq_def]
  split
  · cases read
  · simp at unquoted
  · split
    · next none => rw [none] at read; cases read
    · next first behind step =>
        rw [step] at read
        cases read
        rfl

theorem stringBody_append {cs : List Char} (read : stringBody s = some (cs, rest)) :
    stringBody (s ++ tail) = some (cs, rest ++ tail) := by
  -- The cases are those of the scan: the end of the text, a quote, no character, a character.
  fun_induction stringBody s generalizing cs rest with
  | case1 => cases read
  | case2 behind =>
      cases read
      exact stringBody_quote _
  | case3 s _ unquoted none => cases read
  | case4 s nonempty unquoted c behind step _ ih =>
      obtain ⟨⟨more, last⟩, body, same⟩ := Option.map_eq_some_iff.mp read
      cases same
      have first : (s ++ tail).head? ≠ some '"' := by
        cases s with
        | nil => cases step
        | cons c s =>
            rintro quote
            cases quote
            exact unquoted s rfl
      rw [stringBody_step first (stringChar_append tail step), ih body]
      rfl

theorem string_append {text : String} (read : string s = some (text, rest)) :
    string (s ++ tail) = some (text, rest ++ tail) := by
  unfold string at read
  split at read
  · next body =>
      obtain ⟨⟨cs, last⟩, found, same⟩ := Option.map_eq_some_iff.mp read
      cases same
      rw [List.cons_append, string, stringBody_append tail found]
      rfl
  · cases read

theorem stringChar_escaped (c : Char) (rest : List Char) :
    (escaped c ++ rest).head? ≠ some '"' ∧ stringChar (escaped c ++ rest) = some (c, rest) := by
  unfold escaped
  split
  iterate 7 exact ⟨by simp, rfl⟩
  next noQuote noBackslash _ _ _ _ _ =>
    split
    · next control =>
      have first := hexDigit_digitChar (c.toNat / 16) (by omega)
      have second := hexDigit_digitChar (c.toNat % 16) (by omega)
      have zero : hexDigit '0' = some 0 := by decide
      have unit : hexQuad ('0' :: '0' :: hexChar (c.toNat / 16) :: hexChar (c.toNat % 16) :: rest) =
          some (c.toNat, rest) := by
        simp only [hexQuad, hexChar, zero, first, second, Option.bind_eq_bind, Option.bind_some]
        congr 2
        omega
      refine ⟨by simp, ?_⟩
      show numericEscape
        ('0' :: '0' :: hexChar (c.toNat / 16) :: hexChar (c.toNat % 16) :: rest) = _
      rw [numericEscape, unit]
      simp only
      rw [if_neg (by omega), if_neg (by omega), Char.ofNat_toNat]
    · next printable =>
      refine ⟨by simpa using noQuote, ?_⟩
      rw [List.singleton_append, stringChar, if_neg (by simpa using noBackslash),
        if_neg printable]

/-- A string that was printed is read as itself. -/
theorem string_quoted (text : String) (rest : List Char) :
    string (quoted text ++ rest) = some (text, rest) := by
  have body : ∀ s : List Char, stringBody (s.flatMap escaped ++ '"' :: rest) = some (s, rest) := by
    intro s
    induction s with
    | nil => exact stringBody_quote rest
    | cons c s ih =>
        obtain ⟨unquoted, read⟩ := stringChar_escaped c (s.flatMap escaped ++ '"' :: rest)
        rw [List.flatMap_cons, List.append_assoc, stringBody_step unquoted read, ih]
        rfl
  rw [quoted, List.append_assoc, List.cons_append, string, List.singleton_append, body]
  simp

/-! ## Values -/

variable {tail}

theorem span_append (closes : Closes tail) (s : List Char) :
    Digits.span (s ++ tail) = ((Digits.span s).1, (Digits.span s).2 ++ tail) := by
  have stops : Stops Digits.isDigit tail := closes.stops rfl
  rw [Digits.span, stops.takeWhile_append, stops.dropWhile_append]
  rfl

namespace NumberToken

theorem scanWhole_append (closes : Closes tail) {digits : List Nat}
    (read : scanWhole s = some (digits, rest)) :
    scanWhole (s ++ tail) = some (digits, rest ++ tail) := by
  unfold scanWhole at read ⊢
  rw [span_append closes]
  match run : Digits.span s with
  | ([], behind) | (0 :: _ :: _, behind) => rw [run] at read; cases read
  | ([0], behind) | ((_ + 1) :: _, behind) => rw [run] at read; cases read; rfl

theorem scanFraction_of_ne (whole : s.head? ≠ some '.') : scanFraction s = some ([], s) := by
  unfold scanFraction
  split
  · simp at whole
  · rfl

theorem scanFraction_append (closes : Closes tail) {digits : List Nat}
    (read : scanFraction s = some (digits, rest)) :
    scanFraction (s ++ tail) = some (digits, rest ++ tail) := by
  by_cases point : s.head? = some '.'
  · obtain ⟨behind, rfl⟩ := List.head?_eq_some_iff.mp point
    rw [List.cons_append]
    unfold scanFraction at read ⊢
    simp only [span_append closes] at read ⊢
    match run : Digits.span behind with
    | ([], _) => rw [run] at read; cases read
    | (_ :: _, _) => rw [run] at read; cases read; rfl
  · rw [scanFraction_of_ne point] at read
    cases read
    exact scanFraction_of_ne (closes.head?_append_ne (by decide) point)

theorem scanExponentSign_of_ne (plus : s.head? ≠ some '+') (minus : s.head? ≠ some '-') :
    scanExponentSign s = (1, s) := by
  unfold scanExponentSign
  split
  · simp at plus
  · simp at minus
  · rfl

theorem scanExponentSign_append (closes : Closes tail) (s : List Char) :
    scanExponentSign (s ++ tail) = ((scanExponentSign s).1, (scanExponentSign s).2 ++ tail) := by
  by_cases plus : s.head? = some '+'
  · obtain ⟨behind, rfl⟩ := List.head?_eq_some_iff.mp plus
    rfl
  · by_cases minus : s.head? = some '-'
    · obtain ⟨behind, rfl⟩ := List.head?_eq_some_iff.mp minus
      rfl
    · rw [scanExponentSign_of_ne plus minus, scanExponentSign_of_ne
        (closes.head?_append_ne (by decide) plus) (closes.head?_append_ne (by decide) minus)]

theorem scanExponent_append (closes : Closes tail) {exponent : Int}
    (read : scanExponent s = some (exponent, rest)) :
    scanExponent (s ++ tail) = some (exponent, rest ++ tail) := by
  cases s with
  | nil =>
      cases read
      match tail with
      | [] => rfl
      | c :: tail =>
          have brace : c = '\x7d' := by simpa using closes c rfl
          rw [brace]
          rfl
  | cons c s =>
      rw [List.cons_append]
      unfold scanExponent at read ⊢
      simp only [scanExponentSign_append closes, span_append closes] at read ⊢
      split at read
      · next mark =>
          rw [if_pos mark]
          match run : Digits.span (scanExponentSign s).2 with
          | ([], _) => rw [run] at read; cases read
          | (_ :: _, _) => rw [run] at read; cases read; rfl
      · next plain =>
          rw [if_neg plain]
          cases read
          rfl

/-- A number token behind its sign. -/
def scanUnsigned (negative : Bool) (s : List Char) : Option (NumberToken × List Char) := do
  let (whole, s) ← scanWhole s
  let (fraction, s) ← scanFraction s
  let (exponent, s) ← scanExponent s
  some (⟨negative, whole, fraction, exponent⟩, s)

theorem scan_of_ne (unsigned : s.head? ≠ some '-') : scan s = scanUnsigned false s := by
  unfold scan
  split
  · next same =>
      split at same
      · simp at unsigned
      · cases same
        rfl

theorem scanUnsigned_append (closes : Closes tail) {negative : Bool} {token : NumberToken}
    (read : scanUnsigned negative s = some (token, rest)) :
    scanUnsigned negative (s ++ tail) = some (token, rest ++ tail) := by
  simp only [scanUnsigned, Option.bind_eq_bind, Option.bind_eq_some_iff, Prod.exists] at read ⊢
  obtain ⟨whole, s, first, fraction, s, second, exponent, s, third, same⟩ := read
  cases same
  exact ⟨_, _, scanWhole_append closes first, _, _, scanFraction_append closes second, _, _,
    scanExponent_append closes third, rfl⟩

theorem scan_append (closes : Closes tail) {token : NumberToken}
    (read : scan s = some (token, rest)) : scan (s ++ tail) = some (token, rest ++ tail) := by
  by_cases minus : s.head? = some '-'
  · obtain ⟨behind, rfl⟩ := List.head?_eq_some_iff.mp minus
    exact scanUnsigned_append closes read
  · rw [scan_of_ne minus] at read
    rw [scan_of_ne (closes.head?_append_ne (by decide) minus), scanUnsigned_append closes read]

end NumberToken

theorem number_append (closes : Closes tail) {n : Decimal} (read : number s = some (n, rest)) :
    number (s ++ tail) = some (n, rest ++ tail) := by
  unfold number at read ⊢
  cases token : NumberToken.scan s with
  | none => simp [token] at read
  | some found =>
      obtain ⟨token, behind⟩ := found
      simp only [token, NumberToken.scan_append closes token] at read ⊢
      split at read
      · next fits =>
          cases read
          exact if_pos fits
      · cases read

theorem map_skipWord_append {word : List Char} {v w : Json}
    (read : (skipWord word s).map (fun rest => (v, rest)) = some (w, rest)) (tail : List Char) :
    (skipWord word (s ++ tail)).map (fun rest => (v, rest)) = some (w, rest ++ tail) := by
  obtain ⟨last, skipped, same⟩ := Option.map_eq_some_iff.mp read
  cases same
  rw [skipWord_append skipped]
  rfl

theorem scalar_append (closes : Closes tail) {v : Json} (read : scalar s = some (v, rest)) :
    scalar (s ++ tail) = some (v, rest ++ tail) := by
  unfold scalar at read
  split at read
  · cases read
  · exact map_skipWord_append read tail
  · exact map_skipWord_append read tail
  · exact map_skipWord_append read tail
  · obtain ⟨⟨text, last⟩, body, same⟩ := Option.map_eq_some_iff.mp read
    cases same
    have found := string_append tail body
    rw [List.cons_append] at found ⊢
    rw [scalar, found]
    rfl
  · next nonempty noNull noTrue noFalse noString =>
    obtain ⟨⟨n, last⟩, token, same⟩ := Option.map_eq_some_iff.mp read
    cases same
    obtain ⟨c, behind, rfl⟩ := List.exists_cons_of_ne_nil nonempty
    have found := number_append closes token
    rw [List.cons_append] at found ⊢
    unfold scalar
    split <;> simp_all

/-! ## Containers -/

theorem itemsUpTo_eq_some_iff {α : Type} {close : Char} {item : Scan α} {fuel : Nat}
    {xs : List α} :
    itemsUpTo close item (fuel + 1) s = some (xs, rest) ↔
      ∃ x behind, item s = some (x, behind) ∧
        ((∃ next more, skipSpace behind = ',' :: next ∧
            itemsUpTo close item fuel next = some (more, rest) ∧ xs = x :: more) ∨
          close ≠ ',' ∧ skipSpace behind = close :: rest ∧ xs = [x]) := by
  rw [itemsUpTo]
  cases item s with
  | none => simp
  | some found =>
      obtain ⟨x, behind⟩ := found
      simp only [Option.some.injEq, Prod.mk.injEq]
      constructor
      · intro read
        refine ⟨x, behind, ⟨rfl, rfl⟩, ?_⟩
        split at read
        · cases read
        · next c next space =>
          split at read
          · next comma =>
            subst comma
            obtain ⟨⟨more, last⟩, others, same⟩ := Option.map_eq_some_iff.mp read
            cases same
            exact .inl ⟨next, more, space, others, rfl⟩
          · next comma =>
            split at read
            · next closed =>
              subst closed
              cases read
              exact .inr ⟨comma, space, rfl⟩
            · cases read
      · rintro ⟨_, _, ⟨rfl, rfl⟩, ⟨next, more, space, others, rfl⟩ | ⟨comma, space, rfl⟩⟩
        · simp [space, others]
        · simp [space, comma]

theorem itemsUpTo_append {α : Type} {close : Char} {item other : Scan α} (closes : Closes tail)
    (same : ∀ {s x rest}, item s = some (x, rest) → other (s ++ tail) = some (x, rest ++ tail))
    {fuel more : Nat} (enough : fuel ≤ more) {xs : List α}
    (read : itemsUpTo close item fuel s = some (xs, rest)) :
    itemsUpTo close other more (s ++ tail) = some (xs, rest ++ tail) := by
  induction fuel generalizing s more xs with
  | zero => cases read
  | succ fuel ih =>
      obtain ⟨more, rfl⟩ := Nat.exists_eq_add_of_lt enough
      rw [itemsUpTo_eq_some_iff] at read ⊢
      obtain ⟨x, behind, first, ⟨next, others, comma, read, rfl⟩ | ⟨apart, closed, rfl⟩⟩ := read
      · refine ⟨x, _, same first, .inl ⟨next ++ tail, others, ?_, ih (by omega) read, rfl⟩⟩
        rw [closes.skipSpace_append, comma]
        rfl
      · refine ⟨x, _, same first, .inr ⟨apart, ?_, rfl⟩⟩
        rw [closes.skipSpace_append, closed]
        rfl

theorem container_append {α : Type} {close : Char} {item other : Scan α} (closes : Closes tail)
    (same : ∀ {s x rest}, item s = some (x, rest) → other (s ++ tail) = some (x, rest ++ tail))
    {xs : List α} (read : container close item s = some (xs, rest)) :
    container close other (s ++ tail) = some (xs, rest ++ tail) := by
  unfold container at read ⊢
  rw [closes.skipSpace_append]
  cases space : skipSpace s with
  | nil => rw [space] at read; cases read
  | cons c behind =>
      rw [space] at read
      simp only [List.cons_append] at read ⊢
      split at read
      · next closed =>
          rw [if_pos closed]
          cases read
          rfl
      · next inside =>
          rw [if_neg inside, ← List.cons_append]
          exact itemsUpTo_append closes same (by simp) read

theorem member_append {α : Type} {item other : Scan α} (closes : Closes tail)
    (same : ∀ {s x rest}, item s = some (x, rest) → other (s ++ tail) = some (x, rest ++ tail))
    {m : String × α} (read : member item s = some (m, rest)) :
    member other (s ++ tail) = some (m, rest ++ tail) := by
  unfold member at read ⊢
  rw [closes.skipSpace_append]
  cases named : string (skipSpace s) with
  | none => rw [named] at read; cases read
  | some found =>
      obtain ⟨name, behind⟩ := found
      rw [named] at read
      simp only [string_append tail named, closes.skipSpace_append] at read ⊢
      split at read
      · next behind colon =>
        obtain ⟨⟨x, last⟩, found, equal⟩ := Option.map_eq_some_iff.mp read
        cases equal
        rw [colon, List.cons_append]
        simp [same found]
      · cases read

theorem scalar_head?_ne {v : Json} (read : scalar s = some (v, rest)) :
    s.head? ≠ some '[' ∧ s.head? ≠ some '\x7b' := by
  constructor <;> intro first <;> obtain ⟨behind, rfl⟩ := List.head?_eq_some_iff.mp first <;>
    cases read

theorem value_of_scalar (depth : Nat) (bracket : (skipSpace s).head? ≠ some '[')
    (brace : (skipSpace s).head? ≠ some '\x7b') : value depth s = scalar (skipSpace s) := by
  cases depth with
  | zero => rfl
  | succ depth =>
      rw [value]
      split
      · next same => simp [same] at bracket
      · next same => simp [same] at brace
      · rfl

theorem value_append_of_scalar (closes : Closes tail) (depth : Nat) {v : Json}
    (read : scalar (skipSpace s) = some (v, rest)) :
    value depth (s ++ tail) = some (v, rest ++ tail) := by
  obtain ⟨bracket, brace⟩ := scalar_head?_ne read
  rw [value_of_scalar, closes.skipSpace_append, scalar_append closes read]
  · rw [closes.skipSpace_append]
    exact closes.head?_append_ne (by decide) bracket
  · rw [closes.skipSpace_append]
    exact closes.head?_append_ne (by decide) brace

/-- A value that was read is also read in front of a closing brace, and where containers may nest
    deeper. -/
theorem value_append (closes : Closes tail) {depth deeper : Nat} (deep : depth ≤ deeper) {v : Json}
    (read : value depth s = some (v, rest)) :
    value deeper (s ++ tail) = some (v, rest ++ tail) := by
  induction depth generalizing deeper s rest v with
  | zero => exact value_append_of_scalar closes deeper read
  | succ depth ih =>
      obtain ⟨deeper, rfl⟩ := Nat.exists_eq_add_of_lt deep
      have inside : ∀ {s x rest}, value depth s = some (x, rest) →
          value (depth + deeper) (s ++ tail) = some (x, rest ++ tail) := ih (by omega)
      rw [value] at read
      split at read
      · next behind bracket =>
        obtain ⟨⟨items, last⟩, found, same⟩ := Option.map_eq_some_iff.mp read
        cases same
        rw [value, closes.skipSpace_append, bracket, List.cons_append]
        simp [container_append closes inside found]
      · next behind brace =>
        obtain ⟨⟨written, last⟩, found, same⟩ := Option.map_eq_some_iff.mp read
        cases same
        rw [value, closes.skipSpace_append, brace, List.cons_append]
        simp [container_append closes (member_append closes inside) found]
      · exact value_append_of_scalar closes _ read

end Tail

/-! ## Names of members -/

theorem mem_setMember {members : List (String × Json)} {name : String} {v : Json}
    {m : String × Json} (inside : m ∈ setMember members name v) : m = (name, v) ∨ m ∈ members := by
  induction members with
  | nil => exact .inl (List.mem_singleton.mp inside)
  | cons first rest ih =>
      rw [setMember] at inside
      split at inside
      · rcases List.mem_cons.mp inside with rfl | later
        · exact .inl rfl
        · exact .inr (List.mem_cons_of_mem _ later)
      · rcases List.mem_cons.mp inside with rfl | later
        · exact .inr List.mem_cons_self
        · exact (ih later).imp id (List.mem_cons_of_mem _)

theorem setMember_nodup {members : List (String × Json)} (distinct : (members.map (·.1)).Nodup)
    (name : String) (v : Json) : ((setMember members name v).map (·.1)).Nodup := by
  induction members with
  | nil => simp [setMember]
  | cons first rest ih =>
      obtain ⟨fresh, others⟩ := List.nodup_cons.mp distinct
      rw [setMember]
      split
      · next same =>
        subst same
        exact distinct
      · next other =>
        refine List.nodup_cons.mpr ⟨fun member => ?_, ih others⟩
        obtain ⟨m, inside, named⟩ := List.mem_map.mp member
        rcases mem_setMember inside with rfl | later
        · exact other named.symm
        · exact fresh (named ▸ List.mem_map_of_mem later)

theorem objectOf_namesDistinct {written : List (String × Json)}
    (each : ∀ m ∈ written, m.2.NamesDistinct) : (objectOf written).NamesDistinct := by
  -- What is there already counts, since a later member may replace it.
  suffices kept : ∀ members : List (String × Json), (Json.object members).NamesDistinct →
      (Json.object (written.foldl (fun members m => setMember members m.1 m.2)
        members)).NamesDistinct from
    kept [] (.object List.nodup_nil (List.forall_mem_nil _))
  induction written with
  | nil => exact fun _ distinct => distinct
  | cons first rest ih =>
      intro members before
      obtain ⟨_, later⟩ := List.forall_mem_cons.mp each
      refine ih later _ ?_
      cases before with
      | object distinct inside =>
          refine .object (setMember_nodup distinct first.1 first.2) fun m member => ?_
          rcases mem_setMember member with rfl | old
          · exact each first List.mem_cons_self
          · exact inside m old

theorem forall_of_itemsUpTo {α : Type} {close : Char} {item : Scan α} {property : α → Prop}
    (single : ∀ {s x rest}, item s = some (x, rest) → property x) {fuel : Nat} {s rest : List Char}
    {xs : List α} (read : itemsUpTo close item fuel s = some (xs, rest)) :
    ∀ x ∈ xs, property x := by
  induction fuel generalizing s xs with
  | zero => cases read
  | succ fuel ih =>
      obtain ⟨x, _, first, ⟨_, _, _, others, rfl⟩ | ⟨_, _, rfl⟩⟩ := itemsUpTo_eq_some_iff.mp read
      · exact List.forall_mem_cons.mpr ⟨single first, ih others⟩
      · exact List.forall_mem_singleton.mpr (single first)

theorem forall_of_container {α : Type} {close : Char} {item : Scan α} {property : α → Prop}
    (single : ∀ {s x rest}, item s = some (x, rest) → property x) {s rest : List Char}
    {xs : List α} (read : container close item s = some (xs, rest)) : ∀ x ∈ xs, property x := by
  unfold container at read
  split at read
  · cases read
  · split at read
    · cases read
      exact List.forall_mem_nil _
    · exact forall_of_itemsUpTo single read

theorem property_of_member {α : Type} {item : Scan α} {property : α → Prop}
    (single : ∀ {s x rest}, item s = some (x, rest) → property x) {s rest : List Char}
    {m : String × α} (read : member item s = some (m, rest)) : property m.2 := by
  unfold member at read
  split at read
  · cases read
  · split at read
    · obtain ⟨⟨x, _⟩, found, same⟩ := Option.map_eq_some_iff.mp read
      cases same
      exact single found
    · cases read

theorem scalar_namesDistinct {s rest : List Char} {v : Json} (read : scalar s = some (v, rest)) :
    v.NamesDistinct := by
  unfold scalar at read
  split at read
  · cases read
  all_goals
    obtain ⟨_, _, same⟩ := Option.map_eq_some_iff.mp read
    cases same
    constructor

theorem value_namesDistinct {depth : Nat} {s rest : List Char} {v : Json}
    (read : value depth s = some (v, rest)) : v.NamesDistinct := by
  induction depth generalizing s rest v with
  | zero => exact scalar_namesDistinct read
  | succ depth ih =>
      rw [value] at read
      split at read
      · obtain ⟨⟨items, _⟩, found, same⟩ := Option.map_eq_some_iff.mp read
        cases same
        exact .array (forall_of_container ih found)
      · obtain ⟨⟨written, _⟩, found, same⟩ := Option.map_eq_some_iff.mp read
        cases same
        exact objectOf_namesDistinct (forall_of_container (property_of_member ih) found)
      · exact scalar_namesDistinct read

end JsonText

theorem Json.parse?_namesDistinct {text : String} {document : Json}
    (parsed : parse? text = some document) : document.NamesDistinct := by
  unfold parse? at parsed
  split at parsed
  · next v rest read =>
    split at parsed
    · cases parsed
      exact JsonText.value_namesDistinct read
    · cases parsed
  · cases parsed

end Winnow
