import Winnow.Decimal.Digits
import Winnow.Log.Directive
import Winnow.PatternSyntax.Validity
import Winnow.Text.Split

/-! # Reading log directives

A directive is read character by character. Blanks around it do not count for the reading,
but its parts are cut out of the text as written, at the byte positions that they have
without the blanks in front. So blanks in front shift every part, and they may even shift
a cut into the middle of a character, where nothing can be cut.

A field may ask for a value: a number, or a valid pattern.
-/

namespace Winnow

/-- Why directives cannot be used. -/
inductive DirectiveFault where
  /-- A directive is malformed. -/
  | malformed
  /-- A cut would split a character. -/
  | splitCharacter
  deriving DecidableEq, Inhabited

namespace LogDirective

/-- The rank that a level is written as: by name in any case, by number, or `off`. -/
def rankOf? (s : String) : Option Nat :=
  match Digits.parseWord? s with
  | some n => if n ≤ 5 then some n else none
  | none =>
      ["off", "error", "warn", "info", "debug", "trace"].findIdx? fun name =>
        (s.toList.map Char.toLower) == name.toList

/-- The directive with a level, or for a target of that name. -/
def withWord (directive : LogDirective) (s : String) : LogDirective :=
  if s = "" then { directive with target := none }
  else
    match rankOf? s with
    | some rank => { directive with target := none, rank }
    | none => { directive with target := some s }

/-- The directive with its level set. No level shows everything. -/
def withLevel (directive : LogDirective) (s : String) : Except DirectiveFault LogDirective :=
  if s = "" then .ok { directive with rank := 5 }
  else
    match rankOf? s with
    | some rank => .ok { directive with rank }
    | none => .error .malformed

/-- Whether a text is a floating-point number without a sign, or a word for one. -/
def isUnsignedNumber (s : List Char) : Bool :=
  let small := s.map Char.toLower
  let isDigit := Digits.isDigit
  let whole := small.takeWhile isDigit
  let rest := small.dropWhile isDigit
  let (fraction, rest) :=
    match rest with
    | '.' :: rest => (rest.takeWhile isDigit, rest.dropWhile isDigit)
    | rest => ([], rest)
  let isExponent :=
    match rest with
    | [] => true
    | 'e' :: '+' :: digits | 'e' :: '-' :: digits | 'e' :: digits =>
        !digits.isEmpty && digits.all isDigit
    | _ => false
  ["inf", "infinity", "nan"].any (·.toList == small)
    || (!(whole ++ fraction).isEmpty && isExponent)

/-- Whether a field may be asked to have a value. Truth values and most numbers are valid
    patterns, but a plus sign may only stand in front of a number. -/
def acceptsValue : List Char → Bool
  | '+' :: s => isUnsignedNumber s
  | s => PatternSyntax.isValid s

/-- The directive with a field that events need to have, with its value behind an equals
    sign. A second equals sign ends the value. -/
def withField (directive : LogDirective) (s : List Char) : Except DirectiveFault LogDirective :=
  match Text.pieces (· == '=') s with
  | [] | [[]] => .error .malformed
  | [name] => .ok { directive with fields := directive.fields ++ [String.ofList name] }
  | name :: value :: _ =>
      if acceptsValue value then
        .ok { directive with
          fields := directive.fields ++ [String.ofList name]
          needsValue := true }
      else .error .malformed

/-- What the reading of a directive is at. A part that is being read starts at a byte
    position. -/
inductive ReadingPlace where
  | front
  /-- A level or a target. -/
  | word (start : Nat)
  /-- The name of a span. -/
  | span (start : Nat)
  | field (start : Nat)
  /-- The place behind a field. -/
  | behindField
  /-- The place behind a span. -/
  | behindSpan
  /-- A level. -/
  | level (start : Nat)
  deriving DecidableEq, Inhabited

/-- The bytes of a text from one position on. -/
def cutFrom (source : List Char) (start : Nat) : Except DirectiveFault (List Char) :=
  match Text.cutBytes start source with
  | some (_, rest) => .ok rest
  | none => .error .splitCharacter

/-- The bytes of a text between two positions. -/
def cutBetween (source : List Char) (start stop : Nat) : Except DirectiveFault (List Char) := do
  match Text.cutBytes (stop - start) (← cutFrom source start) with
  | some (part, _) => return part
  | none => .error .splitCharacter

/-- Whether a directive without brackets may start with a character. -/
def isWordStart (c : Char) : Bool :=
  c == '-' || c == ':' || c == '_' || isLetterOrNumber c

/-- Reads one character, which stands at a position. -/
def readChar (source : List Char) (state : ReadingPlace × LogDirective) (position : Nat)
    (c : Char) : Except DirectiveFault (ReadingPlace × LogDirective) :=
  let (place, directive) := state
  match place, c with
  | .front, '[' => .ok (.span (position + 1), directive)
  | .front, c => if isWordStart c then .ok (.word position, directive) else .error .malformed
  | .word start, '=' => do
      let name := String.ofList (← cutBetween source start position)
      return (.level (position + 1), { directive with target := some name })
  | .word start, '[' => do
      let name := String.ofList (← cutBetween source start position)
      return (.span (position + 1), { directive with target := some name })
  | .span start, ']' => do
      let name := String.ofList (← cutBetween source start position)
      return (.behindSpan, { directive with span := some name })
  | .span start, '\x7b' => do
      let name := String.ofList (← cutBetween source start position)
      let span := if name = "" then none else some name
      return (.field (position + 1), { directive with span })
  | .field start, '\x7d' => do
      let directive ← directive.withField (← cutBetween source start position)
      return (.behindField, directive)
  | .behindField, ']' => .ok (.behindSpan, directive)
  | .behindSpan, '=' => .ok (.level (position + 1), directive)
  | .behindField, _ | .behindSpan, _ => .error .malformed
  | .word _, _ | .span _, _ | .field _, _ | .level _, _ => .ok state

/-- Reads characters, the first of which stands at a position. -/
def readChars (source : List Char) (state : ReadingPlace × LogDirective) (position : Nat) :
    List Char → Except DirectiveFault (ReadingPlace × LogDirective)
  | [] => .ok state
  | c :: rest => do
      readChars source (← readChar source state position c) (position + c.utf8Size) rest

/-- The directive, when its text has ended. -/
def finish (source : List Char) (state : ReadingPlace × LogDirective) :
    Except DirectiveFault LogDirective :=
  let (place, directive) := state
  match place with
  | .word start => do return directive.withWord (String.ofList (← cutFrom source start))
  | .level start => do directive.withLevel (String.ofList (← cutFrom source start))
  | .behindSpan => .ok directive
  | .front | .span _ | .field _ | .behindField => .error .malformed

/-- The directive that a text stands for. -/
def parse (source : List Char) : Except DirectiveFault LogDirective := do
  finish source (← readChars source (.front, everything) 0 (Text.trim source))

end LogDirective

end Winnow
