import Winnow.PatternSyntax.Atom

/-! # Sets of characters in written patterns

A set stands in brackets: characters, ranges, escapes, sets inside the set, and operators
between two sides of it. Of a set that is read only its depth is kept, and whether it has
the bytes beyond ASCII, which sets of bytes must not have. They come in all at once, by a
negation, so that one truth value is enough.
-/

namespace Winnow.PatternSyntax

/-- What is kept of a set. -/
structure SetShape where
  /-- How deep it nests. -/
  depth : Nat
  /-- Whether it has the bytes beyond ASCII. -/
  hasHighBytes : Bool
  deriving DecidableEq, Inhabited

/-- The operators between the sides of a set. -/
inductive SetOperator where
  /-- What both sides have. -/
  | intersection
  /-- What the left side has and the right side has not. -/
  | difference
  /-- What one side has and the other has not. -/
  | symmetricDifference
  deriving DecidableEq, Inhabited

/-- A set that is being read. -/
structure SetDraft where
  /-- Whether the set is everything but what it lists. -/
  isNegated : Bool
  /-- What stands in front of the last operator. -/
  left : Option (SetShape × SetOperator)
  /-- What stands behind the last operator. -/
  members : List SetShape
  deriving DecidableEq, Inhabited

namespace SetShape

/-- A single character, a range or an escape. -/
def plain : SetShape := ⟨0, false⟩

/-- Several members side by side. -/
def union (members : List SetShape) : SetShape :=
  ⟨nestedDepth (members.map (·.depth)), members.any (·.hasHighBytes)⟩

end SetShape

/-- Two sides with an operator between them. -/
def SetOperator.apply (left : SetShape) (operator : SetOperator) (right : SetShape) : SetShape where
  depth := max left.depth right.depth + 1
  hasHighBytes :=
    match operator with
    | intersection => left.hasHighBytes && right.hasHighBytes
    | difference => left.hasHighBytes && !right.hasHighBytes
    | symmetricDifference => left.hasHighBytes != right.hasHighBytes

namespace SetDraft

/-- Adds a member. -/
def add (draft : SetDraft) (member : SetShape) : SetDraft :=
  { draft with members := draft.members ++ [member] }

/-- What the set lists. -/
def listed (draft : SetDraft) : SetShape :=
  match draft.left with
  | none => .union draft.members
  | some (left, operator) => operator.apply left (.union draft.members)

/-- Goes on behind an operator. -/
def goOn (draft : SetDraft) (operator : SetOperator) : SetDraft :=
  { draft with left := some (draft.listed, operator), members := [] }

/-- The set, when its bracket is closed. -/
def close (draft : SetDraft) : SetShape :=
  ⟨draft.listed.depth + 1, draft.listed.hasHighBytes != draft.isNegated⟩

/-- Counts the hyphens in front of a text, and drops them with what the mode skips. -/
def hyphens (mode : Mode) : Nat → List Char → Nat × List Char
  | fuel + 1, '-' :: rest =>
      let (count, rest) := hyphens mode fuel (mode.skip rest)
      (count + 1, rest)
  | _, s => (0, s)

/-- Starts a set behind its bracket. A hyphen at its front stands for itself, and so does a
    closing bracket that is the first member. -/
def start (mode : Mode) (s : List Char) : SetDraft × List Char :=
  let s := mode.skip s
  let (isNegated, s) :=
    match s with
    | '^' :: rest => (true, mode.skip rest)
    | s => (false, s)
  match hyphens mode s.length s with
  | (0, ']' :: rest) => (⟨isNegated, none, [.plain]⟩, rest)
  | (count, rest) => (⟨isNegated, none, List.replicate count .plain⟩, rest)

end SetDraft

/-- The names of sets of ASCII characters. -/
def setNames : List String :=
  ["alnum", "alpha", "ascii", "blank", "cntrl", "digit", "graph", "lower", "print", "punct",
   "space", "upper", "word", "xdigit"]

/-- A set by its name between colons, read behind its opening bracket. -/
def namedSet : Scan SetShape
  | ':' :: rest =>
      let isNegated := rest.head? == some '^'
      let rest := if isNegated then rest.tail else rest
      match rest.dropWhile (· != ':') with
      | ':' :: ']' :: behind =>
          if setNames.contains (String.ofList (rest.takeWhile (· != ':'))) then
            some (⟨0, isNegated⟩, behind)
          else none
      | _ => none
  | _ => none

/-- A character or an escape inside a set. -/
def setAtom (mode : Mode) : Scan Atom
  | '\\' :: rest => Atom.ofEscape mode rest
  | c :: rest => some (.single c false, rest)
  | [] => none

/-- The character that decides whether a hyphen makes a range. Of a comment, it is the
    first character. -/
def behindHyphen (mode : Mode) (s : List Char) : Option Char :=
  if mode.isSpaced then
    match s.dropWhile isBlank with
    | '#' :: rest => (rest.dropWhile isBlank).head?
    | rest => rest.head?
  else s.head?

/-- Whether two atoms are the ends of a range. -/
def isRange : Atom → Atom → Bool
  | .single first _, .single last _ => first.toNat ≤ last.toNat
  | _, _ => false

/-- Drops a member of a set: an atom, or a range between two of them. -/
def skipMember (mode : Mode) (s : List Char) : Option (List Char) := do
  let (first, rest) ← setAtom mode s
  guard (first.mayBeMember mode)
  match mode.skip rest with
  | '-' :: behind =>
      let next := behindHyphen mode behind
      if next = some ']' ∨ next = some '-' then return '-' :: behind
      let (last, rest) ← setAtom mode (mode.skip behind)
      guard (last.mayBeMember mode && isRange first last)
      return rest
  | rest => return rest

/-- Reads sets up to the end of the outermost one. No text has more members and brackets
    than characters, which is what `fuel` counts. -/
def readSets (mode : Mode) : Nat → SetDraft → List SetDraft → Scan SetShape
  | 0, _, _, _ => none
  | fuel + 1, draft, outer, s =>
      match mode.skip s with
      | [] => none
      | '&' :: '&' :: rest => readSets mode fuel (draft.goOn .intersection) outer rest
      | '-' :: '-' :: rest => readSets mode fuel (draft.goOn .difference) outer rest
      | '~' :: '~' :: rest => readSets mode fuel (draft.goOn .symmetricDifference) outer rest
      | '[' :: rest =>
          match namedSet rest with
          | some (shape, rest) => readSets mode fuel (draft.add shape) outer rest
          | none =>
              let (inner, rest) := SetDraft.start mode rest
              readSets mode fuel inner (draft :: outer) rest
      | ']' :: rest =>
          if !mode.isUnicode && draft.close.hasHighBytes then none
          else
            match outer with
            | [] => some (draft.close, rest)
            | next :: outer => readSets mode fuel (next.add draft.close) outer rest
      | s =>
          match skipMember mode s with
          | none => none
          | some rest => readSets mode fuel (draft.add .plain) outer rest

/-- A set, read behind its opening bracket. -/
def readSet (mode : Mode) : Scan SetShape := fun s =>
  let (draft, rest) := SetDraft.start mode s
  readSets mode (rest.length + 1) draft [] rest

end Winnow.PatternSyntax
