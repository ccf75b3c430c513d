import Winnow.PatternSyntax.CharSet
import Winnow.PatternSyntax.Opening

/-! # Valid written patterns

A pattern is read piece by piece with the groups that are open. It is valid if every piece
is allowed where it stands, every group is closed, no two groups share a name, and it nests
at most 250 deep. Repetitions with counts never occur, since a directive ends at the first
closing brace.
-/

namespace Winnow.PatternSyntax

/-- A group that is being read. -/
structure GroupDraft where
  /-- The depths of the finished alternatives. -/
  alternatives : List Nat
  /-- The depths of the items of the last alternative, the last one first. Flags have none. -/
  items : List (Option Nat)
  /-- The mode behind the group. -/
  outerMode : Mode
  deriving DecidableEq, Inhabited

namespace GroupDraft

/-- A group that has nothing yet. -/
def empty (outerMode : Mode) : GroupDraft := ⟨[], [], outerMode⟩

/-- The depth of the last alternative. -/
def lastDepth (group : GroupDraft) : Nat :=
  nestedDepth (group.items.map (·.getD 0))

/-- The depth of what the group holds. -/
def depth (group : GroupDraft) : Nat :=
  nestedDepth (group.lastDepth :: group.alternatives)

/-- Goes on with the next alternative. -/
def nextAlternative (group : GroupDraft) : GroupDraft :=
  { group with alternatives := group.lastDepth :: group.alternatives, items := [] }

/-- Adds an item. -/
def add (group : GroupDraft) (item : Option Nat) : GroupDraft :=
  { group with items := item :: group.items }

/-- Repeats the last item. Neither flags nor nothing can be repeated. -/
def repeatLast (group : GroupDraft) : Option GroupDraft :=
  match group.items with
  | some depth :: items => some { group with items := some (depth + 1) :: items }
  | _ => none

end GroupDraft

/-- A pattern that is being read. -/
structure Draft where
  /-- The mode of what follows. -/
  mode : Mode
  /-- The innermost open group, or the pattern itself. -/
  group : GroupDraft
  /-- The groups around it, the innermost first. -/
  outer : List GroupDraft
  /-- The names of groups. -/
  names : List String
  deriving DecidableEq, Inhabited

namespace Draft

/-- A pattern of which nothing was read. -/
def start : Draft := ⟨.standard, .empty .standard, [], []⟩

/-- Adds an item to the innermost group. -/
def add (draft : Draft) (item : Option Nat) : Draft :=
  { draft with group := draft.group.add item }

/-- Opens a group, or sets the mode of what follows. -/
def openWith (draft : Draft) : Opening → Option Draft
  | .flags mode => some { draft.add none with mode }
  | .group mode name =>
      if name.any draft.names.contains then none
      else some ⟨mode, .empty draft.mode, draft.group :: draft.outer,
        name.toList ++ draft.names⟩

/-- Closes the innermost group. -/
def close (draft : Draft) : Option Draft :=
  match draft.outer with
  | [] => none
  | group :: outer =>
      some ⟨draft.group.outerMode, group.add (some (draft.group.depth + 1)), outer, draft.names⟩

/-- Repeats the last item. -/
def repeatLast (draft : Draft) : Option Draft :=
  draft.group.repeatLast.map fun group => { draft with group }

/-- Drops the mark of a repetition that takes as little as it can. -/
def skipLazyMark : List Char → List Char
  | '?' :: rest => rest
  | s => s

/-- Reads one piece of a pattern. -/
def step (draft : Draft) : List Char → Option (Draft × List Char)
  | [] | '\x7b' :: _ => none
  | '(' :: rest => do
      let (opening, rest) ← Opening.read draft.mode rest
      return (← draft.openWith opening, rest)
  | ')' :: rest => draft.close.map fun draft => (draft, rest)
  | '|' :: rest => some ({ draft with group := draft.group.nextAlternative }, rest)
  | '[' :: rest => (readSet draft.mode rest).map fun (set, rest) => (draft.add set.depth, rest)
  | '?' :: rest | '*' :: rest | '+' :: rest =>
      draft.repeatLast.map fun draft => (draft, skipLazyMark rest)
  | '\\' :: rest => do
      let (atom, rest) ← Atom.ofEscape draft.mode rest
      if atom.mayStandAlone draft.mode then some (draft.add (some 0), rest) else none
  | '.' :: rest => if draft.mode.isUnicode then some (draft.add (some 0), rest) else none
  | _ :: rest => some (draft.add (some 0), rest)

/-- Reads a pattern to its end. Every piece has a character, which is what `fuel` counts. -/
def readAll : Nat → Draft → List Char → Option Draft
  | 0, _, _ => none
  | fuel + 1, draft, s =>
      match draft.mode.skip s with
      | [] => some draft
      | s =>
          match draft.step s with
          | none => none
          | some (draft, rest) => readAll fuel draft rest

end Draft

/-- How deep a pattern may nest. -/
def maxDepth : Nat := 250

/-- Whether a text is a valid pattern. -/
def isValid (s : List Char) : Bool :=
  match Draft.readAll (s.length + 1) .start s with
  | some draft => draft.outer.isEmpty && draft.group.depth ≤ maxDepth
  | none => false

end Winnow.PatternSyntax
