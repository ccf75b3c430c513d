import Winnow.Text.WordChar

/-! # Patterns

The masks that range values have to match are small regular patterns. A pattern has a
written form, which error messages show, and it accepts texts: a first character leaves
some patterns, one of which has to accept what follows.
-/

namespace Winnow

/-- One position of a pattern. -/
inductive CharClass where
  /-- Any decimal digit of any script. -/
  | digit
  /-- One given character. -/
  | only (c : Char)
  /-- One of the listed characters. -/
  | among (cs : List Char)
  /-- One of the characters from `first` to `last`. -/
  | between (first last : Char)
  deriving DecidableEq

namespace CharClass

/-- Whether the class has the character. -/
def holds : CharClass → Char → Bool
  | digit, c => isDecimalDigit c
  | only x, c => c == x
  | among cs, c => cs.contains c
  | between first last, c => first.toNat ≤ c.toNat && c.toNat ≤ last.toNat

/-- The written form of a class. -/
def text : CharClass → String
  | digit => "\\d"
  | only c => String.singleton c
  | among cs => "[" ++ String.ofList cs ++ "]"
  | between first last => "[" ++ String.singleton first ++ "-" ++ String.singleton last ++ "]"

end CharClass

/-- How often a class repeats. -/
inductive Repeat where
  /-- At most once. -/
  | optional
  /-- Any number of times. -/
  | many
  /-- At least once. -/
  | some
  /-- A fixed number of times. -/
  | exactly (count : Nat)
  deriving DecidableEq

/-- A pattern of character classes. -/
inductive Pattern where
  /-- Nothing at all. -/
  | empty
  /-- One character of a class. -/
  | one (cls : CharClass)
  /-- A repeated class. -/
  | repeated (cls : CharClass) (times : Repeat)
  /-- One pattern after another. -/
  | seq (first second : Pattern)
  /-- Either of two patterns. -/
  | either (first second : Pattern)
  /-- A pattern in parentheses. -/
  | group (inner : Pattern)
  deriving DecidableEq, Inhabited

namespace Repeat

/-- The written form of a repetition. -/
def text : Repeat → String
  | optional => "?"
  | many => "*"
  | some => "+"
  | exactly count => "\x7b" ++ toString count ++ "\x7d"

end Repeat

namespace Pattern

/-- The written form of a pattern. -/
def text : Pattern → String
  | empty => ""
  | one cls => cls.text
  | repeated cls times => cls.text ++ times.text
  | seq first second => first.text ++ second.text
  | either first second => first.text ++ "|" ++ second.text
  | group inner => "(" ++ inner.text ++ ")"

/-- Whether the pattern accepts the empty text. -/
def acceptsEmpty : Pattern → Bool
  | empty => true
  | one _ => false
  | repeated _ .optional | repeated _ .many => true
  | repeated _ .some => false
  | repeated _ (.exactly count) => count == 0
  | seq first second => first.acceptsEmpty && second.acceptsEmpty
  | either first second => first.acceptsEmpty || second.acceptsEmpty
  | group inner => inner.acceptsEmpty

/-- What remains of a repetition behind a first character of its class. -/
def remaining (cls : CharClass) : Repeat → List Pattern
  | .optional => [empty]
  | .many | .some => [repeated cls .many]
  | .exactly 0 => []
  | .exactly (count + 1) => [repeated cls (.exactly count)]

/-- The patterns that a first character leaves, one of which has to accept the rest. -/
def behind (c : Char) : Pattern → List Pattern
  | empty => []
  | one cls => if cls.holds c then [empty] else []
  | repeated cls times => if cls.holds c then remaining cls times else []
  | seq first second =>
      (first.behind c).map (seq · second) ++ if first.acceptsEmpty then second.behind c else []
  | either first second => first.behind c ++ second.behind c
  | group inner => inner.behind c

/-- Whether one of some patterns accepts a text. -/
def anyAccepts (patterns : List Pattern) : List Char → Bool
  | [] => patterns.any acceptsEmpty
  | c :: rest => anyAccepts (patterns.flatMap (behind c)).eraseDups rest

/-- Whether the pattern accepts a whole text. -/
def accepts (p : Pattern) (s : List Char) : Bool :=
  anyAccepts [p] s

/-- The written form of a pattern that has to match a whole text. -/
def wholeText (p : Pattern) : String :=
  "^" ++ p.text ++ "$"

end Pattern

end Winnow
