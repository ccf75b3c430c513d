/-! # Splitting text

Pieces of a text between separator characters, cuts at the first or last occurrence of one
character, and cuts at a number of bytes.
-/

namespace Winnow.Text

/-- The pieces between the characters that satisfy `separates`, the empty ones included.
    There is always one more piece than there are separators. -/
def pieces (separates : Char → Bool) : List Char → List (List Char)
  | [] => [[]]
  | c :: rest =>
      if separates c then [] :: pieces separates rest
      else
        match pieces separates rest with
        | [] => [[c]]
        | piece :: others => (c :: piece) :: others

/-- The lines of a text, each with its line break. -/
def lines : List Char → List (List Char)
  | [] => []
  | c :: rest =>
      if c = '\n' then [c] :: lines rest
      else
        match lines rest with
        | [] => [[c]]
        | line :: others => (c :: line) :: others

/-- The nonempty pieces between separators. -/
def words (separates : Char → Bool) (s : List Char) : List (List Char) :=
  (pieces separates s).filter (!·.isEmpty)

/-- The text before and after the first `mark`. -/
def cutFirst (mark : Char) : List Char → Option (List Char × List Char)
  | [] => none
  | c :: rest =>
      if c = mark then some ([], rest)
      else (cutFirst mark rest).map fun (before, after) => (c :: before, after)

/-- The text before and after the last `mark`. -/
def cutLast (mark : Char) : List Char → Option (List Char × List Char)
  | [] => none
  | c :: rest =>
      match cutLast mark rest with
      | some (before, after) => some (c :: before, after)
      | none => if c = mark then some ([], rest) else none

/-- The pieces put together with `separator` between neighbours. -/
def join (separator : List Char) : List (List Char) → List Char
  | [] => []
  | [piece] => piece
  | piece :: rest => piece ++ separator ++ join separator rest

/-- The text before and after a number of bytes, unless that place is inside a character or
    behind the end. -/
def cutBytes : Nat → List Char → Option (List Char × List Char)
  | 0, s => some ([], s)
  | _ + 1, [] => none
  | count + 1, c :: rest =>
      if count + 1 < c.utf8Size then none
      else
        (cutBytes (count + 1 - c.utf8Size) rest).map fun (before, after) => (c :: before, after)

end Winnow.Text
