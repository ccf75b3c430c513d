import Winnow.PatternSyntax.Mode
import Winnow.Text.Letter
import Winnow.Text.Scan

/-! # Opening parentheses of written patterns

A parenthesis opens a group, which may have a name or a mode of its own, or it holds flags
for what follows.
-/

namespace Winnow.PatternSyntax

/-- What an opening parenthesis starts. -/
inductive Opening where
  /-- Flags, which end with their parenthesis and set the mode of what follows. -/
  | flags (mode : Mode)
  /-- A group with the mode inside it, and with a name if it has one. -/
  | group (mode : Mode) (name : Option String)
  deriving DecidableEq, Inhabited

namespace Opening

/-- The characters of flags. Those behind the hyphen are turned off. -/
def flagChars : List Char :=
  ['i', 'm', 's', 'U', 'u', 'R', 'x', '-']

/-- Whether flags are well written: each at most once, and some behind the hyphen. -/
def areFlags (written : List Char) : Bool :=
  written.all flagChars.contains && written.eraseDups == written
    && written.getLast? != some '-'

/-- The mode with flags turned on and off. -/
def applyFlags (mode : Mode) (written : List Char) : Mode :=
  let on := written.takeWhile (· != '-')
  let off := written.dropWhile (· != '-')
  ⟨(mode.isSpaced || on.contains 'x') && !off.contains 'x',
    (mode.isUnicode || on.contains 'u') && !off.contains 'u'⟩

/-- Flags up to a colon, behind which a group goes on, or up to a closing parenthesis. -/
def ofFlags (mode : Mode) : Scan Opening := fun s =>
  let isFlag (c : Char) : Bool := c != ':' && c != ')'
  let written := s.takeWhile isFlag
  match areFlags written, s.dropWhile isFlag with
  | true, ':' :: rest => some (group (applyFlags mode written) none, rest)
  | true, ')' :: rest =>
      if written = [] then none else some (flags (applyFlags mode written), rest)
  | _, _ => none

/-- Whether a text may be the name of a group. -/
def isName : List Char → Bool
  | [] => false
  | c :: rest =>
      (c == '_' || isLetter c)
        && rest.all fun c => ['_', '.', '[', ']'].contains c || isLetterOrNumber c

/-- The name of a group up to its closing mark. -/
def ofName (mode : Mode) : Scan Opening := fun s =>
  let name := s.takeWhile (· != '>')
  match isName name, s.dropWhile (· != '>') with
  | true, '>' :: rest => some (group mode (some (String.ofList name)), rest)
  | _, _ => none

/-- What a parenthesis starts, read behind it. -/
def read (mode : Mode) : Scan Opening := fun s =>
  match mode.skip s with
  | '?' :: 'P' :: '<' :: rest | '?' :: '<' :: rest => ofName mode rest
  | '?' :: rest => ofFlags mode rest
  | rest => some (group mode none, rest)

end Opening

end Winnow.PatternSyntax
