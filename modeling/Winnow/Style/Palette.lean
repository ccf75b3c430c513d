/-! # Terminal styles

Status lines are styled by escape codes. A palette that is turned off leaves every text as
it is, so that the same lines can go to a file.
-/

namespace Winnow

/-- The kinds of status text. -/
inductive StatusStyle where
  /-- A title. -/
  | header
  /-- The title of a part. -/
  | subheader
  /-- Detail of less weight. -/
  | dim
  /-- Something that went well. -/
  | success
  /-- Something to look at. -/
  | warning
  /-- Something that went wrong. -/
  | error
  deriving DecidableEq, Inhabited

namespace StatusStyle

/-- The escape code with a parameter. -/
def escapeCode (parameter : String) : String :=
  "\x1b[" ++ parameter ++ "m"

/-- The escape code that ends every style. -/
def reset : String :=
  escapeCode "0"

/-- The escape codes of a style. -/
def codes : StatusStyle → String
  | header => escapeCode "1" ++ escapeCode "36"
  | subheader => escapeCode "1"
  | dim => escapeCode "2"
  | success => escapeCode "32"
  | warning => escapeCode "33"
  | error => escapeCode "31"

end StatusStyle

/-- Whether status lines are styled. -/
structure Palette where
  /-- Whether escape codes are written. -/
  isEnabled : Bool
  deriving DecidableEq, Inhabited

def Palette.paint (palette : Palette) (style : StatusStyle) (text : String) : String :=
  if palette.isEnabled then style.codes ++ text ++ StatusStyle.reset else text

end Winnow
