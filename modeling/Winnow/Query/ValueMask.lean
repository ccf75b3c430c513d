import Winnow.Text.Pattern

/-! # Value masks

The forms of range values. A bound is a decimal number or a calendar date, with an
underscore in front if the range includes it; an interval is two bounds with a semicolon
between them.
-/

namespace Winnow

/-- What the bounds of a range look like. -/
inductive ValueMask where
  /-- Decimal numbers. -/
  | number
  /-- Calendar dates. -/
  | date
  deriving DecidableEq, Inhabited

namespace ValueMask

open Pattern CharClass

/-- The underscore that marks an inclusive bound. -/
def marker : Pattern :=
  repeated (among ['_']) .optional

def month : Pattern :=
  either (seq (one (only '0')) (one (between '1' '9')))
    (seq (one (only '1')) (one (between '0' '2')))

def day : Pattern :=
  either (seq (one (only '0')) (one (between '1' '9')))
    (either (seq (one (among ['1', '2'])) (one (between '0' '9')))
      (seq (one (only '3')) (one (among ['0', '1']))))

def bound : ValueMask → Pattern
  | number =>
      seq marker (seq (repeated digit .some)
        (seq (repeated (among ['.']) .optional) (repeated digit .many)))
  | date =>
      seq marker (seq (group (repeated digit (.exactly 4)))
        (seq (one (only '-')) (seq (group month)
          (seq (one (only '-')) (group day)))))

/-- Two bounds with a semicolon between them. -/
def interval (mask : ValueMask) : Pattern :=
  seq (group mask.bound) (seq (one (only ';')) (group mask.bound))

end ValueMask

end Winnow
