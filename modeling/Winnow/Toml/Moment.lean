import Winnow.Decimal.Digits
import Winnow.Text.Scan

/-! # TOML dates and times

A moment is a date, a time of day, or a date and a time with an optional offset. Only
moments of the calendar and of the clock are accepted. Seconds may be left out.
-/

namespace Winnow.TomlText

/-- Two digits that stand for a number in a range. -/
def twoDigits (least most : Nat) : Scan Nat
  | a :: b :: rest =>
      let n := Digits.value a * 10 + Digits.value b
      if Digits.isDigit a && Digits.isDigit b && least ≤ n && n ≤ most then some (n, rest)
      else none
  | _ => none

/-- Drops one given character. -/
def skipChar (c : Char) (s : List Char) : Option (List Char) :=
  Text.skipWord [c] s

/-- Whether a year has a 29th of February. -/
def isLeapYear (year : Nat) : Bool :=
  year % 4 == 0 && (year % 100 != 0 || year % 400 == 0)

/-- The number of days in a month. -/
def daysIn (year month : Nat) : Nat :=
  if month = 2 then if isLeapYear year then 29 else 28
  else if month = 4 ∨ month = 6 ∨ month = 9 ∨ month = 11 then 30
  else 31

/-- Drops a date. -/
def skipDate (s : List Char) : Option (List Char) := do
  let (century, s) ← twoDigits 0 99 s
  let (year, s) ← twoDigits 0 99 s
  let (month, s) ← twoDigits 1 12 (← skipChar '-' s)
  let (_, s) ← twoDigits 1 (daysIn (century * 100 + year) month) (← skipChar '-' s)
  return s

/-- Drops the fraction of a second, if there is one. -/
def skipFraction : List Char → Option (List Char)
  | '.' :: rest =>
      if (rest.takeWhile Digits.isDigit).isEmpty then none
      else some (rest.dropWhile Digits.isDigit)
  | s => some s

/-- Drops the seconds of a time, if they are there. -/
def skipSeconds : List Char → Option (List Char)
  | ':' :: rest => do
      let (_, s) ← twoDigits 0 60 rest
      skipFraction s
  | s => some s

/-- Drops an hour and a minute. -/
def skipHourMinute (s : List Char) : Option (List Char) := do
  let (_, s) ← twoDigits 0 23 s
  let (_, s) ← twoDigits 0 59 (← skipChar ':' s)
  return s

/-- Drops a time of day. -/
def skipTime (s : List Char) : Option (List Char) := do
  skipSeconds (← skipHourMinute s)

/-- Drops the offset of a time, if there is one. -/
def skipOffset : List Char → Option (List Char)
  | [] => some []
  | c :: rest =>
      if c = 'Z' ∨ c = 'z' then some rest
      else if c = '+' ∨ c = '-' then skipHourMinute rest
      else none

def isDate (token : List Char) : Bool :=
  skipDate token == some []

def isMoment (token : List Char) : Bool :=
  match skipDate token with
  | none => skipTime token == some []
  | some [] => true
  | some (c :: rest) =>
      (c == 'T' || c == 't' || c == ' ') && (skipTime rest).bind skipOffset == some []

end Winnow.TomlText
