import PageShell.Toml.Reader

/-!
# Dates and times

A *moment* is a date, a time of day, or a date with a time of day and perhaps
an offset. No setting is a moment, so of one it only matters that it is well
formed and that its day exists.

* `isMoment` — whether a token is one;
* `isDate`, `isDatedTime` — whether it is one of the two halves that a space may join.
-/

namespace PageShell.Toml

/-- Reads a number of exactly `digits` decimal digits that lies between `low` and `high`. -/
def fixedNumber (digits low high : Nat) : Reader Nat := fun s =>
  let field := s.take digits
  let n := field.foldl (fun n c => 10 * n + (c.toNat - '0'.toNat)) 0
  if field.length = digits ∧ field.all Char.isDigit ∧ low ≤ n ∧ n ≤ high then
    some (n, s.drop digits)
  else none

/-- Whether a year has a leap day. -/
def isLeapYear (year : Nat) : Bool :=
  year % 4 == 0 && (year % 100 != 0 || year % 400 == 0)

/-- The number of days of a month. -/
def daysInMonth (year month : Nat) : Nat :=
  if month = 2 then if isLeapYear year then 29 else 28
  else if month = 4 ∨ month = 6 ∨ month = 9 ∨ month = 11 then 30
  else 31

/-- Reads a date: year, month and day. -/
def date (s : Text) : Option Text := do
  let (year, s) ← fixedNumber 4 0 9999 s
  let (month, s) ← fixedNumber 2 1 12 (← literal ['-'] s)
  let (_, s) ← fixedNumber 2 1 (daysInMonth year month) (← literal ['-'] s)
  pure s

/-- Reads the fraction of a second, if there is one: a point and at least one digit. -/
def fraction : Text → Option Text
  | '.' :: c :: rest => if c.isDigit then some (rest.dropWhile Char.isDigit) else none
  | '.' :: [] => none
  | s => some s

/-- Reads a time of day: hour, minute and second; the second may be a leap second. -/
def timeOfDay (s : Text) : Option Text := do
  let (_, s) ← fixedNumber 2 0 23 s
  let (_, s) ← fixedNumber 2 0 59 (← literal [':'] s)
  let (_, s) ← fixedNumber 2 0 60 (← literal [':'] s)
  fraction s

/-- Reads the offset from universal time, if there is one. -/
def offset : Text → Option Text
  | 'Z' :: rest => some rest
  | 'z' :: rest => some rest
  | [] => some []
  | c :: rest => do
    guard (c = '+' ∨ c = '-')
    let (_, s) ← fixedNumber 2 0 23 rest
    let (_, s) ← fixedNumber 2 0 59 (← literal [':'] s)
    pure s

/-- Whether a token is a date. -/
def isDate (s : Text) : Bool :=
  date s == some []

/-- Whether a token is a time of day with an offset or without. -/
def isDatedTime (s : Text) : Bool :=
  (timeOfDay s).bind offset == some []

/-- **Whether a token is a moment**: a time of day, a date, or a date, the letter `T` and a time
of day with an optional offset. -/
def isMoment (s : Text) : Bool :=
  timeOfDay s == some [] ||
    match date s with
    | some [] => true
    | some (c :: rest) => (c == 'T' || c == 't') && isDatedTime rest
    | none => false

end PageShell.Toml
