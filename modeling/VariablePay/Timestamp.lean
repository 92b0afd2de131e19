import VariablePay.Decimal.Numeral

set_option autoImplicit false

/-!
# Timestamps

A timestamp is a text of the form `2024-01-31T12:00:00.5+01:00`. The date exists in the calendar,
a second may be a leap second, a fraction may follow it, and the offset is `Z` or less than a day.
-/

namespace VariablePay

namespace Timestamp

def isLeapYear (year : Nat) : Bool := year % 4 = 0 && (year % 100 ≠ 0 || year % 400 = 0)

def daysOfMonth (year month : Nat) : Nat :=
  if month = 2 then if isLeapYear year then 29 else 28
  else if month = 4 ∨ month = 6 ∨ month = 9 ∨ month = 11 then 30
  else 31

/-- Reads a number of exactly `width` digits. -/
def readNumber? : (width : Nat) → List Char → Option (Nat × List Char)
  | 0, text => some (0, text)
  | width + 1, char :: rest => do
      let digit ← Digit.ofChar? char
      let (number, after) ← readNumber? width rest
      return (digit.val * Nat.pow 10 width + number, after)
  | _ + 1, [] => none

def skip? (expected : Char → Bool) : List Char → Option (List Char)
  | char :: rest => if expected char then some rest else none
  | [] => none

/-- The text after a date that exists. -/
def skipDate? (text : List Char) : Option (List Char) := do
  let (year, rest) ← readNumber? 4 text
  let (month, rest) ← readNumber? 2 (← skip? (· = '-') rest)
  let (day, rest) ← readNumber? 2 (← skip? (· = '-') rest)
  guard (1 ≤ month ∧ month ≤ 12 ∧ 1 ≤ day ∧ day ≤ daysOfMonth year month)
  return rest

/-- The text after a fraction of a second, if there is one. -/
def skipFraction? : List Char → Option (List Char)
  | '.' :: rest =>
      match Digit.span rest with
      | ([], _) => none
      | (_, after) => some after
  | text => some text

def skipTime? (text : List Char) : Option (List Char) := do
  let (hour, rest) ← readNumber? 2 text
  let (minute, rest) ← readNumber? 2 (← skip? (· = ':') rest)
  let (second, rest) ← readNumber? 2 (← skip? (· = ':') rest)
  guard (hour ≤ 23 ∧ minute ≤ 59 ∧ second ≤ 60)
  skipFraction? rest

def skipOffset? (text : List Char) : Option (List Char) := do
  match text with
  | 'Z' :: rest => some rest
  | 'z' :: rest => some rest
  | _ =>
      let rest ← skip? (fun char => char = '+' || char = '-' || char = '\u2212') text
      let (hour, rest) ← readNumber? 2 rest
      let (minute, rest) ← readNumber? 2 (← skip? (· = ':') rest)
      guard (hour ≤ 23 ∧ minute ≤ 59)
      return rest

def isWellFormed (text : String) : Bool :=
  (skipDate? text.toList
    |>.bind (skip? fun char => char = 'T' || char = 't' || char = ' ')
    |>.bind skipTime?
    |>.bind skipOffset?) == some []

end Timestamp

/-- A point in time, as text. -/
structure Timestamp where
  text : String
  wellFormed : Timestamp.isWellFormed text = true
  deriving DecidableEq

namespace Timestamp

def ofText? (text : String) : Option Timestamp :=
  if wellFormed : isWellFormed text = true then some ⟨text, wellFormed⟩ else none

def epoch : Timestamp := ⟨"1970-01-01T00:00:00+00:00", by decide +kernel⟩

/-- The year of a day and the day's position in it, counted from the first day of a year; at most
`bound` years are passed. -/
def splitYears : (bound year day : Nat) → Nat × Nat
  | 0, year, day => (year, day)
  | bound + 1, year, day =>
      let length := if isLeapYear year then 366 else 365
      if day < length then (year, day) else splitYears bound (year + 1) (day - length)

/-- The month of a day of a year and the day's position in it, counted from the first day of a
month; at most `bound` months are passed. -/
def splitMonths (year : Nat) : (bound month day : Nat) → Nat × Nat
  | 0, month, day => (month, day)
  | bound + 1, month, day =>
      let length := daysOfMonth year month
      if day < length then (month, day) else splitMonths year bound (month + 1) (day - length)

/-- A number in at least `width` digits. -/
def padded (width number : Nat) : String :=
  let digits := toString number
  String.ofList (List.replicate (width - digits.length) '0') ++ digits

def ofSeconds (seconds : Nat) : Timestamp :=
  let day := seconds / 86400
  let (year, dayOfYear) := splitYears (day / 365) 1970 day
  let (month, dayOfMonth) := splitMonths year 11 1 dayOfYear
  let second := seconds % 86400
  let date := s!"{padded 4 year}-{padded 2 month}-{padded 2 (dayOfMonth + 1)}"
  let time := s!"{padded 2 (second / 3600)}:{padded 2 (second / 60 % 60)}:{padded 2 (second % 60)}"
  (ofText? s!"{date}T{time}+00:00").getD epoch

end Timestamp

end VariablePay
