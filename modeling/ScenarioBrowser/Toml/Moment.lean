import ScenarioBrowser.Toml.Text

/-!
# Dates and times

A *moment* is a date, a time of day, or both with an optional offset from universal
time. Every part has a fixed number of digits and a range; a date also has to exist
in the calendar. A second of 60 is allowed, because there are leap seconds.
-/

namespace ScenarioBrowser.Toml.Scan

/-- A number of exactly the given count of digits, within bounds. -/
def field (count least most : Nat) : Scan Nat := do
  let n := ofDigits 10 (← times Char.isDigit count)
  if least ≤ n ∧ n ≤ most then return n else failure

def isLeapYear (year : Nat) : Bool :=
  year % 4 == 0 && (year % 100 != 0 || year % 400 == 0)

/-- The number of days of a month. -/
def daysIn (year month : Nat) : Nat :=
  match month with
  | 2 => if isLeapYear year then 29 else 28
  | 4 | 6 | 9 | 11 => 30
  | _ => 31

def date : Scan Unit := do
  let year ← field 4 0 9999
  char '-'
  let month ← field 2 1 12
  char '-'
  discard (field 2 1 (daysIn year month))

def time : Scan Unit := do
  discard (field 2 0 23)
  char ':'
  discard (field 2 0 59)
  char ':'
  discard (field 2 0 60)
  discard (opt (char '.' *> span1 Char.isDigit))

/-- An offset from universal time. -/
def offset : Scan Unit :=
  discard (oneOf fun c => c == 'Z' || c == 'z')
    <|> (do
      discard (oneOf fun c => c == '+' || c == '-')
      discard (field 2 0 23)
      char ':'
      discard (field 2 0 59))

/-- What may follow a date: a time, and after it an offset. -/
def timeOfDate : Scan Unit := do
  discard (oneOf fun c => c == 'T' || c == 't' || c == ' ')
  time
  discard (opt offset)

/-- A date, a time or both, as it is written. -/
def moment : Scan String := written ((date *> discard (opt timeOfDate)) <|> time)

end ScenarioBrowser.Toml.Scan
