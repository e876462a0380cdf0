/-!
# Levels of a log filter

A level says what is let through: everything that is at least as severe. It has a number and
a name, and both can be written.

## Main results

* `FilterLevel.ofText?_name` — a level can be read by its name.
-/

namespace ScenarioBrowser

/-- What a filter lets through. -/
inductive FilterLevel where
  | off
  | error
  | warn
  | info
  | debug
  | trace
deriving DecidableEq, Repr

namespace FilterLevel

def name : FilterLevel → String
  | off => "off"
  | error => "error"
  | warn => "warn"
  | info => "info"
  | debug => "debug"
  | trace => "trace"

/-- The level with a number. -/
def ofNumber? : Nat → Option FilterLevel
  | 0 => some off
  | 1 => some error
  | 2 => some warn
  | 3 => some info
  | 4 => some debug
  | 5 => some trace
  | _ => none

/-- A number in decimal digits, which a plus sign may precede. -/
def number? (text : List Char) : Option Nat :=
  let digits := match text with
    | '+' :: rest => rest
    | _ => text
  if digits.isEmpty || !digits.all Char.isDigit then none
  else some (digits.foldl (fun n c => n * 10 + (c.toNat - '0'.toNat)) 0)

/-- The level that a text names: by its number, or by its name in any case. -/
def ofText? (text : List Char) : Option FilterLevel :=
  match number? text with
  | some n => ofNumber? n
  | none =>
    [off, error, warn, info, debug, trace].find? fun level =>
      level.name.toList == text.map Char.toLower

/-- The level after an equals sign; nothing there means everything. -/
def ofSuffix? (text : List Char) : Option FilterLevel :=
  if text.isEmpty then some trace else ofText? text

/-- A level can be read by its name. -/
theorem ofText?_name (level : FilterLevel) : ofText? level.name.toList = some level := by
  cases level <;> decide

end FilterLevel

end ScenarioBrowser
