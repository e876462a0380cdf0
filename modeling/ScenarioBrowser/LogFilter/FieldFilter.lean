import ScenarioBrowser.Binary64.Shortest
import ScenarioBrowser.LogFilter.Level
import ScenarioBrowser.Regex

/-!
# Fields in a log filter

A directive can ask for a field of a span, and for its value. The value is taken for what it
looks like, the first of these that fits: a truth value, an integer of 64 bits without or
with a sign, a number of double precision, and last a regular expression.

Values are ordered by their kind first and by what they are then. So numbers are compared by
size, and two values are equal although they are written in different ways.
-/

namespace ScenarioBrowser

/-! ## Values -/

/-- A value that a directive asks for. -/
inductive FieldValue where
  | truth (value : Bool)
  | number (value : Binary64)
  | notANumber
  /-- An integer without a sign. -/
  | count (value : Nat)
  /-- An integer with a minus sign. -/
  | integer (value : Int)
  /-- A text that matches a regular expression. -/
  | pattern (text : String)
deriving DecidableEq, Repr

namespace FieldValue

/-! ### Numbers -/

/-- Splits a sign off; the answer tells if it is a minus. -/
def splitSign : List Char → Bool × List Char
  | '-' :: rest => (true, rest)
  | '+' :: rest => (false, rest)
  | text => (false, text)

/-- The number of decimal digits. -/
def ofDigits (digits : List Char) : Nat :=
  digits.foldl (fun n c => n * 10 + (c.toNat - '0'.toNat)) 0

/-- An exponent after its letter, or nothing. -/
def exponent? : List Char → Option Int
  | [] => some 0
  | mark :: rest =>
    let (negative, digits) := splitSign rest
    if (mark == 'e' || mark == 'E') && !digits.isEmpty && digits.all Char.isDigit then
      let size : Int := ofDigits digits
      some (if negative then -size else size)
    else none

/-- A decimal number: digits, with a point before, between or after them, and perhaps an
exponent. The answer holds its digits and the exponent that they have as an integer. -/
def decimal? (text : List Char) : Option (Nat × Int) := do
  let whole := text.takeWhile Char.isDigit
  let (part, rest) := match text.dropWhile Char.isDigit with
    | '.' :: rest => (rest.takeWhile Char.isDigit, rest.dropWhile Char.isDigit)
    | rest => ([], rest)
  if whole.isEmpty && part.isEmpty then none
  else some (ofDigits (whole ++ part), (← exponent? rest) - part.length)

/-- A number of double precision. -/
def number? (text : List Char) : Option FieldValue :=
  let (negative, text) := splitSign text
  let word := String.ofList (text.map Char.toLower)
  if word = "inf" ∨ word = "infinity" then some (number ⟨negative, none⟩)
  else if word = "nan" then some notANumber
  else
    (decimal? text).map fun (digits, exponent) =>
      number ⟨negative, Binary64.magnitude digits exponent⟩

/-- An integer without a sign, of 64 bits. -/
def count? (text : List Char) : Option FieldValue := do
  let n ← FilterLevel.number? text
  if n < Nat.pow 2 64 then some (count n) else none

/-- An integer with a minus sign, of 64 bits. -/
def integer? : List Char → Option FieldValue
  | '-' :: digits =>
    if digits.isEmpty || !digits.all Char.isDigit || Nat.pow 2 63 < ofDigits digits then none
    else some (integer (-ofDigits digits))
  | _ => none

/-! ### Reading, showing and comparing -/

/-- The truth value that a text names. -/
def truth? (text : List Char) : Option FieldValue :=
  if text = "true".toList then some (truth true)
  else if text = "false".toList then some (truth false)
  else none

/-- A regular expression, if it is understood. -/
def pattern? (text : List Char) : Option FieldValue :=
  if Regex.isUnderstood text then some (pattern (String.ofList text)) else none

/-- The value that a text stands for. -/
def ofText? (text : List Char) : Option FieldValue :=
  truth? text <|> count? text <|> integer? text <|> number? text <|> pattern? text

/-- A value as it is shown. -/
def shown : FieldValue → String
  | truth value => if value then "true" else "false"
  | number value => value.shown
  | notANumber => "NaN"
  | count value => toString value
  | integer value => toString value
  | pattern text => text

/-- The place of the kind of a value. -/
def kind : FieldValue → Nat
  | truth _ => 0
  | number _ => 1
  | notANumber => 2
  | count _ => 3
  | integer _ => 4
  | pattern _ => 5

/-- The order by kind, and by what the values are. -/
instance : Ord FieldValue where
  compare
    | truth a, truth b => compare a b
    | number a, number b => compare a b
    | count a, count b => compare a b
    | integer a, integer b => compare a b
    | pattern a, pattern b => compare a b
    | a, b => compare a.kind b.kind

end FieldValue

/-! ## Fields -/

/-- A field that a directive asks for, with the value that it asks for. -/
structure FieldFilter where
  name : String
  value : Option FieldValue
deriving DecidableEq, Repr

namespace FieldFilter

/-- A field as it is shown. -/
def shown (field : FieldFilter) : String :=
  match field.value with
  | some value => field.name ++ "=" ++ value.shown
  | none => field.name

/-- A field filter: a name, and a value after an equals sign. A second equals sign ends the
value. -/
def ofText? (text : List Char) : Option FieldFilter :=
  let name := String.ofList (text.takeWhile (· != '='))
  match text.dropWhile (· != '=') with
  | [] => some ⟨name, none⟩
  | _ :: rest => do return ⟨name, some (← FieldValue.ofText? (rest.takeWhile (· != '=')))⟩

end FieldFilter

end ScenarioBrowser
