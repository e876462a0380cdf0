import ScenarioBrowser.Toml.Text

/-!
# Numbers

Digits may be parted by single underscores. A decimal integer has no leading zeros;
integers in base sixteen, eight and two have a prefix instead of a sign. All integers
fit 64 bits with sign.

A float is a decimal integer with a fraction, an exponent or both, or one of the words
`inf` and `nan`. A positive float beyond the range of double precision is refused:
that is one which rounds to infinity, so the bound lies half a unit above the largest
double. The comparison is made in exact integers, after numbers whose magnitude is
plain from their digit count have been set aside.

## Main results

* `roundsToInfinity` — the exact test, on digits and exponent.
-/

namespace ScenarioBrowser.Toml.Scan

/-! ## Digits -/

/-- Digits of a class, parted by single underscores; the answer is without them. -/
def digitRun (p : Char → Bool) : Scan (List Char) := do
  let first ← oneOf p
  let rest ← many (oneOf p <|> (char '_' *> oneOf p))
  return first :: rest

/-- A sign; the answer tells if it is a minus. -/
def sign : Scan Bool := (char '+' *> pure false) <|> (char '-' *> pure true) <|> pure false

/-- Decimal digits without leading zeros. -/
def decimalDigits : Scan (List Char) := do
  let first ← oneOf Char.isDigit
  if first == '0' then return [first]
  let rest ← many (oneOf Char.isDigit <|> (char '_' *> oneOf Char.isDigit))
  return first :: rest

/-! ## Integers -/

/-- Integers that fit 64 bits with sign. -/
def isWord (n : Int) : Bool := -9223372036854775808 ≤ n && n ≤ 9223372036854775807

/-- An integer that fits, or failure. -/
def checked (n : Int) : Scan Int := if isWord n then pure n else failure

/-- An integer with the prefix of its base. -/
def based (start : String) (base : Nat) (p : Char → Bool) : Scan Int := do
  word start
  let digits ← digitRun p
  checked (ofDigits base digits)

def decimal : Scan Int := do
  let negative ← sign
  let digits ← decimalDigits
  let magnitude : Int := ofDigits 10 digits
  checked (if negative then -magnitude else magnitude)

def integer : Scan Int :=
  based "0x" 16 isHexDigit
    <|> based "0o" 8 (fun c => '0' ≤ c && c ≤ '7')
    <|> based "0b" 2 (fun c => c == '0' || c == '1')
    <|> decimal

/-! ## Floats -/

/-- The least number that rounds to infinity: half a unit above the largest double. -/
def infinityBound : Nat := Nat.pow 2 1024 - Nat.pow 2 970

/--
True if `m · 10 ^ e` rounds to infinity. A number of more than 400 digits before the
point does, and one of fewer than 300 does not; only between the two are integers of
that size compared.
-/
def roundsToInfinity (m : Nat) (e : Int) : Bool :=
  let size : Int := (Nat.toDigits 10 m).length + e
  if m = 0 then false
  else if size > 400 then true
  else if size < 300 then false
  else if 0 ≤ e then infinityBound ≤ m * Nat.pow 10 e.toNat
  else infinityBound * Nat.pow 10 (-e).toNat ≤ m

/-- The exponent of a float. -/
def exponent : Scan Int := do
  discard (oneOf fun c => c == 'e' || c == 'E')
  let negative ← sign
  let magnitude : Int := ofDigits 10 (← digitRun Char.isDigit)
  return if negative then -magnitude else magnitude

/-- The digits after the point of a float. -/
def fraction : Scan (List Char) := char '.' *> digitRun Char.isDigit

/-- Fraction digits and exponent: at least one of the two has to be there. -/
def fractionAndExponent : Scan (List Char × Int) :=
  (do
    let digits ← fraction
    return (digits, (← opt exponent).getD 0))
  <|> (do return ([], ← exponent))

/-- A float that is written with digits. -/
def finiteFloat : Scan Unit := do
  let negative ← sign
  let whole ← decimalDigits
  let (part, e) ← fractionAndExponent
  let m := ofDigits 10 (whole ++ part)
  if !negative && roundsToInfinity m (e - part.length) then failure

/-- A float, as it is written. -/
def float : Scan String :=
  written (finiteFloat <|> (do discard sign; word "inf" <|> word "nan"))

end ScenarioBrowser.Toml.Scan
