/-!
# Numbers of double precision

A number of this format has a sign and a magnitude. A finite magnitude is a whole number of
*steps*, the least magnitude above zero, which is the 1074th power of one half. Of its
binary digits only the first 53 can differ from zero; so the numbers are dense near zero and
the gap between them doubles with every further digit. A magnitude of 2098 digits does not
exist; what would round to it is infinite.

A decimal number is read exactly: its value is a ratio of integers, and the magnitude is the
one nearest to it, of two equally near ones the one that ends in an even digit.
-/

namespace ScenarioBrowser

/-! ## Rounded quotients -/

/-- The integer nearest to a quotient; of two equally near ones the even one. -/
def roundDiv (n d : Nat) : Nat :=
  let q := n / d
  let r := n % d
  if 2 * r < d ∨ 2 * r = d ∧ q % 2 = 0 then q else q + 1

/-! ## The format -/

/-- A number of double precision that is a number. -/
structure Binary64 where
  negative : Bool
  /-- The magnitude in steps, if it is finite. -/
  steps : Option Nat
deriving DecidableEq, Repr

namespace Binary64

/-- The digits that a magnitude has at most. -/
def precision : Nat := 53

/-- The number of steps between zero and one, as a power of two. -/
def unitExponent : Nat := 1074

/-- The least number of steps that is infinite. -/
def limit : Nat := Nat.pow 2 2098

/-- The gap between magnitudes near a number of steps. -/
def grain (steps : Nat) : Nat := Nat.pow 2 (steps.log2 + 1 - precision)

/-- A number of steps as a magnitude. -/
def capped (steps : Nat) : Option Nat := if steps < limit then some steps else none

/-- The magnitude nearest to a ratio. -/
def ofRatio (numerator denominator : Nat) : Option Nat :=
  let numerator := numerator * Nat.pow 2 unitExponent
  let grain := grain (numerator / denominator)
  capped (roundDiv numerator (denominator * grain) * grain)

/-- The magnitude nearest to `digits · 10 ^ exponent`. What has more than 310 digits before
the point is infinite, and what has more than 330 zeros after it is zero; so the powers of ten
that are computed stay small. -/
def magnitude (digits : Nat) (exponent : Int) : Option Nat :=
  let place : Int := (Nat.toDigits 10 digits).length + exponent
  if digits = 0 then some 0
  else if 310 < place then none
  else if place < -330 then some 0
  else ofRatio (digits * Nat.pow 10 exponent.toNat) (Nat.pow 10 (-exponent).toNat)

/-- The value in steps, as an integer; infinite values lie at the limit. -/
def value (number : Binary64) : Int :=
  let steps : Int := number.steps.getD limit
  if number.negative then -steps else steps

/-- The numeric order, in which the two zeros are equal. -/
instance : Ord Binary64 := ⟨fun a b => compare a.value b.value⟩

end Binary64

end ScenarioBrowser
