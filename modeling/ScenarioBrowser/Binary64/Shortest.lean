import ScenarioBrowser.Binary64

/-!
# The shortest text of a number

A number of double precision is written with the fewest decimal digits from which it can be
read again. All reals of an interval around it round to it: the interval reaches halfway to
its neighbours, and its ends belong to it if the number is even, because ties go to even
numbers. Of the multiples of a power of ten inside the interval the nearest is taken, of
two equally near ones the larger, for the largest power of ten that has any.

Everything is counted in quarters of a step, so that all ends are whole. The digits are
written out to the last place, without an exponent.

## Main results

* `candidate?_closed` — a candidate lies in the interval.
-/

namespace ScenarioBrowser.Binary64

/-- The reals that round to a number, in quarters of a step. -/
structure Interval where
  low : Nat
  high : Nat
  /-- True if the ends belong to it. -/
  closed : Bool
deriving DecidableEq, Repr

/-- True if the fraction `n / d` lies in the interval. -/
def Interval.contains (interval : Interval) (n d : Nat) : Bool :=
  if interval.closed then interval.low * d ≤ n && n ≤ interval.high * d
  else interval.low * d < n && n < interval.high * d

/-- The reals that round to a finite number above zero. The gap below a power of two is half
the gap above it. -/
def interval (steps : Nat) : Interval :=
  let gap := grain steps
  let below := if 1 < gap ∧ steps = gap * Nat.pow 2 (precision - 1) then gap else 2 * gap
  ⟨4 * steps - below, 4 * steps + 2 * gap, steps / gap % 2 = 0⟩

/-- The digits of the multiple of `10 ^ exponent` that stands for a finite number above zero,
if one of its two neighbours among the multiples rounds to it. -/
def candidate? (steps : Nat) (exponent : Int) : Option Nat :=
  let unit := Nat.pow 10 exponent.toNat * Nat.pow 2 (unitExponent + 2)
  let scale := Nat.pow 10 (-exponent).toNat
  let below := 4 * steps * scale / unit
  let fits (digits : Nat) : Bool := (interval steps).contains (digits * unit) scale
  let nearer := 4 * steps * scale - below * unit < (below + 1) * unit - 4 * steps * scale
  if fits below && (nearer || !fits (below + 1)) then some below
  else if fits (below + 1) then some (below + 1)
  else none

/-- A candidate lies in the interval. -/
theorem candidate?_closed {steps : Nat} {exponent : Int} {digits : Nat}
    (h : candidate? steps exponent = some digits) :
    (interval steps).contains (digits * (Nat.pow 10 exponent.toNat * Nat.pow 2 (unitExponent + 2)))
      (Nat.pow 10 (-exponent).toNat) = true := by
  simp only [candidate?] at h
  split at h
  · next hfits =>
    cases h
    exact (Bool.and_eq_true_iff.mp hfits).1
  · split at h
    · next hfits => cases h; exact hfits
    · cases h

/-- The least exponent whose power of ten is above a finite number above zero. -/
def topExponent (steps : Nat) : Int :=
  (Nat.toDigits 10 (steps * Nat.pow 10 330 / Nat.pow 2 unitExponent)).length - 330

/-- Digits and exponent of the shortest decimal number for a finite number above zero.
Seventeen digits are enough for any. -/
def shortest (steps : Nat) : Nat × Int :=
  let top := topExponent steps
  ((List.range 18).findSome? fun (place : Nat) =>
    (candidate? steps (top - place)).map fun digits => (digits, top - place)).getD (0, 0)

/-- A decimal number written out, without an exponent. -/
def positional (digits : Nat) (exponent : Int) : List Char :=
  let text := Nat.toDigits 10 digits
  let places := (-exponent).toNat
  if 0 ≤ exponent then text ++ List.replicate exponent.toNat '0'
  else if places < text.length then
    text.take (text.length - places) ++ '.' :: text.drop (text.length - places)
  else '0' :: '.' :: List.replicate (places - text.length) '0' ++ text

/-- A magnitude as it is shown. -/
def magnitudeText : Option Nat → List Char
  | none => "inf".toList
  | some 0 => ['0']
  | some steps =>
    let (digits, exponent) := shortest steps
    positional digits exponent

/-- A number as it is shown. -/
def shown (number : Binary64) : String :=
  String.ofList ((if number.negative then ['-'] else []) ++ magnitudeText number.steps)

end ScenarioBrowser.Binary64
