/-!
# Shortest decimals

A binary number `m · 2 ^ q` stands for every real that is nearer to it than to its neighbours. Of
the decimals in that interval this module finds one with the fewest digits, and of those the
nearest. All arithmetic is exact.
-/

namespace ScopedExpr

structure Decimal where
  /-- The digits, read as one number. -/
  coefficient : Nat
  /-- The power of ten of the last digit. -/
  exponent : Int
deriving DecidableEq, Repr

/-- A positive number with the reals that round to it, as fractions over one denominator. -/
structure RoundingInterval where
  /-- Numerator of the lower end. -/
  low : Nat
  /-- Numerator of the number itself. -/
  value : Nat
  /-- Numerator of the upper end. -/
  high : Nat
  /-- The common denominator. -/
  unit : Nat
  /-- Whether the two ends round to the number. -/
  closed : Bool

/--
The reals that round to `m · 2 ^ q`. The lower gap is half as wide where the neighbour below has a
smaller exponent (`narrow`), and a tie rounds to the even neighbour.
-/
def RoundingInterval.ofBinary (m : Nat) (q : Int) (narrow : Bool) : RoundingInterval :=
  let scale := Nat.pow 2 (q - 2).toNat
  { low := (if narrow then 4 * m - 1 else 4 * m - 2) * scale
    value := 4 * m * scale
    high := (4 * m + 2) * scale
    unit := Nat.pow 2 (2 - q).toNat
    closed := m % 2 == 0 }

/-- The interval measured in steps of `10 ^ e`. -/
def RoundingInterval.inSteps (r : RoundingInterval) (e : Int) : RoundingInterval :=
  let up := Nat.pow 10 (-e).toNat
  { r with
    low := r.low * up
    value := r.value * up
    high := r.high * up
    unit := r.unit * Nat.pow 10 e.toNat }

def RoundingInterval.holds (r : RoundingInterval) (d : Nat) : Bool :=
  if r.closed then r.low ≤ d * r.unit && d * r.unit ≤ r.high
  else r.low < d * r.unit && d * r.unit < r.high

/-- The whole number of steps in the interval that is nearest to the number; a tie goes up. -/
def RoundingInterval.nearest? (r : RoundingInterval) : Option Nat :=
  let d := r.value / r.unit
  match r.holds d, r.holds (d + 1) with
  | true, true => some (if 2 * r.value < (2 * d + 1) * r.unit then d else d + 1)
  | true, false => some d
  | false, true => some (d + 1)
  | false, false => none

/-- The number of decimal digits in front of the point; below one, minus the zeros behind it. -/
def RoundingInterval.magnitude (r : RoundingInterval) : Int :=
  if r.unit ≤ r.value then (Nat.toDigits 10 (r.value / r.unit)).length
  else 1 - ((Nat.toDigits 10 ((r.unit - 1) / r.value)).length : Int)

/-- Drop the zeros at the end of the coefficient. -/
def Decimal.trim : Nat → Decimal → Decimal
  | 0, d => d
  | fuel + 1, d =>
    if d.coefficient % 10 = 0 then Decimal.trim fuel ⟨d.coefficient / 10, d.exponent + 1⟩ else d

/-- The nearest decimal in the interval that needs no more than the given number of digits. -/
def RoundingInterval.onGrid? (r : RoundingInterval) (magnitude : Int) (digits : Nat) :
    Option Decimal :=
  let e := magnitude - digits
  (r.inSteps e).nearest?.map fun d => Decimal.trim digits ⟨d, e⟩

/-- The shortest decimal in the interval, the nearest of those; seventeen digits always suffice. -/
def RoundingInterval.shortest (r : RoundingInterval) : Decimal :=
  ((List.range' 1 17).findSome? (r.onGrid? r.magnitude)).getD ⟨0, 0⟩

end ScopedExpr
