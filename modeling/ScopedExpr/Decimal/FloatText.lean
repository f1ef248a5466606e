import ScopedExpr.Decimal.Shortest

/-!
# The text of a floating-point number

The digits are the shortest that read back; the style says where positional writing ends.
-/

namespace ScopedExpr

/-- The choices that a writer of decimals makes. -/
structure DecimalStyle where
  /-- The fewest digits in front of the point that are written out; zeros behind it count down. -/
  lowestPoint : Int
  /-- The most digits in front of the point that are written out. -/
  highestPoint : Int
  /-- What follows a whole number that is written positionally. -/
  whole : String
  /-- What stands between the digits and the power of ten. -/
  power : String
  /-- The text of what is not a number. -/
  notANumber : String
  /-- The text of positive infinity. -/
  infinity : String

/--
Written out from a ten-thousandth up to, and without, ten to the sixteenth; a whole number ends in
`.0`.
-/
def DecimalStyle.plain : DecimalStyle where
  lowestPoint := -3
  highestPoint := 16
  whole := ".0"
  power := "e"
  notANumber := "NaN"
  infinity := "inf"

def zeros (n : Nat) : String := String.ofList (List.replicate n '0')

/-- Write the digits `ds`, of which the first `point` stand in front of the decimal point. -/
def DecimalStyle.positional (style : DecimalStyle) (ds : List Char) (point : Int) : String :=
  if point ≤ 0 then "0." ++ zeros (-point).toNat ++ String.ofList ds
  else if ds.length ≤ point.toNat then
    String.ofList ds ++ zeros (point.toNat - ds.length) ++ style.whole
  else String.ofList (ds.take point.toNat) ++ "." ++ String.ofList (ds.drop point.toNat)

/-- Write the digits `ds` with one of them in front of the point, times a power of ten. -/
def DecimalStyle.scientific (style : DecimalStyle) (ds : List Char) (exponent : Int) : String :=
  let fraction := if ds.length ≤ 1 then "" else "." ++ String.ofList (ds.drop 1)
  String.ofList (ds.take 1) ++ fraction ++ style.power ++ toString exponent

def DecimalStyle.write (style : DecimalStyle) (d : Decimal) : String :=
  let ds := Nat.toDigits 10 d.coefficient
  let point := d.exponent + ds.length
  if style.lowestPoint ≤ point && point ≤ style.highestPoint then style.positional ds point
  else style.scientific ds (point - 1)

/-- The text of the magnitude with the given bits of exponent and fraction. -/
def DecimalStyle.magnitude (style : DecimalStyle) (exponent fraction : Nat) : String :=
  if exponent = 2047 then
    if fraction = 0 then style.infinity else style.notANumber
  else if exponent = 0 then
    if fraction = 0 then "0" ++ style.whole
    else style.write (RoundingInterval.ofBinary fraction (-1074) false).shortest
  else
    let narrow := fraction = 0 ∧ 1 < exponent
    let interval := RoundingInterval.ofBinary (Nat.pow 2 52 + fraction) (exponent - 1075) narrow
    style.write interval.shortest

/-- The text of a number: a sign where it is negative, zero included, and its magnitude. -/
def DecimalStyle.float (style : DecimalStyle) (x : Float) : String :=
  let bits := x.toBits.toNat
  let exponent := bits / Nat.pow 2 52 % 2048
  let fraction := bits % Nat.pow 2 52
  let sign := if Nat.pow 2 63 ≤ bits ∧ ¬ (exponent = 2047 ∧ fraction ≠ 0) then "-" else ""
  sign ++ style.magnitude exponent fraction

end ScopedExpr
