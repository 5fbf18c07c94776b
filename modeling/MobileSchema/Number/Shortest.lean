import MobileSchema.Number.Dyadic

/-!
# Shortest decimals

The decimal that stands for a double: of all decimals that read back as that double one with the
fewest digits, and of those the nearest.  A decimal reads back if it lies between the midpoints to
the neighbouring doubles, the midpoints included when the mantissa is even.

On the grid of the decimals with a given number of digits only the two neighbours of the value need
to be tried, so the search goes through the grids from one digit to seventeen.
-/

namespace MobileSchema

/-- The number `digits · 10 ^ exponent`. -/
structure Decimal where
  digits : Nat
  exponent : Int
  deriving DecidableEq, Repr

/-- The number of decimal digits of a positive integer. -/
def digitCount (n : Nat) : Nat := (Nat.toDigits 10 n).length

/-- The exponent of the first decimal digit of a positive binary fraction. -/
def Dyadic.leadingPlace (x : Dyadic) : Int :=
  let numerator := x.mantissa * twoPower x.exponent.toNat
  let denominator := twoPower (-x.exponent).toNat
  let place : Int := (digitCount numerator : Int) - digitCount denominator
  if compareScaled 1 place x.mantissa x.exponent = .gt then place - 1 else place

/-- Whether the decimal `c · 10 ^ s` reads back as `x`. -/
def Dyadic.readsBack (x : Dyadic) (c : Nat) (s : Int) : Bool :=
  let below := if x.mantissa = twoPower 52 && x.exponent ≠ -1074 then 1 else 2
  let lower := compareScaled c s (4 * x.mantissa - below) (x.exponent - 2)
  let upper := compareScaled c s (4 * x.mantissa + 2) (x.exponent - 2)
  let ends := x.mantissa % 2 = 0
  (lower = .gt || ends && lower = .eq) && (upper = .lt || ends && upper = .eq)

/-- The decimal on the grid of step `10 ^ s` that reads back as `x` and is nearest to it; of two
equally near the even one. -/
def Dyadic.onGrid? (x : Dyadic) (s : Int) : Option Decimal :=
  let floor := x.mantissa * twoPower x.exponent.toNat * tenPower (-s).toNat
    / (twoPower (-x.exponent).toNat * tenPower s.toNat)
  match x.readsBack floor s, x.readsBack (floor + 1) s with
  | false, false => none
  | true, false => some ⟨floor, s⟩
  | false, true => some ⟨floor + 1, s⟩
  | true, true =>
    match compareScaled (2 * floor + 1) s (8 * x.mantissa) (x.exponent - 2) with
    | .lt => some ⟨floor + 1, s⟩
    | .gt => some ⟨floor, s⟩
    | .eq => some ⟨if floor % 2 = 0 then floor else floor + 1, s⟩

/-- The shortest decimal that reads back as a positive binary fraction. -/
def Dyadic.shortest (x : Dyadic) : Decimal :=
  ((List.range 17).findSome? fun n : Nat => x.onGrid? (x.leadingPlace - n)).getD ⟨0, 0⟩

/-- The text of a positive decimal.  The point is written where it falls when the first digit stands
for at least `10 ^ -4` and less than `10 ^ 16`, with one digit on each side at least; other decimals
have one digit before the point and an exponent of two digits or more. -/
def Decimal.text (d : Decimal) : String :=
  let written := Nat.toDigits 10 d.digits
  let significant := (written.reverse.dropWhile (· = '0')).reverse
  let place : Int := (written.length : Int) - 1 + d.exponent
  if -4 ≤ place && place < 16 then
    if place < 0 then
      "0." ++ String.ofList (List.replicate (-place - 1).toNat '0' ++ significant)
    else
      let whole := significant.take (place.toNat + 1)
      let fraction := significant.drop (place.toNat + 1)
      String.ofList (whole ++ List.replicate (place.toNat + 1 - whole.length) '0') ++ "." ++
        (if fraction = [] then "0" else String.ofList fraction)
  else
    let fraction := significant.drop 1
    let exponent := Nat.toDigits 10 place.natAbs
    String.ofList (significant.take 1) ++
      (if fraction = [] then "" else "." ++ String.ofList fraction) ++
      (if place < 0 then "e-" else "e+") ++
      String.ofList (if exponent.length < 2 then '0' :: exponent else exponent)

/-- The text of a double. -/
def floatText (x : Float) : String :=
  let sign := if isNegative x then "-" else ""
  match Magnitude.ofFloat x with
  | .notANumber => "nan"
  | .infinite => sign ++ "inf"
  | .finite value =>
    if value.mantissa = 0 then sign ++ "0.0" else sign ++ value.shortest.text

end MobileSchema
