import MobileSchema.Number.Ratio

/-!
# Arithmetic

Division of doubles with a remainder, powers and rounding.  A remainder is exact; it takes the sign
of the divisor, and the quotient is rounded down.  Integers have no bounds, but some of them have to
fit into a machine word, or into half of one.
-/

namespace MobileSchema

/-! ### Machine words -/

/-- What the numbers of a machine word stay below. -/
def wordBound : Int := 9223372036854775808

/-- What the numbers of half a machine word stay below. -/
def halfWordBound : Int := 2147483648

/-- Whether a number fits into a machine word. -/
def fitsWord (n : Int) : Bool := -wordBound ≤ n && n < wordBound

/-- Whether a number fits into half a machine word. -/
def fitsHalfWord (n : Int) : Bool := -halfWordBound ≤ n && n < halfWordBound

/-! ### Doubles -/

/-- What is no number. -/
def notANumber : Float := 0.0 / 0.0

/-- Zero with the sign of a number. -/
def zeroLike (x : Float) : Float := if isNegative x then -0.0 else 0.0

/-- What is left of a number when another is taken away from its size as often as possible; it has
the sign of the number. -/
def restOf (x y : Float) : Float :=
  match ratioOf? x, ratioOf? y with
  | some (n, d), some (m, e) =>
    if m = 0 then notANumber
    else (floatOfRatio? ((n * e).tmod (m * d)) (d * e)).getD notANumber
  | some _, none => if y.isNaN then y else x
  | none, _ => notANumber

/-- Whether a remainder has to be moved to the other side of zero. -/
def isAcross (rest y : Float) : Bool := !(rest == 0) && (decide (y < 0) != decide (rest < 0))

/-- The remainder of a division, with the sign of the divisor. -/
def moduloOf (x y : Float) : Float :=
  let rest := restOf x y
  if rest == 0 then zeroLike y else if isAcross rest y then rest + y else rest

/-- The quotient of a division, rounded down. -/
def floorQuotient (x y : Float) : Float :=
  let rest := restOf x y
  let quotient := (x - rest) / y
  let quotient := if isAcross rest y then quotient - 1 else quotient
  if quotient == 0 then zeroLike (x / y)
  else
    let floor := quotient.floor
    if 0.5 < quotient - floor then floor + 1 else floor

/-- Whether a number is finite. -/
def isFinite (x : Float) : Bool := !x.isNaN && !x.isInf

/-- A power, unless it is too large. -/
def powerOf? (x y : Float) : Option Float :=
  let power := Float.pow x y
  if isFinite x && isFinite y && power.isInf then none else some power

/-- The natural number nearest to a size, and that number times a power of ten: a number rounded at
a place before its point. -/
def roundedBefore (n : Int) (places : Nat) : Int :=
  let rounded := roundQuotient n.natAbs (tenPower places) * tenPower places
  if n < 0 then -rounded else rounded

/-- A number rounded at a place behind its point, or before it if the place is negative, unless it
is too large then. -/
def roundedAt? (x : Float) (places : Int) : Option Float :=
  match ratioOf? x with
  | none => some x
  | some (n, d) =>
    if 323 < places then some x
    else if places < -308 then some (zeroLike x)
    else
      let up := tenPower places.toNat
      let down := tenPower (-places).toNat
      let rounded := roundQuotient (n.natAbs * up) (d * down) * down
      (floatOfRatio? rounded up).map fun size => if isNegative x then -size else size

end MobileSchema
