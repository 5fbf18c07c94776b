/-!
# Binary fractions

The exact value of a finite double, as an integer times a power of two.
-/

namespace MobileSchema

/-- A power of two. -/
def twoPower (n : Nat) : Nat := Nat.pow 2 n

/-- A power of ten. -/
def tenPower (n : Nat) : Nat := Nat.pow 10 n

/-- The number `mantissa · 2 ^ exponent`. -/
structure Dyadic where
  mantissa : Nat
  exponent : Int
  deriving DecidableEq, Repr

/-- What the bits of a double stand for, its sign aside. -/
inductive Magnitude
  | finite (value : Dyadic)
  | infinite
  | notANumber
  deriving DecidableEq, Repr

/-- Reads the bits of a double. -/
def Magnitude.ofBits (bits : Nat) : Magnitude :=
  let fraction : Nat := bits % twoPower 52
  let biased : Nat := bits / twoPower 52 % twoPower 11
  if biased = 2047 then
    if fraction = 0 then .infinite else .notANumber
  else if biased = 0 then .finite ⟨fraction, -1074⟩
  else .finite ⟨twoPower 52 + fraction, (biased : Int) - 1075⟩

/-- The magnitude of a double. -/
def Magnitude.ofFloat (x : Float) : Magnitude := ofBits x.toBits.toNat

/-- Whether the sign bit of a double is set. -/
def isNegative (x : Float) : Bool := x.toBits.toNat / twoPower 63 % 2 == 1

/-- Compares `a · 10 ^ s` with `b · 2 ^ e`. -/
def compareScaled (a : Nat) (s : Int) (b : Nat) (e : Int) : Ordering :=
  compare (a * tenPower s.toNat * twoPower (-e).toNat) (b * twoPower e.toNat * tenPower (-s).toNat)

/-- The integer equal to a binary fraction, if there is one. -/
def Dyadic.toNat? (x : Dyadic) : Option Nat :=
  if 0 ≤ x.exponent then some (x.mantissa * twoPower x.exponent.toNat)
  else if x.mantissa % twoPower (-x.exponent).toNat = 0 then
    some (x.mantissa / twoPower (-x.exponent).toNat)
  else none

/-- The integer equal to a double, if there is one. -/
def floatToInt? (x : Float) : Option Int :=
  match Magnitude.ofFloat x with
  | .finite value => value.toNat?.map fun n => if isNegative x then -n else n
  | _ => none

end MobileSchema
