import MobileSchema.Number.Dyadic

/-!
# Quotients of integers

The exact value of a double as a quotient of integers, and the rounding of quotients: to integers
and to doubles.  Of two numbers that are equally near the even one is taken.
-/

namespace MobileSchema

/-! ### Rounding to integers -/

/-- The natural number nearest to a quotient. -/
def roundQuotient (n d : Nat) : Nat :=
  let (floor, rest) := (n / d, n % d)
  if 2 * rest < d || (2 * rest = d && floor % 2 = 0) then floor else floor + 1

theorem roundQuotient_one (n : Nat) : roundQuotient n 1 = n := by
  simp [roundQuotient, Nat.mod_one]

/-- A rounded quotient is at most half a unit from the quotient. -/
theorem roundQuotient_near (n : Nat) {d : Nat} (h : 0 < d) :
    2 * (roundQuotient n d * d) ≤ 2 * n + d ∧ 2 * n ≤ 2 * (roundQuotient n d * d) + d := by
  have e := Nat.div_add_mod n d
  have hlt := Nat.mod_lt n h
  have hc : n / d * d = d * (n / d) := Nat.mul_comm _ _
  simp only [roundQuotient]
  split
  next hs =>
    have : 2 * (n % d) ≤ d := by
      simp only [Bool.or_eq_true, Bool.and_eq_true, decide_eq_true_eq] at hs
      omega
    omega
  next hs =>
    have : d ≤ 2 * (n % d) := by
      simp only [Bool.or_eq_true, Bool.and_eq_true, decide_eq_true_eq, not_or, Nat.not_lt] at hs
      omega
    rw [Nat.add_mul]
    omega

/-! ### From doubles -/

/-- The quotient that a finite double is, in lowest terms; the numerator has its sign. -/
def ratioOf? (x : Float) : Option (Int × Nat) :=
  match Magnitude.ofFloat x with
  | .finite value =>
    let n := value.mantissa * twoPower value.exponent.toNat
    let d := twoPower (-value.exponent).toNat
    let common := Nat.gcd n d
    let n : Int := (n / common : Nat)
    some (if isNegative x then -n else n, d / common)
  | _ => none

/-- A finite double without the digits behind its point. -/
def truncated? (x : Float) : Option Int := (ratioOf? x).map fun (n, d) => n.tdiv d

/-- The greatest integer that is not above a float. -/
def floorOf? (x : Float) : Option Int := (ratioOf? x).map fun (n, d) => n.fdiv d

/-! ### To doubles -/

/-- The double of a sign, a mantissa below `2 ^ 53` and an exponent that is not below -1074, unless
it is too large. -/
def floatOfParts? (negative : Bool) (mantissa : Nat) (exponent : Int) : Option Float :=
  let bits := if mantissa < twoPower 52 then mantissa
    else (exponent + 1075).toNat * twoPower 52 + (mantissa - twoPower 52)
  if twoPower 52 ≤ mantissa && 971 < exponent then none
  else some (Float.ofBits (UInt64.ofNat (if negative then twoPower 63 + bits else bits)))

/-- The double nearest to a quotient, unless it is too large. -/
def floatOfRatio? (n : Int) (d : Nat) : Option Float :=
  if n = 0 then some 0.0
  else
    let a := n.natAbs
    let place : Int := (a.log2 : Int) - d.log2 - 54
    let exponent := max place (-1074)
    let mantissa (e : Int) :=
      roundQuotient (a * twoPower (-e).toNat) (d * twoPower e.toNat)
    let fitting := [exponent, exponent + 1, exponent + 2, exponent + 3].find? fun e =>
      mantissa e < twoPower 53
    fitting.bind fun e => floatOfParts? (n < 0) (mantissa e) e

/-- The double nearest to an integer, unless it is too large. -/
def floatOfInt? (n : Int) : Option Float := floatOfRatio? n 1

end MobileSchema
