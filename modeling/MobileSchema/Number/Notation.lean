import MobileSchema.Number.Ratio
import MobileSchema.Number.Shortest

/-!
# Notations of numbers

Decimals with a given number of digits: behind the point, or in all with a power of ten beside them.
Digits that are left out are rounded, and of two decimals that are equally near the even one is
taken.
-/

namespace MobileSchema

/-- The decimal digits of a natural number, at least so many. -/
def decimalDigits (least n : Nat) : List Char :=
  let digits := Nat.toDigits 10 n
  List.replicate (least - digits.length) '0' ++ digits

/-- A quotient with so many digits behind the point; without any, the point is left out unless it is
asked for. -/
def fixedNotation (places : Nat) (point : Bool) (n d : Nat) : List Char :=
  let digits := decimalDigits (places + 1) (roundQuotient (n * tenPower places) d)
  let (whole, fraction) := digits.splitAt (digits.length - places)
  if places = 0 && !point then whole else whole ++ '.' :: fraction

/-- The place of the first digit of a quotient that is not zero. -/
def firstPlace (n d : Nat) : Int :=
  let place : Int := (digitCount n : Int) - digitCount d
  if n * tenPower (-place).toNat < d * tenPower place.toNat then place - 1 else place

/-- A quotient rounded to so many digits and one: the digits, and the place of the first. -/
def significantDigits (more n d : Nat) : List Char × Int :=
  if n = 0 then (List.replicate (more + 1) '0', 0)
  else
    let place := firstPlace n d
    let scale : Int := more - place
    let digits := roundQuotient (n * tenPower scale.toNat) (d * tenPower (-scale).toNat)
    if digits = tenPower (more + 1) then (decimalDigits (more + 1) (digits / 10), place + 1)
    else (decimalDigits (more + 1) digits, place)

/-- A power of ten beside a decimal: a sign and two digits or more. -/
def exponentText (place : Int) : List Char :=
  'e' :: (if place < 0 then '-' else '+') :: decimalDigits 2 place.natAbs

/-- Digits with a point behind the first. -/
def pointed (point : Bool) : List Char → List Char
  | [] => []
  | [c] => if point then [c, '.'] else [c]
  | c :: cs => c :: '.' :: cs

/-- A quotient with one digit before the point and so many behind it, and a power of ten. -/
def exponentNotation (places : Nat) (point : Bool) (n d : Nat) : List Char :=
  let (digits, place) := significantDigits places n d
  pointed point digits ++ exponentText place

/-- Digits less the zeros at their end. -/
def withoutEndZeros (cs : List Char) : List Char := (cs.reverse.dropWhile (· = '0')).reverse

/-- A quotient with so many digits, positional if its first digit stands for at least `10 ^ -4` and
at a place below `most`, and otherwise with a power of ten.  The zeros at the end are left out
unless the point is asked for. -/
def notationBelow (most : Int) (digitCount : Nat) (point : Bool) (n d : Nat) : List Char :=
  let (digits, place) := significantDigits (max 1 digitCount - 1) n d
  let kept (digits : List Char) := if point then digits else withoutEndZeros digits
  if -4 ≤ place && place < most then
    if place < 0 then '0' :: '.' :: List.replicate (-place - 1).toNat '0' ++ kept digits
    else
      let (whole, fraction) := digits.splitAt (place.toNat + 1)
      if kept fraction = [] && !point then whole else whole ++ '.' :: kept fraction
  else pointed point (digits.take 1 ++ kept (digits.drop 1)) ++ exponentText place

/-- A quotient with so many digits, in the notation that suits its size. -/
def generalNotation (digitCount : Nat) (point : Bool) (n d : Nat) : List Char :=
  notationBelow (max 1 digitCount : Nat) digitCount point n d

/-- A quotient with so many digits, in the notation that suits its size, with a digit behind the
point unless there is a power of ten. -/
def shortNotation (digitCount : Nat) (point : Bool) (n d : Nat) : List Char :=
  let text := notationBelow ((max 1 digitCount : Nat) - 1 : Int) digitCount point n d
  if text.contains '.' || text.contains 'e' then text else text ++ ['.', '0']

theorem length_decimalDigits (least n : Nat) : least ≤ (decimalDigits least n).length := by
  simp [decimalDigits]
  omega

end MobileSchema
