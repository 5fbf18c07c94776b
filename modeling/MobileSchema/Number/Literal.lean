import MobileSchema.Number.Shortest
import MobileSchema.Text.CaseMap
import MobileSchema.Text.Character

/-!
# Numbers in texts

From digits to numbers, and the number that a text is, with white space around it.  Digits of all
scripts count, and an underscore may stand between two digits.  A decimal far outside the range of
doubles is rounded without building its power of ten, and an integer with more than `digitLimit`
decimal digits is refused.
-/

namespace MobileSchema

/-! ### From digits to numbers -/

/-- The number written by digits in a base; the value of a digit is given. -/
def ofDigits (base : Nat) (digits : List Nat) : Nat :=
  digits.foldl (fun n d => n * base + d) 0

/-- The value of a hexadecimal digit. -/
def hexValue? (c : Char) : Option Nat :=
  if c.isDigit then some (c.toNat - '0'.toNat)
  else if 'a' ≤ c && c ≤ 'f' then some (c.toNat - 'a'.toNat + 10)
  else if 'A' ≤ c && c ≤ 'F' then some (c.toNat - 'A'.toNat + 10)
  else none

/-- The number of digits that a decimal integer may have. -/
def digitLimit : Nat := 4300

/-- The double nearest to `± digits · 10 ^ exponent`. -/
def floatOfDecimal (negative : Bool) (digits : Nat) (exponent : Int) : Float :=
  let place : Int := digitCount digits + exponent
  let size : Float :=
    if digits = 0 || place < -400 then 0.0
    else if 400 < place then 1.0 / 0.0
    else Float.ofScientific digits (exponent < 0) exponent.natAbs
  if negative then -size else size

/-! ### Digits -/

/-- The value of a digit or a letter in a base. -/
def baseDigit? (base : Nat) (c : Char) : Option Nat :=
  let value := digitValue? c <|>
    (if 'a' ≤ c && c ≤ 'z' then some (c.toNat - 'a'.toNat + 10)
      else if 'A' ≤ c && c ≤ 'Z' then some (c.toNat - 'A'.toNat + 10)
      else none)
  value.filter (· < base)

/-- The values of digits, each with an underscore behind it or not, up to the last one; none if
something else is among them. -/
def joinedDigits? (value? : Char → Option Nat) : List Char → Option (List Nat)
  | [] => none
  | [c] => (value? c).map ([·])
  | c :: '_' :: cs => do return (← value? c) :: (← joinedDigits? value? cs)
  | c :: cs => do return (← value? c) :: (← joinedDigits? value? cs)

/-- Whether a text starts with a minus sign, and the text behind its sign. -/
def behindPlusOrMinus : List Char → Bool × List Char
  | '-' :: cs => (true, cs)
  | '+' :: cs => (false, cs)
  | cs => (false, cs)

/-! ### Integers -/

/-- The base that a zero and a letter announce. -/
def announcedBase? : List Char → Option (Nat × List Char)
  | '0' :: c :: cs =>
    let base? : Option Nat := [('x', 16), ('X', 16), ('o', 8), ('O', 8), ('b', 2), ('B', 2)].lookup c
    base?.map fun base => (base, if cs.head? = some '_' then cs.drop 1 else cs)
  | _ => none

/-- The natural number that a text is in a base; in the base zero the text announces its base, and
decimal numbers begin with no zero. -/
def naturalOfText? (base : Nat) (cs : List Char) : Option Nat := do
  let (own, digits) ← match announcedBase? cs with
    | some (announced, rest) =>
      if base = 0 || base = announced then some (announced, rest) else some (base, cs)
    | none => some (if base = 0 then 10 else base, cs)
  let values ← joinedDigits? (baseDigit? own) digits
  if base = 0 && own = 10 && values.head? = some 0 && values.any (· ≠ 0) then none
  let isExact := [2, 4, 8, 16, 32].contains own
  if !isExact && digitLimit < values.length then none
  return ofDigits own values

/-- The integer that a text is in a base. -/
def integerOfText? (base : Int) (s : String) : Option Int :=
  if base = 0 || (2 ≤ base && base ≤ 36) then
    let (negative, cs) := behindPlusOrMinus (trimBlank s).toList
    (naturalOfText? base.toNat cs).map fun n => if negative then -(n : Int) else n
  else none

/-! ### Doubles -/

/-- The digits that a text begins with, and the rest. -/
def digitsBefore (cs : List Char) : Option (List Nat × List Char) :=
  let isPart (c : Char) := isDigit c || c = '_'
  let part := cs.takeWhile isPart
  if part = [] then some ([], cs)
  else (joinedDigits? digitValue? part).map (·, cs.dropWhile isPart)

/-- The exponent that a text is; none if it is something else. -/
def exponentOfText? : List Char → Option Int
  | [] => some 0
  | c :: cs =>
    if c = 'e' || c = 'E' then
      let (negative, cs) := behindPlusOrMinus cs
      (joinedDigits? digitValue? cs).map fun digits =>
        let n : Int := ofDigits 10 digits
        if negative then -n else n
    else none

/-- The double that a text without a sign is. -/
def sizeOfText? (negative : Bool) (cs : List Char) : Option Float :=
  let word := String.ofList (lowerText cs)
  if word = "inf" || word = "infinity" then some (if negative then -1.0 / 0.0 else 1.0 / 0.0)
  else if word = "nan" then some (0.0 / 0.0)
  else do
    let (whole, rest) ← digitsBefore cs
    let (fraction, rest) ← match rest with
      | '.' :: rest => digitsBefore rest
      | rest => some ([], rest)
    if whole = [] && fraction = [] then none
    let exponent ← exponentOfText? rest
    return floatOfDecimal negative (ofDigits 10 (whole ++ fraction)) (exponent - fraction.length)

/-- The double that a text is. -/
def floatOfText? (s : String) : Option Float :=
  let (negative, cs) := behindPlusOrMinus (trimBlank s).toList
  sizeOfText? negative cs

end MobileSchema
