import MobileSchema.Number.Arithmetic
import MobileSchema.Number.Literal
import MobileSchema.Template.Shown
import MobileSchema.Template.Signature

/-!
# Numbers

The integer or the fraction that an object is or can be made into, and what the methods of integers
and fractions answer.
-/

namespace MobileSchema.Template

/-! ### Numbers from objects -/

/-- The integer that an object gives for a place. -/
def placeNumber (o : Object) : Act Int :=
  o.integer?.elim (do refuse (.notInteger (← typeOf o))) pure

/-- The fraction nearest to an integer, which may be too large for one. -/
def fractionOfInteger (n : Int) : Act Float :=
  (floatOfInt? n).elim (refuse .integerTooLarge) pure

/-- A fraction without the digits behind its point. -/
def wholeOfFraction (x : Float) : Act Int :=
  (truncated? x).elim (refuse (.notWhole x.isInf)) pure

/-- The integer that is made of an object. -/
def integerFrom (o : Object) : Act Int := do
  match o, o.integer?, o.text? with
  | .undefined cause, _, _ => throw (.undefined cause)
  | .halved codes, _, _ => refuse (.notIntegerText (quotedCodes codes))
  | .fraction x, _, _ => wholeOfFraction x
  | _, some n, _ => return n
  | _, none, some s => (integerOfText? 10 s).elim (refuse (.notIntegerText (quoted s))) pure
  | o, none, none => refuse (.notWholeNumber (← typeOf o))

/-- The fraction that is made of an object. -/
def fractionFrom (o : Object) : Act Float := do
  match o, o.integer?, o.text? with
  | .undefined cause, _, _ => throw (.undefined cause)
  | .halved codes, _, _ => refuse (.notFractionText (quotedCodes codes))
  | .fraction x, _, _ => return x
  | _, some n, _ => fractionOfInteger n
  | _, none, some s => (floatOfText? s).elim (refuse (.notFractionText (quoted s))) pure
  | o, none, none => refuse (.notFraction (← typeOf o))

/-! ### Methods of numbers -/

/-- The number of binary digits of a natural number that are one. -/
def onesIn (n : Nat) : Nat := (Nat.toDigits 2 n).count '1'

/-- A fraction in hexadecimal digits, with a power of two. -/
def hexNotation (x : Float) : String :=
  let sign := if isNegative x && !x.isNaN then "-" else ""
  match Magnitude.ofFloat x with
  | .notANumber => "nan"
  | .infinite => sign ++ "inf"
  | .finite value =>
    let isSmall := value.mantissa < twoPower 52
    let digits := Nat.toDigits 16 (value.mantissa % twoPower 52)
    let zeros := List.replicate (13 - digits.length) '0'
    let power := value.exponent + 52
    let first := if isSmall then "0x0." else "0x1."
    if value.mantissa = 0 then sign ++ "0x0.0p+0"
    else sign ++ first ++ String.ofList (zeros ++ digits) ++ "p" ++
      (if power < 0 then "-" else "+") ++ toString power.natAbs

/-- What a method of a number answers. -/
def callNumber (o : Object) (name : String) (given : Given) : Act Object := do
  let _ ← simpleArguments ((← typeOf o) ++ ".") name (.places .nothing) given
  match o, o.integer?, name with
  | _, some n, "bit_length" => return .number (if n = 0 then 0 else n.natAbs.log2 + 1 : Nat)
  | _, some n, "bit_count" => return .number (onesIn n.natAbs)
  | _, some n, "as_integer_ratio" => return .tuple [.number n, .number 1]
  | _, some n, _ => return .number n
  | .fraction x, none, "hex" => return .text (hexNotation x)
  | .fraction x, none, "is_integer" => return .bool (floatToInt? x).isSome
  | .fraction x, none, "as_integer_ratio" =>
    match ratioOf? x with
    | some (n, d) => return .tuple [.number n, .number d]
    | none => refuse (.notQuotient x.isInf)
  | o, none, _ => return o

end MobileSchema.Template
