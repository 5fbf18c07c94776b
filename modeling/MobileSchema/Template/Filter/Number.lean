import MobileSchema.Number.Notation
import MobileSchema.Template.Filter.Basic

/-!
# Filters of numbers

What filters make of numbers, and how they make numbers of other objects.
-/

namespace MobileSchema.Template

/-- Goes on with another act if a number cannot be made of an object. -/
def unlessNoNumber {α : Type} (a : Act α) (otherwise : Act α) : Act α :=
  try a
  catch fault => match fault with
    | .use (.notWholeNumber _) | .use (.notIntegerText _) | .use (.notFraction _)
    | .use (.notFractionText _) | .use (.notWhole false) => otherwise
    | fault => throw fault

/-- The integer that is made of an object, in a base if it is a text. -/
def integerIn (o base : Object) : Act Int := do
  match o.text?, base.integer? with
  | some s, some base =>
    (integerOfText? base s).elim (refuse (.notIntegerText (quoted s))) pure
  | some s, none => refuse (.notIntegerText (quoted s))
  | none, _ => integerFrom o

/-- The integer that is made of an object, or another object. -/
def integerFilter : Filter :=
  .withOptions "do_int" "value" ["default", "base"] fun o b => do
    let base := (b.find? "base").getD (.number 10)
    let whole (o : Object) : Act Object := do
      let x ← fractionFrom o
      if isFinite x then return .number (← wholeOfFraction x)
      else return (b.find? "default").getD (.number 0)
    let tooLarge (a : Act Object) : Act Object :=
      try a
      catch fault => match fault with
        | .use .integerTooLarge => return (b.find? "default").getD (.number 0)
        | fault => throw fault
    unlessNoNumber (do return .number (← integerIn o base))
      (unlessNoNumber (tooLarge (whole o)) (return (b.find? "default").getD (.number 0)))

/-- The fraction that is made of an object, or another object. -/
def fractionFilter : Filter :=
  .withOptions "do_float" "value" ["default"] fun o b =>
    unlessNoNumber (do return .fraction (← fractionFrom o))
      (return (b.find? "default").getD (.fraction 0.0))

/-- The size of a number. -/
def magnitudeOf (o : Object) : Act Object := do
  match o, o.integer? with
  | .fraction x, _ => return .fraction x.abs
  | _, some n => return .number n.natAbs
  | o, none => refuse (.badArgument "abs" (← typeOf o))

/-- An integer rounded at a place before its end. -/
def roundInteger (n : Int) (places : Int) : Int :=
  if 0 ≤ places then n else roundedBefore n (-places).toNat

/-- A number rounded to the nearest at a place, or to an integer. -/
def roundNumber (o places : Object) : Act Object := do
  match o, o.integer?, places with
  | .fraction x, _, .none =>
    let some (n, d) := ratioOf? x | refuse (.notWhole x.isInf)
    let size : Int := roundQuotient n.natAbs d
    return .number (if n < 0 then -size else size)
  | .fraction x, _, places =>
    let places ← placeNumber places
    if !isFinite x then return .fraction x
    (roundedAt? x places).elim (refuse .roundedTooLarge) fun x => return .fraction x
  | _, some n, .none => return .number n
  | _, some n, places => return .number (roundInteger n (← placeNumber places))
  | o, none, _ => refuse (.notRounded (← typeOf o))

/-- The integer next to a number, upwards or downwards. -/
def nextInteger (upwards : Bool) (o : Object) : Act Object := do
  match o, o.integer? with
  | .fraction x, _ =>
    let some (n, d) := ratioOf? x | refuse (.notWhole x.isInf)
    return .number (if upwards then -((-n).fdiv d) else n.fdiv d)
  | _, some n => return .number n
  | .undefined cause, none => throw (.undefined cause)
  | o, none => refuse (.format (.needsReal (← typeOf o)))

/-- A number rounded at a place: to the nearest, upwards or downwards. -/
def roundFilter : Filter :=
  .withOptions "do_round" "value" ["precision", "method"] fun o b => do
    let places := (b.find? "precision").getD (.number 0)
    let method := (b.find? "method").getD (.text "common")
    checkKey method
    match method.text? with
    | some "common" => roundNumber o places
    | some "ceil" | some "floor" =>
      let scale ← operate .power (.number 10) places
      let next ← nextInteger (method.text? = some "ceil") (← operate .multiply o scale)
      operate .divide next (← operate .power (.number 10) places)
    | _ => refuse (.filter .roundingMethod)

/-- A number of bytes as a person reads it. -/
def bytesText (x : Float) (binary : Bool) : Act String := do
  let base : Nat := if binary then 1024 else 1000
  let units := if binary then ["KiB", "MiB", "GiB", "TiB", "PiB", "EiB", "ZiB", "YiB"]
    else ["kB", "MB", "GB", "TB", "PB", "EB", "ZB", "YB"]
  let step : Float := Float.ofNat base
  if x == 1 then return "1 Byte"
  if x < step then return s!"{← numberText (← wholeOfFraction x)} Bytes"
  let limit (i : Nat) : Float := (floatOfInt? (Nat.pow base (i + 2) : Nat)).getD 0
  let i := ((List.range 8).find? fun i => x < limit i).getD 7
  let format : FieldFormat := { alignment := .right, code := some 'f', precision := some 1 }
  let numeral := format.fractionNumeral (step * x / limit i)
  let sign := if numeral.negative then "-" else ""
  let digits := String.ofList (numeral.digits ++ numeral.rest)
  let unit := units[i]?.getD ""
  return s!"{sign}{digits} {unit}"

/-- The filters of numbers. -/
def numberFilters : List (String × Filter) :=
  [("abs", .simple "abs" magnitudeOf), ("int", integerFilter), ("float", fractionFilter),
    ("round", roundFilter),
    ("filesizeformat", .withOptions "do_filesizeformat" "value" ["binary"] fun o b => do
      let x ← fractionFrom o
      return .text (← bytesText x (← isSetOr b "binary" false)))]

end MobileSchema.Template
