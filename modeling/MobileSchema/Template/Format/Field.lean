import MobileSchema.Number.Arithmetic
import MobileSchema.Number.Literal
import MobileSchema.Number.Notation
import MobileSchema.Number.Shortest
import MobileSchema.Template.Format.Fault
import MobileSchema.Text.Character
import MobileSchema.Text.Layout

/-!
# Field formats

How a text or a number is written in a field: where it stands in a space that is wider, which signs
are written, how the digits are grouped, and by which code a number is written.
-/

namespace MobileSchema.Template

/-! ### Formats -/

/-- Where something stands in a space that is wider. -/
inductive Alignment
  | left | right | middle
  /-- at the right, but with its sign and what announces its base at the left -/
  | behindSign
  deriving DecidableEq, Repr

/-- How something is written in a field. -/
structure FieldFormat where
  fill : Char := ' '
  alignment : Alignment
  sign : Option Char := none
  noNegativeZero : Bool := false
  alternate : Bool := false
  width : Option Nat := none
  /-- what stands between groups of digits -/
  separator : Option Char := none
  precision : Option Nat := none
  code : Option Char := none
  deriving DecidableEq, Repr

/-- The alignment that a character stands for. -/
def Alignment.ofChar? : Char → Option Alignment
  | '<' => some left
  | '>' => some right
  | '^' => some middle
  | '=' => some behindSign
  | _ => none

/-- The decimal number that a text begins with, if it begins with one, and the rest. -/
def leadingNumber (cs : List Char) : Except FormatFault (Option Nat × List Char) :=
  let digits := cs.takeWhile isDigit
  let n := ofDigits 10 (digits.map fun c => (digitValue? c).getD 0)
  if digits = [] then .ok (none, cs)
  else if wordBound ≤ n then .error .tooManyDigits
  else .ok (some n, cs.dropWhile isDigit)

/-- Whether a character is the first of a text, and what is behind it then. -/
def behindChar (c : Char) : List Char → Bool × List Char
  | [] => (false, [])
  | c' :: cs => if c' = c then (true, cs) else (false, c' :: cs)

/-- Whether a code takes digits with separators between them, and how many make a group. -/
def groupSize? (separator : Char) : Option Char → Option Nat
  | none => some 3
  | some c =>
    if "defgEG%F".toList.contains c then some 3
    else if "boxX".toList.contains c && separator = '_' then some 4
    else none

namespace FieldFormat

/-- The fill character and the alignment that a text begins with, if it does, and the rest. -/
def leadingAlignment : List Char → Option Char × Option Alignment × List Char
  | [] => (none, none, [])
  | c :: cs =>
    match cs, cs.head?.bind Alignment.ofChar?, Alignment.ofChar? c with
    | _ :: rest, some alignment, _ => (some c, some alignment, rest)
    | _, _, some alignment => (none, some alignment, cs)
    | _, _, none => (none, none, c :: cs)

/-- The separator that a text begins with, if it does, and the rest. -/
def leadingSeparator (cs : List Char) : Except FormatFault (Option Char × List Char) := do
  let (comma, cs) := behindChar ',' cs
  let (underscore, cs) := behindChar '_' cs
  if underscore && (comma || cs.head? = some ',') then throw .bothSeparators
  return (if comma then some ',' else if underscore then some '_' else none, cs)

/-- The precision that a text begins with, if it does, and the rest. -/
def leadingPrecision (cs : List Char) : Except FormatFault (Option Nat × List Char) := do
  let (point, cs) := behindChar '.' cs
  if !point then return (none, cs)
  let (precision, cs) ← leadingNumber cs
  if precision.isNone then throw .missingPrecision
  return (precision, cs)

/-- The format that a text asks for, for an object of a type that stands at the left or at the right
unless the text says something else. -/
def read (type : String) (alignment : Alignment) (text : List Char) :
    Except FormatFault FieldFormat := do
  let (fill, own, cs) := leadingAlignment text
  let (sign, cs) := match cs with
    | c :: rest => if " +-".toList.contains c then (some c, rest) else (none, cs)
    | [] => (none, [])
  let (noNegativeZero, cs) := behindChar 'z' cs
  let (alternate, cs) := behindChar '#' cs
  let (zero, cs) := if fill.isSome then (false, cs) else behindChar '0' cs
  let (width, cs) ← leadingNumber cs
  let (separator, cs) ← leadingSeparator cs
  let (precision, cs) ← leadingPrecision cs
  if 1 < cs.length then throw (.invalidSpecifier (String.ofList text) type)
  let code := cs.head?
  if let some separator := separator then
    if (groupSize? separator code).isNone then
      throw (.separatorFor separator (code.getD ' '))
  return {
    fill := fill.getD (if zero then '0' else ' ')
    alignment :=
      own.getD (if zero && alignment = .right then .behindSign else alignment)
    sign, noNegativeZero, alternate, width, separator, precision, code }

/-! ### Texts -/

/-- A text in its space. -/
def laidOut (format : FieldFormat) (cs : List Char) : List Char :=
  let space := format.width.getD 0 - cs.length
  match format.alignment with
  | .left | .behindSign => padded 0 space format.fill cs
  | .right => padded space 0 format.fill cs
  | .middle => padded (space / 2) (space - space / 2) format.fill cs

/-- A text of a type as a format asks for. -/
def writeText (type : String) (cs : List Char) (spec : List Char) :
    Except FormatFault (List Char) := do
  let format ← read type .left spec
  if let (some separator, none) := (format.separator, format.code) then
    throw (.separatorFor separator 's')
  if let some code := format.code then
    if code ≠ 's' then throw (.unknownCode code type)
  if let some sign := format.sign then
    throw (.notAllowed (if sign = ' ' then .space else .sign) .text)
  if format.noNegativeZero then throw (.notAllowed .noNegativeZero .text)
  if format.alternate then throw (.notAllowed .alternate .text)
  if format.alignment = .behindSign then throw (.notAllowed .signAlignment .text)
  return format.laidOut (cs.take (format.precision.getD cs.length))

/-! ### Numbers -/

/-- A number before it is put into its space. -/
structure Numeral where
  negative : Bool := false
  /-- what announces a base -/
  announcement : List Char := []
  digits : List Char
  /-- what is behind the digits of the whole number -/
  rest : List Char := []

/-- Digits from the last to the first in groups with a separator between them, of which `inGroup`
are in the present group; there are zeros before them up to a width. -/
def groupedFromRight (size : Nat) (separator : Char) : Nat → Nat → Nat → List Char → List Char
  | 0, _, _, _ => []
  | fuel + 1, width, inGroup, ds =>
    if ds = [] && width = 0 then []
    else if inGroup = size then
      separator :: groupedFromRight size separator fuel (max 1 (width - 1)) 0 ds
    else
      ds.head?.getD '0' ::
        groupedFromRight size separator fuel (width - 1) (inGroup + 1) ds.tail

/-- Digits with zeros before them up to a width, in groups if a separator is to be between them. -/
def groupedDigits (format : FieldFormat) (width : Nat) (digits : List Char) : List Char :=
  match format.separator with
  | none => List.replicate (width - digits.length) '0' ++ digits
  | some separator =>
    let size := (groupSize? separator format.code).getD 3
    let fuel := 2 * (width + digits.length) + 2
    (groupedFromRight size separator fuel width 0 digits.reverse).reverse

/-- The sign that is written for a number. -/
def signOf (format : FieldFormat) (negative : Bool) : List Char :=
  if negative then ['-']
  else match format.sign with
    | some '+' => ['+']
    | some ' ' => [' ']
    | _ => []

/-- A number in its space. -/
def laidOutNumeral (format : FieldFormat) (numeral : Numeral) : List Char :=
  let sign := format.signOf numeral.negative
  let around := sign.length + numeral.announcement.length + numeral.rest.length
  let least :=
    if format.fill = '0' && format.alignment = .behindSign then format.width.getD 0 - around else 0
  let digits := if numeral.digits = [] then [] else format.groupedDigits least numeral.digits
  let space := format.width.getD 0 - (around + digits.length)
  let front := sign ++ numeral.announcement
  let number := digits ++ numeral.rest
  match format.alignment with
  | .left => padded 0 space format.fill (front ++ number)
  | .right => padded space 0 format.fill (front ++ number)
  | .middle => padded (space / 2) (space - space / 2) format.fill (front ++ number)
  | .behindSign => front ++ padded space 0 format.fill number

/-- Capital letters for the small ones among `a` to `z`. -/
def capitals (cs : List Char) : List Char := cs.map Char.toUpper

/-! ### Integers -/

/-- The base of a code, and what announces it. -/
def baseOf : Char → Nat × List Char
  | 'b' => (2, ['0', 'b'])
  | 'o' => (8, ['0', 'o'])
  | 'x' => (16, ['0', 'x'])
  | 'X' => (16, ['0', 'X'])
  | _ => (10, [])

/-- An integer by its code. -/
def integerNumeral (format : FieldFormat) (n : Int) : Numeral :=
  let code := format.code.getD 'd'
  let (base, announcement) := baseOf code
  let digits := Nat.toDigits base n.natAbs
  { negative := n < 0
    announcement := if format.alternate then announcement else []
    digits := if code = 'X' then capitals digits else digits }

/-- A character by its number, which is not half of a surrogate pair. -/
def characterNumeral (format : FieldFormat) (n : Int) : Except FormatFault Numeral := do
  if format.sign.isSome then throw (.notAllowed .sign .character)
  if format.alternate then throw (.notAllowed .alternate .character)
  if !fitsWord n then throw .tooLong
  if n < 0 || 0x110000 ≤ n then throw .characterRange
  return { digits := [], rest := [Char.ofNat n.toNat] }

/-! ### Fractions -/

/-- A finite fraction by its code; without one, there is at least one digit behind the point. -/
def finiteText (format : FieldFormat) (x : Float) (n d : Nat) : List Char :=
  let precision := format.precision.getD 6
  match format.code, format.precision with
  | none, none =>
    let text := (floatText x.abs).toList
    if format.alternate && !text.contains '.' then
      text.takeWhile (· ≠ 'e') ++ '.' :: text.dropWhile (· ≠ 'e')
    else text
  | none, some precision => shortNotation precision format.alternate n d
  | some code, _ =>
    if code = 'e' || code = 'E' then exponentNotation precision format.alternate n d
    else if code = 'f' || code = 'F' || code = '%' then fixedNotation precision format.alternate n d
    else generalNotation precision format.alternate n d

/-- A fraction by its code. -/
def fractionNumeral (format : FieldFormat) (x : Float) : Numeral :=
  let code := format.code.getD 'g'
  let x := if code = '%' then x * 100 else x
  let percent := if code = '%' then ['%'] else []
  let text := match ratioOf? x with
    | some (n, d) => format.finiteText x n.natAbs d
    | none => if x.isNaN then ['n', 'a', 'n'] else ['i', 'n', 'f']
  let text := if code = 'E' || code = 'F' || code = 'G' then capitals text else text
  let isZero := (text.takeWhile fun c => c.toLower ≠ 'e').all fun c => c = '0' || c = '.'
  { negative := isNegative x && !x.isNaN && !(format.noNegativeZero && isZero)
    digits := text.takeWhile Char.isDigit
    rest := text.dropWhile Char.isDigit ++ percent }

/-- A fraction of a type as a format asks for. -/
def writeFractionBy (format : FieldFormat) (type : String) (x : Float) :
    Except FormatFault (List Char) := do
  if let some code := format.code then
    if !"eEfFgGn%".toList.contains code then throw (.unknownCode code type)
  if halfWordBound ≤ format.precision.getD 0 then throw .precisionTooBig
  return format.laidOutNumeral (format.fractionNumeral x)

/-- A fraction as a format asks for. -/
def writeFraction (x : Float) (spec : List Char) : Except FormatFault (List Char) := do
  (← read "float" .right spec).writeFractionBy "float" x

/-- Whether a code is for fractions. -/
def isForFractions (format : FieldFormat) : Bool :=
  format.code.any "eEfFgG%".toList.contains

/-- An integer of a type as a format asks for, by a code for integers. -/
def writeIntegerBy (format : FieldFormat) (type : String) (n : Int) :
    Except FormatFault (List Char) := do
  if let some code := format.code then
    if !"bcdoxXn".toList.contains code then throw (.unknownCode code type)
  if format.precision.isSome then throw (.notAllowed .precision .integer)
  if format.noNegativeZero then throw (.notAllowed .noNegativeZero .integer)
  if format.code = some 'c' then return format.laidOutNumeral (← format.characterNumeral n)
  return format.laidOutNumeral (format.integerNumeral n)

end FieldFormat

end MobileSchema.Template
