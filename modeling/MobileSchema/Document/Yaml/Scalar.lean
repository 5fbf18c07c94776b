import MobileSchema.Document.Fault
import MobileSchema.Document.Value
import MobileSchema.Text.CaseMap
import MobileSchema.Text.Character

/-!
# Scalars

What the text of a scalar stands for.  A tag says which kind of value is meant; a plain scalar
without a tag gets one by its form, `Tag.ofForm`.  A form asked for by a tag is read more freely
than one that is recognised, so that the reading of a tagged scalar can fail.
-/

namespace MobileSchema.Yaml

open DocumentFault

/-- The kind of a node. -/
inductive Tag
  | null | bool | int | float | binary | timestamp | str
  | seq | orderedMap | pairs | set | map
  | merge | defaultValue
  | other (name : String)
  deriving DecidableEq, Repr

/-- The beginning of the names of the standard tags. -/
def standardPrefix : String := "tag:yaml.org,2002:"

/-- The standard tags by the ends of their names. -/
def standardTags : List (String × Tag) :=
  [("null", .null), ("bool", .bool), ("int", .int), ("float", .float), ("binary", .binary),
    ("timestamp", .timestamp), ("str", .str), ("seq", .seq), ("omap", .orderedMap),
    ("pairs", .pairs), ("set", .set), ("map", .map), ("merge", .merge), ("value", .defaultValue)]

/-- The tag of a full name. -/
def Tag.ofName (name : String) : Tag :=
  ((standardTags.find? fun t => standardPrefix ++ t.1 = name).map (·.2)).getD (.other name)

/-! ### Forms -/

/-- The plain scalars that are truth values. -/
def truthForms : List String :=
  ["yes", "Yes", "YES", "no", "No", "NO", "true", "True", "TRUE", "false", "False", "FALSE",
    "on", "On", "ON", "off", "Off", "OFF"]

/-- The text without a sign at its start. -/
def withoutSign : List Char → List Char
  | '-' :: cs | '+' :: cs => cs
  | cs => cs

/-- A digit or an underscore. -/
def isDigitOrGap (c : Char) : Bool := c.isDigit || c = '_'

/-- A digit, then digits and underscores. -/
def isGrouped : List Char → Bool
  | [] => false
  | c :: cs => c.isDigit && cs.all isDigitOrGap

/-- One digit, or two that give a number below sixty. -/
def isSixtieth : List Char → Bool
  | [a] => a.isDigit
  | [a, b] => '0' ≤ a && a ≤ '5' && b.isDigit
  | _ => false

/-- An exponent with its sign, or nothing. -/
def isExponent : List Char → Bool
  | [] => true
  | mark :: sign :: digits =>
    (mark = 'e' || mark = 'E') && (sign = '-' || sign = '+') && digits ≠ [] &&
      digits.all Char.isDigit
  | _ => false

/-- Digits and underscores, then an exponent or nothing. -/
def isFractionTail (cs : List Char) : Bool := isExponent (cs.dropWhile isDigitOrGap)

/-- Whether a plain scalar has the form of an integer. -/
def isIntegerForm (cs : List Char) : Bool :=
  match withoutSign cs with
  | '0' :: 'b' :: digits => digits ≠ [] && digits.all fun c => c = '0' || c = '1' || c = '_'
  | '0' :: 'x' :: digits => digits ≠ [] && digits.all fun c => (hexValue? c).isSome || c = '_'
  | '0' :: digits => digits.all fun c => ('0' ≤ c && c ≤ '7') || c = '_'
  | cs =>
    match cs.splitOn ':' with
    | whole :: sixtieths => isGrouped whole && sixtieths.all isSixtieth
    | [] => false

/-- Whether a plain scalar has the form of a decimal fraction. -/
def isFractionForm (cs : List Char) : Bool :=
  let unsigned := withoutSign cs
  let whole := unsigned.takeWhile isDigitOrGap
  [".inf", ".Inf", ".INF"].contains (String.ofList unsigned)
    || [".nan", ".NaN", ".NAN"].contains (String.ofList cs)
    || (match unsigned.drop whole.length with
      | '.' :: tail => isGrouped whole && isFractionTail tail
      | _ => false)
    || (match cs with
      | '.' :: c :: tail => c.isDigit && isFractionTail tail
      | _ => false)
    || (match (unsigned.takeWhile (· ≠ '.')).splitOn ':', unsigned.dropWhile (· ≠ '.') with
      | whole :: sixtieth :: sixtieths, '.' :: tail =>
        isGrouped whole && (sixtieth :: sixtieths).all isSixtieth && tail.all isDigitOrGap
      | _, _ => false)

/-! ### Points in time -/

/-- The parts of a written point in time, as they are written. -/
structure WrittenTime where
  year : Nat
  month : Nat
  day : Nat
  /-- hour, minute and second -/
  clock : Option (Nat × Nat × Nat) := none
  fraction : List Char := []
  /-- the offset from universal time in minutes -/
  offset : Option Int := none
  /-- whether month and day have two digits each -/
  padded : Bool := false

/-- One or two digits, and the rest. -/
def shortNumber : List Char → Option (List Char × List Char)
  | a :: b :: rest =>
    if a.isDigit && b.isDigit then some ([a, b], rest)
    else if a.isDigit then some ([a], b :: rest)
    else none
  | [a] => if a.isDigit then some ([a], []) else none
  | [] => none

/-- Exactly two digits, and the rest. -/
def twoDigits (cs : List Char) : Option (List Char × List Char) :=
  match shortNumber cs with
  | some ([a, b], rest) => some ([a, b], rest)
  | _ => none

/-- The rest behind a character. -/
def after? (mark : Char) : List Char → Option (List Char)
  | [] => none
  | c :: cs => if c = mark then some cs else none

/-- The number that decimal digits give. -/
def numberOf (digits : List Char) : Nat := ofDigits 10 (digits.map fun d => d.toNat - '0'.toNat)

/-- A space or a tab. -/
def isGap (c : Char) : Bool := c = ' ' || c = '\t'

/-- What is written behind the seconds: an offset from universal time or nothing. -/
def readOffset (cs : List Char) : Option (Option Int) :=
  if cs = [] then some none
  else
    match cs.dropWhile isGap with
    | ['Z'] => some (some 0)
    | sign :: cs =>
      if sign = '+' || sign = '-' then do
        let (hours, rest) ← shortNumber cs
        let minutes ← if rest = [] then some [] else do
          let (minutes, rest) ← after? ':' rest >>= twoDigits
          if rest = [] then some minutes else none
        let size : Int := numberOf hours * 60 + numberOf minutes
        return some (if sign = '-' then -size else size)
      else none
    | [] => none

/-- What is written behind the day: hour, minute, second, fraction and offset. -/
def readClock (time : WrittenTime) (cs : List Char) : Option WrittenTime := do
  let cs ← match cs with
    | 'T' :: cs | 't' :: cs => some cs
    | c :: cs => if isGap c then some (cs.dropWhile isGap) else none
    | [] => none
  let (hour, cs) ← shortNumber cs
  let (minute, cs) ← after? ':' cs >>= twoDigits
  let (second, cs) ← after? ':' cs >>= twoDigits
  let (fraction, cs) := match cs with
    | '.' :: cs => (cs.takeWhile Char.isDigit, cs.dropWhile Char.isDigit)
    | cs => ([], cs)
  let offset ← readOffset cs
  return { time with
    clock := some (numberOf hour, numberOf minute, numberOf second), fraction, offset }

/-- Reads a written day or point in time. -/
def readTime (cs : List Char) : Option WrittenTime := do
  let year := cs.take 4
  if year.length < 4 || !year.all Char.isDigit then none
  let (month, cs) ← after? '-' (cs.drop 4) >>= shortNumber
  let (day, cs) ← after? '-' cs >>= shortNumber
  let time : WrittenTime :=
    { year := numberOf year, month := numberOf month, day := numberOf day,
      padded := month.length = 2 && day.length = 2 }
  if cs = [] then return time else readClock time cs

/-- Whether a plain scalar has the form of a day or a point in time. -/
def isTimeForm (cs : List Char) : Bool :=
  match readTime cs with
  | some time => time.clock.isSome || time.padded
  | none => false

/-- The text without a line feed at its end. -/
def withoutFinalBreak (cs : List Char) : List Char :=
  if cs.getLast? = some '\n' then cs.dropLast else cs

/-- The tag of a plain scalar without a tag. -/
def Tag.ofForm (text : String) : Tag :=
  let cs := withoutFinalBreak text.toList
  let form := String.ofList cs
  if truthForms.contains form then .bool
  else if isFractionForm cs then .float
  else if isIntegerForm cs then .int
  else if form = "<<" then .merge
  else if text = "" || ["~", "null", "Null", "NULL"].contains form then .null
  else if isTimeForm cs then .timestamp
  else if form = "=" then .defaultValue
  else .str

/-! ### Values -/

/-- Whether a text starts with minus, and the text without its sign.  There has to be a sign or
something else. -/
def splitSign : List Char → Except DocumentFault (Bool × List Char)
  | [] => .error emptyNumber
  | '-' :: cs => .ok (true, cs)
  | '+' :: cs => .ok (false, cs)
  | cs => .ok (false, cs)

/-- The value of a digit of any script, or of a letter as a digit. -/
def digitOf? (c : Char) : Option Nat :=
  match digitValue? c with
  | some n => some n
  | none =>
    if 'a' ≤ c && c ≤ 'z' then some (c.toNat - 'a'.toNat + 10)
    else if 'A' ≤ c && c ≤ 'Z' then some (c.toNat - 'A'.toNat + 10)
    else none

/-- The letter that may stand behind a zero before the digits of a base. -/
def baseLetter : Nat → List Char
  | 2 => ['b', 'B']
  | 8 => ['o', 'O']
  | 16 => ['x', 'X']
  | _ => []

/-- White space that may stand around a number.  The separators of ASCII do not count. -/
def isNumberSpace (c : Char) : Bool :=
  ('\t' ≤ c && c ≤ '\r') || c = ' ' || (128 ≤ c.toNat && isBlank c)

/-- The text without the white space that may stand around a number. -/
def trimNumber (cs : List Char) : List Char :=
  ((cs.dropWhile isNumberSpace).reverse.dropWhile isNumberSpace).reverse

/-- An integer in a base, with white space around it, a sign and the base's letter allowed. -/
def readInteger (base : Nat) (text : List Char) : Except DocumentFault Int := do
  let fault := notAnInteger base (codesOf text)
  let trimmed := trimNumber text
  let unsigned := withoutSign trimmed
  let digits := match unsigned with
    | '0' :: letter :: rest => if (baseLetter base).contains letter then rest else unsigned
    | _ => unsigned
  match digits.mapM digitOf? with
  | none => throw fault
  | some values =>
    if values = [] || values.any (base ≤ ·) then throw fault
    if base = 10 && digitLimit < values.length then throw (tooManyDigits values.length)
    let n : Int := ofDigits base values
    return if trimmed.head? = some '-' then -n else n

/-- The number that a list of parts gives, each of which counts sixty of the next. -/
def ofSixtieths (parts : List Int) : Int := parts.foldl (fun n part => n * 60 + part) 0

/-- The integer of a scalar. -/
def integerOf (text : List Char) : Except DocumentFault Int := do
  let (negative, cs) ← splitSign (text.filter (· ≠ '_'))
  let size ← match cs with
    | [] => throw emptyNumber
    | ['0'] => pure 0
    | '0' :: 'b' :: digits => readInteger 2 digits
    | '0' :: 'x' :: digits => readInteger 16 digits
    | '0' :: digits => readInteger 8 ('0' :: digits)
    | cs => do
      let parts ← (cs.splitOn ':').mapM (readInteger 10)
      pure (ofSixtieths parts)
  return if negative then -size else size

/-- The digits at the start of a text as ASCII digits, and the rest. -/
def leadingDigits (cs : List Char) : List Nat × List Char :=
  (cs.takeWhile isDigit |>.filterMap digitValue?, cs.dropWhile isDigit)

/-- A decimal fraction, with white space around it and a sign allowed. -/
def readFraction (text : List Char) : Except DocumentFault Float := do
  let fault := notAFraction (codesOf text)
  let trimmed := trimNumber text
  let negative := trimmed.head? = some '-'
  let unsigned := withoutSign trimmed
  let word := lowerCase (String.ofList unsigned)
  let sign : Float := if negative then -1.0 else 1.0
  if word = "inf" || word = "infinity" then return sign * (1.0 / 0.0)
  if word = "nan" then return 0.0 / 0.0
  let (whole, rest) := leadingDigits unsigned
  let (fraction, rest) := match rest with
    | '.' :: rest => leadingDigits rest
    | rest => ([], rest)
  if whole = [] && fraction = [] then throw fault
  let exponent : Option Int := match rest with
    | [] => some 0
    | mark :: rest =>
      if mark = 'e' || mark = 'E' then
        match leadingDigits (withoutSign rest) with
        | (_ :: _, _ :: _) | ([], _) => none
        | (digits, []) =>
          let n : Int := ofDigits 10 digits
          some (if rest.head? = some '-' then -n else n)
      else none
  match exponent with
  | none => throw fault
  | some exponent =>
    return floatOfDecimal negative (ofDigits 10 (whole ++ fraction)) (exponent - fraction.length)

/-- Adds parts to a sum, the last one first, of which the first counts `60 ^ k` and each other sixty
of the one before.  None may count more than the doubles reach. -/
def addSixtieths : Nat → Float → List Float → Except DocumentFault Float
  | _, sum, [] => .ok sum
  | k, sum, part :: parts =>
    let base := floatOfDecimal false (Nat.pow 60 k) 0
    if base.isInf then .error beyondFractions
    else addSixtieths (k + 1) (sum + part * base) parts

/-- The word that not-a-number is written by in a scalar. -/
def isNotANumber (text : List Char) : Bool :=
  withoutSign (lowerText (text.filter (· ≠ '_'))) = ".nan".toList

/-- The decimal fraction of a scalar. -/
def fractionOf (text : List Char) : Except DocumentFault Float := do
  let (negative, cs) ← splitSign (lowerText (text.filter (· ≠ '_')))
  let sign : Float := if negative then -1.0 else 1.0
  if cs = ".inf".toList then return sign * (1.0 / 0.0)
  if isNotANumber text then return 0.0 / 0.0
  if cs.contains ':' then
    let parts ← (cs.splitOn ':').mapM readFraction
    return sign * (← addSixtieths 0 0.0 parts.reverse)
  return sign * (← readFraction cs)

/-- The truth value of a scalar. -/
def truthOf (text : String) : Except DocumentFault Bool :=
  let word := lowerCase text
  if ["yes", "true", "on"].contains word then .ok true
  else if ["no", "false", "off"].contains word then .ok false
  else .error (notATruthValue (codesOf word.toList))

/-- Whether a year has a 29th of February. -/
def isLeap (year : Nat) : Bool := year % 4 = 0 && (year % 100 ≠ 0 || year % 400 = 0)

/-- The number of days of a month. -/
def daysIn (year month : Nat) : Nat :=
  if month = 2 then (if isLeap year then 29 else 28)
  else if month = 4 || month = 6 || month = 9 || month = 11 then 30
  else 31

/-- A day that the calendar has. -/
def dateOf (time : WrittenTime) : Except DocumentFault Date := do
  if time.year = 0 then throw (yearOutOfRange time.year)
  if time.month = 0 || 12 < time.month then throw monthOutOfRange
  if time.day = 0 || daysIn time.year time.month < time.day then throw dayOutOfRange
  return ⟨time.year, time.month, time.day⟩

/-- The microseconds that the digits behind the seconds give. -/
def microsecondsOf (fraction : List Char) : Nat :=
  let six := fraction.take 6
  numberOf (six ++ List.replicate (6 - six.length) '0')

/-- The day or point in time of a scalar. -/
def timeOf (text : List Char) : Except DocumentFault Value :=
  match readTime (withoutFinalBreak text) with
  | none => .error notATime
  | some time =>
    match time.clock with
    | none => (dateOf time).map .date
    | some (hour, minute, second) => do
      match time.offset with
      | some minutes => if 1440 ≤ minutes.natAbs then throw (offsetOutOfRange minutes)
      | none => pure ()
      let date ← dateOf time
      if 24 ≤ hour then throw hourOutOfRange
      if 60 ≤ minute then throw minuteOutOfRange
      if 60 ≤ second then throw secondOutOfRange
      return .moment
        { date, hour, minute, second, microsecond := microsecondsOf time.fraction,
          offset := time.offset }

/-- The value of a character in base 64. -/
def base64Value? (c : Char) : Option Nat :=
  if 'A' ≤ c && c ≤ 'Z' then some (c.toNat - 'A'.toNat)
  else if 'a' ≤ c && c ≤ 'z' then some (c.toNat - 'a'.toNat + 26)
  else if c.isDigit then some (c.toNat - '0'.toNat + 52)
  else if c = '+' then some 62
  else if c = '/' then some 63
  else none

/-- The characters in base 64 up to the padding that completes a group of four; the digits open in
the last group, and the padding seen since the last digit, are counted along. -/
def base64Digits : Nat → Nat → List Char → Option (List Nat)
  | opened, _, [] => if opened = 0 then some [] else none
  | opened, pads, c :: cs =>
    if c = '=' then
      if 2 ≤ opened && 4 ≤ opened + (pads + 1) then some []
      else base64Digits opened (if 2 ≤ opened then pads + 1 else pads) cs
    else
      match base64Value? c with
      | some digit => (base64Digits ((opened + 1) % 4) 0 cs).map (digit :: ·)
      | none => base64Digits opened pads cs

/-- The bytes that digits in base 64 give, four digits three bytes. -/
def base64Bytes : List Nat → List UInt8
  | a :: b :: c :: d :: rest =>
    (a * 4 + b / 16).toUInt8 :: (b % 16 * 16 + c / 4).toUInt8 :: (c % 4 * 64 + d).toUInt8
      :: base64Bytes rest
  | [a, b, c] => [(a * 4 + b / 16).toUInt8, (b % 16 * 16 + c / 4).toUInt8]
  | [a, b] => [(a * 4 + b / 16).toUInt8]
  | _ => []

/-- The bytes of a scalar in base 64. -/
def bytesOf (text : List Char) : Except DocumentFault (List UInt8) :=
  if text.any (128 ≤ ·.toNat) then .error malformed
  else
    match base64Digits 0 0 text with
    | none => .error malformed
    | some digits => .ok (base64Bytes digits)

/-! ### Scalars with halves of surrogate pairs -/

/-- Refuses the first part that is no number: one that is not a text at all, or else as `read`
says. -/
def refuseParts {α : Type} (read : List Char → Except DocumentFault α)
    (fault : List Nat → DocumentFault) (parts : List (List Nat)) : DocumentFault :=
  let refused := parts.findSome? fun part =>
    match textOfCodes? part with
    | none => some (fault part)
    | some text =>
      match read text.toList with
      | .ok _ => none
      | .error fault => some fault
  refused.getD (fault [])

/-- Why a text with halves of surrogate pairs is no integer. -/
def refuseInteger (codes : List Nat) : DocumentFault :=
  let codes := codes.filter (· ≠ '_'.toNat)
  let codes := if codes.head? = some '-'.toNat || codes.head? = some '+'.toNat then codes.tail
    else codes
  if codes.take 2 = codesOf ['0', 'b'] then notAnInteger 2 (codes.drop 2)
  else if codes.take 2 = codesOf ['0', 'x'] then notAnInteger 16 (codes.drop 2)
  else if codes.head? = some '0'.toNat then notAnInteger 8 codes
  else refuseParts (readInteger 10) (notAnInteger 10) (codes.splitOn ':'.toNat)

/-- The numbers of characters in lower case. -/
def lowerCodes (codes : List Nat) : List Nat :=
  codes.flatMap fun n => (charOfCode? n).elim [n] fun c => codesOf (lowerText [c])

/-- Why a text with halves of surrogate pairs is no decimal fraction. -/
def refuseFraction (codes : List Nat) : DocumentFault :=
  let codes := lowerCodes (codes.filter (· ≠ '_'.toNat))
  let codes := if codes.head? = some '-'.toNat || codes.head? = some '+'.toNat then codes.tail
    else codes
  refuseParts readFraction notAFraction (codes.splitOn ':'.toNat)

/-- The value of a scalar with halves of surrogate pairs. -/
def halvedValue (tag : Tag) (codes : List Nat) : Except DocumentFault Value :=
  match tag with
  | .null => .ok .null
  | .bool => .error (notATruthValue (lowerCodes codes))
  | .int => .error (refuseInteger codes)
  | .float => .error (refuseFraction codes)
  | .timestamp => .error notATime
  | .str => .ok (.halved codes)
  | _ => .error malformed

/-! ### All scalars -/

/-- The value of a scalar of a tag; none if the tag is not one of scalars. -/
def scalarValue? (tag : Tag) (text : String) : Option (Except DocumentFault Value) :=
  match tag with
  | .null => some (.ok .null)
  | .bool => some ((truthOf text).map .bool)
  | .int => some ((integerOf text.toList).map .int)
  | .float => some ((fractionOf text.toList).map .float)
  | .binary => some ((bytesOf text.toList).map .bytes)
  | .timestamp => some (timeOf text.toList)
  | .str => some (.ok (.text text))
  | _ => none

end MobileSchema.Yaml
