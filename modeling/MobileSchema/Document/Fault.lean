import MobileSchema.Number.Literal
import MobileSchema.Text.Quoted

/-!
# Why a document is not read

A document is refused as a whole when it breaks the grammar of its format.  The other faults lie in
one scalar: its form is right or was asked for by a tag, and yet it stands for no value.
-/

namespace MobileSchema

/-- What stands too deep in others of its sort. -/
inductive Nesting
  | jsonList | jsonMap | yaml
  deriving DecidableEq, Repr

/-- Why a document is not read. -/
inductive DocumentFault
  /-- the text breaks the grammar of the format -/
  | malformed
  /-- collections stand in each other too deep -/
  | nestedTooDeep (what : Nesting)
  /-- an integer in base ten of this many digits -/
  | tooManyDigits (count : Nat)
  /-- a text that is no integer in a base, by the numbers of its characters -/
  | notAnInteger (base : Nat) (text : List Nat)
  /-- a text that is no decimal fraction, by the numbers of its characters -/
  | notAFraction (text : List Nat)
  /-- a number beyond the doubles -/
  | beyondFractions
  /-- a number of which nothing is left but its sign -/
  | emptyNumber
  /-- a text that is no truth value, by the numbers of its characters -/
  | notATruthValue (text : List Nat)
  /-- a text that is no point in time -/
  | notATime
  /-- a mapping where a point in time is wanted, although it has a default value -/
  | mappingForTime
  | yearOutOfRange (year : Nat)
  | monthOutOfRange
  | dayOutOfRange
  | hourOutOfRange
  | minuteOutOfRange
  | secondOutOfRange
  /-- an offset from universal time of a day or more, in minutes -/
  | offsetOutOfRange (minutes : Int)
  /-- the number of a character beyond the last one -/
  | characterOutOfRange
  /-- the number of a character beyond the machine's integers -/
  | characterTooLarge
  deriving DecidableEq, Repr

/-- The text of an offset in days and seconds, the seconds not negative and left out when zero. -/
def offsetText (minutes : Int) : String :=
  let seconds := minutes * 60
  let days := s!"days={Int.fdiv seconds 86400}"
  if Int.fmod seconds 86400 = 0 then days
  else days ++ s!", seconds={Int.fmod seconds 86400}"

/-- How much of a text is shown that is no integer, its quotation marks counted. -/
def shownLength : Nat := 200

/-- The message of a fault. -/
def DocumentFault.message : DocumentFault → String
  | malformed => "malformed document"
  | nestedTooDeep what =>
    "maximum recursion depth exceeded" ++ match what with
      | .jsonList => " while decoding a JSON array from a unicode string"
      | .jsonMap => " while decoding a JSON object from a unicode string"
      | .yaml => ""
  | tooManyDigits count =>
    s!"Exceeds the limit ({digitLimit} digits) for integer string conversion: value has " ++
      s!"{count} digits; use sys.set_int_max_str_digits() to increase the limit"
  | notAnInteger base text =>
    let shown := String.ofList ((quotedCodes text).toList.take shownLength)
    s!"invalid literal for int() with base {base}: {shown}"
  | notAFraction text => s!"could not convert string to float: {quotedCodes text}"
  | beyondFractions => "int too large to convert to float"
  | emptyNumber => "string index out of range"
  | notATruthValue text => quotedCodes text
  | notATime => "'NoneType' object has no attribute 'groupdict'"
  | mappingForTime => "expected string or bytes-like object, got 'list'"
  | yearOutOfRange year => s!"year {year} is out of range"
  | monthOutOfRange => "month must be in 1..12"
  | dayOutOfRange => "day is out of range for month"
  | hourOutOfRange => "hour must be in 0..23"
  | minuteOutOfRange => "minute must be in 0..59"
  | secondOutOfRange => "second must be in 0..59"
  | offsetOutOfRange minutes =>
    "offset must be a timedelta strictly between -timedelta(hours=24) and timedelta(hours=24), " ++
      s!"not datetime.timedelta({offsetText minutes})."
  | characterOutOfRange => "chr() arg not in range(0x110000)"
  | characterTooLarge => "Python int too large to convert to C int"

end MobileSchema
