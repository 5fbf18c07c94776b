import MobileSchema.Number.Shortest
import MobileSchema.Text.Quoted

/-!
# Values

The values that a settings file or a caller hands over: scalars, lists and maps.  A map keeps its
entries in order and has each key once, where keys are compared by `Value.same`: numbers are the
same when they are equal as numbers, whatever their form, the truth values count as one and zero,
and there is only one float that is no number.
-/

namespace MobileSchema

/-- A day of the calendar. -/
structure Date where
  year : Nat
  month : Nat
  day : Nat
  deriving DecidableEq, Repr

/-- A point in time, with its offset from universal time in minutes if it is known. -/
structure Moment where
  date : Date
  hour : Nat
  minute : Nat
  second : Nat
  microsecond : Nat
  offset : Option Int
  deriving DecidableEq, Repr

/-- A value of a document. -/
inductive Value
  | null
  | bool (b : Bool)
  | int (i : Int)
  | float (x : Float)
  | text (s : String)
  /-- a text with halves of surrogate pairs in it, by the numbers of its characters -/
  | halved (codes : List Nat)
  | bytes (content : List UInt8)
  | date (d : Date)
  | moment (m : Moment)
  | list (items : List Value)
  | set (members : List Value)
  | map (entries : List (Value × Value))
  deriving Inhabited

/-- The number of days from the first day of year 1 to a day, by the Gregorian rule. -/
def Date.ordinal (d : Date) : Nat :=
  let shifted := (d.month + 9) % 12
  let years := if d.month ≤ 2 then d.year - 1 else d.year
  365 * years + years / 4 - years / 100 + years / 400 + (153 * shifted + 2) / 5 + d.day

/-- The microseconds from a fixed origin to a moment, in universal time if its offset is known. -/
def Moment.instant (m : Moment) : Int :=
  let minutes : Int := (m.date.ordinal * 24 + m.hour) * 60 + m.minute - m.offset.getD 0
  (minutes * 60 + m.second) * 1000000 + m.microsecond

namespace Value

/-- The number that a value stands for, if it is an integer. -/
def toInt? : Value → Option Int
  | bool b => some (if b then 1 else 0)
  | int i => some i
  | float x => floatToInt? x
  | _ => none

mutual

/-- Whether two values are the same. -/
def same : Value → Value → Bool
  | null, null => true
  | bool a, b => b.toInt? == some (if a then 1 else 0)
  | int a, b => b.toInt? == some a
  | float a, float b => a == b || (a.isNaN && b.isNaN)
  | float a, b => (floatToInt? a).isSome && floatToInt? a == b.toInt?
  | text a, text b => a == b
  | halved a, halved b => a == b
  | bytes a, bytes b => a == b
  | date a, date b => a == b
  | moment a, moment b => a.offset.isSome == b.offset.isSome && a.instant == b.instant
  | list as, list bs => sameItems as bs
  | set as, set bs => as.length == bs.length && allAmong as bs
  | map as, map bs => as.length == bs.length && allEntriesAmong as bs
  | _, _ => false

/-- Whether two lists hold the same values in the same order. -/
def sameItems : List Value → List Value → Bool
  | [], [] => true
  | a :: as, b :: bs => same a b && sameItems as bs
  | _, _ => false

/-- Whether each value of the first list is in the second. -/
def allAmong : List Value → List Value → Bool
  | [], _ => true
  | a :: as, bs => bs.any (same a) && allAmong as bs

/-- Whether each entry of the first list is in the second. -/
def allEntriesAmong : List (Value × Value) → List (Value × Value) → Bool
  | [], _ => true
  | (k, v) :: as, bs => bs.any (fun e => same k e.1 && same v e.2) && allEntriesAmong as bs

end

/-- The name of a value's type, as messages give it. -/
def typeName : Value → String
  | null => "NoneType"
  | bool _ => "bool"
  | int _ => "int"
  | float _ => "float"
  | text _ | halved _ => "str"
  | bytes _ => "bytes"
  | date _ => "date"
  | moment _ => "datetime"
  | list _ => "list"
  | set _ => "set"
  | map _ => "dict"

/-- A number with at least `width` digits. -/
def padded (width n : Nat) : String :=
  let digits := Nat.toDigits 10 n
  String.ofList (List.replicate (width - digits.length) '0' ++ digits)

mutual

/-- The text of a value inside a message: texts are quoted. -/
def shown : Value → String
  | null => "None"
  | bool b => if b then "True" else "False"
  | int i => toString i
  | float x => floatText x
  | text s => quoted s
  | halved codes => quotedCodes codes
  | bytes content => "b" ++ quoted (String.ofList (content.map fun b => Char.ofNat b.toNat))
  | date d => s!"{padded 4 d.year}-{padded 2 d.month}-{padded 2 d.day}"
  | moment m =>
    s!"{padded 4 m.date.year}-{padded 2 m.date.month}-{padded 2 m.date.day} " ++
      s!"{padded 2 m.hour}:{padded 2 m.minute}:{padded 2 m.second}"
  | list items => "[" ++ ", ".intercalate (shownItems items) ++ "]"
  | set members => "\x7b" ++ ", ".intercalate (shownItems members) ++ "\x7d"
  | map entries => "\x7b" ++ ", ".intercalate (shownEntries entries) ++ "\x7d"

/-- The texts of the values of a list. -/
def shownItems : List Value → List String
  | [] => []
  | v :: vs => shown v :: shownItems vs

/-- The texts of the entries of a map. -/
def shownEntries : List (Value × Value) → List String
  | [] => []
  | (k, v) :: rest => (shown k ++ ": " ++ shown v) :: shownEntries rest

end

/-- The plain text of a value: a text stands for itself. -/
def plain : Value → String
  | text s => s
  | v => shown v

/-- The text of characters that are given by their numbers. -/
def ofCodes (codes : List Nat) : Value := (textOfCodes? codes).elim (halved codes) text

/-- Whether a value can be the key of a map. -/
def isKey : Value → Bool
  | list _ | set _ | map _ => false
  | _ => true

/-- Puts an entry into a map; a key that is there keeps its place and form and takes the new
value. -/
def insertEntry (entries : List (Value × Value)) (key value : Value) : List (Value × Value) :=
  if entries.any (·.1.same key) then
    entries.map fun e => if e.1.same key then (e.1, value) else e
  else entries ++ [(key, value)]

/-- The map of a list of entries, of which a later one wins over an earlier one of its key. -/
def mapOfEntries (entries : List (Value × Value)) : List (Value × Value) :=
  entries.foldl (fun map e => insertEntry map e.1 e.2) []

end Value

end MobileSchema
