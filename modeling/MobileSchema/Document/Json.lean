import MobileSchema.Document.Value
import MobileSchema.Document.Fault

/-!
# JSON documents

Reading a JSON text.  Beyond the standard the names `NaN`, `Infinity` and `-Infinity` are numbers;
of two entries with one key the later wins; half of a surrogate pair may stand alone.  A control
character inside a string and a byte order mark at the start are refused.
-/

namespace MobileSchema.Json

/-- Whether a character may stand between the parts of a document. -/
def isSpace (c : Char) : Bool := c = ' ' || c = '\t' || c = '\n' || c = '\r'

/-- The text without the space at its start. -/
def skipSpace (cs : List Char) : List Char := cs.dropWhile isSpace

/-- Four hexadecimal digits. -/
def readHex4 : List Char → Option (Nat × List Char)
  | a :: b :: c :: d :: rest => do
    let digits ← [a, b, c, d].mapM hexValue?
    return (ofDigits 16 digits, rest)
  | _ => none

/-- The number of the character for one unit or two units of UTF-16 that four digits each give. -/
def readUnits (cs : List Char) : Option (Nat × List Char) := do
  let (unit, rest) ← readHex4 cs
  if 0xD800 ≤ unit && unit < 0xDC00 then
    match rest with
    | '\\' :: 'u' :: rest' =>
      match readHex4 rest' with
      | some (low, rest'') =>
        if 0xDC00 ≤ low && low < 0xE000 then
          return (0x10000 + (unit - 0xD800) * 0x400 + (low - 0xDC00), rest'')
        else return (unit, rest)
      | none => return (unit, rest)
    | _ => return (unit, rest)
  else return (unit, rest)

/-- The character that a letter behind a backslash stands for. -/
def escaped? : Char → Option Char
  | '"' => some '"'
  | '\\' => some '\\'
  | '/' => some '/'
  | 'b' => some '\x08'
  | 'f' => some '\x0c'
  | 'n' => some '\n'
  | 'r' => some '\r'
  | 't' => some '\t'
  | _ => none

/-- The rest of a string whose opening quote has been read, by the numbers of its characters; `fuel`
bounds their count. -/
def readStringFrom (fuel : Nat) (cs : List Char) : Except DocumentFault (List Nat × List Char) :=
  match fuel, cs with
  | _, '"' :: rest => .ok ([], rest)
  | fuel + 1, '\\' :: 'u' :: rest =>
    match readUnits rest with
    | none => .error .malformed
    | some (n, rest) => do
      let (s, rest) ← readStringFrom fuel rest
      return (n :: s, rest)
  | fuel + 1, '\\' :: c :: rest =>
    match escaped? c with
    | none => .error .malformed
    | some c => do
      let (s, rest) ← readStringFrom fuel rest
      return (c.toNat :: s, rest)
  | fuel + 1, c :: rest =>
    if c = '\\' || c.toNat < 32 then .error .malformed
    else do
      let (s, rest) ← readStringFrom fuel rest
      return (c.toNat :: s, rest)
  | _, _ => .error .malformed

/-- The rest of a string whose opening quote has been read. -/
def readString (cs : List Char) : Except DocumentFault (Value × List Char) := do
  let (codes, rest) ← readStringFrom cs.length cs
  return (.ofCodes codes, rest)

/-- The values of leading decimal digits, and the rest. -/
def readDigits (cs : List Char) : List Nat × List Char :=
  ((cs.takeWhile Char.isDigit).map fun c => c.toNat - '0'.toNat, cs.dropWhile Char.isDigit)

/-- The digits behind a point, if a point and a digit come next. -/
def readFraction : List Char → Option (List Nat × List Char)
  | '.' :: cs =>
    match readDigits cs with
    | ([], _) => none
    | (digits, rest) => some (digits, rest)
  | _ => none

/-- The exponent, if its mark and a digit come next. -/
def readExponent : List Char → Option (Int × List Char)
  | [] => none
  | mark :: cs =>
    if mark = 'e' || mark = 'E' then
      let (negative, cs) := match cs with
        | '-' :: cs => (true, cs)
        | '+' :: cs => (false, cs)
        | cs => (false, cs)
      match readDigits cs with
      | ([], _) => none
      | (digits, rest) =>
        let n : Int := ofDigits 10 digits
        some (if negative then -n else n, rest)
    else none

/-- A number without its sign.  Only a lone zero starts with the digit zero. -/
def readNumber (negative : Bool) (cs : List Char) : Except DocumentFault (Value × List Char) :=
  let (whole, rest) := match cs with
    | '0' :: rest => ([0], rest)
    | cs => readDigits cs
  if whole = [] then .error .malformed
  else
    match readFraction rest, readExponent rest with
    | none, none =>
      if digitLimit < whole.length then .error (.tooManyDigits whole.length)
      else
        let n : Int := ofDigits 10 whole
        .ok (.int (if negative then -n else n), rest)
    | none, some (exponent, rest) =>
      .ok (.float (floatOfDecimal negative (ofDigits 10 whole) exponent), rest)
    | some (fraction, rest), _ =>
      let (exponent, rest) := (readExponent rest).getD (0, rest)
      .ok (.float (floatOfDecimal negative (ofDigits 10 (whole ++ fraction))
        (exponent - fraction.length)), rest)

/-- The rest of a text after a word, if it starts with it. -/
def afterWord? (word : String) (cs : List Char) : Option (List Char) :=
  if word.toList.isPrefixOf cs then some (cs.drop word.length) else none

/-- The words that are values. -/
def wordValues : List (String × Value) :=
  [("null", .null), ("true", .bool true), ("false", .bool false), ("NaN", .float (0.0 / 0.0)),
    ("Infinity", .float (1.0 / 0.0)), ("-Infinity", .float (-1.0 / 0.0))]

/-- A value that is not built of others. -/
def readScalar (cs : List Char) : Except DocumentFault (Value × List Char) :=
  match wordValues.findSome? fun (word, value) => (afterWord? word cs).map (value, ·) with
  | some result => .ok result
  | none =>
    match cs with
    | '"' :: rest => readString rest
    | '-' :: rest => readNumber true rest
    | cs => readNumber false cs

mutual

/-- The value at the start of a text; `fuel` bounds the number of its parts, and `room` is how deep
lists and maps may still stand in each other. -/
def readValueFrom (fuel room : Nat) (cs : List Char) : Except DocumentFault (Value × List Char) :=
  match fuel with
  | 0 => .error .malformed
  | fuel + 1 =>
    match cs with
    | '[' :: rest =>
      if room = 0 then .error (.nestedTooDeep .jsonList)
      else
        match skipSpace rest with
        | ']' :: rest => .ok (.list [], rest)
        | rest => (readItemsFrom fuel (room - 1) rest).map fun (items, rest) => (.list items, rest)
    | '\x7b' :: rest =>
      if room = 0 then .error (.nestedTooDeep .jsonMap)
      else
        match skipSpace rest with
        | '\x7d' :: rest => .ok (.map [], rest)
        | rest => (readEntriesFrom fuel (room - 1) rest).map fun (entries, rest) =>
            (.map (Value.mapOfEntries entries), rest)
    | cs => readScalar cs

/-- The items of a list, from the first one on. -/
def readItemsFrom (fuel room : Nat) (cs : List Char) :
    Except DocumentFault (List Value × List Char) :=
  match fuel with
  | 0 => .error .malformed
  | fuel + 1 => do
    let (item, rest) ← readValueFrom fuel room cs
    match skipSpace rest with
    | ',' :: rest =>
      let (items, rest) ← readItemsFrom fuel room (skipSpace rest)
      return (item :: items, rest)
    | ']' :: rest => return ([item], rest)
    | _ => .error .malformed

/-- The entries of a map, from the first one on. -/
def readEntriesFrom (fuel room : Nat) (cs : List Char) :
    Except DocumentFault (List (Value × Value) × List Char) :=
  match fuel, cs with
  | fuel + 1, '"' :: rest => do
    let (key, rest) ← readString rest
    match skipSpace rest with
    | ':' :: rest =>
      let (value, rest) ← readValueFrom fuel room (skipSpace rest)
      match skipSpace rest with
      | ',' :: rest =>
        let (entries, rest) ← readEntriesFrom fuel room (skipSpace rest)
        return ((key, value) :: entries, rest)
      | '\x7d' :: rest => return ([(key, value)], rest)
      | _ => .error .malformed
    | _ => .error .malformed
  | _, _ => .error .malformed

end

/-- Reads a JSON document in which lists and maps may stand in each other as deep as `room`. -/
def read (room : Nat) (cs : List Char) : Except DocumentFault Value := do
  let (value, rest) ← readValueFrom (2 * cs.length + 2) room (skipSpace cs)
  if skipSpace rest = [] then return value else .error .malformed

end MobileSchema.Json
