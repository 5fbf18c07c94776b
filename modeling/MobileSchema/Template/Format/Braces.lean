import MobileSchema.Template.Format.Marks
import MobileSchema.Template.Signature

/-!
# Texts with fields in braces

A text with fields in braces is filled in with the arguments of a call.  A field names an argument
by its place or its name and can go on to what that has under further names; it can say how the
argument is converted to a text, and in which format it is written.  The format can hold fields of
its own.
-/

namespace MobileSchema.Template

/-! ### Fields -/

/-- A field in a text. -/
structure Field where
  /-- what names the argument -/
  name : List Char
  conversion : Option Char := none
  format : List Char := []

/-- The name that a field begins with, the character that ends it, and the rest; a bracket runs up
to its end whatever is in it. -/
def nameOfField : Bool → List Char → Except FormatFault (List Char × Char × List Char)
  | _, [] => .error .unclosed
  | inBracket, c :: cs => do
    if !inBracket && c = '\x7b' then throw .braceInName
    if !inBracket && "\x7d:!".toList.contains c then return ([], c, cs)
    let (name, stop, rest) ← nameOfField (if inBracket then c ≠ ']' else c = '[') cs
    return (c :: name, stop, rest)

/-- The format that ends with the brace that closes a field, and the rest; `opened` says how many
braces are open. -/
def formatOfField : Nat → List Char → Except FormatFault (List Char × List Char)
  | _, [] => .error .unclosedFormat
  | opened, c :: cs => do
    if c = '\x7d' && opened = 0 then return ([], cs)
    let opened := if c = '\x7d' then opened - 1 else if c = '\x7b' then opened + 1 else opened
    let (format, rest) ← formatOfField opened cs
    return (c :: format, rest)

/-- The field behind an opening brace, and the rest. -/
def readField (cs : List Char) : Except FormatFault (Field × List Char) := do
  let (name, stop, rest) ← nameOfField false cs
  if stop = '\x7d' then return ({ name }, rest)
  if stop = ':' then
    let (format, rest) ← formatOfField 0 rest
    return ({ name, format }, rest)
  match rest with
  | [] => throw .conversionExpected
  | [_] => throw .unclosedFormat
  | conversion :: '\x7d' :: rest => return ({ name, conversion }, rest)
  | conversion :: ':' :: rest =>
    let (format, rest) ← formatOfField 0 rest
    return ({ name, conversion, format }, rest)
  | _ :: _ :: _ => throw .colonExpected

/-- The text before the first field, and the text behind the brace that opens it, if there is one;
two equal braces stand for one. -/
def textBeforeField : List Char → Except FormatFault (List Char × Option (List Char))
  | [] => .ok ([], none)
  | c :: cs => do
    if c ≠ '\x7b' && c ≠ '\x7d' then
      let (text, rest) ← textBeforeField cs
      return (c :: text, rest)
    match cs with
    | [] => throw (.lone c)
    | c' :: rest =>
      if c' = c then
        let (text, rest) ← textBeforeField rest
        return (c :: text, rest)
      else if c = '\x7b' then return ([], some (c' :: rest))
      else throw (.lone c)

/-! ### Arguments -/

/-- How the arguments are found that fields do not name. -/
inductive Numbering
  | open
  /-- fields are numbered, in the text -/
  | numbered
  /-- fields are not numbered, and this is the place of the next -/
  | counted (next : Nat)

/-- What fields take. -/
structure FieldSource where
  /-- the arguments by place, if there are any -/
  places : Option (List Object)
  /-- the argument of a name -/
  named : String → Act Object
  makesSafe : Bool

/-- A part of filling in. -/
abbrev FieldAct := StateT Numbering Act

/-- Goes on unless a text cannot be filled in. -/
def checkFormat {α : Type} (result : Except FormatFault α) : Act α :=
  match result with
  | .ok a => pure a
  | .error fault => refuseFormat fault

/-- The place that a text is, if it is a number. -/
def placeOfText? (cs : List Char) : Act (Option Nat) := do
  if cs = [] || !cs.all isDigit then return none
  let (n, _) ← checkFormat (leadingNumber cs)
  return n

/-- The place of a field, if it has none but is counted or if it is numbered. -/
def placeOfField? (first : List Char) : FieldAct (Option Nat) := do
  let place ← placeOfText? first
  match place, ← get with
  | some n, .open =>
    set Numbering.numbered
    return some n
  | some n, .numbered => return some n
  | some _, .counted _ => refuseFormat .toNumbered
  | none, state =>
    if first ≠ [] then return none
    match state with
    | .open => set (Numbering.counted 1); return some 0
    | .counted n => set (Numbering.counted (n + 1)); return some n
    | .numbered => refuseFormat .toUnnumbered

/-- The argument that a field begins with. -/
def argumentOf (source : FieldSource) (first : List Char) : FieldAct Object := do
  match ← placeOfField? first, source.places with
  | none, _ => source.named (String.ofList first)
  | some _, none => refuseFormat .placesUnknown
  | some n, some places =>
    match places[n]? with
    | some o => return o
    | none => if source.makesSafe then refuse (.beyondEnd "tuple") else refuseFormat (.beyond n)

/-- What an object has under a name, which has to be there. -/
def requiredAttribute (o : Object) (name : String) : Act Object := do
  match ← attribute? o name with
  | some found => return found
  | none => lackOf o name

/-- What an object comes to along the rest of the name of a field, at a bound on its length. -/
def alongName : Nat → Object → List Char → Act Object
  | 0, o, _ => return o
  | fuel + 1, o, cs =>
    match cs with
    | [] => return o
    | c :: cs => do
      let isEnd (c : Char) := c = '.' || c = '['
      if c = '.' then
        let name := cs.takeWhile (!isEnd ·)
        if name = [] then refuseFormat .emptyAttribute
        alongName fuel (← requiredAttribute o (String.ofList name)) (cs.dropWhile (!isEnd ·))
      else if c = '[' then
        let name := cs.takeWhile (· ≠ ']')
        let place ← placeOfText? name
        if name = [] then refuseFormat .emptyAttribute
        let key : Object := match place with
          | some n => .number n
          | none => .text (String.ofList name)
        alongName fuel (← requiredItem o key) (cs.dropWhile (· ≠ ']')).tail
      else refuseFormat .afterBracket

/-! ### Writing -/

/-- The text of an object that is converted. -/
def convertedBy (conversion : Char) (o : Object) : Act Object := do
  match conversion with
  | 'r' => return .text (← shownOf o)
  | 's' => return .text (← writtenOf o)
  | 'a' => return .text (numbered (← shownOf o))
  | c => refuseFormat (.unknownConversion c)

/-- An integer of a type in a format. -/
def integerInFormat (type : String) (n : Int) (spec : List Char) : Act (List Char) := do
  let format ← checkFormat (FieldFormat.read type .right spec)
  if format.isForFractions then
    checkFormat (format.writeFractionBy type (← fractionOfInteger n))
  else
    if format.code = some 'c' && isHalf n.toNat then throw (.undescribed .halves)
    let isDecimal := format.code.all "dn".toList.contains
    let _ ← if isDecimal then numberText n else pure ""
    checkFormat (format.writeIntegerBy type n)

/-- An object in a format. -/
def inFormat (o : Object) (spec : List Char) : Act String := do
  match o, o.integer?, ← textIn? o with
  | .fraction x, _, _ => return String.ofList (← checkFormat (FieldFormat.writeFraction x spec))
  | o, some n, _ =>
    if spec = [] then writtenOf o
    else return String.ofList (← integerInFormat (← typeOf o) n spec)
  | .markup s, _, _ =>
    return String.ofList (← checkFormat (FieldFormat.writeText "Markup" s.toList spec))
  | o, none, some _ =>
    return String.ofList (← checkFormat (FieldFormat.writeText "str" (← writtenOf o).toList spec))
  | o, none, none =>
    if spec = [] then writtenOf o else refuseFormat (.noFormat (← typeOf o))

/-- An object in a format, made safe for a page. -/
def inSafeFormat (o : Object) (spec : List Char) : Act String := do
  match o with
  | .markup s => if spec = [] then return s else refuseFormat .forMarkup
  | o => return safeText (← inFormat o spec)

/-- A text with its fields filled in, at a bound on its length; `depth` says how deep fields can
stand in the formats of others. -/
def fillFieldsAt (source : FieldSource) : Nat → Nat → List Char → FieldAct (List Char)
  | 0, _, _ => refuseFormat .tooDeep
  | _, 0, cs => return cs
  | depth + 1, fuel + 1, cs => do
    let (text, rest) ← checkFormat (textBeforeField cs)
    match rest with
    | none => return text
    | some rest =>
      let (field, rest) ← checkFormat (readField rest)
      let isEnd (c : Char) := c = '.' || c = '['
      let o ← argumentOf source (field.name.takeWhile (!isEnd ·))
      let o ← alongName field.name.length o (field.name.dropWhile (!isEnd ·))
      let o ← field.conversion.elim (pure o) fun c => convertedBy c o
      let format ← if field.format.contains '\x7b'
        then fillFieldsAt source depth (field.format.length + 1) field.format
        else pure field.format
      let written ← if source.makesSafe then inSafeFormat o format else inFormat o format
      return text ++ written.toList ++ (← fillFieldsAt source (depth + 1) fuel rest)
termination_by depth fuel _ => (depth, fuel)

/-- A text with its fields filled in.  The text is a safe one if it was. -/
def fillFields (text : Object) (source : FieldSource) : Act Object := do
  let cs := ((← textIn? text).getD "").toList
  let (filled, _) ← (fillFieldsAt source 2 (cs.length + 1) cs).run .open
  return textLike text (String.ofList filled)

/-- The source of the arguments of a call. -/
def FieldSource.ofGiven (makesSafe : Bool) (given : Given) : FieldSource where
  places := some given.places
  named name := (given.named.lookup name).elim (refuse (.noEntry (quoted name))) pure
  makesSafe

/-- The source of the entries of an object. -/
def FieldSource.ofMapping (makesSafe : Bool) (o : Object) : FieldSource where
  places := none
  named name := requiredItem o (.text name)
  makesSafe

end MobileSchema.Template
