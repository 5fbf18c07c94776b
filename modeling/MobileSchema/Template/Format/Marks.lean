import MobileSchema.Template.Element
import MobileSchema.Template.Format.Field
import MobileSchema.Template.Number
import MobileSchema.Text.Page

/-!
# Texts with marked places

A text with places that are marked by a percent sign is filled in with objects.  A mark says how the
object is written: by a letter, with flags, a width and a precision before it.  It takes the next of
the objects, or the one under a key.
-/

namespace MobileSchema.Template

/-! ### Marks -/

/-- A width or a precision. -/
inductive MarkCount
  | absent
  /-- the next of the objects -/
  | star
  | number (n : Nat)
  deriving DecidableEq, Repr

/-- A mark in a text. -/
structure Mark where
  /-- the key, if there is one; a key that is not closed is absent -/
  key : Option (Option (List Char))
  flags : List Char
  width : MarkCount
  precision : MarkCount
  /-- the letter, unless the text ends before it -/
  letter : Option Char

/-- The key up to the parenthesis that closes it, and the rest; `opened` says how many are open. -/
def keyOfMark : Nat → List Char → Option (List Char × List Char)
  | _, [] => none
  | opened, c :: cs =>
    if c = ')' && opened = 0 then some ([], cs)
    else
      let opened := if c = ')' then opened - 1 else if c = '(' then opened + 1 else opened
      (keyOfMark opened cs).map fun (key, rest) => (c :: key, rest)

/-- The count that a text begins with, and the rest. -/
def countOfMark (cs : List Char) : MarkCount × List Char :=
  match cs with
  | '*' :: rest => (.star, rest)
  | cs =>
    let digits := cs.takeWhile Char.isDigit
    if digits = [] then (.absent, cs)
    else (.number (ofDigits 10 (digits.filterMap digitValue?)), cs.dropWhile Char.isDigit)

/-- The mark behind a percent sign, and the rest. -/
def readMark (cs : List Char) : Mark × List Char :=
  let (key, cs) : Option (Option (List Char)) × List Char := match cs with
    | '(' :: rest => match keyOfMark 0 rest with
      | some (key, rest) => (some (some key), rest)
      | none => (some none, [])
    | cs => (none, cs)
  let isFlag (c : Char) := "-+ #0".toList.contains c
  let flags := cs.takeWhile isFlag
  let (width, cs) := countOfMark (cs.dropWhile isFlag)
  let (precision, cs) : MarkCount × List Char := match cs with
    | '.' :: rest =>
      let (count, rest) := countOfMark rest
      (if count = .absent then .number 0 else count, rest)
    | cs => (.absent, cs)
  let cs := match cs with
    | c :: rest => if "hlL".toList.contains c then rest else c :: rest
    | [] => []
  ({ key, flags, width, precision, letter := cs.head? }, cs.tail)

/-! ### Objects for marks -/

/-- What the marks of a text take. -/
structure Supply where
  /-- what is asked for keys -/
  mapping : Option Object
  values : List Object
  /-- whether what is written is made safe for a page -/
  makesSafe : Bool

/-- Whether an object can be asked for items under keys, other than places of a fixed sequence. -/
def isKeyed : Object → Bool
  | .dict _ | .list _ | .span .. | .kinds | .undefined _ | .blocks _ => true
  | _ => false

/-- What an object supplies. -/
def Supply.ofObject (makesSafe : Bool) (o : Object) : Supply where
  mapping := if isKeyed o then some o else none
  values := o.tuple?.getD [o]
  makesSafe

/-- A part of filling in. -/
abbrev FillAct := StateT Supply Act

/-- Refuses to fill in a text. -/
def refuseFormat {α : Type} (fault : FormatFault) : Act α := refuse (.format fault)

/-- The next of the objects. -/
def takeNext : FillAct Object := do
  match (← get).values with
  | o :: values =>
    modify ({ · with values })
    return o
  | [] => refuseFormat .tooFew

/-- The integer that a count comes to, if it is not absent. -/
def countFrom : MarkCount → FillAct (Option Int)
  | .absent => return none
  | .number n => return some n
  | .star => do
    let o ← takeNext
    match (← get).makesSafe, o.integer? with
    | false, some n => return some n
    | _, _ => refuseFormat .starNeedsInteger

/-- Takes the object under the key of a mark, if it has one. -/
def takeKey (mark : Mark) : FillAct Unit := do
  match mark.key, (← get).mapping with
  | none, _ => return
  | some _, none => refuseFormat .needsMapping
  | some none, _ => refuseFormat .incompleteKey
  | some (some key), some mapping =>
    let o ← requiredItem mapping (.text (String.ofList key))
    modify ({ · with values := [o] })

/-! ### Writing -/

/-- How a mark asks for its object. -/
structure MarkForm where
  flags : List Char
  width : Nat
  precision : Option Nat
  letter : Char
  makesSafe : Bool

namespace MarkForm

/-- Whether a mark has a flag. -/
def has (form : MarkForm) (flag : Char) : Bool := form.flags.contains flag

/-- A text as a mark asks for. -/
def laidOutText (form : MarkForm) (cs : List Char) : List Char :=
  let cs := cs.take (form.precision.getD cs.length)
  if form.has '-' then leftJustified form.width ' ' cs else rightJustified form.width ' ' cs

/-- A number as a mark asks for: its sign, what announces its base, and its digits. -/
def laidOutNumber (form : MarkForm) (negative : Bool) (announcement digits : List Char) :
    List Char :=
  let sign := if negative then ['-'] else if form.has '+' then ['+']
    else if form.has ' ' then [' '] else []
  let front := sign ++ announcement
  let space := form.width - (front.length + digits.length)
  if form.has '-' then padded 0 space ' ' (front ++ digits)
  else if form.has '0' then front ++ padded space 0 '0' digits
  else padded space 0 ' ' (front ++ digits)

/-- A text, made safe if that is asked for. -/
def safe (form : MarkForm) (s : String) : String := if form.makesSafe then safeText s else s

/-- The name of an object's type in messages. -/
def typeName (form : MarkForm) (o : Object) : Act String :=
  if form.makesSafe then return "_MarkupEscapeHelper" else typeOf o

/-- The text that a mark for texts asks for. -/
def textOf (form : MarkForm) (o : Object) : Act String := do
  match form.letter, form.makesSafe, o with
  | 's', true, .markup s => return s
  | 's', _, o => return form.safe (← writtenOf o)
  | 'r', _, o => return form.safe (← shownOf o)
  | _, _, o => return numbered (form.safe (← shownOf o))

/-- The integer that a mark for decimal numbers asks for. -/
def decimalOf (form : MarkForm) (o : Object) : Act Int := do
  let wrong : Act Int := do
    refuseFormat (.needsNumber form.letter "a real number" (← form.typeName o))
  match form.makesSafe, o with
  | false, .undefined cause => throw (.undefined cause)
  | false, .fraction x => wholeOfFraction x
  | false, o => o.integer?.elim wrong pure
  | true, o =>
    try integerFrom o
    catch fault => match fault with
      | .use (.notWholeNumber _) => wrong
      | fault => throw fault

/-- The integer that a mark for numbers in another base asks for. -/
def wordOf (form : MarkForm) (o : Object) : Act Int := do
  match form.makesSafe, o.integer? with
  | false, some n => return n
  | _, _ => refuseFormat (.needsNumber form.letter "an integer" (← form.typeName o))

/-- The fraction that a mark for fractions asks for. -/
def realOf (form : MarkForm) (o : Object) : Act Float := do
  match form.makesSafe, o, o.integer? with
  | true, o, _ => fractionFrom o
  | false, .undefined cause, _ => throw (.undefined cause)
  | false, .fraction x, _ => return x
  | false, _, some n => fractionOfInteger n
  | false, o, none => refuseFormat (.needsReal (← typeOf o))

/-- The character that a mark for characters asks for. -/
def characterOf (form : MarkForm) (o : Object) : Act Char := do
  match form.makesSafe, (← textIn? o).map String.toList, o.integer? with
  | false, some [c], _ => return c
  | false, _, some n =>
    if n < 0 || 0x110000 ≤ n then refuseFormat .characterRange
    if isHalf n.toNat then throw (.undescribed .halves)
    return Char.ofNat n.toNat
  | _, _, _ => refuseFormat .needsCharacter

/-- An integer as a mark asks for. -/
def writeInteger (form : MarkForm) (n : Int) (digits : List Char) : List Char :=
  let (_, announcement) := FieldFormat.baseOf form.letter
  let zeros := List.replicate (form.precision.getD 0 - digits.length) '0'
  form.laidOutNumber (n < 0) (if form.has '#' then announcement else []) (zeros ++ digits)

/-- A fraction as a mark asks for. -/
def writeFraction (form : MarkForm) (x : Float) : List Char :=
  let format : FieldFormat := {
    alignment := .right, alternate := form.has '#', code := some form.letter
    precision := some (form.precision.getD 6) }
  let numeral := format.fractionNumeral x
  form.laidOutNumber numeral.negative [] (numeral.digits ++ numeral.rest)

/-- An object as a mark asks for; the mark is at a place of the text. -/
def write (form : MarkForm) (place : Nat) (o : Object) : Act (List Char) := do
  let letter := form.letter
  if "sra".toList.contains letter then return form.laidOutText (← form.textOf o).toList
  else if "diu".toList.contains letter then
    let n ← form.decimalOf o
    return form.writeInteger n (← numberText n.natAbs).toList
  else if "oxX".toList.contains letter then
    let n ← form.wordOf o
    let digits := Nat.toDigits (FieldFormat.baseOf letter).1 n.natAbs
    return form.writeInteger n (if letter = 'X' then FieldFormat.capitals digits else digits)
  else if "eEfFgG".toList.contains letter then return form.writeFraction (← form.realOf o)
  else if letter = 'c' then
    return { form with precision := none }.laidOutText [← form.characterOf o]
  else refuseFormat (.unknownLetter letter place)

end MarkForm

/-- What is written for a mark, which is in a text of some length with some characters behind it. -/
def fillMark (mark : Mark) (length behind : Nat) : FillAct (List Char) := do
  takeKey mark
  let width ← countFrom mark.width
  if width.any (!fitsWord ·) then
    if mark.width = .star then refuse .tooLarge else refuseFormat .widthTooBig
  let precision ← countFrom mark.precision
  if precision.any (!fitsHalfWord ·) then
    refuseFormat (if mark.precision = .star then .tooLongPrecision else .precisionTooBig)
  let some letter := mark.letter | refuseFormat .incomplete
  if letter = '%' then return ['%']
  let o ← takeNext
  let width := width.getD 0
  MarkForm.write {
    flags := if width < 0 then '-' :: mark.flags else mark.flags
    width := width.natAbs, precision := precision.map Int.toNat, letter
    makesSafe := (← get).makesSafe } (length - behind - 1) o

/-- A text of some length with its marked places filled in, at a bound on their number. -/
def fillMarksAt (length : Nat) : Nat → List Char → FillAct (List Char)
  | 0, cs => return cs
  | fuel + 1, cs => do
    let before := cs.takeWhile (· ≠ '%')
    match cs.dropWhile (· ≠ '%') with
    | [] => return before
    | _ :: cs =>
      let (mark, rest) := readMark cs
      let filled ← fillMark mark length rest.length
      return before ++ filled ++ (← fillMarksAt length fuel rest)

/-- A text with its marked places filled in with what an object supplies.  The text is a safe one if
it was; without marked places it stays what it is. -/
def fillMarks (text o : Object) : Act Object := do
  let cs := ((← textIn? text).getD "").toList
  let makesSafe := text matches .markup _
  let (filled, supply) ← (fillMarksAt cs.length (cs.length + 1) cs).run (.ofObject makesSafe o)
  if supply.mapping.isNone && !supply.values.isEmpty then refuseFormat .tooMany
  if cs.contains '%' then return textLike text (String.ofList filled) else return text

end MobileSchema.Template
