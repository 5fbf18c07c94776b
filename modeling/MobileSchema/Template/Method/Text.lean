import MobileSchema.Template.Format.Braces
import MobileSchema.Text.Capital
import MobileSchema.Text.Identifier
import MobileSchema.Text.Page

/-!
# Methods of texts

What the methods of texts answer.  The parts of a safe text are safe, and what is put into it is
made safe.
-/

namespace MobileSchema.Template

/-! ### Arguments -/

/-- The arguments of a method of a text of a type. -/
def textArguments (o : Object) (name : String) (form : Form) (given : Given) :
    Act (List (Option Object)) := do
  simpleArguments ((← typeOf o) ++ ".") name form given

/-- The argument at a place of some. -/
def argumentAt (arguments : List (Option Object)) (place : Nat) : Option Object :=
  (arguments[place]?).bind id

/-- The text that an argument has to be. -/
def textArgument (expected : String) (o : Object) : Act String := do
  (← textIn? o).elim (do refuse (.wrongArgument expected (← typeOf o))) pure

/-- The number that an argument gives for a count of places. -/
def countArgument (o : Object) : Act Int := do
  let n ← placeNumber o
  if fitsWord n then return n else refuse .tooLarge

/-- The bound that a number of occurrences has; a negative number is none. -/
def boundOf (length : Nat) (n : Int) : Nat := if n < 0 then length + 1 else n.toNat

/-- The bound of a slice that an argument gives, if it is given. -/
def sliceArgument? (o : Option Object) : Act (Option Int) :=
  match o with
  | none => pure none
  | some o => sliceBound? o

/-! ### Letters -/

/-- The methods that change the letters of a text. -/
def letterChanges : List (String × (List Char → List Char)) :=
  [("capitalize", capitalizedText), ("casefold", foldedText), ("lower", lowerText),
    ("swapcase", swappedText), ("title", titledText), ("upper", upperText)]

/-- The methods that ask about the characters of a text. -/
def letterQuestions : List (String × (List Char → Bool)) :=
  let all (property : Char → Bool) (cs : List Char) : Bool := cs ≠ [] && cs.all property
  [("isalnum", all isAlphanumeric), ("isalpha", all isLetter),
    ("isascii", fun cs => cs.all (·.toNat < 128)), ("isdecimal", all isDigit),
    ("isdigit", all isAnyDigit), ("isidentifier", isWordLike), ("islower", isAllSmall),
    ("isnumeric", all isNumeral), ("isprintable", fun cs => cs.all isPrintable),
    ("isspace", all isBlank), ("istitle", isTitled), ("isupper", isAllCapital)]

/-! ### Searching -/

/-- The part of a text that is searched: its start, and its characters if there is such a part. -/
def searchedPart (cs : List Char) (arguments : List (Option Object)) :
    Act (Nat × Option (List Char)) := do
  let start ← sliceArgument? (argumentAt arguments 1)
  let stop ← sliceArgument? (argumentAt arguments 2)
  let place (i : Int) : Int := if i < 0 then max 0 (i + cs.length) else i
  let start := place (start.getD 0)
  let stop : Int := min (cs.length : Int) (place (stop.getD cs.length))
  if stop < start then return (start.toNat, none)
  return (start.toNat, some ((cs.drop start.toNat).take (stop - start).toNat))

/-- What a method answers that searches a text for another. -/
def searchText (name : String) (cs : List Char) (arguments : List (Option Object)) :
    Act Object := do
  let (start, part?) ← searchedPart cs arguments
  let pattern := (← textArgument "must be str" ((argumentAt arguments 0).getD .none)).toList
  let fromRight := name = "rfind" || name = "rindex"
  let split := if fromRight then splitAtLast? pattern else splitAtFirst? pattern
  match name, part?, part?.bind split with
  | "count", none, _ => return .number 0
  | "count", some part, _ => return .number (countOccurrences pattern part)
  | _, _, some (before, _) => return .number (start + before.length)
  | _, _, none =>
    if name = "index" || name = "rindex" then refuse .notFound else return .number (-1)

/-- What a method answers that asks whether a text begins or ends with another. -/
def matchText (name : String) (cs : List Char) (arguments : List (Option Object)) :
    Act Object := do
  let (_, part?) ← searchedPart cs arguments
  let o := (argumentAt arguments 0).getD .none
  let fits (pattern : String) : Bool := part?.any fun part =>
    if name = "startswith" then pattern.toList.isPrefixOf part else pattern.toList.isSuffixOf part
  match o.tuple?, ← textIn? o with
  | some items, _ =>
    return .bool (← items.anyM fun item => do
      match ← textIn? item with
      | some pattern => return fits pattern
      | none => refuse (.notTextAmong name (← typeOf item)))
  | none, some pattern => return .bool (fits pattern)
  | none, none =>
    refuse (.wrongArgument s!"{name} first arg must be str or a tuple of str" (← typeOf o))

/-! ### Parts -/

/-- The parts of a text as objects of its sort. -/
def partsLike (o : Object) (parts : List (List Char)) : List Object :=
  parts.map fun part => textLike o (String.ofList part)

/-- The three parts of a text: before a separator, the separator, and behind it. -/
def partitionText (o : Object) (name : String) (cs : List Char) (separator : Object) :
    Act Object := do
  let pattern := (← textArgument "must be str" separator).toList
  if pattern = [] then refuse .emptySeparator
  let isFirst := name = "partition"
  match if isFirst then splitAtFirst? pattern cs else splitAtLast? pattern cs with
  | some (before, behind) => return .tuple (partsLike o [before, pattern, behind])
  | none => return .tuple (partsLike o (if isFirst then [cs, [], []] else [[], [], cs]))

/-- The parts of a text between separators, or between white space. -/
def splitBy (o : Object) (name : String) (cs : List Char) (arguments : List (Option Object)) :
    Act Object := do
  let limit ← (argumentAt arguments 1).elim (pure (-1)) countArgument
  let limit := boundOf cs.length limit
  let fromLeft := name = "split"
  match (argumentAt arguments 0).getD .none with
  | .none =>
    newList (partsLike o (if fromLeft then wordsFromLeft limit cs else wordsFromRight limit cs))
  | separator =>
    let pattern := (← textArgument "must be str or None" separator).toList
    if pattern = [] then refuse .emptySeparator
    newList (partsLike o
      (if fromLeft then partsFromLeft pattern limit cs else partsFromRight pattern limit cs))

/-- The texts of some items with a text between them. -/
def joinItems (o : Object) (s : String) (items : Object) : Act Object := do
  match o with
  | .markup _ =>
    return .markup (s.intercalate (← (← itemsOf items).mapM safeOf))
  | _ =>
    match ← items? items with
    | some items => return .ofCodes ((codesOf s.toList).intercalate (← joinedCodes items))
    | none => refuse .notIterableJoined

/-! ### Ends -/

/-- The characters that are stripped off a text: those given, or white space. -/
def strippedBy (s : Option String) (c : Char) : Bool := s.elim (isBlank c) fun s => s.toList.contains c

/-- A text without some characters at its ends, or at one of them. -/
def stripText (atStart atEnd : Bool) (strips : Char → Bool) (cs : List Char) : List Char :=
  let cs := if atStart then cs.dropWhile strips else cs
  if atEnd then (cs.reverse.dropWhile strips).reverse else cs

/-- A text without what a method strips off. -/
def stripBy (name : String) (cs : List Char) (arguments : List (Option Object)) :
    Act (List Char) := do
  let o := (argumentAt arguments 0).getD .none
  let stripped ← textIn? o
  if stripped.isNone && !(o matches .none) then refuse (.notStripped name)
  return stripText (name ≠ "rstrip") (name ≠ "lstrip") (strippedBy stripped) cs

/-- A text without another at one of its ends. -/
def removeEnd (name : String) (cs : List Char) (o : Object) : Act (List Char) := do
  let part := (← textArgument s!"{name}() argument must be str" o).toList
  let isFirst := name = "removeprefix"
  if isFirst && part.isPrefixOf cs then return cs.drop part.length
  else if !isFirst && part.isSuffixOf cs then return cs.take (cs.length - part.length)
  else return cs

/-- The character that fills up a text. -/
def fillArgument (o : Option Object) : Act Char := do
  match o with
  | none => return ' '
  | some o =>
    match (← textArgument "The fill character must be a unicode character" o).toList with
    | [c] => return c
    | _ => refuse .notOneCharacter

/-- A text filled up to a width. -/
def justify (name : String) (cs : List Char) (arguments : List (Option Object)) :
    Act (List Char) := do
  let width := (← countArgument ((argumentAt arguments 0).getD .none)).toNat
  let fill ← fillArgument (argumentAt arguments 1)
  if name = "center" then return centered width fill cs
  else if name = "ljust" then return leftJustified width fill cs
  else return rightJustified width fill cs

/-! ### Tables of characters -/

/-- The keys of a table for characters. -/
def characterKey (key : Object) : Act Object := do
  match (← textIn? key).map String.toList, key.integer? with
  | some [c], _ => return .number c.toNat
  | some _, _ => refuse .longKey
  | none, some n => return .number n
  | none, none => refuse .oddKey

/-- A new table for characters. -/
def makeCharacterTable (arguments : List (Option Object)) : Act Object := do
  let text (place : Nat) (o : Object) : Act (List Char) := do
    return (← textArgument s!"maketrans() argument {place} must be str" o).toList
  let code (c : Char) : Object := .number c.toNat
  match arguments.filterMap id with
  | [.dict i] =>
    newDict (← (← entriesOf i).foldlM (fun made (key, value) => do
      putEntry made (← characterKey key) value) [])
  | o :: second :: others =>
    let images ← text 2 second
    let dropped ← others.head?.elim (pure []) (text 3)
    let some first ← textIn? o | refuse .textForTables
    if first.length ≠ images.length then refuse .unequalTables
    let entries := (first.toList.zip images).map (fun (c, d) => (code c, code d)) ++
      dropped.map fun c => (code c, .none)
    newDict (← entries.foldlM (fun made e => putEntry made e.1 e.2) [])
  | _ => refuse .tableForText

/-- What a table has for a character. -/
def translateChar (table : Object) (c : Char) : Act (List Char) := do
  let found ← try some <$> requiredItem table (.number c.toNat)
    catch fault => match fault with
      | .use (.noEntry _) | .use (.beyondEnd _) => pure none
      | fault => throw fault
  match found with
  | none => return [c]
  | some .none => return []
  | some o =>
    match ← textIn? o, o.integer? with
    | some s, _ => return s.toList
    | none, some n =>
      if n < 0 || 0x110000 ≤ n then refuse .characterCode
      if isHalf n.toNat then throw (.undescribed .halves)
      return [Char.ofNat n.toNat]
    | none, none => refuse .characterSort

/-! ### All methods -/

/-- How a method of a text takes its arguments. -/
def textForm (name : String) : Form :=
  match name with
  | "center" | "ljust" | "rjust" => .places (.between 1 2)
  | "count" | "find" | "index" | "rfind" | "rindex" | "startswith" | "endswith" => .counted 1 3
  | "expandtabs" => .optional ["tabsize"]
  | "lstrip" | "rstrip" | "strip" => .places (.between 0 1)
  | "replace" => .places (.between 2 3)
  | "split" | "rsplit" => .optional ["sep", "maxsplit"]
  | "splitlines" => .optional ["keepends"]
  | "maketrans" => .places (.between 1 3)
  | "format_map" | "join" | "partition" | "rpartition" | "removeprefix" | "removesuffix"
  | "translate" | "zfill" => .places .one
  | _ => .places .nothing

/-- A text with at most so many occurrences of another replaced. -/
def replaceIn (o : Object) (cs : List Char) (arguments : List (Option Object)) :
    Act (List Char) := do
  let argument (i : Nat) : Object := (argumentAt arguments i).getD .none
  let old ← textArgument "replace() argument 1 must be str" (argument 0)
  let new ← match o, argument 1 with
    | .markup _, .markup s => pure s
    | .markup _, new => do pure (safeText (← writtenOf new))
    | _, new => textArgument "replace() argument 2 must be str" new
  let limit ← (argumentAt arguments 2).elim (pure (-1)) countArgument
  return replaceOccurrences old.toList new.toList (boundOf cs.length limit) cs

/-- What a method of a text answers that takes some arguments. -/
def textAnswer (o : Object) (name : String) (cs : List Char) (arguments : List (Option Object)) :
    Act Object := do
  let like (cs : List Char) : Object := textLike o (String.ofList cs)
  let first := (argumentAt arguments 0).getD .none
  match name with
  | "count" | "find" | "index" | "rfind" | "rindex" => searchText name cs arguments
  | "startswith" | "endswith" => matchText name cs arguments
  | "partition" | "rpartition" => partitionText o name cs first
  | "split" | "rsplit" => splitBy o name cs arguments
  | "splitlines" =>
    let keep ← (argumentAt arguments 0).elim (pure 0) placeNumber
    newList (partsLike o (linesOf (keep ≠ 0) cs))
  | "join" => joinItems o (String.ofList cs) first
  | "lstrip" | "rstrip" | "strip" => return like (← stripBy name cs arguments)
  | "removeprefix" | "removesuffix" => return like (← removeEnd name cs first)
  | "center" | "ljust" | "rjust" => return like (← justify name cs arguments)
  | "zfill" => return like (zeroFilled (← countArgument first).toNat cs)
  | "expandtabs" =>
    let size ← (argumentAt arguments 0).elim (pure 8) placeNumber
    if !fitsHalfWord size then refuse (.format .tooLongPrecision)
    return like (withoutTabs size.toNat 0 cs)
  | "replace" => return like (← replaceIn o cs arguments)
  | "translate" => return like (← cs.flatMapM (translateChar first))
  | "maketrans" => makeCharacterTable arguments
  | "format_map" => fillFields o (.ofMapping (o matches .markup _) first)
  | "unescape" => return .text (String.ofList (withoutEntities cs))
  | "striptags" => return .text (withoutTags (String.ofList cs))
  | _ => return .none

/-- What a method of a text answers. -/
def callText (o : Object) (name : String) (given : Given) : Act Object := do
  let cs := ((← textIn? o).getD "").toList
  if name = "format" then return ← fillFields o (.ofGiven (o matches .markup _) given)
  if name = "escape" then
    let bound ← bindTo {
      call := "Markup.escape", receiver := some "cls", required := ["s"] } given
    match bound.find "s" with
    | .markup s => return .markup s
    | o => return .markup (safeText (← writtenOf o))
  let arguments ← textArguments o name (textForm name) given
  match letterChanges.lookup name, letterQuestions.lookup name with
  | some change, _ => return textLike o (String.ofList (change cs))
  | none, some holds => return .bool (holds cs)
  | none, none => textAnswer o name cs arguments

end MobileSchema.Template
