import MobileSchema.Template.Filter.Basic

/-!
# Filters of texts

What filters make of texts, and of what is written for other objects.
-/

namespace MobileSchema.Template

/-! ### Letters -/

/-- A filter that changes the letters of a text; a safe text stays safe. -/
def letterFilter (call method : String) : Filter :=
  .unary call "s" fun o => do
    let change := (letterChanges.lookup method).getD id
    return textLike o (String.ofList (change (← textFrom o).toList))

/-- Whether a word of a title can begin behind a character. -/
def isBeforeWord (c : Char) : Bool := "-(\x7b[<".toList.contains c || isBlank c

/-- A text with a capital at the start of each of its words. -/
def asTitle (cs : List Char) : List Char :=
  let words := cs.splitBy fun a b => isBeforeWord a == isBeforeWord b
  words.flatMap fun word =>
    match word with
    | [] => []
    | c :: rest => upperText [c] ++ lowerText rest

/-- A text without white space, or without given characters, at its ends. -/
def trimFilter : Filter :=
  .withOptions "do_trim" "value" ["chars"] fun o b => do
    callText (.text (← textFrom o)) "strip" { places := [b.find "chars"] } >>= fun trimmed =>
      return textLike o (trimmed.text?.getD "")

/-- A text in the middle of a width. -/
def centerFilter : Filter :=
  .withOptions "do_center" "value" ["width"] fun o b => do
    let width := (b.find? "width").getD (.number 80)
    let text := textLike o (← textFrom o)
    callText text "center" { places := [width] }

/-- The number of words in a text. -/
def wordCount (s : String) : Nat :=
  let isPart (c : Char) : Bool := isAlphanumeric c || c = '_'
  let runs := s.toList.splitBy fun a b => isPart a == isPart b
  runs.countP fun run => run.head?.any isPart

/-! ### Pages -/

/-- An object, made safe for a page. -/
def safeFrom (o : Object) : Act Object := do return .markup (← safeOf o)

/-- The text of an object, or a safe text as it is. -/
def softText (o : Object) : Act Object := do
  if o.codes?.isSome then return o else return .text (← writtenOf o)

/-- A text with all occurrences of a text replaced, or with a number of them. -/
def replaceFilter : Filter :=
  let signature : Signature := {
    call := "do_replace", receiver := none
    required := ["eval_ctx", "s", "old", "new"], optional := ["count"] }
  .bound signature true fun desk b => do
    let o := b.find "s"
    let old := b.find "old"
    let new := b.find "new"
    let count := match b.find "count" with
      | .none => .number (-1)
      | count => count
    let isSafe (o : Object) : Bool := o matches .markup _
    if desk.escapes then
      let text ← if isSafe old || isSafe new && !isSafe o then safeFrom o else softText o
      let old ← softText old
      callText text "replace" { places := [old, ← softText new, count] }
    else
      let text ← writtenOf o
      let old ← writtenOf old
      callText (.text text) "replace" { places := [.text old, .text (← writtenOf new), count] }

/-- The entries of a table as the attributes of a tag. -/
def attributesFilter : Filter :=
  .atDesk "do_xmlattr" "eval_ctx" "d" ["autospace"] fun desk o b => do
    let entries ← match o with
      | .dict i => entriesOf i
      | .undefined cause => throw (.undefined cause)
      | o => lackOf o "items"
    let parts ← entries.filterMapM fun (key, value) => do
      if isUndefined value || value matches .none then return none
      let some name ← textIn? key | refuse (.notText
        s!"expected string or bytes-like object, got {quoted (← typeOf key)}")
      if name.toList.any fun c => " \t\n\x0b\x0c\r/>=".toList.contains c then
        refuse (.tagAttribute (← shownOf key))
      return some s!"{← safeOf key}=\"{← safeOf value}\""
    let text := " ".intercalate parts
    let text := if (← isSetOr b "autospace" true) && text ≠ "" then " " ++ text else text
    return if desk.escapes then .markup text else .text text

/-- A text as a part of an address; a slash stands for itself unless the part is in a query. -/
def addressPart (inQuery : Bool) (s : String) : String :=
  let isPlain (b : UInt8) : Bool :=
    let c := Char.ofNat b.toNat
    b < 128 && (c.isAlphanum || "_.-~".toList.contains c || (c = '/' && !inQuery))
  let written (b : UInt8) : List Char :=
    if isPlain b then [Char.ofNat b.toNat]
    else if b = 32 && inQuery then ['+']
    else '%' :: (hexDigits 2 b.toNat).map Char.toUpper
  String.ofList (s.toUTF8.toList.flatMap written)

/-- The two parts that an object is shared out to. -/
def twoParts (o : Object) : Act (Object × Object) := do
  match ← items? o with
  | some [a, b] => return (a, b)
  | some items => refuse (.sharedOut 2 items.length)
  | none => refuse (.notShared (← typeOf o))

/-- An object as a part of an address, or the entries of a table as a query. -/
def addressFilter : Filter :=
  .unary "do_urlencode" "value" fun o => do
    let query (items : List Object) : Act Object := do
      let parts ← items.mapM fun item => do
        let (key, value) ← twoParts item
        let name ← textFrom key
        return s!"{addressPart true name}={addressPart true (← textFrom value)}"
      return .text ("&".intercalate parts)
    match o, ← textIn? o with
    | _, some s => return .text (addressPart false s)
    | .dict i, none => query (DictPart.items.of (← entriesOf i))
    | .blocks _, none => return .text (addressPart false (← writtenOf o))
    | o, none =>
      match ← items? o with
      | some items => query items
      | none => return .text (addressPart false (← writtenOf o))

/-! ### Lines -/

/-- A text with spaces before its lines, or with another text before them. -/
def indentFilter : Filter :=
  .withOptions "do_indent" "s" ["width", "first", "blank"] fun o b => do
    let width := (b.find? "width").getD (.number 4)
    let margin ← match ← textIn? width with
      | some s => pure s
      | none => do pure ((← operate .multiply (.text " ") width).text?.getD "")
    checkDefined [o]
    let some s ← textIn? o | do
      if let .list r := o then
        setContents ((← contents r) ++ [.text "\n"]) r
        lackOf o "splitlines"
      if o.tuple?.isSome then refuse (.concatenation "tuple" "str")
      refuse (.unsupported "+=" (← typeOf o) "str")
    let lines := (linesOf false (s ++ "\n").toList).map String.ofList
    let withBlank ← isSetOr b "blank" false
    let text ← if withBlank then pure (("\n" ++ margin).intercalate lines)
      else match lines with
        | [] => pure ""
        | first :: rest =>
          let rest := rest.map fun line => if line = "" then line else margin ++ line
          pure ("\n".intercalate (first :: rest))
    return textLike o (if ← isSetOr b "first" false then margin ++ text else text)

/-- A text of a limited length, with another at the end of what is left of it. -/
def truncateFilter : Filter :=
  .atDesk "do_truncate" "environment" "s" ["length", "killwords", "end", "leeway"]
    fun _ o b => do
      let length := (b.find? "length").getD (.number 255)
      let ending := (b.find? "end").getD (.text "...")
      let leeway := match b.find "leeway" with
        | .none => .number 5
        | leeway => leeway
      let least : Nat ← lengthOf ending
      if !(← isInOrder .greaterOrEqual length (.number least)) then
        refuse (.tooShort least (← writtenOf length))
      if !(← isInOrder .greaterOrEqual leeway (.number 0)) then
        refuse (.negativeLeeway (← writtenOf leeway))
      let size : Nat ← lengthOf o
      if ← isInOrder .lessOrEqual (.number size) (← operate .add length leeway) then return o
      let kept ← sliceOf o .none (← operate .subtract length (.number least)) .none
      if ← isSetOr b "killwords" false then return ← operate .add kept ending
      let some s ← textIn? kept | lackOf kept "rsplit"
      let whole := (partsFromRight [' '] 1 s.toList).head?.getD []
      operate .add (textLike kept (String.ofList whole)) ending

/-- A text filled in with arguments by place or by name. -/
def formatFilter : Filter :=
  .free "do_format" fun _ o given => do
    if !given.places.isEmpty && !given.named.isEmpty then refuse (.filter .mixedArguments)
    let text ← softText o
    if given.named.isEmpty then operate .remainder text (.tuple given.places)
    else
      let table ← newDict (given.named.map fun (name, o) => (.text name, o))
      operate .remainder text table

/-- The filters of texts. -/
def textFilters : List (String × Filter) :=
  let escape : Filter := .unary "escape" "s" safeFrom
  [("upper", letterFilter "do_upper" "upper"), ("lower", letterFilter "do_lower" "lower"),
    ("capitalize", letterFilter "do_capitalize" "capitalize"),
    ("title", .unary "do_title" "s" fun o => do
      return .text (String.ofList (asTitle (← textFrom o).toList))),
    ("trim", trimFilter), ("center", centerFilter), ("replace", replaceFilter),
    ("wordcount", .unary "do_wordcount" "s" fun o => do
      return .number (wordCount (← textFrom o))),
    ("e", escape), ("escape", escape),
    ("forceescape", .unary "do_forceescape" "value" fun o => do
      return .markup (safeText (← writtenOf o))),
    ("safe", .unary "do_mark_safe" "value" fun o => do return .markup (← writtenOf o)),
    ("string", .unary "soft_str" "s" softText),
    ("striptags", .unary "do_striptags" "value" fun o => do
      return .text (withoutTags (← writtenOf o))),
    ("xmlattr", attributesFilter), ("urlencode", addressFilter), ("indent", indentFilter),
    ("truncate", truncateFilter), ("format", formatFilter)]

end MobileSchema.Template
