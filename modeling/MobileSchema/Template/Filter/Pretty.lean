import MobileSchema.Template.Filter.Basic
import MobileSchema.Text.Wrapping

/-!
# Showing objects on several lines

An object as messages show it, but with the entries of tables in the order of their keys, and on
several lines if it is too long for one.  What it holds stands on lines of its own then.
-/

namespace MobileSchema.Template

/-! ### On one line -/

/-- Whether a key comes before another; keys that have no order come in the order of their types. -/
def keyIsBefore (a b : Object) : Act Bool := do
  match ← outcomeOf (isInOrder .less a b) with
  | .ok before => return before
  | .error (.use _) =>
    let g ← currentGraph
    return (a.typeModule ++ a.typeName g) < (b.typeModule ++ b.typeName g)
  | .error fault => throw fault

/-- The entries of a table in the order of their keys. -/
def sortedEntries (i : Nat) : Act (List (Object × Object)) := do
  sortItems (fun a b => keyIsBefore a.1 b.1) (← entriesOf i)

/-- An object on one line, at a bound on the depth of holding. -/
def flatAt : Nat → Object → Act String
  | 0, _ => throw .endless
  | depth + 1, o => do
    let flat := flatAt depth
    match o with
    | .list r => return "[" ++ ", ".intercalate (← (← contents r).mapM flat) ++ "]"
    | .tuple [item] => return "(" ++ (← flat item) ++ ",)"
    | .tuple items => return "(" ++ ", ".intercalate (← items.mapM flat) ++ ")"
    | .dict i =>
      let entries ← (← sortedEntries i).mapM fun (key, value) => do
        let key ← flat key
        return key ++ ": " ++ (← flat value)
      return "\x7b" ++ ", ".intercalate entries ++ "\x7d"
    | o => shownOf o

/-! ### Texts -/

/-- The pieces of a line: words, each with the white space behind it. -/
def spacedWords (cs : List Char) : List (List Char) :=
  let runs := cs.splitBy fun a b => isBlank a == isBlank b
  let rec pairs : List (List Char) → List (List Char)
    | word :: gap :: rest =>
      if word.any isBlank then word :: pairs (gap :: rest)
      else (word ++ gap) :: pairs rest
    | rest => rest
  pairs runs

/-- The pieces of a line, quoted and put together as long as they fit into a width, and into another
width at the end. -/
def quotedPieces (width last : Nat) (current : List Char) : List (List Char) → List String
  | [] => if current = [] then [] else [quoted (String.ofList current)]
  | piece :: rest =>
    let candidate := current ++ piece
    let room := if rest = [] then last else width
    if room < (quoted (String.ofList candidate)).length && current ≠ [] then
      quoted (String.ofList current) :: quotedPieces width last piece rest
    else quotedPieces width last candidate rest

/-- The quoted pieces of the lines of a text, each of a limited width. -/
def quotedLines (width last : Nat) : List (List Char) → List String
  | [] => []
  | line :: lines =>
    let room := if lines = [] then last else width
    let whole := quoted (String.ofList line)
    let pieces := if whole.length ≤ room then [whole]
      else quotedPieces width room [] (spacedWords line)
    pieces ++ quotedLines width last lines

/-- A text on several lines, which begin at a margin. -/
def prettyText (margin allowance : Nat) (isOuter : Bool) (s : String) : String :=
  let lines := linesOf true s.toList
  let margin := if isOuter then margin + 1 else margin
  let allowance := if isOuter then allowance + 1 else allowance
  let pieces := quotedLines (80 - margin) (80 - margin - allowance) lines
  match pieces, s with
  | _, "" => quoted s
  | [_], _ => quoted (String.ofList (lines.getLast?.getD []))
  | pieces, _ =>
    let text := ("\n" ++ String.ofList (List.replicate margin ' ')).intercalate pieces
    if isOuter then "(" ++ text ++ ")" else text

/-! ### Objects -/

/-- The name of the type of an object that consists of named parts, and these parts. -/
def partsOf? (o : Object) : Act (Option (String × List (String × Object))) := do
  let g ← currentGraph
  match o with
  | .withComma data comma => return some ("CommaPair", [("data", data), ("comma", .ofText? comma)])
  | .pair ios android => return some ("PlatformPair", [("ios", ios), ("android", android)])
  | .property p =>
    let property := g.property p
    let name := ("name", Object.text property.name)
    let parts := match property.shape with
      | .typed (.known kind) required =>
        [name, ("kind", .kind kind), ("required", .bool required), ("indexed", .bool property.indexed)]
      | .typed (.raw text) required =>
        [name, ("kind", .text text), ("required", .bool required), ("indexed", .bool property.indexed)]
      | .toOne _ | .toMany _ => [name]
      | .inverse _ _ isPrivate => [name, ("is_private", .bool isPrivate)]
    return some (o.typeName g, parts)
  | _ => return none

/-- An object on as many lines as it needs, which begin at a margin; `allowance` says how much
stands behind it on its last line, and `level` how many objects hold it. -/
def prettyAt : Nat → Nat → Nat → Nat → Object → Act String
  | 0, _, _, _, _ => throw .endless
  | depth + 1, margin, allowance, level, o => do
    let pretty := prettyAt depth
    let flat ← flatAt holdingLimit o
    if flat.length + margin + allowance ≤ 80 then return flat
    let newLine (margin : Nat) : String := ",\n" ++ String.ofList (List.replicate margin ' ')
    let items (opening closing : String) (items : List Object) : Act String := do
      let last := items.length - 1
      let texts ← items.zipIdx.mapM fun (item, i) =>
        pretty (margin + 1) (if i = last then allowance + closing.length else 1) (level + 1) item
      return opening ++ (newLine (margin + 1)).intercalate texts ++ closing
    let named (margin allowance : Nat) (separator : String) (entries : List (String × Object)) :
        Act String := do
      let last := entries.length - 1
      let texts ← entries.zipIdx.mapM fun ((name, value), i) => do
        let text ← pretty (margin + name.length + separator.length)
          (if i = last then allowance else 1) (level + 1) value
        return name ++ separator ++ text
      return (newLine margin).intercalate texts
    match o with
    | .halved _ => throw (.undescribed .halves)
    | .text s => return prettyText margin allowance (level = 0) s
    | .list r => items "[" "]" (← contents r)
    | .tuple [item] => items "(" ",)" [item]
    | .tuple parts => items "(" ")" parts
    | .dict i =>
      let entries ← (← sortedEntries i).mapM fun (key, value) => do
        return (← flatAt holdingLimit key, value)
      return "\x7b" ++ (← named (margin + 1) (allowance + 1) ": " entries) ++ "\x7d"
    | o =>
      match ← partsOf? o with
      | some (type, parts) =>
        return type ++ "(" ++ (← named (margin + type.length + 1) allowance "=" parts) ++ ")"
      | none => return flat

/-- An object on as many lines as it needs. -/
def prettyOf (o : Object) : Act String := prettyAt holdingLimit 0 0 0 o

end MobileSchema.Template
