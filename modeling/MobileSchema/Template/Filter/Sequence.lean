import MobileSchema.Template.Filter.Basic
import MobileSchema.Template.FaultSort

/-!
# Filters of items

What filters make of the items of an object: some of them, groups of them, or all of them in another
order.
-/

namespace MobileSchema.Template

/-! ### One of the items -/

/-- The first item of an object; of a stream no more than that is taken. -/
def firstOf? (o : Object) : Act (Option Object) := do
  match o with
  | .stream _ i => pullStream i
  | .loop i => return (← Loop.advance i).map fun o => .tuple [o, .loop i]
  | .span .. => sequenceItem? o 0
  | o => return (← itemsOf o).head?

/-- The type of what gives the items of an object from the last one to the first, if that can be
done. -/
def backwardsType? (o : Object) : Option String :=
  match o with
  | .list _ => some "list_reverseiterator"
  | .dict _ | .view .keys _ => some "dict_reversekeyiterator"
  | .view .values _ => some "dict_reversevalueiterator"
  | .view .items _ => some "dict_reverseitemiterator"
  | .span .. => some "range_iterator"
  | .kinds => some "generator"
  | o => if o.codes?.isSome || o.tuple?.isSome || isUndefined o then some "reversed" else none

/-- The last item of an object; a character of a safe text is safe. -/
def lastOf (o : Object) : Act Object := do
  match o with
  | .span .. => return (← sequenceItem? o (-1)).getD (.undefined .noLast)
  | .blocks _ => refuse (.noLength (← typeOf o))
  | o =>
    if (backwardsType? o).isNone then refuse (.notReversible (← typeOf o))
    match (← itemsOf o).getLast?, o with
    | some (.text c), .markup _ => return .markup c
    | item, _ => return item.getD (.undefined .noLast)

/-- An item of an object by chance; only where there is no choice the answer is settled. -/
def anyOf (o : Object) : Act Object := do
  if 1 < (← lengthOf o) then throw (.undescribed .chance)
  try requiredItem o (.number 0)
  catch fault => match fault with
    | .use (.beyondEnd _) => return .undefined .noChoice
    | fault => throw fault

/-! ### Keys -/

/-- What an item is compared by: what it has under a path, without regard to case unless that is
asked for. -/
def keyAlong (path : List Object) (caseSensitive : Bool) (otherwise item : Object) : Act Object := do
  comparedAs caseSensitive (← itemAlong item path otherwise)

/-- The paths to the attributes between the commas of a text, or the one path of another object. -/
def attributePaths (o : Object) : Act (List (List Object)) := do
  match ← textIn? o with
  | some s => (partsFromLeft [','] s.length s.toList).mapM fun part =>
      attributePath (.text (String.ofList part))
  | none => return [← attributePath o]

/-- The least or the greatest item of an object, by keys. -/
def extremeFilter (call : String) (comparison : Comparison) : Filter :=
  .atDesk call "environment" "value" ["case_sensitive", "attribute"] fun _ o b => do
    let some first ← firstOf? o | return .undefined .noExtreme
    let rest ← match o with
      | .stream .. | .loop _ => itemsOf o
      | o => do pure ((← itemsOf o).drop 1)
    let caseSensitive ← isSetOr b "case_sensitive" false
    let path ← attributePath (b.find "attribute")
    let keyOf := keyAlong path caseSensitive .none
    let best ← rest.foldlM (fun (best : Object × Object) item => do
      let key ← keyOf item
      if ← isInOrder comparison key best.1 then return (key, item) else return best)
      (← keyOf first, first)
    return best.2

/-- The items of an object in the order of some of their attributes. -/
def sortFilter : Filter :=
  .atDesk "do_sort" "environment" "value" ["reverse", "case_sensitive", "attribute"]
    fun _ o b => do
      let caseSensitive ← isSetOr b "case_sensitive" false
      let paths ← attributePaths (b.find "attribute")
      let items ← itemsOf o
      let reversed ← (b.find? "reverse").elim (pure false) asksReversed
      let keyed ← items.mapM fun item => do
        return (.tuple (← paths.mapM fun path => keyAlong path caseSensitive .none item), item)
      newList (← sortByKeys keyed reversed)

/-- The entries of a table in the order of their keys or values. -/
def sortEntriesFilter : Filter :=
  .withOptions "do_dictsort" "value" ["case_sensitive", "by", "reverse"] fun o b => do
    let choice := (b.find? "by").getD (.text "key")
    let byKeys ← isEqual choice (.text "key")
    if !byKeys && !(← isEqual choice (.text "value")) then refuse (.filter .sortedBy)
    let entries ← match o with
      | .dict i => entriesOf i
      | o => lackOf o "items"
    let reversed ← (b.find? "reverse").elim (pure false) asksReversed
    let keyed ← entries.mapM fun (key, value) => do
      let caseSensitive ← isSetOr b "case_sensitive" false
      return (← comparedAs caseSensitive (if byKeys then key else value), .tuple [key, value])
    newList (← sortByKeys keyed reversed)

/-- What items come to without those whose key was there before; `seen` are the keys before them. -/
def outcomesOnce (keyOf : Object → Act Object) (seen : List Object) :
    List (Except RenderFault Object) → Act (List (Except RenderFault Object))
  | [] => return []
  | .error fault :: _ => return [.error fault]
  | .ok item :: rest => do
    let outcome ← outcomeOf do
      let key ← keyOf item
      checkKey key
      return (key, (← placeOf? seen key).isSome)
    match outcome with
    | .error fault => return [.error fault]
    | .ok (_, true) => outcomesOnce keyOf seen rest
    | .ok (key, false) => return .ok item :: (← outcomesOnce keyOf (seen ++ [key]) rest)

/-- The items of an object without those whose key was there before. -/
def uniqueFilter : Filter :=
  .atDesk "do_unique" "environment" "value" ["case_sensitive", "attribute"] fun _ o b => do
    let keyOf ← outcomeOf do
      let caseSensitive ← isSetOr b "case_sensitive" false
      return keyAlong (← attributePath (b.find "attribute")) caseSensitive .none
    match keyOf with
    | .error fault => newStream "generator" [.error fault]
    | .ok keyOf => newStream "generator" (← outcomesOnce keyOf [] (← outcomesOf o))

/-! ### Groups -/

/-- Items with keys, as runs of those whose keys are equal. -/
def runsOf : List (Object × Object) → Act (List (List (Object × Object)))
  | [] => return []
  | item :: rest => do
    match ← runsOf rest with
    | (next :: run) :: runs =>
      if ← isEqual item.1 next.1 then return (item :: next :: run) :: runs
      else return [item] :: (next :: run) :: runs
    | runs => return [item] :: runs

/-- The items of an object in groups that agree in an attribute. -/
def groupFilter : Filter :=
  let signature : Signature := {
    call := "sync_do_groupby", receiver := none
    required := ["environment", "value", "attribute"], optional := ["default", "case_sensitive"] }
  .bound signature true fun _ b => do
    let caseSensitive ← isSetOr b "case_sensitive" false
    let path ← attributePath (b.find "attribute")
    let otherwise := b.find "default"
    let items ← itemsOf (b.find "value")
    let keyed ← items.mapM fun item => do
      return (← keyAlong path caseSensitive otherwise item, item)
    let sorted ← sortItems (fun (a b : Object × Object) => isInOrder .less a.1 b.1) keyed
    let groups ← (← runsOf sorted).mapM fun run => do
      let agreed ← match caseSensitive, run.head? with
        | false, some (_, item) => itemAlong item path otherwise
        | _, first => pure (first.elim .none (·.1))
      return .group agreed (← newList (run.map (·.2)))
    newList groups

/-- A number that is left of a row, as the items that fill it up. -/
def filling (o room : Object) : Act (List Object) := do
  match ← operate .multiply (← newList [o]) room with
  | .list r => contents r
  | _ => return []

/-- The items of an object in rows of some length. -/
def batchFilter : Filter :=
  let signature : Signature := {
    call := "do_batch", receiver := none
    required := ["value", "linecount"], optional := ["fill_with"] }
  .bound signature false fun _ b => streamAll do
    let count := b.find "linecount"
    let (rows, row) ← (← itemsOf (b.find "value")).foldlM (fun (made : List Object × List Object)
        item => do
      let (rows, row) := made
      if ← isEqual (.number row.length) count then return (rows ++ [← newList row], [item])
      else return (rows, row ++ [item])) ([], [])
    if row = [] then return rows
    let size : Object := .number row.length
    match b.find "fill_with" with
    | .none => return rows ++ [← newList row]
    | fill =>
      let room ← if ← isInOrder .less size count then operate .subtract count size
        else pure (.number 0)
      return rows ++ [← newList (row ++ (← filling fill room))]

/-- The items of an object in so many rows. -/
def sliceFilter : Filter :=
  let signature : Signature := {
    call := "sync_do_slice", receiver := none
    required := ["value", "slices"], optional := ["fill_with"] }
  .bound signature false fun _ b => streamAll do
    let items ← itemsOf (b.find "value")
    let size : Object := .number items.length
    let count := b.find "slices"
    let _ ← operate .floorDivide size count
    let _ ← operate .remainder size count
    let count := (← placeNumber count).toNat
    let each := items.length / count
    let more := items.length % count
    (List.range count).mapM fun i => do
      let start := min i more + i * each
      let row := (items.drop start).take (if i < more then each + 1 else each)
      match b.find "fill_with" with
      | .none => newList row
      | fill => newList (if more ≤ i then row ++ [fill] else row)

/-! ### Choosing -/

/-- Refuses arguments by the names that are taken by what a filter is called from and its object. -/
def checkFreeNames (call : String) (taken : List String) (given : Given) : Act Unit := do
  if let some (name, _) := given.named.find? fun (name, _) => taken.contains name then
    throw (.call (.repeated call name))

/-- What a filter or an attribute makes of each item. -/
def mapFilter : Filter :=
  .free "sync_do_map" fun desk o given => do
    checkFreeNames "sync_do_map" ["context", "value"] given
    let change : Act (Object → Act Object) := do
      match given.places, given.named.lookup "attribute" with
      | [], some asked =>
        let named := given.named.filter fun (name, _) => name ≠ "attribute" && name ≠ "default"
        if let some (name, _) := named.head? then refuse (.filter (.unexpectedName name))
        let path ← attributePath asked
        return fun item => itemAlong item path ((given.named.lookup "default").getD .none)
      | [], none => refuse (.filter .nothingToApply)
      | name :: places, _ => return fun item => desk.filter name item { given with places }
    match ← outcomeOf (do if ← truthOf o then return some (← change) else return none) with
    | .error fault => newStream "generator" [.error fault]
    | .ok none => newStream "generator" []
    | .ok (some f) => streamEach o fun item => do return some (← f item)

/-- The items that a test, or an attribute of them, says something about, which is true or not. -/
def pickFilter (call : String) (byAttribute wanted : Bool) : Filter :=
  .free call fun desk o given => do
    checkFreeNames call ["context", "value"] given
    let part : Act (List Object × List Object) := do
      match byAttribute, given.places with
      | false, places => return ([], places)
      | true, asked :: places => return (← attributePath asked, places)
      | true, [] => refuse (.filter .missingAttribute)
    match ← outcomeOf (do if ← truthOf o then return some (← part) else return none) with
    | .error fault => newStream "generator" [.error fault]
    | .ok none => newStream "generator" []
    | .ok (some (path, places)) => streamEach o fun item => do
      let subject ← itemAlong item path .none
      let answer ← match places with
        | [] => truthOf subject
        | name :: places => do truthOf (← desk.test name subject { given with places })
      return if answer = wanted then some item else none

/-! ### All of the items -/

/-- An object in the reverse order. -/
def reverseFilter : Filter :=
  .unary "do_reverse" "value" fun o => do
    match o.text?, o with
    | _, .halved codes => return .ofCodes codes.reverse
    | some s, o => return textLike o (String.ofList s.toList.reverse)
    | none, .undefined cause =>
      if cause.isEmptyText then streamOf "reversed" [] else throw (.undefined cause)
    | none, o =>
      match backwardsType? o with
      | some type => streamOf type (← itemsOf o).reverse
      | none =>
        match ← outcomeOf (itemsOf o) with
        | .ok items => newList items.reverse
        | .error fault => if fault.isOfType then refuse (.filter .notIterable) else throw fault

/-- The texts of objects, or of their attributes, with a separator between them. -/
def joinFilter : Filter :=
  .atDesk "sync_do_join" "eval_ctx" "value" ["d", "attribute"] fun desk o b => do
    let separator := (b.find? "d").getD (.text "")
    let itemsAlong : Act (List Object × List Object) := do
      match b.find "attribute" with
      | .none => return ([], [])
      | path => do return (← attributePath path, [← newList (← itemsOf o)])
    let (path, early) ← itemsAlong
    let items : Act (List Object) := itemsOf (early.head?.getD o)
    let along (item : Object) : Act Object := itemAlong item path .none
    let isSafe (o : Object) : Bool := match o with
      | .markup _ | .library .. => true
      | _ => false
    let safeWritten (o : Object) : Act String := do
      match o with
      | .markup s => return s
      | o => return safeText (← writtenOf o)
    match desk.escapes, separator with
    | false, separator =>
      let separator ← writtenCodes separator
      let texts ← (← items).mapM fun item => do writtenCodes (← along item)
      return .ofCodes (separator.intercalate texts)
    | true, .markup separator =>
      let texts ← (← items).mapM fun item => do safeWritten (← along item)
      return .markup (separator.intercalate texts)
    | true, .library _ separator =>
      let texts ← (← items).mapM fun item => do textFrom (← along item)
      return .text (separator.intercalate texts)
    | true, separator =>
      let items ← (← items).mapM along
      let written ← items.mapM fun item => do
        if isSafe item then return item else return .text (← writtenOf item)
      if items.any isSafe then
        let separator ← safeOf separator
        return .markup (separator.intercalate (← written.mapM safeOf))
      else
        let separator ← writtenOf separator
        return .text (separator.intercalate (written.filterMap (·.text?)))

/-- The sum of the items of an object, or of their attributes. -/
def sumFilter : Filter :=
  .atDesk "sync_do_sum" "environment" "iterable" ["attribute", "start"] fun _ o b => do
    let path ← attributePath (b.find "attribute")
    let start := (b.find? "start").getD (.number 0)
    if start.codes?.isSome && o matches .stream .. then refuse .sumOfTexts
    let items ← itemsOf o
    if start.codes?.isSome then refuse .sumOfTexts
    items.foldlM (fun sum item => do operate .add sum (← itemAlong item path .none)) start

/-- An object, or another if it is undefined or, where that is asked for, not true. -/
def defaultFilter : Filter :=
  .withOptions "do_default" "value" ["default_value", "boolean"] fun o b => do
    let other := (b.find? "default_value").getD (.text "")
    if isUndefined o then return other
    if (← isSetOr b "boolean" false) && !(← truthOf o) then return other
    return o

/-- The attribute of an object under a name. -/
def attributeFilter : Filter :=
  let signature : Signature := {
    call := "do_attr", receiver := none, required := ["environment", "obj", "name"] }
  .bound signature true fun _ b => do
    let o := b.find "obj"
    let name := b.find "name"
    checkKey name
    let some s ← textIn? name | refuse (.attributeName (← typeOf name))
    match ← attribute? o s with
    | some found => return found
    | none => return .undefined (.member (o.holder (← currentGraph)) (← shownOf name))

/-- The filters of items. -/
def sequenceFilters : List (String × Filter) :=
  let length : Filter := .simple "len" fun o => do return .number (← lengthOf o)
  [("length", length), ("count", length),
    ("first", .atDesk "sync_do_first" "environment" "seq" [] fun _ o _ => do
      return (← firstOf? o).getD (.undefined .noFirst)),
    ("last", .atDesk "do_last" "environment" "seq" [] fun _ o _ => lastOf o),
    ("random", .atDesk "do_random" "context" "seq" [] fun _ o _ => anyOf o),
    ("min", extremeFilter "do_min" .less), ("max", extremeFilter "do_max" .greater),
    ("sort", sortFilter), ("dictsort", sortEntriesFilter), ("unique", uniqueFilter),
    ("groupby", groupFilter), ("batch", batchFilter), ("slice", sliceFilter), ("map", mapFilter),
    ("select", pickFilter "sync_do_select" false true),
    ("reject", pickFilter "sync_do_reject" false false),
    ("selectattr", pickFilter "sync_do_selectattr" true true),
    ("rejectattr", pickFilter "sync_do_rejectattr" true false), ("reverse", reverseFilter),
    ("join", joinFilter), ("sum", sumFilter), ("default", defaultFilter), ("d", defaultFilter),
    ("attr", attributeFilter),
    ("list", .unary "sync_do_list" "value" fun o => do newList (← itemsOf o)),
    ("items", .unary "do_items" "value" fun o => do
      match o with
      | .undefined _ => streamOf "generator" []
      | .dict i => streamOf "generator" (DictPart.items.of (← entriesOf i))
      | _ => newStream "generator" [.error (.use .notMapping)])]

end MobileSchema.Template
