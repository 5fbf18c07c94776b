import MobileSchema.Template.Method.Sequence

/-!
# Methods of tables

What the methods of tables and of the views on them answer, and how they change tables.
-/

namespace MobileSchema.Template

/-! ### Entries -/

/-- The entries that an object gives to a table. -/
def givenEntries (o : Object) : Act (List (Object × Object)) := do
  match o with
  | .dict i => entriesOf i
  | o =>
    (← itemsOf o).zipIdx.mapM fun (item, place) => do
      match ← items? item with
      | some [key, value] => return (key, value)
      | some items => refuse (.entryLength place items.length)
      | none => refuse (.entryNotSequence place)

/-- Entries with those that an object gives, if there is one, and those of names. -/
def withGiven (entries : List (Object × Object)) (o : Option Object)
    (named : List (String × Object)) : Act (List (Object × Object)) := do
  let added ← o.elim (pure []) givenEntries
  let added := added ++ named.map fun (name, o) => (Object.text name, o)
  added.foldlM (fun made e => putEntry made e.1 e.2) entries

/-- A new table of the entries that arguments give; messages name what makes it. -/
def makeTable (call : String) (given : Given) : Act (List (Object × Object)) := do
  let arguments ← simpleArguments "" call (.places (.between 0 1)) { given with named := [] }
  withGiven [] (argumentAt arguments 0) given.named

/-! ### Tables -/

/-- How a method of a table takes its arguments. -/
def tableForm (name : String) : Form :=
  match name with
  | "fromkeys" | "get" | "pop" | "setdefault" => .places (.between 1 2)
  | "update" => .places (.between 0 1)
  | _ => .places .nothing

/-- What a method of a table answers. -/
def callTable (i : Nat) (name : String) (given : Given) : Act Object := do
  let named := if name = "update" then given.named else []
  let arguments ← simpleArguments "dict." name (tableForm name)
    (if name = "update" then { given with named := [] } else given)
  let entries ← entriesOf i
  let other := (argumentAt arguments 1).getD .none
  match name, arguments.filterMap id with
  | "clear", _ => setEntries i []; return .none
  | "copy", _ => newDict entries
  | "keys", _ => return .view .keys i
  | "values", _ => return .view .values i
  | "items", _ => return .view .items i
  | "get", key :: _ => return ((← entryOf? i key).map (·.2)).getD other
  | "setdefault", key :: _ =>
    match ← entryOf? i key with
    | some (_, value) => return value
    | none => setEntries i (← putEntry entries key other); return other
  | "pop", key :: others =>
    match ← entryOf? i key, others with
    | some (_, value), _ =>
      setEntries i (← entries.filterM fun e => return !(← isEqual e.1 key))
      return value
    | none, other :: _ => return other
    | none, [] => refuse (.noEntry (← shownOf key))
  | "popitem", _ =>
    match entries.getLast? with
    | some (key, value) => setEntries i entries.dropLast; return .tuple [key, value]
    | none => refuse .emptyTable
  | "fromkeys", keys :: _ =>
    newDict (← (← itemsOf keys).foldlM (fun made key => putEntry made key other) [])
  | "update", arguments =>
    setEntries i (← withGiven entries arguments.head? named)
    return .none
  | _, _ => return .none

/-- What a method of a view on a table answers. -/
def callView (part : DictPart) (i : Nat) (name : String) (given : Given) : Act Object := do
  let o := Object.view part i
  let arguments ← simpleArguments ((← typeOf o) ++ ".") name (.places .one) given
  let others ← itemsOf ((argumentAt arguments 0).getD .none)
  return .bool !(← others.anyM (holds o))

end MobileSchema.Template
