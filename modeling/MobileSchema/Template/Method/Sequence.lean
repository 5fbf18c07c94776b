import MobileSchema.Template.Comparison
import MobileSchema.Template.Method.Text

/-!
# Methods of lists, tuples and spans

What the methods of what has its items in places answer, and how they change lists.
-/

namespace MobileSchema.Template

/-! ### Places -/

/-- A place between items that an argument gives. -/
def placeArgument (o : Object) : Act Int := o.integer?.elim (refuse .placeBound) pure

/-- The place of an item that equals an object, from a place on and before another. -/
def findPlace? (items : List Object) (arguments : List Object) : Act (Option Nat) := do
  let place (i : Int) : Nat := (if i < 0 then max 0 (i + items.length) else i).toNat
  let o := arguments.head?.getD .none
  let start ← arguments[1]?.elim (pure 0) placeArgument
  let stop ← arguments[2]?.elim (pure (items.length : Int)) placeArgument
  let searched := (items.take (place stop)).drop (place start)
  return (← placeOf? searched o).map (· + place start)

/-- The number of items that equal an object. -/
def countItems (items : List Object) (o : Object) : Act Object := do
  return .number (← items.filterM fun item => isEqual item o).length

/-! ### Lists -/

/-- How a method of a list takes its arguments. -/
def listForm (name : String) : Form :=
  match name with
  | "append" | "count" | "extend" | "remove" => .places .one
  | "index" => .places (.between 1 3)
  | "insert" => .places (.between 2 2)
  | "pop" => .places (.between 0 1)
  | "sort" => .named ["key", "reverse"]
  | _ => .places .nothing

/-- Whether an argument asks for the opposite order. -/
def asksReversed (o : Object) : Act Bool := do
  let n ← placeNumber o
  if !fitsHalfWord n then refuse (.format .tooLongPrecision)
  return n ≠ 0

/-- The items of a list in order, by keys that a function gives them; `call` calls it. -/
def sortedBy (call : Object → Given → Act Object) (items : List Object) (key : Object)
    (reversed : Bool) : Act (List Object) := do
  let keyed ← items.mapM fun item => do
    match key with
    | .none => return (item, item)
    | key => return (← call key { places := [item] }, item)
  sortByKeys keyed reversed

/-- What a method of a list answers; `call` calls functions. -/
def callList (call : Object → Given → Act Object) (r : ListRef) (name : String) (given : Given) :
    Act Object := do
  let arguments ← simpleArguments "list." name (listForm name) given
  let items ← contents r
  match name, arguments.filterMap id with
  | "append", [o] => setContents (items ++ [o]) r; return .none
  | "extend", [o] =>
    let others ← itemsOf o
    setContents ((← contents r) ++ others) r
    return .none
  | "clear", _ => setContents [] r; return .none
  | "reverse", _ => setContents items.reverse r; return .none
  | "copy", _ => newList items
  | "count", [o] => countItems items o
  | "insert", [i, o] => setContents (insertAt items (← countArgument i) o) r; return .none
  | "index", arguments =>
    match ← findPlace? items arguments with
    | some i => return .number i
    | none => refuse (.notInList (← shownOf (arguments.head?.getD .none)))
  | "remove", [o] =>
    match ← placeOf? items o with
    | some i => setContents (items.eraseIdx i) r; return .none
    | none => throw (.schema .notListed)
  | "pop", arguments =>
    let i ← arguments.head?.elim (pure (-1)) countArgument
    match items, (placeIn? items.length i).bind fun i => items[i]?.map (i, ·) with
    | [], _ => refuse .emptyList
    | _, none => refuse .popBeyond
    | items, some (i, o) => setContents (items.eraseIdx i) r; return o
  | "sort", _ =>
    let reversed ← (argumentAt arguments 1).elim (pure false) asksReversed
    let key := (argumentAt arguments 0).getD .none
    setContents (← sortedBy call items key reversed) r
    return .none
  | _, _ => return .none

/-! ### Tuples and spans -/

/-- What a method of a tuple of a type answers. -/
def callTuple (type : String) (items : List Object) (name : String) (given : Given) :
    Act Object := do
  let form : Form := .places (if name = "index" then .between 1 3 else .one)
  let arguments := (← simpleArguments (type ++ ".") name form given).filterMap id
  if name = "count" then countItems items (arguments.head?.getD .none)
  else
    match ← findPlace? items arguments with
    | some i => return .number i
    | none => refuse .notInTuple

/-- What a method of a span answers. -/
def callSpan (o : Object) (name : String) (given : Given) : Act Object := do
  let arguments := (← simpleArguments "range." name (.places .one) given).filterMap id
  let item := arguments.head?.getD .none
  match ← holds o item, name, o, numberOf? item with
  | found, "count", _, _ => return .number (if found then 1 else 0)
  | true, _, .span start _ step, some (.inl n) => return .number ((n - start) / step)
  | _, _, _, _ => item.integer?.elim (refuse .notInSequence) fun n => do
    refuse (.notInSpan (← numberText n))

/-- The span that numbers give. -/
def makeSpan (given : Given) : Act Object := do
  let arguments ← simpleArguments "" "range" (.places (.between 1 3)) given
  match ← (arguments.filterMap id).mapM placeNumber with
  | [stop] => return .span 0 stop 1
  | [start, stop] => return .span start stop 1
  | [start, stop, step] =>
    if step = 0 then refuse .zeroStep
    return .span start stop step
  | _ => return .none

end MobileSchema.Template
