import MobileSchema.Number.Arithmetic
import MobileSchema.Template.State

/-!
# Items, lengths and truth of objects

What an object holds, how much of it there is, and whether the object counts as true.  What has a
length counts as true if the length is not zero.

A stream gives its items once, and a loop those that it has still to come to.
-/

namespace MobileSchema.Template

/-! ### Items -/

/-- The number of numbers in a span. -/
def spanLength (start stop step : Int) : Nat :=
  if 0 < step then ((stop - start + step - 1).fdiv step).toNat
  else if step < 0 then ((start - stop - step - 1).fdiv (-step)).toNat
  else 0

/-- The numbers of a span. -/
def spanNumbers (start stop step : Int) : List Int :=
  (List.range (spanLength start stop step)).map fun (i : Nat) => start + step * i

/-- The characters of a text. -/
def characters (s : String) : List Object := s.toList.map fun c => .text (String.ofList [c])

/-- What of the entries of a table is looked at. -/
def DictPart.of (part : DictPart) (entries : List (Object × Object)) : List Object :=
  match part with
  | .keys => entries.map (·.1)
  | .values => entries.map (·.2)
  | .items => entries.map fun e => .tuple [e.1, e.2]

/-- The items that a loop has still to come to, each with the loop. -/
def Loop.turns (i : Nat) : Act (List Object) := do
  let length ← settledLength i
  let reached := (← loopAt i).reached
  (List.range (length - reached)).filterMapM fun _ => do
    return (← advance i).map fun o => .tuple [o, .loop i]

/-- The items of an object as it is now, if it has items. -/
def items? (o : Object) : Act (Option (List Object)) := do
  match o with
  | .list r => return some (← contents r)
  | .dict i => return some ((← entriesOf i).map (·.1))
  | .view part i => return some (part.of (← entriesOf i))
  | .kinds => return some (FieldKind.all.map .kind)
  | .span start stop step => return some ((spanNumbers start stop step).map .number)
  | .stream _ i => return some (← drainStream i)
  | .loop i => return some (← Loop.turns i)
  | .blocks _ => refuse (.noEntry "0")
  | .halved codes => return some (codes.map fun n => .ofCodes [n])
  | .undefined cause => if cause.isEmptyText then return some [] else throw (.undefined cause)
  | o => return o.tuple? <|> o.text?.map characters

/-- The items of an object as it is now. -/
def itemsOf (o : Object) : Act (List Object) := do
  match ← items? o with
  | some items => return items
  | none => refuse (.notIterable (← typeOf o))

/-! ### Lengths -/

/-- The length of an object, if it has one. -/
def length? (o : Object) : Act (Option Nat) := do
  match o with
  | .loop i => return some (← Loop.settledLength i)
  | .span start stop step => return some (spanLength start stop step)
  | .stream .. | .blocks _ => return none
  | o => return (← items? o).map List.length

/-- The numbers that places and lengths are counted with are smaller than this. -/
def countLimit : Nat := wordBound.toNat

/-- The length of an object. -/
def lengthOf (o : Object) : Act Nat := do
  match ← length? o with
  | some n => if n < countLimit then return n else refuse .tooLarge
  | none => refuse (.noLength (← typeOf o))

/-! ### Truth -/

/-- Whether an object counts as true. -/
def truthOf (o : Object) : Act Bool := do
  match o with
  | .none => return false
  | .bool b => return b
  | .number n => return n ≠ 0
  | .fraction x => return !(x == 0)
  | .kinds => return true
  | o =>
    match ← length? o with
    | some n => return n ≠ 0
    | none => return true

/-! ### Undefined objects -/

/-- Whether an object is undefined. -/
def isUndefined : Object → Bool
  | .undefined _ => true
  | _ => false

/-- Refuses an object that is undefined, unless it counts as an empty text. -/
def checkUsable : Object → Act Unit
  | .undefined cause => if cause.isEmptyText then return else throw (.undefined cause)
  | _ => return

/-- Refuses undefined objects. -/
def checkDefined (os : List Object) : Act Unit :=
  os.forM fun o => if let .undefined cause := o then throw (.undefined cause) else pure ()

end MobileSchema.Template
