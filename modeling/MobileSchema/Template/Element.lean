import MobileSchema.Template.Attribute

/-!
# Items under keys, and slices

What a template can find in an object by a place or a name.  A point asks for an attribute before an
item, and brackets ask for an item before an attribute; both come to an undefined object if there is
neither.
-/

namespace MobileSchema.Template

/-! ### Items -/

/-- The item at a place, which is counted from the end if it is negative. -/
def itemAt? (items : List Object) (i : Int) : Option Object :=
  (placeIn? items.length i).bind fun i => items[i]?

/-- A text of the sort that an object is: a safe one if the object is safe. -/
def textLike (o : Object) (s : String) : Object :=
  match o with
  | .markup _ => .markup s
  | _ => .text s

/-- The item of a sequence at a place. -/
def sequenceItem? (o : Object) (i : Int) : Act (Option Object) := do
  match o, o.text? with
  | .span start stop step, _ =>
    return (placeIn? (spanLength start stop step) i).map fun i => .number (start + step * i)
  | .halved codes, _ =>
    return (placeIn? codes.length i).bind fun i => codes[i]?.map fun n => .ofCodes [n]
  | o, some s =>
    return (placeIn? s.length i).bind fun i =>
      s.toList[i]?.map fun c => textLike o (String.ofList [c])
  | o, none => return itemAt? (← itemsOf o) i

/-- Whether an object has its items in places. -/
def isSequence : Object → Bool
  | .list _ | .tuple _ | .group .. | .span .. | .halved _ => true
  | o => o.text?.isSome

/-- The entry of a table for a key; there is none for what cannot be a key. -/
def entryFor? (i : Nat) (key : Object) : Act (Option (Object × Object)) := do
  try entryOf? i key
  catch fault => match fault with
    | .use (.notHashable _) => return none
    | fault => throw fault

/-- The item of an object under a key, if there is one. -/
def element? (o key : Object) : Act (Option Object) := do
  match o with
  | .dict i => return (← entryFor? i key).map (·.2)
  | .kinds =>
    checkUsable key
    return key.text?.bind kindNamed?
  | .blocks rendering =>
    checkUsable key
    let blocks := (← renderingAt rendering).blocks
    return key.text?.bind fun name => (blocks.lookup name).map fun _ => .block rendering name 0
  | o =>
    match isSequence o, key.integer? with
    | true, some i => sequenceItem? o i
    | _, _ => return none

/-- What an object has under a name. -/
def memberOf (o : Object) (name : String) : Act Object := do
  if let some found ← attribute? o name then return found
  if let some found ← element? o (.text name) then return found
  return .undefined (.member (o.holder (← currentGraph)) (quoted name))

/-- What an object has under a key, which is a place or a name. -/
def itemOf (o key : Object) : Act Object := do
  checkDefined [o]
  if let some found ← element? o key then return found
  let shown ← shownOf key
  let holder := o.holder (← currentGraph)
  if key matches .halved _ then return .undefined (.member holder shown)
  if key.text?.isSome then
    if let some found ← attribute? o (← writtenOf key) then return found
    return .undefined (.member holder shown)
  return .undefined (.element holder shown)

/-- How messages name a sequence that is asked for a place that it does not have. -/
def sequenceName (o : Object) : String :=
  match o with
  | .span .. => "range"
  | .list _ => "list"
  | .halved _ => "string"
  | o => if o.text?.isSome then "string" else "tuple"

/-- The item of an object under a key, which has to be there. -/
def requiredItem (o key : Object) : Act Object := do
  checkDefined [o]
  if let .dict _ := o then checkKey key
  if let some found ← element? o key then return found
  match o with
  | .dict _ | .kinds | .blocks _ => refuse (.noEntry (← shownOf key))
  | .maker m => refuse (.makerNotSubscriptable m.typeName)
  | o =>
    if !isSequence o then refuse (.notSubscriptable (← typeOf o))
    if key.integer?.isNone then refuse (.notPlace (sequenceName o) (← typeOf key))
    refuse (.beyondEnd (if let .span .. := o then "range object" else sequenceName o))

/-! ### Slices -/

/-- A bound of a slice, if it is given. -/
def sliceBound? (o : Object) : Act (Option Int) := do
  match o, o.integer? with
  | .none, _ => return none
  | _, some i => return some i
  | _, none => refuse .sliceBound

/-- The span of the places of a slice of as many items as `length`: its start, where it stops
before, and its step. -/
def sliceSpan (length : Nat) (start stop step : Object) : Act (Int × Int × Int) := do
  let step := (← sliceBound? step).getD 1
  if step = 0 then refuse .sliceStep
  let least : Int := if step < 0 then -1 else 0
  let most : Int := if step < 0 then length - 1 else length
  let place (i : Int) := min (max (if i < 0 then i + length else i) least) most
  let start := (← sliceBound? start).elim (if step < 0 then most else least) place
  let stop := (← sliceBound? stop).elim (if step < 0 then least else most) place
  return (start, stop, step)

/-- The slice of an object. -/
def sliceOf (o start stop step : Object) : Act Object := do
  let cut {α : Type} (items : List α) : Act (List α) := do
    let (start, stop, step) ← sliceSpan items.length start stop step
    return (spanNumbers start stop step).filterMap fun i => items[i.toNat]?
  match o, o.text?, o.tuple? with
  | .undefined cause, _, _ => throw (.undefined cause)
  | .halved codes, _, _ => return .ofCodes (← cut codes)
  | .list r, _, _ => newList (← cut (← contents r))
  | .span first last distance, _, _ => do
    let (start, stop, step) ← sliceSpan (spanLength first last distance) start stop step
    return .span (first + start * distance) (first + stop * distance) (step * distance)
  | .dict _, _, _ | .kinds, _, _ | .blocks _, _, _ => refuse (.notHashable "slice")
  | .maker m, _, _ => refuse (.makerNotSubscriptable m.typeName)
  | o, some s, _ => return textLike o (String.ofList (← cut s.toList))
  | _, none, some items => return .tuple (← cut items)
  | o, none, none => refuse (.notSubscriptable (← typeOf o))

end MobileSchema.Template
