import MobileSchema.Template.Shown

/-!
# Equality of objects, and tables

Numbers are compared by their values, texts by their characters, what holds others by what it holds,
and all else by identity.  A table has one entry for keys that are equal.
-/

namespace MobileSchema.Template

/-! ### Equality -/

/-- The number that an object is, as a fraction if it is none of the integers. -/
def numberOf? : Object → Option (Int ⊕ Float)
  | .fraction x => some ((floatToInt? x).elim (.inr x) .inl)
  | o => o.integer?.map .inl

/-- Whether two objects are one, or equal as simple values. -/
def isSame (a b : Object) : Bool :=
  match a, b with
  | .none, .none | .kinds, .kinds | .textMaker, .textMaker => true
  | .halved codes, .halved codes' => codes = codes'
  | .maker m, .maker m' => m = m'
  | .stream _ i, .stream _ i' | .record i, .record i' | .cycler i, .cycler i'
  | .joiner i, .joiner i' | .loop i, .loop i' | .routine i, .routine i' => i = i'
  | .library r body, .library r' body' => r = r' && body = body'
  | .blocks r, .blocks r' => r = r'
  | .schema s, .schema s' => s = s'
  | .model m, .model m' => m = m'
  | .property p, .property p' => p = p'
  | .function f, .function f' => f.call = f'.call
  | a, b =>
    match a.text?, b.text?, numberOf? a, numberOf? b with
    | some s, some s', _, _ => s = s'
    | _, _, some (.inl n), some (.inl n') => n = n'
    | _, _, some (.inr x), some (.inr x') => x == x'
    | _, _, _, _ => false

/-- Whether two objects are equal, at a bound on the depth of holding. -/
def equalAt : Nat → Object → Object → Act Bool
  | 0, _, _ => throw .endless
  | depth + 1, a, b => do
    let allEqual (as bs : List Object) : Act Bool := do
      if as.length ≠ bs.length then return false
      (as.zip bs).allM fun (a, b) => equalAt depth a b
    let sameSet (as bs : List Object) : Act Bool := do
      if as.length ≠ bs.length then return false
      as.allM fun a => bs.anyM (equalAt depth a ·)
    match a, b with
    | .undefined cause, .undefined other =>
      if !cause.isEmptyText then throw (.undefined cause)
      if !other.isEmptyText then throw (.undefined other)
      return true
    | .undefined cause, _ | _, .undefined cause =>
      if cause.isEmptyText then return false else throw (.undefined cause)
    | .list r, .list r' => if r = r' then return true else allEqual (← contents r) (← contents r')
    | .dict i, .dict i' =>
      if i = i' then return true
      let entries ← entriesOf i
      let others ← entriesOf i'
      if entries.length ≠ others.length then return false
      entries.allM fun (key, value) =>
        others.anyM fun (key', value') => do
          if ← equalAt depth key key' then equalAt depth value value' else return false
    | .view .values i, .view .values i' => return i = i'
    | .view part i, .view part' i' =>
      if part = .values || part' = .values then return false
      sameSet (part.of (← entriesOf i)) (part'.of (← entriesOf i'))
    | .span start stop step, .span start' stop' step' =>
      let n := spanLength start stop step
      return n = spanLength start' stop' step' &&
        (n = 0 || start = start' && (n = 1 || step = step'))
    | .withComma data comma, .withComma data' comma' =>
      if ← equalAt depth data data' then return comma = comma' else return false
    | .pair ios android, .pair ios' android' => allEqual [ios, android] [ios', android']
    | .method receiver m, .method receiver' m' =>
      if m = m' then equalAt depth receiver receiver' else return false
    | .block r name depth, .block r' name' depth' =>
      return r = r' && name = name' && depth = depth'
    | a, b =>
      match a.tuple?, b.tuple? with
      | some items, some items' => allEqual items items'
      | _, _ => return isSame a b

/-- Whether two objects are equal. -/
def isEqual (a b : Object) : Act Bool := equalAt holdingLimit a b

/-- The place of the first item that equals an object. -/
def placeOf? (items : List Object) (o : Object) : Act (Option Nat) := do
  let found ← items.zipIdx.findM? fun (item, _) => isEqual item o
  return found.map (·.2)

/-! ### Keys -/

mutual

/-- Refuses what cannot be a key of a table. -/
def checkKey : Object → Act Unit
  | .undefined cause => if cause.isEmptyText then return else throw (.undefined cause)
  | .list r => do refuse (.notHashable (← typeOf (.list r)))
  | .dict _ => refuse (.notHashable "dict")
  | .view .keys _ => refuse (.notHashable "dict_keys")
  | .view .items _ => refuse (.notHashable "dict_items")
  | .tuple items => checkKeys items
  | .group agreed items => do
    checkKey agreed
    checkKey items
  | .withComma data _ => checkKey data
  | .pair ios android => do
    checkKey ios
    checkKey android
  | _ => return

/-- Refuses what cannot be in a key of a table. -/
def checkKeys : List Object → Act Unit
  | [] => return
  | o :: os => do
    checkKey o
    checkKeys os

end

/-! ### Entries -/

/-- The entry of a table for a key. -/
def entryOf? (i : Nat) (key : Object) : Act (Option (Object × Object)) := do
  checkKey key
  (← entriesOf i).findM? fun (own, _) => isEqual own key

/-- Puts an entry into a table; a key that is there keeps its place and takes the new value. -/
def putEntry (entries : List (Object × Object)) (key value : Object) :
    Act (List (Object × Object)) := do
  checkKey key
  match ← placeOf? (entries.map (·.1)) key with
  | some i => return entries.modify i fun e => (e.1, value)
  | none => return entries ++ [(key, value)]

end MobileSchema.Template
