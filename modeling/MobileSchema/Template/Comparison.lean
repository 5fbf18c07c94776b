import MobileSchema.Number.Ratio
import MobileSchema.Template.Element
import MobileSchema.Text.Search

/-!
# Comparing objects

Order between objects, membership, and sorting.  Numbers are ordered by their exact values, texts by
their characters, and lists by the first items that differ.  A list is sorted by inserting one item
after another, so that items which are equal keep their order.
-/

namespace MobileSchema.Template

/-! ### Order -/

/-- How an integer compares to a fraction; a fraction that is no number compares to none. -/
def compareToFraction (n : Int) (x : Float) : Option Ordering :=
  if x.isNaN then none
  else match ratioOf? x with
    | some (p, q) => some (compare (n * q) p)
    | none => some (if isNegative x then .gt else .lt)

/-- How two fractions compare. -/
def compareFractions (x y : Float) : Option Ordering :=
  if x < y then some .lt else if y < x then some .gt else if x == y then some .eq else none

/-- How two objects compare, if both are numbers. -/
def orderOfNumbers? (a b : Object) : Option (Option Ordering) :=
  match a, b, a.integer?, b.integer? with
  | _, _, some m, some n => some (some (compare m n))
  | _, .fraction y, some m, none => some (compareToFraction m y)
  | .fraction x, _, none, some n => some ((compareToFraction n x).map Ordering.swap)
  | .fraction x, .fraction y, none, none => some (compareFractions x y)
  | _, _, _, _ => none

/-- The sign of a comparison by order. -/
def Comparison.sign : Comparison → String
  | less => "<"
  | lessOrEqual => "<="
  | greater => ">"
  | greaterOrEqual => ">="
  | _ => "=="

/-- Whether a comparison by order holds. -/
def Comparison.holdsFor (comparison : Comparison) (ordering : Ordering) : Bool :=
  match comparison with
  | less => ordering = .lt
  | lessOrEqual => ordering ≠ .gt
  | greater => ordering = .gt
  | greaterOrEqual => ordering ≠ .lt
  | _ => false

/-- Whether a comparison by order holds between two objects, at a bound on the depth of holding. -/
def inOrderAt (comparison : Comparison) : Nat → Object → Object → Act Bool
  | 0, _, _ => throw .endless
  | depth + 1, a, b => do
    checkDefined [a, b]
    let byItems (os os' : List Object) : Act Bool := do
      match ← (os.zip os').findM? fun (o, o') => return !(← isEqual o o') with
      | some (o, o') => inOrderAt comparison depth o o'
      | none => return comparison.holdsFor (compare os.length os'.length)
    match orderOfNumbers? a b, a.codes?, b.codes? with
    | some ordering, _, _ => return ordering.any comparison.holdsFor
    | _, some codes, some others => return comparison.holdsFor (compare codes others)
    | _, _, _ =>
      match a, b, a.tuple?, b.tuple? with
      | .list r, .list r', _, _ => byItems (← contents r) (← contents r')
      | _, _, some items, some items' => byItems items items'
      | _, _, _, _ => refuse (.notOrdered comparison.sign (← typeOf a) (← typeOf b))

/-- Whether a comparison by order holds between two objects. -/
def isInOrder (comparison : Comparison) (a b : Object) : Act Bool :=
  inOrderAt comparison holdingLimit a b

/-! ### Membership -/

/-- Whether an object is among those that a stream has still to give, at a bound on their number;
the stream goes on behind it. -/
def streamHolds (i : Nat) (o : Object) : Nat → Act Bool
  | 0 => return false
  | fuel + 1 => do
    match ← pullStream i with
    | none => return false
    | some item => if ← isEqual item o then return true else streamHolds i o fuel

/-- Whether an object holds another. -/
def holds (container o : Object) : Act Bool := do
  match container, container.codes?, o.codes? with
  | _, some codes, some part => return occursIn part codes
  | _, some _, none => refuse (.notTextInText (← typeOf o))
  | .dict i, _, _ | .view .keys i, _, _ => return (← entryOf? i o).isSome
  | .stream _ i, _, _ => streamHolds i o (((← get).streams[i]?.getD []).length + 1)
  | .kinds, _, _ =>
    match o with
    | .kind _ => return true
    | .language _ => return false
    | o => refuse (.unsupported "'in'" (← typeOf o) (← typeOf container))
  | .span start stop step, _, _ =>
    match numberOf? o with
    | some (.inl n) =>
      let behind := if 0 < step then start ≤ n && n < stop else stop < n && n ≤ start
      return behind && (n - start) % step = 0
    | _ =>
      checkUsable o
      return false
  | container, none, _ =>
    match ← items? container with
    | some items => return (← placeOf? items o).isSome
    | none => refuse (.notContainer (← typeOf container))

/-- Whether a comparison holds. -/
def compareBy (comparison : Comparison) (a b : Object) : Act Bool := do
  match comparison with
  | .equal => isEqual a b
  | .unequal => return !(← isEqual a b)
  | .within => holds b a
  | .notWithin => return !(← holds b a)
  | comparison => isInOrder comparison a b

/-! ### Sorting -/

section Sorting

variable {α : Type} (isBefore : α → α → Act Bool)

/-- The number of items behind an item that go on with its direction, up or strictly down. -/
def runLength (down : Bool) : α → List α → Act Nat
  | _, [] => return 0
  | a, b :: bs => do
    if (← isBefore b a) = down then return (← runLength down b bs) + 1 else return 0

/-- The place in sorted items, between two places, that an item comes to: behind all that it is not
before. -/
def placeIn (sorted : List α) (a : α) : Nat → Nat → Nat → Act Nat
  | 0, left, _ => return left
  | fuel + 1, left, right => do
    if right ≤ left then return left
    let middle := left + (right - left) / 2
    match sorted[middle]? with
    | none => return left
    | some b =>
      if ← isBefore a b then placeIn sorted a fuel left middle
      else placeIn sorted a fuel (middle + 1) right

/-- The items in order; those that are equal keep the order that they have. -/
def sortItems (items : List α) : Act (List α) := do
  match items with
  | a :: b :: rest =>
    let down ← isBefore b a
    let more ← runLength isBefore down b rest
    let (run, rest) := items.splitAt (more + 2)
    rest.foldlM (fun sorted a => do
      let place ← placeIn isBefore sorted a (sorted.length + 1) 0 sorted.length
      return sorted.insertIdx place a) (if down then run.reverse else run)
  | items => return items

end Sorting

/-- Items in the order of their keys, or in the opposite one. -/
def sortByKeys (items : List (Object × Object)) (reversed : Bool) : Act (List Object) := do
  let isBefore (a b : Object × Object) : Act Bool := isInOrder .less a.1 b.1
  if reversed then return ((← sortItems isBefore items.reverse).map (·.2)).reverse
  else return (← sortItems isBefore items).map (·.2)

end MobileSchema.Template
