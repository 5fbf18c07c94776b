import MobileSchema.Template.Filter
import MobileSchema.Template.Tree

/-!
# Constants

An expression without names and calls is the same in every rendering.  So it is computed before the
template writes anything, and stands in the template as the value that it comes to, if that has a
written form.  A fault in it is left to the rendering, where the expression may never be reached;
only what decides a choice, or is an entry of a table, or is written into a text, is a fault at
once.

What is computed here leaves no traces in the state.
-/

namespace MobileSchema.Template

/-! ### What is constant -/

/-- A part of the search for constants, which comes to nothing where something is not constant. -/
abbrev Search (α : Type) := OptionT Act α

/-- What a part of the search comes to, unless there is a fault in it. -/
def unlessFaulty {α : Type} (a : Search α) : Search α := .mk (try a.run catch _ => return none)

/-- The slice of a constant, which is undefined if the constant has no such slice. -/
def constantSlice (o start stop step : Object) : Act Object := do
  match ← outcomeOf (sliceOf o start stop step) with
  | .ok o => return o
  | .error (.use .sliceStep) => refuse .sliceStep
  | .error (.use _) =>
    let bounds ← [start, stop, step].mapM shownOf
    let key := "slice(" ++ ", ".intercalate bounds ++ ")"
    return .undefined (.element (o.holder (← currentGraph)) key)
  | .error fault => throw fault

/-- The filters that need more than the template to be applied. -/
def unsettledFilters : List String :=
  ["map", "select", "reject", "selectattr", "rejectattr", "random"]

/-- The filter of a name, if it can be applied to constants. -/
def constantFilter? (table : FunctionTable) (safety : Safety) (name : String) : Option Filter :=
  if safety.depends || (unsettledFilters.contains name && (table.find? name).isNone) then none
  else filter? table name

/-- The test of a name, if it can be applied to constants. -/
def constantTest? (safety : Safety) (name : String) : Option Filter :=
  if safety.depends then none else test? name

/-- What is given to a filter or a test, with the items and entries of objects that are spread
out. -/
def constantGiven (places : List Object) (named : List (String × Object))
    (spreads entries : List Object) : Act Given := do
  let places := places ++ (← spreads.mapM itemsOf).flatten
  let named ← entries.foldlM (fun named o => do
    let .dict i := o | lackOf o "keys"
    (← entriesOf i).foldlM (fun named (key, value) => do
      let some name ← textIn? key | refuse .nameNotText
      return (named.filter fun (other, _) => other ≠ name) ++ [(name, value)]) named) named
  return { places, named }

section Constants

variable (table : FunctionTable) (safety : Safety)

mutual

/-- What an expression stands for, if it is constant. -/
def Expr.constant : Expr → Search Object
  | .text s => return .text s
  | .halved codes => return .halved codes
  | .markup s => return .markup s
  | .number n => return .number n
  | .fraction x => return .fraction x
  | .bool b => return .bool b
  | .none => return .none
  | .span start stop step => return .span start stop step
  | .name _ | .captured | .call .. | .spread _ | .spreadEntries _ => failure
  | .list items => do newList (← constants items)
  | .tuple items => do return .tuple (← constants items)
  | .dict entries => do newDict (← constantEntries [] entries)
  | .member object word => unlessFaulty do memberOf (← object.constant) word
  | .item object key => unlessFaulty do
    let o ← object.constant
    itemOf o (← key.constant)
  | .slice object start stop step => unlessFaulty do
    let o ← object.constant
    let start ← start.constant
    let stop ← stop.constant
    constantSlice o start stop (← step.constant)
  | .filter input word arguments names named => do
    let some found := constantFilter? table safety word | failure
    let places ← constants arguments
    let named := names.zip (← constants named)
    let spreads ← constantSpreads arguments
    let entries ← constantSpreadEntries arguments
    let o ← input.constant
    unlessFaulty do
      found.apply (deskOf table safety.isOn true) o
        (← constantGiven places named spreads entries)
  | .test subject word arguments names named => do
    let some found := constantTest? safety word | failure
    let places ← constants arguments
    let named := names.zip (← constants named)
    let spreads ← constantSpreads arguments
    let entries ← constantSpreadEntries arguments
    let o ← subject.constant
    unlessFaulty do
      found.apply (deskOf table safety.isOn true) o
        (← constantGiven places named spreads entries)
  | .not e => unlessFaulty do return .bool !(← truthOf (← e.constant))
  | .negate e => unlessFaulty do operateSign "-" true (← e.constant)
  | .plus e => unlessFaulty do operateSign "+" false (← e.constant)
  | .binary operation left right => unlessFaulty do
    let a ← left.constant
    operate operation a (← right.constant)
  | .compare first comparisons others => do
    let o ← first.constant
    unlessFaulty do return .bool (← constantChain o comparisons others)
  | .and left right => do
    let o ← left.constant
    if ← truthOf o then right.constant else return o
  | .or left right => do
    let o ← left.constant
    if ← truthOf o then return o else right.constant
  | .choose condition whenTrue whenFalse => do
    if ← truthOf (← condition.constant) then whenTrue.constant else whenFalse.constant
  | .chooseOnly condition whenTrue _ => do
    if ← truthOf (← condition.constant) then whenTrue.constant else failure
  | .concat parts => do return .ofCodes (← constantCodes parts)
  | .settled _ value => value.constant

/-- What expressions stand for by place, if all of them are constant. -/
def Expr.constants : List Expr → Search (List Object)
  | [] => return []
  | e :: es => do
    match e with
    | .spread _ | .spreadEntries _ => constants es
    | e => do
      let o ← e.constant
      return o :: (← constants es)

/-- What the expressions stand for whose items are spread out, if all of them are constant. -/
def Expr.constantSpreads : List Expr → Search (List Object)
  | [] => return []
  | e :: es => do
    match e with
    | .spread e => unlessFaulty do
      let o ← e.constant
      return o :: (← constantSpreads es)
    | _ => constantSpreads es

/-- What the expressions stand for whose entries are spread out, if all of them are constant. -/
def Expr.constantSpreadEntries : List Expr → Search (List Object)
  | [] => return []
  | e :: es => do
    match e with
    | .spreadEntries e => unlessFaulty do
      let o ← e.constant
      return o :: (← constantSpreadEntries es)
    | _ => constantSpreadEntries es

/-- Whether an object compares with what expressions stand for, each with the next, up to the first
comparison that fails, if all that are compared are constant. -/
def Expr.constantChain (o : Object) : List Comparison → List Expr → Search Bool
  | comparison :: comparisons, e :: es => do
    let other ← e.constant
    if ← compareBy comparison o other then constantChain other comparisons es else return false
  | _, _ => return true

/-- Entries of a table with those that expressions stand for, if all of them are constant. -/
def Expr.constantEntries (made : List (Object × Object)) :
    List (Expr × Expr) → Search (List (Object × Object))
  | [] => return made
  | (key, value) :: entries => do
    let k ← key.constant
    let v ← value.constant
    constantEntries (← putEntry made k v) entries

/-- What is written for expressions one after another, by the numbers of its characters, if all of
them are constant. -/
def Expr.constantCodes : List Expr → Search (List Nat)
  | [] => return []
  | e :: es => do
    let codes ← writtenCodes (← e.constant)
    return codes ++ (← constantCodes es)

end

/-! ### Written forms -/

/-- The expression that an object is written as in a template, if there is one, at a bound on the
depth of holding. -/
def literalAt : Nat → Object → Act (Option Expr)
  | 0, _ => return none
  | depth + 1, o => do
    let literals (os : List Object) : Act (Option (List Expr)) := do
      return (← os.mapM (literalAt depth)).mapM id
    match o with
    | .none => return some .none
    | .bool b => return some (.bool b)
    | .number n => return some (.number n)
    | .fraction x => return some (.fraction x)
    | .text s => return some (.text s)
    | .halved codes => return some (.halved codes)
    | .markup s => return some (.markup s)
    | .span start stop step => return some (.span start stop step)
    | .list r => return (← literals (← contents r)).map .list
    | .tuple items => return (← literals items).map .tuple
    | .dict i => do
      let entries ← entriesOf i
      let keys ← literals (entries.map (·.1))
      let values ← literals (entries.map (·.2))
      return keys.bind fun keys => values.map fun values => .dict (keys.zip values)
    | _ => return none

/-- What an act comes to, without the changes that it makes. -/
def withoutTraces {α : Type} (a : Act α) : Act α := do
  let state ← get
  let result ← a
  set state
  return result

/-- An expression that stands for a value in the place of another. -/
def Expr.replacedBy (e value : Expr) : Expr := if e.names = [] then value else .settled e value

/-- An expression, or the constant that it comes to, if that has a written form. -/
def Expr.folded (e : Expr) : Act Expr := withoutTraces do
  match ← (e.constant table safety).run with
  | Option.none => return e
  | some o => return (← literalAt holdingLimit o).elim e e.replacedBy

mutual

/-- An expression with its constant parts replaced by what they come to, the inner ones first. -/
def Expr.reduced : Expr → Act Expr
  | .text s => return .text s
  | .halved codes => return .halved codes
  | .markup s => return .markup s
  | .number n => return .number n
  | .fraction x => return .fraction x
  | .bool b => return .bool b
  | .none => return .none
  | .span start stop step => return .span start stop step
  | .name s => return .name s
  | .captured => return .captured
  | .settled e value => return .settled e value
  | .spread e => return .spread (← e.reduced)
  | .spreadEntries e => return .spreadEntries (← e.reduced)
  | .list items => do folded table safety (.list (← reducedAll items))
  | .tuple items => do folded table safety (.tuple (← reducedAll items))
  | .dict entries => do folded table safety (.dict (← reducedEntries entries))
  | .member object word => do folded table safety (.member (← object.reduced) word)
  | .item object key => do
    let object ← object.reduced
    folded table safety (.item object (← key.reduced))
  | .slice object start stop step => do
    let object ← object.reduced
    let start ← start.reduced
    let stop ← stop.reduced
    folded table safety (.slice object start stop (← step.reduced))
  | .call function arguments names named => do
    let function ← function.reduced
    let arguments ← reducedAll arguments
    return .call function arguments names (← reducedAll named)
  | .filter input word arguments names named => do
    let input ← input.reduced
    let arguments ← reducedAll arguments
    folded table safety (.filter input word arguments names (← reducedAll named))
  | .test subject word arguments names named => do
    let subject ← subject.reduced
    let arguments ← reducedAll arguments
    folded table safety (.test subject word arguments names (← reducedAll named))
  | .not e => do folded table safety (.not (← e.reduced))
  | .negate e => do folded table safety (.negate (← e.reduced))
  | .plus e => do folded table safety (.plus (← e.reduced))
  | .or left right => do
    let left ← left.reduced
    folded table safety (.or left (← right.reduced))
  | .and left right => do
    let left ← left.reduced
    folded table safety (.and left (← right.reduced))
  | .binary operation left right => do
    let left ← left.reduced
    folded table safety (.binary operation left (← right.reduced))
  | .compare first comparisons others => do
    let first ← first.reduced
    folded table safety (.compare first comparisons (← reducedAll others))
  | .choose condition whenTrue whenFalse => do
    let condition ← condition.reduced
    let whenTrue ← whenTrue.reduced
    folded table safety (.choose condition whenTrue (← whenFalse.reduced))
  | .chooseOnly condition whenTrue line => do
    let condition ← condition.reduced
    folded table safety (.chooseOnly condition (← whenTrue.reduced) line)
  | .concat parts => do folded table safety (.concat (← reducedAll parts))

/-- Expressions with their constant parts replaced by what they come to. -/
def Expr.reducedAll : List Expr → Act (List Expr)
  | [] => return []
  | e :: es => do
    let e ← e.reduced
    return e :: (← reducedAll es)

/-- The entries of a table with their constant parts replaced by what they come to. -/
def Expr.reducedEntries : List (Expr × Expr) → Act (List (Expr × Expr))
  | [] => return []
  | (key, value) :: entries => do
    let key ← key.reduced
    let value ← value.reduced
    return (key, value) :: (← reducedEntries entries)

end

/-! ### Missing filters and tests -/

mutual

/-- Refuses an expression whose filters or tests there are not, unless it stands under a condition,
and one with an integer that has too many digits to be written. -/
def Expr.check (conditional : Bool) : Expr → Act Unit
  | .text _ | .halved _ | .markup _ | .fraction _ | .bool _ | .none | .name _ | .captured => return
  | .number n => do
    let _ ← numberText n
  | .span start stop step => [start, stop, step].forM fun n => do
    let _ ← numberText n
  | .list items | .tuple items | .concat items => checkAll conditional items
  | .dict entries => checkEntries conditional entries
  | .member object _ => object.check conditional
  | .item object key => do
    object.check conditional
    key.check conditional
  | .slice object start stop step => do
    object.check conditional
    start.check conditional
    stop.check conditional
    step.check conditional
  | .call function arguments _ named => do
    function.check conditional
    checkAll conditional arguments
    checkAll conditional named
  | .filter input word arguments _ named => do
    if !conditional && !hasFilter table word then throw (.unknownFilter word)
    input.check conditional
    checkAll conditional arguments
    checkAll conditional named
  | .test subject word arguments _ named => do
    if !conditional && !hasTest word then throw (.unknownTest word)
    subject.check conditional
    checkAll conditional arguments
    checkAll conditional named
  | .spread e | .spreadEntries e | .not e | .negate e | .plus e => e.check conditional
  | .or left right | .and left right | .binary _ left right => do
    left.check conditional
    right.check conditional
  | .compare first _ others => do
    first.check conditional
    checkAll conditional others
  | .choose condition whenTrue whenFalse => do
    whenTrue.check true
    condition.check true
    whenFalse.check true
  | .chooseOnly condition whenTrue _ => do
    whenTrue.check true
    condition.check true
  | .settled _ value => value.check conditional

/-- Refuses expressions whose filters or tests there are not. -/
def Expr.checkAll (conditional : Bool) : List Expr → Act Unit
  | [] => return
  | e :: es => do
    e.check conditional
    checkAll conditional es

/-- Refuses entries of a table whose filters or tests there are not. -/
def Expr.checkEntries (conditional : Bool) : List (Expr × Expr) → Act Unit
  | [] => return
  | (key, value) :: entries => do
    key.check conditional
    value.check conditional
    checkEntries conditional entries

end

mutual

/-- An expression as it is evaluated, with its constant parts replaced by what they come to.  A list
or a table that stands by itself is made anew each time. -/
def Expr.prepared (conditional : Bool) : Expr → Act Expr
  | .list items => return .list (← preparedAll conditional items)
  | .tuple items => return .tuple (← preparedAll conditional items)
  | .dict entries => return .dict (← preparedEntries conditional entries)
  | e => do
    let e ← if safety.depends then pure e else e.reduced table safety
    e.check table conditional
    return e

/-- Expressions as they are evaluated. -/
def Expr.preparedAll (conditional : Bool) : List Expr → Act (List Expr)
  | [] => return []
  | e :: es => do
    let e ← e.prepared conditional
    return e :: (← preparedAll conditional es)

/-- The entries of a table as they are evaluated. -/
def Expr.preparedEntries (conditional : Bool) : List (Expr × Expr) → Act (List (Expr × Expr))
  | [] => return []
  | (key, value) :: entries => do
    let key ← key.prepared conditional
    let value ← value.prepared conditional
    return (key, value) :: (← preparedEntries conditional entries)

end

end Constants

end MobileSchema.Template
