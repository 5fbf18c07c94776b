import MobileSchema.Template.Context

/-!
# What expressions stand for

An expression is evaluated from left to right, and what it changes is seen by all that follows.
-/

namespace MobileSchema.Template

/-! ### Parts -/

/-- A fraction of a template.  What is infinite, or no number, has no written form that a template
could be made of. -/
def literalFraction (x : Float) : Act Object := do
  if isFinite x then return .fraction x
  else refuse (.noLiteral (if x.isNaN then "nan" else "inf"))

/-- An object as a part of a text: a text as it is, or the text that is written for it. -/
def softPart (o : Object) : Act Object := do
  if o.codes?.isSome then return o else return .text (← writtenOf o)

/-- Objects as one text; where outputs are made safe for a page, one safe text among them makes the
whole safe. -/
def concatenated (isSafe : Bool) (os : List Object) : Act Object := do
  if !isSafe then return .ofCodes (← os.mapM writtenCodes).flatten
  let parts ← os.mapM softPart
  if parts.any (· matches .markup _) then return .markup (String.join (← parts.mapM safeOf))
  else return .ofCodes (parts.filterMap (·.codes?)).flatten

/-! ### Expressions -/

section Values

variable (context : Context) (scope : Scope)

mutual

/-- What an expression stands for. -/
def Expr.value : Expr → Act Object
  | .text s => return .text s
  | .halved codes => return .halved codes
  | .markup s => return .markup s
  | .number n => return .number n
  | .fraction x => literalFraction x
  | .bool b => return .bool b
  | .none => return .none
  | .list items => do newList (← values items)
  | .tuple items => do return .tuple (← values items)
  | .dict entries => do
    let entries ← entryValues entries
    newDict (← entries.foldlM (fun made e => putEntry made e.1 e.2) [])
  | .span start stop step => return .span start stop step
  | .name s => return scope.find s
  | .captured => return scope.captured
  | .member object word => do memberOf (← object.value) word
  | .item object key => do
    let object ← object.value
    itemOf object (← key.value)
  | .slice object start stop step => do
    let object ← object.value
    let start ← start.value
    let stop ← stop.value
    sliceOf object start stop (← step.value)
  | .call function arguments names named => do
    let function ← function.value
    let places ← placedValues arguments
    let named := names.zip (← values named)
    let given ← Given.spread { places, named } callName (← spreadValues arguments)
    callOf context.run (← escapesIn scope.rendering) function given
  | .filter input word arguments names named => do
    let some found := filter? context.table word | do
      let _ ← input.value
      let _ ← values arguments
      let _ ← values named
      throw (.missingFilter word)
    let o ← input.value
    let places ← placedValues arguments
    let named := names.zip (← values named)
    let given ← Given.spread { places, named } (found.spreadName "jinja2.filters.")
      (← spreadValues arguments)
    found.apply (← context.desk scope) o given
  | .test subject word arguments names named => do
    let some found := test? word | do
      let _ ← subject.value
      let _ ← values arguments
      let _ ← values named
      throw (.missingTest word)
    let o ← subject.value
    let places ← placedValues arguments
    let named := names.zip (← values named)
    let given ← Given.spread { places, named } (found.spreadName "jinja2.tests.")
      (← spreadValues arguments)
    found.apply (← context.desk scope) o given
  | .spread e => e.value
  | .spreadEntries e => e.value
  | .settled _ value => value.value
  | .not e => do return .bool !(← truthOf (← e.value))
  | .negate e => do operateSign "-" true (← e.value)
  | .plus e => do operateSign "+" false (← e.value)
  | .or left right => do
    let o ← left.value
    if ← truthOf o then return o else right.value
  | .and left right => do
    let o ← left.value
    if ← truthOf o then right.value else return o
  | .binary operation left right => do
    let a ← left.value
    operate operation a (← right.value)
  | .compare first comparisons others => do
    let o ← first.value
    return .bool (← comparedInTurn o comparisons others)
  | .choose condition whenTrue whenFalse => do
    if ← truthOf (← condition.value) then whenTrue.value else whenFalse.value
  | .chooseOnly condition whenTrue line => do
    if ← truthOf (← condition.value) then whenTrue.value
    else return .undefined (.noAlternative line context.template)
  | .concat parts => do
    let parts ← values parts
    concatenated (context.safety.isOn && !context.safety.depends) parts

/-- Whether an object compares with what expressions stand for, each with the next, up to the first
comparison that fails. -/
def Expr.comparedInTurn (o : Object) : List Comparison → List Expr → Act Bool
  | comparison :: comparisons, e :: es => do
    let other ← e.value
    if ← compareBy comparison o other then comparedInTurn other comparisons es else return false
  | _, _ => return true

/-- What expressions stand for, from left to right. -/
def Expr.values : List Expr → Act (List Object)
  | [] => return []
  | e :: es => do
    let o ← e.value
    return o :: (← values es)

/-- What expressions give by place, with the items of those that are spread out. -/
def Expr.placedValues : List Expr → Act (List Object)
  | [] => return []
  | e :: es => do
    match e with
    | .spread e => do
      let items ← spreadItems (← e.value)
      return items ++ (← placedValues es)
    | .spreadEntries _ => placedValues es
    | e => do
      let o ← e.value
      return o :: (← placedValues es)

/-- What the expressions stand for whose entries are spread out as arguments by name. -/
def Expr.spreadValues : List Expr → Act (List Object)
  | [] => return []
  | e :: es => do
    match e with
    | .spreadEntries e => do
      let o ← e.value
      return o :: (← spreadValues es)
    | _ => spreadValues es

/-- What the expressions of entries stand for, each key before its value. -/
def Expr.entryValues : List (Expr × Expr) → Act (List (Object × Object))
  | [] => return []
  | (key, e) :: entries => do
    let k ← key.value
    let o ← e.value
    return (k, o) :: (← entryValues entries)

end

end Values

end MobileSchema.Template
