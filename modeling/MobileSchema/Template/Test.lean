import MobileSchema.Template.FaultSort
import MobileSchema.Template.Filter.Basic

/-!
# Tests

What templates can ask about an object: whether it is there at all, of which sort it is, and how it
compares to another.
-/

namespace MobileSchema.Template

/-! ### Sorts -/

/-- Whether an object is of a sort that its form shows. -/
def sortTest (call : String) (isOfSort : Object → Bool) : Filter :=
  .unary call "value" fun o => return .bool (isOfSort o)

/-- Whether an object can be called. -/
def isCallable : Object → Bool
  | .function _ | .method .. | .kinds | .maker _ | .textMaker | .undefined _ | .loop _ | .routine _
  | .joiner _ | .block .. => true
  | _ => false

/-- Whether an object gives items. -/
def givesItems (o : Object) : Act Bool := do
  match o with
  | .undefined cause => if cause.isEmptyText then return true else throw (.undefined cause)
  | .stream .. | .loop _ | .span .. | .blocks _ => return true
  | o => return (← items? o).isSome

/-- Whether an object has a length, and items under places or keys. -/
def isSequenceLike (o : Object) : Act Bool := do
  match o with
  | .undefined cause => return cause.isEmptyText
  | .dict _ | .kinds => return true
  | .span start stop step => return spanLength start stop step < countLimit
  | .loop i =>
    let _ ← outcomeOf (Loop.settledLength i)
    return false
  | o => return isSequence o

/-! ### Identity -/

/-- Whether simple objects that were made apart from each other are one object all the same. -/
def isShared : Object → Bool
  | .number n => -5 ≤ n && n ≤ 256
  | .text s => s.length ≤ 1 && s.toList.all (·.toNat < 256)
  | .tuple items => items.isEmpty
  | .fraction _ | .halved _ | .markup _ | .list _ | .dict _ | .span .. => false
  | _ => true

/-- Whether two objects are one. -/
def isIdentical (isLiteral : Bool) (a b : Object) : Act Bool := do
  if (← typeOf a) ≠ (← typeOf b) || isUndefined a || a matches .method .. then return false
  if isLiteral && !isShared a then return false
  match a, b with
  | .list r, .list r' => return r = r'
  | .dict i, .dict i' => return i = i'
  | a, b => isEqual a b

/-! ### Numbers and order -/

/-- Whether a number leaves a rest when it is divided by another. -/
def leavesRest (o divisor : Object) (rest : Int) : Act Object := do
  return .bool (← isEqual (← operate .remainder o divisor) (.number rest))

/-- A comparison. -/
def orderTest (call : String) (comparison : Comparison) : Filter :=
  .simplePair "_operator." call fun a b => do return .bool (← compareBy comparison a b)

/-! ### All tests -/

/-- The tests. -/
def tests : List (String × Filter) :=
  let equal := orderTest "eq" .equal
  let unequal := orderTest "ne" .unequal
  let less := orderTest "lt" .less
  let lessOrEqual := orderTest "le" .lessOrEqual
  let greater := orderTest "gt" .greater
  let greaterOrEqual := orderTest "ge" .greaterOrEqual
  [("odd", .unary "test_odd" "value" fun o => leavesRest o (.number 2) 1),
    ("even", .unary "test_even" "value" fun o => leavesRest o (.number 2) 0),
    ("divisibleby", .binary "test_divisibleby" "value" "num" fun o other => leavesRest o other 0),
    ("defined", sortTest "test_defined" (!isUndefined ·)),
    ("undefined", sortTest "test_undefined" isUndefined),
    ("filter", .atDesk "test_filter" "env" "value" [] fun desk o _ => do
      return .bool (← desk.hasFilter o)),
    ("test", .atDesk "test_test" "env" "value" [] fun desk o _ => do
      return .bool (← desk.hasTest o)),
    ("none", sortTest "test_none" (· matches .none)),
    ("boolean", sortTest "test_boolean" (· matches .bool _)),
    ("false", sortTest "test_false" (· matches .bool false)),
    ("true", sortTest "test_true" (· matches .bool true)),
    ("integer", sortTest "test_integer" (· matches .number _)),
    ("float", sortTest "test_float" (· matches .fraction _)),
    ("lower", .unary "test_lower" "value" fun o => do
      callText (.text (← writtenOf o)) "islower" {}),
    ("upper", .unary "test_upper" "value" fun o => do
      callText (.text (← writtenOf o)) "isupper" {}),
    ("string", sortTest "test_string" (·.codes?.isSome)),
    ("mapping", sortTest "test_mapping" (· matches .dict _)),
    ("number", sortTest "test_number" isNumber),
    ("sequence", .unary "test_sequence" "value" fun o => do return .bool (← isSequenceLike o)),
    ("iterable", .unary "test_iterable" "value" fun o => do return .bool (← givesItems o)),
    ("callable", .simple "callable" fun o => return .bool (isCallable o)),
    ("sameas", .bound {
        call := "test_sameas", receiver := none, required := ["value", "other"] } false
      fun desk b => do
        return .bool (← isIdentical desk.isLiteral (b.find "value") (b.find "other"))),
    ("escaped", sortTest "test_escaped" fun o => o matches .markup _ || o matches .library ..),
    ("in", .binary "test_in" "value" "seq" fun o container => do
      return .bool (← holds container o)),
    ("==", equal), ("eq", equal), ("equalto", equal), ("!=", unequal), ("ne", unequal),
    (">", greater), ("gt", greater), ("greaterthan", greater), (">=", greaterOrEqual),
    ("ge", greaterOrEqual), ("<", less), ("lt", less), ("lessthan", less), ("<=", lessOrEqual),
    ("le", lessOrEqual)]

end MobileSchema.Template
