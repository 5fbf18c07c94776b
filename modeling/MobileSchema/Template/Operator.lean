import MobileSchema.Number.Arithmetic
import MobileSchema.Template.Comparison
import MobileSchema.Template.Format.Marks

/-!
# Operators

What the operations of expressions answer.  Whole numbers are exact, and an operation with a
fraction in it is done in fractions.
-/

namespace MobileSchema.Template

/-! ### Calculation -/

/-- The sign of an operation. -/
def Operation.sign : Operation → String
  | add => "+"
  | subtract => "-"
  | multiply => "*"
  | divide => "/"
  | floorDivide => "//"
  | remainder => "%"
  | power => "** or pow()"

/-- A power of fractions. -/
def raise (x y : Float) : Act Object := do
  if x == 0.0 && y < 0.0 && !y.isInf then refuse (.byZero true .power)
  (powerOf? x y).elim (refuse .powerTooLarge) fun power => return .fraction power

/-- The quotient of two integers. -/
def quotientOf (a b : Int) : Act Object := do
  if b = 0 then refuse (.byZero false .divide)
  if a = 0 then return .fraction (if b < 0 then -0.0 else 0.0)
  match floatOfRatio? (if b < 0 then -a else a) b.natAbs with
  | some x => return .fraction x
  | none => refuse .quotientTooLarge

/-- An operation on whole numbers. -/
def calculate (operation : Operation) (a b : Int) : Act Object := do
  match operation with
  | .add => return .number (a + b)
  | .subtract => return .number (a - b)
  | .multiply => return .number (a * b)
  | .divide => quotientOf a b
  | .floorDivide =>
    if b = 0 then refuse (.byZero false .floorDivide) else return .number (a.fdiv b)
  | .remainder =>
    if b = 0 then refuse (.byZero false .remainder) else return .number (a.fmod b)
  | .power =>
    if 0 ≤ b then return .number (Int.pow a b.toNat)
    else
      let x ← fractionOfInteger a
      raise x (← fractionOfInteger b)

/-- An operation on fractions. -/
def calculateFractions (operation : Operation) (a b : Float) : Act Object := do
  match operation with
  | .add => return .fraction (a + b)
  | .subtract => return .fraction (a - b)
  | .multiply => return .fraction (a * b)
  | .divide => if b == 0 then refuse (.byZero true .divide) else return .fraction (a / b)
  | .floorDivide =>
    if b == 0 then refuse (.byZero true .floorDivide) else return .fraction (floorQuotient a b)
  | .remainder =>
    if b == 0 then refuse (.byZero true .remainder) else return .fraction (moduloOf a b)
  | .power => raise a b

/-- Whether an object is a number. -/
def isNumber (o : Object) : Bool := o.integer?.isSome || o matches .fraction _

/-! ### Sequences -/

/-- Items so many times in a row. -/
def repeated {α : Type} (items : List α) (n : Int) : List α :=
  (List.replicate n.toNat items).flatten

/-- Whether an object has its items in a row. -/
def isRow (o : Object) : Bool := o.codes?.isSome || o.tuple?.isSome || o matches .list _

/-- Two texts with halves of surrogate pairs in them, one behind the other. -/
def joinHalved (a b : Object) : Act Object := do
  match a, b, a.codes?, b.codes? with
  | .markup _, _, _, _ | _, .markup _, _, _ => throw (.undescribed .halves)
  | _, _, some codes, some others => return .ofCodes (codes ++ others)
  | _, _, some _, none => refuse (.concatenation "str" (← typeOf b))
  | .list _, _, none, _ => refuse (.concatenation "list" "str")
  | _, _, none, _ =>
    if a.tuple?.isSome then refuse (.concatenation "tuple" "str")
    else refuse (.unsupported "+" (← typeOf a) "str")

/-- Two sequences, one behind the other. -/
def joinSequences (a b : Object) : Act Object := do
  if a matches .halved _ || b matches .halved _ then return ← joinHalved a b
  let left ← typeOf a
  let right ← typeOf b
  match a, b, a.text?, b.text? with
  | .markup s, b, _, some _ => return .markup (s ++ (← safeOf b))
  | a, .markup s, some _, _ => return .markup ((← safeOf a) ++ s)
  | .markup _, _, _, none => refuse (.unsupported "+" left right)
  | _, _, some s, some t => return .text (s ++ t)
  | _, _, some _, none => refuse (.concatenation "str" right)
  | .list r, .list r', _, _ => newList ((← contents r) ++ (← contents r'))
  | .list _, _, _, _ => refuse (.concatenation "list" right)
  | a, b, none, _ =>
    match a.tuple?, b.tuple? with
    | some items, some others => return .tuple (items ++ others)
    | some _, none => refuse (.concatenation "tuple" right)
    | none, _ => refuse (.unsupported "+" left right)

/-- A sequence so many times in a row, if the object is a sequence. -/
def repeatSequence? (o : Object) (n : Int) : Act (Option Object) := do
  if isRow o && !fitsWord n then refuse .tooMany
  match o, o.text?, o.tuple? with
  | .list r, _, _ => return some (← newList (repeated (← contents r) n))
  | .halved codes, _, _ => return some (.ofCodes (repeated codes n))
  | o, some s, _ => return some (textLike o (String.ofList (repeated s.toList n)))
  | _, none, some items => return some (.tuple (repeated items n))
  | _, none, none => return none

/-- An object in a row, as often as another says. -/
def multiply (a b : Object) : Act Object := do
  match a, b, a.integer?, b.integer? with
  | .markup _, b, _, none => refuse (.notInteger (← typeOf b))
  | a, .markup _, none, _ => refuse (.notInteger (← typeOf a))
  | _, _, some n, _ =>
    match ← repeatSequence? b n with
    | some o => return o
    | none => refuse (.unsupported "*" (← typeOf a) (← typeOf b))
  | _, _, _, some n =>
    match ← repeatSequence? a n with
    | some o => return o
    | none => refuse (.unsupported "*" (← typeOf a) (← typeOf b))
  | _, _, none, none =>
    if isRow a then refuse (.repetition (← typeOf b))
    else if isRow b then refuse (.repetition (← typeOf a))
    else refuse (.unsupported "*" (← typeOf a) (← typeOf b))

/-! ### Operations -/

/-- What an operation answers. -/
def operate (operation : Operation) (a b : Object) : Act Object := do
  if operation = .remainder && a.codes?.isSome then return ← fillMarks a b
  checkDefined [a, b]
  match a, b, a.integer?, b.integer? with
  | _, _, some m, some n => calculate operation m n
  | .fraction x, .fraction y, _, _ => calculateFractions operation x y
  | .fraction x, _, _, some n => do calculateFractions operation x (← fractionOfInteger n)
  | _, .fraction y, some m, _ => do calculateFractions operation (← fractionOfInteger m) y
  | _, _, _, _ =>
    match operation with
    | .add => joinSequences a b
    | .multiply => multiply a b
    | operation => refuse (.unsupported operation.sign (← typeOf a) (← typeOf b))

/-- A number under a sign. -/
def operateSign (sign : String) (negated : Bool) (o : Object) : Act Object := do
  checkDefined [o]
  match o.integer?, o with
  | some n, _ => return .number (if negated then -n else n)
  | none, .fraction x => return .fraction (if negated then -x else x)
  | none, o => refuse (.badOperand sign (← typeOf o))

end MobileSchema.Template
