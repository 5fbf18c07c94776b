import MobileSchema.Template.Reading.Lexemes

/-!
# Reading expressions

Expressions are read by precedence, the loosest first: choice, `or`, `and`, `not`, comparison, sum,
concatenation, product, power, sign, and what follows an operand (attributes, items, calls, filters
and tests).

Every function takes a bound on the depth of its work, which grows with the number of lexemes and is
never reached.
-/

namespace MobileSchema.Template

/-! ### Words and signs -/

/-- What a name stands for on its own. -/
def nameExpr (s : String) : Expr :=
  if s = "true" || s = "True" then .bool true
  else if s = "false" || s = "False" then .bool false
  else if s = "none" || s = "None" then .none
  else .name s

/-- Whether an operand follows, which a test takes for its argument. -/
def operandFollows : List Lexeme → Bool
  | .name s :: _ => s != "else" && s != "or" && s != "and"
  | .text _ :: _ | .number _ :: _ | .fraction .. :: _ => true
  | .sign s :: _ => s = "(" || s = "[" || s = "\x7b"
  | .broken _ :: _ | [] => false

/-- The operation of a sign for sums. -/
def sumOf? : Lexeme → Option Operation
  | .sign "+" => some .add
  | .sign "-" => some .subtract
  | _ => none

/-- The operation of a sign for products. -/
def productOf? : Lexeme → Option Operation
  | .sign "*" => some .multiply
  | .sign "/" => some .divide
  | .sign "//" => some .floorDivide
  | .sign "%" => some .remainder
  | _ => none

/-- The comparison that lexemes begin with, and the rest. -/
def comparison? : List Lexeme → Option (Comparison × List Lexeme)
  | .sign "==" :: rest => some (.equal, rest)
  | .sign "!=" :: rest => some (.unequal, rest)
  | .sign "<" :: rest => some (.less, rest)
  | .sign "<=" :: rest => some (.lessOrEqual, rest)
  | .sign ">" :: rest => some (.greater, rest)
  | .sign ">=" :: rest => some (.greaterOrEqual, rest)
  | .name "in" :: rest => some (.within, rest)
  | .name "not" :: .name "in" :: rest => some (.notWithin, rest)
  | _ => none

/-- What stands for items in a row: one item for itself, unless a comma is behind it. -/
def rowExpr (items : List Expr) (comma bracketed : Bool) (rest : List Lexeme) : Reading Expr :=
  match items, comma with
  | [e], false => .ok e
  | [], _ => if bracketed then .ok (.tuple []) else unexpected rest
  | items, _ => .ok (.tuple items)

/-- What a call is given. -/
structure Arguments where
  places : List Expr := []
  names : List String := []
  named : List Expr := []

/-! ### Expressions -/

section Expressions

variable (lines : List Nat)

mutual

/-- An expression: one of two by a condition, or only one. -/
def choice : Nat → List Lexeme → Reading (Expr × List Lexeme)
  | 0, cs => unexpected cs
  | fuel + 1, cs => do
    let (e, rest) ← disjunction fuel cs
    choicesBehind fuel (lineOf lines cs) e rest

/-- The choices behind an expression. -/
def choicesBehind : Nat → Nat → Expr → List Lexeme → Reading (Expr × List Lexeme)
  | 0, _, _, cs => unexpected cs
  | fuel + 1, line, e, cs =>
    match behindName "if" cs with
    | none => return (e, cs)
    | some rest => do
      let (condition, rest) ← disjunction fuel rest
      match behindName "else" rest with
      | some rest =>
        let (other, rest) ← choice fuel rest
        choicesBehind fuel (lineOf lines rest) (.choose condition e other) rest
      | none => choicesBehind fuel (lineOf lines rest) (.chooseOnly condition e line) rest

/-- Conjunctions with `or` between them. -/
def disjunction : Nat → List Lexeme → Reading (Expr × List Lexeme)
  | 0, cs => unexpected cs
  | fuel + 1, cs => do
    let (e, rest) ← conjunction fuel cs
    disjunctionBehind fuel e rest

/-- The rest of a disjunction. -/
def disjunctionBehind : Nat → Expr → List Lexeme → Reading (Expr × List Lexeme)
  | 0, _, cs => unexpected cs
  | fuel + 1, left, cs =>
    match behindName "or" cs with
    | none => return (left, cs)
    | some rest => do
      let (right, rest) ← conjunction fuel rest
      disjunctionBehind fuel (.or left right) rest

/-- Negations with `and` between them. -/
def conjunction : Nat → List Lexeme → Reading (Expr × List Lexeme)
  | 0, cs => unexpected cs
  | fuel + 1, cs => do
    let (e, rest) ← negation fuel cs
    conjunctionBehind fuel e rest

/-- The rest of a conjunction. -/
def conjunctionBehind : Nat → Expr → List Lexeme → Reading (Expr × List Lexeme)
  | 0, _, cs => unexpected cs
  | fuel + 1, left, cs =>
    match behindName "and" cs with
    | none => return (left, cs)
    | some rest => do
      let (right, rest) ← negation fuel rest
      conjunctionBehind fuel (.and left right) rest

/-- A comparison, with `not` before it any number of times. -/
def negation : Nat → List Lexeme → Reading (Expr × List Lexeme)
  | 0, cs => unexpected cs
  | fuel + 1, cs =>
    match behindName "not" cs with
    | some rest => do
      let (e, rest) ← negation fuel rest
      return (.not e, rest)
    | none => comparison fuel cs

/-- Sums with comparisons between them. -/
def comparison : Nat → List Lexeme → Reading (Expr × List Lexeme)
  | 0, cs => unexpected cs
  | fuel + 1, cs => do
    let (e, rest) ← sum fuel cs
    match ← comparisonsBehind fuel rest with
    | ([], _, rest) => return (e, rest)
    | (comparisons, others, rest) => return (.compare e comparisons others, rest)

/-- The comparisons behind an expression, and what it is compared with. -/
def comparisonsBehind : Nat → List Lexeme → Reading (List Comparison × List Expr × List Lexeme)
  | 0, cs => unexpected cs
  | fuel + 1, cs =>
    match comparison? cs with
    | none => return ([], [], cs)
    | some (c, rest) => do
      let (e, rest) ← sum fuel rest
      let (comparisons, others, rest) ← comparisonsBehind fuel rest
      return (c :: comparisons, e :: others, rest)

/-- Concatenations that are added. -/
def sum : Nat → List Lexeme → Reading (Expr × List Lexeme)
  | 0, cs => unexpected cs
  | fuel + 1, cs => do
    let (e, rest) ← concatenation fuel cs
    sumBehind fuel e rest

/-- The rest of a sum. -/
def sumBehind : Nat → Expr → List Lexeme → Reading (Expr × List Lexeme)
  | 0, _, cs => unexpected cs
  | fuel + 1, left, cs =>
    match cs.head?.bind sumOf? with
    | none => return (left, cs)
    | some operation => do
      let (right, rest) ← concatenation fuel (cs.drop 1)
      sumBehind fuel (.binary operation left right) rest

/-- Products that are strung together. -/
def concatenation : Nat → List Lexeme → Reading (Expr × List Lexeme)
  | 0, cs => unexpected cs
  | fuel + 1, cs => do
    let (e, rest) ← product fuel cs
    match ← concatenationBehind fuel rest with
    | ([], rest) => return (e, rest)
    | (more, rest) => return (.concat (e :: more), rest)

/-- The rest of a concatenation. -/
def concatenationBehind : Nat → List Lexeme → Reading (List Expr × List Lexeme)
  | 0, cs => unexpected cs
  | fuel + 1, cs =>
    match behindSign "~" cs with
    | none => return ([], cs)
    | some rest => do
      let (e, rest) ← product fuel rest
      let (more, rest) ← concatenationBehind fuel rest
      return (e :: more, rest)

/-- Powers that are multiplied. -/
def product : Nat → List Lexeme → Reading (Expr × List Lexeme)
  | 0, cs => unexpected cs
  | fuel + 1, cs => do
    let (e, rest) ← power fuel cs
    productBehind fuel e rest

/-- The rest of a product. -/
def productBehind : Nat → Expr → List Lexeme → Reading (Expr × List Lexeme)
  | 0, _, cs => unexpected cs
  | fuel + 1, left, cs =>
    match cs.head?.bind productOf? with
    | none => return (left, cs)
    | some operation => do
      let (right, rest) ← power fuel (cs.drop 1)
      productBehind fuel (.binary operation left right) rest

/-- Operands raised to each other. -/
def power : Nat → List Lexeme → Reading (Expr × List Lexeme)
  | 0, cs => unexpected cs
  | fuel + 1, cs => do
    let (e, rest) ← signed fuel true cs
    powerBehind fuel e rest

/-- The rest of a power. -/
def powerBehind : Nat → Expr → List Lexeme → Reading (Expr × List Lexeme)
  | 0, _, cs => unexpected cs
  | fuel + 1, left, cs =>
    match behindSign "**" cs with
    | none => return (left, cs)
    | some rest => do
      let (right, rest) ← signed fuel true rest
      powerBehind fuel (.binary .power left right) rest

/-- An operand with all that follows it; behind a sign, filters and tests wait for the sign. -/
def signed : Nat → Bool → List Lexeme → Reading (Expr × List Lexeme)
  | 0, _, cs => unexpected cs
  | fuel + 1, filtered, cs => do
    let (e, rest) ← match cs with
      | .sign "-" :: rest => (signed fuel false rest).map fun (e, rest) => (Expr.negate e, rest)
      | .sign "+" :: rest => (signed fuel false rest).map fun (e, rest) => (Expr.plus e, rest)
      | cs => primary fuel cs
    let (e, rest) ← accesses fuel e rest
    if filtered then filtersAndTests fuel e rest else return (e, rest)

/-- A literal, a name or an expression in brackets. -/
def primary : Nat → List Lexeme → Reading (Expr × List Lexeme)
  | 0, cs => unexpected cs
  | fuel + 1, cs =>
    match cs with
    | .name s :: rest => return (nameExpr s, rest)
    | .number n :: rest => return (.number n, rest)
    | .fraction digits exponent :: rest =>
      return (.fraction (floatOfDecimal false digits exponent), rest)
    | .text _ :: _ =>
      let (codes, rest) := adjacentTexts cs
      return (.ofCodes codes, rest)
    | .sign "(" :: rest => do
      let (items, comma, rest) ← row fuel true none rest
      return (← rowExpr items comma true rest, ← expectSign ")" rest)
    | .sign "[" :: rest => do
      let (items, rest) ← itemsUpTo fuel "]" rest
      return (.list items, rest)
    | .sign "\x7b" :: rest => do
      let (made, rest) ← entries fuel rest
      return (.dict made, rest)
    | cs => unexpected cs

/-- Expressions in a row with commas between them, up to the end of a tag, a closing bracket or a
word: whether there is a comma, and the rest. -/
def row : Nat → Bool → Option String → List Lexeme → Reading (List Expr × Bool × List Lexeme)
  | 0, _, _, cs => unexpected cs
  | fuel + 1, choices, word, cs =>
    if cs = [] || startsWithSign ")" cs || word.any (startsWithName · cs) then
      return ([], false, cs)
    else do
      let (e, rest) ← if choices then choice fuel cs else disjunction fuel cs
      match behindSign "," rest with
      | none => return ([e], false, rest)
      | some rest =>
        let (more, _, rest) ← row fuel choices word rest
        return (e :: more, true, rest)

/-- Expressions with commas between them, up to a closing bracket; a comma may stand before it. -/
def itemsUpTo : Nat → String → List Lexeme → Reading (List Expr × List Lexeme)
  | 0, _, cs => unexpected cs
  | fuel + 1, closer, cs =>
    match behindSign closer cs with
    | some rest => return ([], rest)
    | none => do
      let (e, rest) ← choice fuel cs
      match behindSign closer rest with
      | some rest => return ([e], rest)
      | none =>
        let (more, rest) ← itemsUpTo fuel closer (← expectSign "," rest)
        return (e :: more, rest)

/-- The entries of a table, up to its closing bracket. -/
def entries : Nat → List Lexeme → Reading (List (Expr × Expr) × List Lexeme)
  | 0, cs => unexpected cs
  | fuel + 1, cs =>
    match behindSign "\x7d" cs with
    | some rest => return ([], rest)
    | none => do
      let (key, rest) ← choice fuel cs
      let (value, rest) ← choice fuel (← expectSign ":" rest)
      match behindSign "\x7d" rest with
      | some rest => return ([(key, value)], rest)
      | none =>
        let (more, rest) ← entries fuel (← expectSign "," rest)
        return ((key, value) :: more, rest)

/-- What a call is given, up to the closing bracket.  What is given by place comes first, then what
is given by name, then the arguments that are spread out. -/
def argumentsUpTo : Nat → Arguments → List Lexeme → Reading (Arguments × List Lexeme)
  | 0, _, cs => unexpected cs
  | fuel + 1, given, cs => do
    let hasEntries := given.places.any (· matches .spreadEntries _)
    let hasSpread := hasEntries || given.places.any (· matches .spread _)
    match cs with
    | .sign ")" :: rest => return (given, rest)
    | .sign "*" :: rest =>
      if hasSpread then unexpected cs
      let (e, rest) ← choice fuel rest
      moreArguments fuel { given with places := given.places ++ [.spread e] } rest
    | .sign "**" :: rest =>
      if hasEntries then unexpected cs
      let (e, rest) ← choice fuel rest
      moreArguments fuel { given with places := given.places ++ [.spreadEntries e] } rest
    | .name s :: .sign "=" :: rest =>
      if hasEntries then unexpected cs
      let (e, rest) ← choice fuel rest
      moreArguments fuel
        { given with names := given.names ++ [s], named := given.named ++ [e] } rest
    | cs =>
      if hasSpread || !given.names.isEmpty then unexpected cs
      let (e, rest) ← choice fuel cs
      moreArguments fuel { given with places := given.places ++ [e] } rest

/-- What a call is given behind a first argument. -/
def moreArguments : Nat → Arguments → List Lexeme → Reading (Arguments × List Lexeme)
  | 0, _, cs => unexpected cs
  | fuel + 1, given, cs =>
    match cs with
    | .sign ")" :: rest => return (given, rest)
    | .sign "," :: rest => argumentsUpTo fuel given rest
    | cs => unexpected cs

/-- A bound of a slice, if it is not left out. -/
def bound : Nat → List Lexeme → Reading (Expr × List Lexeme)
  | 0, cs => unexpected cs
  | fuel + 1, cs =>
    match cs with
    | .sign ":" :: _ | .sign "]" :: _ => return (.none, cs)
    | cs => choice fuel cs

/-- The item or slice of an operand that brackets name. -/
def bracketed : Nat → Expr → List Lexeme → Reading (Expr × List Lexeme)
  | 0, _, cs => unexpected cs
  | fuel + 1, e, cs => do
    let (start, rest) ← bound fuel cs
    match rest with
    | .sign ":" :: rest =>
      let (stop, rest) ← bound fuel rest
      let (step, rest) ← match rest with
        | .sign ":" :: rest => bound fuel rest
        | rest => pure (Expr.none, rest)
      return (.slice e start stop step, ← expectSign "]" rest)
    | _ =>
      let (keys, rest) ← keysIn fuel cs
      return (.item e (← rowExpr keys (keys.length != 1) true rest), ← expectSign "]" rest)

/-- Keys with commas between them, up to a closing bracket; no comma stands before it. -/
def keysIn : Nat → List Lexeme → Reading (List Expr × List Lexeme)
  | 0, cs => unexpected cs
  | fuel + 1, cs =>
    if startsWithSign "]" cs then return ([], cs)
    else do
      let (e, rest) ← choice fuel cs
      match behindSign "," rest with
      | none => return ([e], rest)
      | some rest =>
        let (more, rest) ← keysIn fuel rest
        if more.isEmpty then unexpected rest else return (e :: more, rest)

/-- The attributes, items and calls behind an operand. -/
def accesses : Nat → Expr → List Lexeme → Reading (Expr × List Lexeme)
  | 0, _, cs => unexpected cs
  | fuel + 1, e, cs =>
    match cs with
    | .sign "." :: .name s :: rest => accesses fuel (.member e s) rest
    | .sign "." :: .number n :: rest => accesses fuel (.item e (.number n)) rest
    | .sign "." :: rest => unexpected rest
    | .sign "[" :: rest => do
      let (e, rest) ← bracketed fuel e rest
      accesses fuel e rest
    | .sign "(" :: rest => do
      let (given, rest) ← argumentsUpTo fuel {} rest
      accesses fuel (.call e given.places given.names given.named) rest
    | cs => return (e, cs)

/-- What a filter or test is given in brackets, if there are brackets. -/
def givenInBrackets : Nat → List Lexeme → Reading (Arguments × List Lexeme)
  | 0, cs => unexpected cs
  | fuel + 1, cs =>
    match behindSign "(" cs with
    | some rest => argumentsUpTo fuel {} rest
    | none => return ({}, cs)

/-- A filter of what comes before, from its name on. -/
def filterOf : Nat → Expr → List Lexeme → Reading (Expr × List Lexeme)
  | 0, _, cs => unexpected cs
  | fuel + 1, e, cs => do
    let (s, rest) ← anyName cs
    let (more, rest) ← dottedName rest
    let (given, rest) ← givenInBrackets fuel rest
    return (.filter e (s ++ more) given.places given.names given.named, rest)

/-- The filters and tests behind an operand, and the calls of their results. -/
def filtersAndTests : Nat → Expr → List Lexeme → Reading (Expr × List Lexeme)
  | 0, _, cs => unexpected cs
  | fuel + 1, e, cs =>
    match cs with
    | .sign "|" :: rest => do
      let (e, rest) ← filterOf fuel e rest
      filtersAndTests fuel e rest
    | .name "is" :: .name "not" :: rest => do
      let (test, rest) ← testBehind fuel e rest
      filtersAndTests fuel (.not test) rest
    | .name "is" :: rest => do
      let (test, rest) ← testBehind fuel e rest
      filtersAndTests fuel test rest
    | .sign "(" :: rest => do
      let (given, rest) ← argumentsUpTo fuel {} rest
      filtersAndTests fuel (.call e given.places given.names given.named) rest
    | cs => return (e, cs)

/-- The test of an operand.  What it is given needs no brackets if it is one operand. -/
def testBehind : Nat → Expr → List Lexeme → Reading (Expr × List Lexeme)
  | 0, _, cs => unexpected cs
  | fuel + 1, e, cs => do
    let (s, rest) ← anyName cs
    let (more, rest) ← dottedName rest
    if !startsWithSign "(" rest && operandFollows rest then
      if startsWithName "is" rest then unexpected rest
      let (operand, rest) ← primary fuel rest
      let (operand, rest) ← accesses fuel operand rest
      return (.test e (s ++ more) [operand] [] [], rest)
    else
      let (given, rest) ← givenInBrackets fuel rest
      return (.test e (s ++ more) given.places given.names given.named, rest)

end

/-- The filters behind an operand, without tests. -/
def filtersBehind : Nat → Expr → List Lexeme → Reading (Expr × List Lexeme)
  | 0, _, cs => unexpected cs
  | fuel + 1, e, cs =>
    match behindSign "|" cs with
    | none => return (e, cs)
    | some rest => do
      let (e, rest) ← filterOf lines (depthFor rest) e rest
      filtersBehind fuel e rest

end Expressions

/-! ### All lexemes of a tag -/

/-- The expression that lexemes begin with, and the rest. -/
def expressionIn (inside : Inside) : Reading (Expr × List Lexeme) :=
  choice inside.lines (depthFor inside.lexemes) inside.lexemes

/-- The expression that lexemes are as a whole, or the row of expressions. -/
def wholeRow (choices : Bool) (inside : Inside) : Reading Expr := do
  let (items, comma, rest) ←
    row inside.lines (depthFor inside.lexemes) choices none inside.lexemes
  expectEnd rest
  rowExpr items comma false rest

end MobileSchema.Template
