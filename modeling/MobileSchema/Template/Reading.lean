import MobileSchema.Template.Reading.Expression

/-!
# Reading templates

From the pieces of a template to its tree.  Blocks are read up to the statement that ends them.

Every function takes a bound on the depth of its work, which grows with the number of pieces and is
never reached.
-/

namespace MobileSchema.Template

/-! ### Targets -/

mutual

/-- The target that an expression is, if it can be given a value. -/
def Expr.target? : Expr → Option Target
  | .name s => some (.name s)
  | .tuple items => (targets? items).map .tuple
  | _ => Option.none

/-- The targets that expressions are, if they can be given values. -/
def Expr.targets? : List Expr → Option (List Target)
  | [] => some []
  | e :: es => do return (← e.target?) :: (← targets? es)

end

/-- The target without commas that lexemes begin with, and the rest. -/
def singleTarget (members : Bool) (lines : List Nat) (cs : List Lexeme) :
    Reading (Target × List Lexeme) := do
  let (e, rest) ← primary lines (depthFor cs) cs
  match members, e, rest with
  | true, .name object, .sign "." :: rest =>
    let (s, rest) ← anyName rest
    return (.member object s, rest)
  | _, e, rest => return (← e.target?.elim (unexpected rest) .ok, rest)

/-- Targets with commas between them, up to a word or the end of a tag: whether there is a comma,
and the rest. -/
def targetsUpTo (stop : Option String) (members : Bool) (lines : List Nat) :
    Nat → List Lexeme → Reading (List Target × Bool × List Lexeme)
  | 0, cs => unexpected cs
  | fuel + 1, cs =>
    if cs = [] || stop.any (startsWithName · cs) then return ([], false, cs)
    else do
      let (target, rest) ← singleTarget members lines cs
      match behindSign "," rest with
      | none => return ([target], false, rest)
      | some rest =>
        let (more, _, rest) ← targetsUpTo stop members lines fuel rest
        return (target :: more, true, rest)

/-- The target that lexemes begin with, and the rest. -/
def targetIn (stop : Option String) (members : Bool) (inside : Inside) :
    Reading (Target × Inside) := do
  let (targets, comma, rest) ←
    targetsUpTo stop members inside.lines (inside.lexemes.length + 1) inside.lexemes
  let target ← match targets, comma with
    | [], _ => unexpected rest
    | [target], false => pure target
    | targets, _ => pure (.tuple targets)
  return (target, inside.behind rest)

/-! ### Statements -/

/-- The word of the statement that the rest of a template begins with. -/
def nextWord : List Piece → Option (String × Inside × List Piece)
  | .statement ⟨.name word :: lexemes, lines⟩ :: rest => some (word, ⟨lexemes, lines⟩, rest)
  | _ => none

/-- The fault of pieces that do not go on as they should. -/
def faultOf : List Piece → ReadFault
  | .statement inside :: _ => faultAt inside.lexemes
  | _ => .malformed

/-- The rest behind a statement that is one word, which has to stand there. -/
def behindEnd (word : String) (pieces : List Piece) : Reading (List Piece) :=
  match nextWord pieces with
  | some (w, inside, rest) =>
    if w = word then (expectEnd inside.lexemes).map fun _ => rest else .error .malformed
  | _ => .error (faultOf pieces)

/-- The rest behind a word, if it is there. -/
def skipWord (word : String) (cs : List Lexeme) : Bool × List Lexeme :=
  match behindName word cs with
  | some rest => (true, rest)
  | none => (false, cs)

/-- The rest behind a statement that is one word, which has to stand there and may have a name
behind it. -/
def behindNamedEnd (word name : String) (pieces : List Piece) : Reading (List Piece) :=
  match nextWord pieces with
  | some (w, inside, rest) =>
    if w = word then (expectEnd (skipWord name inside.lexemes).2).map fun _ => rest
    else .error .malformed
  | _ => .error (faultOf pieces)

/-- The rest behind an `else`, if there is one. -/
def behindElse (pieces : List Piece) : Reading (Option (List Piece)) :=
  match nextWord pieces with
  | some ("else", inside, rest) =>
    (expectEnd inside.withoutColon.lexemes).map fun _ => some rest
  | _ => .ok none

/-- The words that end or divide a block. -/
def blockWords : List String :=
  ["elif", "else", "endif", "endfor", "endset", "endwith", "endfilter", "endmacro", "endcall",
    "endblock", "endautoescape"]

/-- A name that can be given a value, and the rest behind it. -/
def freeName (cs : List Lexeme) : Reading (String × List Lexeme) := do
  let (s, rest) ← anyName cs
  if nameExpr s matches .name _ then return (s, rest) else unexpected cs

/-- The source of a loop, the condition on its items, and whether it can call itself. -/
def loopSource (inside : Inside) : Reading (Expr × Expr × Bool) := do
  let inside := inside.withoutColon
  let (items, comma, rest) ←
    row inside.lines (depthFor inside.lexemes) false (some "recursive") inside.lexemes
  let source ← rowExpr items comma false rest
  let (condition, rest) ← match behindName "if" rest with
    | none => pure (Expr.bool true, rest)
    | some rest => expressionIn (inside.behind rest)
  match behindName "recursive" rest with
  | some rest => do
    expectEnd rest
    return (source, condition, true)
  | none => do
    expectEnd rest
    return (source, condition, false)

/-- Whether another template sees the names here, if that is said, and the rest behind it. -/
def withNames? : List Lexeme → Option (Bool × List Lexeme)
  | .name "with" :: .name "context" :: rest => some (true, rest)
  | .name "without" :: .name "context" :: rest => some (false, rest)
  | _ => none

/-- The statement that includes a template. -/
def embedding (inside : Inside) : Reading Statement := do
  let (template, rest) ← expressionIn inside
  let (missingAllowed, rest) := match rest with
    | .name "ignore" :: .name "missing" :: rest => (true, rest)
    | rest => (false, rest)
  let (withNames, rest) := (withNames? rest).getD (true, rest)
  expectEnd rest
  return .embed template missingAllowed withNames

/-- The statement that brings in what another template defines. -/
def bringing (inside : Inside) : Reading Statement := do
  let (template, rest) ← expressionIn inside
  let (name, rest) ← freeName (← expectName "as" rest)
  let (withNames, rest) := (withNames? rest).getD (false, rest)
  expectEnd rest
  return .bring template name withNames

/-- The names that are brought in, each with its name here, and whether the other template sees the
names here. -/
def broughtNames : Nat → List Lexeme → Reading (List (String × String) × Bool)
  | 0, cs => unexpected cs
  | fuel + 1, cs => do
    if let some (withNames, rest) := withNames? cs then
      expectEnd rest
      return ([], withNames)
    let (name, rest) ← freeName cs
    if name.startsWith "_" then .error .privateName
    let (newName, rest) ← match behindName "as" rest with
      | some rest => freeName rest
      | none => pure (name, rest)
    match withNames? rest, behindSign "," rest with
    | some (withNames, rest), _ => do
      expectEnd rest
      return ([(name, newName)], withNames)
    | none, some rest => do
      let (more, withNames) ← broughtNames fuel rest
      return ((name, newName) :: more, withNames)
    | none, none => do
      expectEnd rest
      return ([(name, newName)], false)

/-- The statement that brings in what another template defines under some names. -/
def bringingNames (line : Nat) (inside : Inside) : Reading Statement := do
  let (template, rest) ← expressionIn inside
  let (names, withNames) ←
    broughtNames (inside.lexemes.length + 1) (← expectName "import" rest)
  return .bringNames template names withNames line

/-- The parameters of a body that can be called, with the values of the last ones for the case that
they are not given; up to the closing bracket. -/
def parameters : Nat → Bool → Inside → Reading (List String × List Expr × List Lexeme)
  | 0, _, inside => unexpected inside.lexemes
  | fuel + 1, hasDefault, inside => do
    if let some rest := behindSign ")" inside.lexemes then return ([], [], rest)
    let (name, rest) ← freeName inside.lexemes
    let (default, rest) ← match behindSign "=" rest with
      | some rest => (expressionIn (inside.behind rest)).map fun (e, rest) => ([e], rest)
      | none => if hasDefault then unexpected rest else pure ([], rest)
    match behindSign ")" rest with
    | some rest => return ([name], default, rest)
    | none =>
      let rest ← expectSign "," rest
      let (names, defaults, rest) ← parameters fuel (!default.isEmpty) (inside.behind rest)
      return (name :: names, default ++ defaults, rest)

/-- The parameters in brackets, and the rest. -/
def signature (inside : Inside) : Reading (List String × List Expr × List Lexeme) := do
  parameters (inside.lexemes.length + 1) false
    (inside.behind (← expectSign "(" inside.lexemes))

/-- Whether a statement is nothing but white space. -/
def Statement.isBlankText : Statement → Bool
  | .text s => s.toList.all isBlank
  | _ => false

/-- The outputs of expressions with commas between them. -/
def printed : Nat → Inside → Reading (List Statement)
  | 0, inside => unexpected inside.lexemes
  | fuel + 1, inside => do
    if inside.lexemes = [] then return []
    let (e, rest) ← expressionIn inside
    if rest = [] then return [.output e]
    let rest ← expectSign "," rest
    let more ← printed fuel (inside.behind rest)
    if more.isEmpty then unexpected rest else return .output e :: more

/-- Targets with values, each behind an equals sign. -/
def givenTargets : Nat → Inside → Reading (List (Target × Expr))
  | 0, inside => unexpected inside.lexemes
  | fuel + 1, inside => do
    let (target, inside) ← targetIn none false inside
    let (e, rest) ← expressionIn (inside.behind (← expectSign "=" inside.lexemes))
    if rest = [] then return [(target, e)]
    let more ← givenTargets fuel (inside.behind (← expectSign "," rest))
    return (target, e) :: more

mutual

/-- The statements up to one that ends or divides a block. -/
def block : Nat → List Piece → Reading (List Statement × List Piece)
  | 0, pieces => .error (faultOf pieces)
  | fuel + 1, pieces =>
    match pieces with
    | [] => return ([], [])
    | .text s :: rest => do
      let (more, rest) ← block fuel rest
      return (.text s :: more, rest)
    | .output inside :: rest => do
      let e ← wholeRow true inside
      let (more, rest) ← block fuel rest
      return (.output e :: more, rest)
    | .statement inside :: rest => do
      if (blockWords.any fun word => startsWithName word inside.lexemes) then
        return ([], pieces)
      let (statements, rest) ← statement fuel inside rest
      let (more, rest) ← block fuel rest
      return (statements ++ more, rest)

/-- The statements that a tag starts. -/
def statement : Nat → Inside → List Piece → Reading (List Statement × List Piece)
  | 0, inside, _ => unexpected inside.lexemes
  | fuel + 1, inside, pieces =>
    match inside.lexemes with
    | .name "if" :: rest => do
      let (branch, rest) ← branch fuel (inside.behind rest) pieces
      return ([branch], rest)
    | .name "for" :: rest => do
      let (target, inside) ← targetIn (some "in") false (inside.behind rest)
      let (source, condition, recursive) ←
        loopSource (inside.behind (← expectName "in" inside.lexemes))
      let (body, rest) ← block fuel pieces
      let (orElse, rest) ← match ← behindElse rest with
        | some rest => block fuel rest
        | none => pure ([], rest)
      return ([.loop target source condition recursive body orElse], ← behindEnd "endfor" rest)
    | .name "set" :: rest => do
      let (target, inside) ← targetIn none true (inside.behind rest)
      match behindSign "=" inside.lexemes with
      | some rest =>
        return ([.assign target (← wholeRow true (inside.behind rest))], pieces)
      | none =>
        let inside := inside.withoutColon
        let (filter, rest) ← filtersBehind inside.lines (depthFor inside.lexemes) .captured
          inside.lexemes
        expectEnd rest
        let (body, rest) ← block fuel pieces
        return ([.capture target filter body], ← behindEnd "endset" rest)
    | .name "with" :: rest => do
      let inside := (inside.behind rest).withoutColon
      let given ← if inside.lexemes = [] then pure []
        else givenTargets (inside.lexemes.length + 1) inside
      let (body, rest) ← block fuel pieces
      return ([.within (given.map (·.1)) (given.map (·.2)) body], ← behindEnd "endwith" rest)
    | .name "filter" :: rest => do
      let inside := (inside.behind rest).withoutColon
      let (filter, rest) ← filterOf inside.lines (depthFor inside.lexemes) .captured inside.lexemes
      let (filter, rest) ← filtersBehind inside.lines (depthFor rest) filter rest
      expectEnd rest
      let (body, rest) ← block fuel pieces
      return ([.filtered filter body], ← behindEnd "endfilter" rest)
    | .name "macro" :: rest => do
      let (name, rest) ← freeName rest
      let (names, defaults, rest) ← signature ((inside.behind rest).withoutColon)
      expectEnd rest
      let (body, rest) ← block fuel pieces
      return ([.define name names defaults body], ← behindEnd "endmacro" rest)
    | .name "call" :: rest => do
      let inside := (inside.behind rest).withoutColon
      let (names, defaults, rest) ← if startsWithSign "(" inside.lexemes then signature inside
        else pure ([], [], inside.lexemes)
      let (call, behind) ← expressionIn (inside.behind rest)
      if !call matches .call .. then unexpected []
      expectEnd behind
      let (body, rest) ← block fuel pieces
      return ([.callWith call names defaults body], ← behindEnd "endcall" rest)
    | .name "block" :: rest => do
      let (name, rest) ← anyName rest
      let (seesNames, rest) := skipWord "scoped" rest
      let (required, rest) := skipWord "required" rest
      expectEnd (inside.behind rest).withoutColon.lexemes
      let (body, rest) ← block fuel pieces
      if required && !body.all Statement.isBlankText then .error .malformed
      return ([.block name seesNames required body], ← behindNamedEnd "endblock" name rest)
    | .name "autoescape" :: rest => do
      let (value, rest) ← expressionIn (inside.behind rest).withoutColon
      expectEnd rest
      let (body, rest) ← block fuel pieces
      return ([.escaping value body], ← behindEnd "endautoescape" rest)
    | .name "extends" :: rest => do
      let (template, rest) ← expressionIn (inside.behind rest)
      expectEnd rest
      return ([.extend template], pieces)
    | .name "include" :: rest => do
      return ([← embedding (inside.behind rest)], pieces)
    | .name "import" :: rest => do
      return ([← bringing (inside.behind rest)], pieces)
    | .name "from" :: rest => do
      return ([← bringingNames (lineOf inside.lines inside.lexemes) (inside.behind rest)], pieces)
    | .name "print" :: rest => do
      return (← printed (rest.length + 1) (inside.behind rest), pieces)
    | cs => unexpected cs

/-- A branch, from its condition to its end. -/
def branch : Nat → Inside → List Piece → Reading (Statement × List Piece)
  | 0, inside, _ => unexpected inside.lexemes
  | fuel + 1, inside, pieces => do
    let condition ← wholeRow false inside.withoutColon
    let (body, rest) ← block fuel pieces
    match nextWord rest with
    | some ("elif", inside, rest) =>
      let (other, rest) ← branch fuel inside rest
      return (.branch condition body [other], rest)
    | _ =>
      match ← behindElse rest with
      | some rest =>
        let (orElse, rest) ← block fuel rest
        return (.branch condition body orElse, ← behindEnd "endif" rest)
      | none => return (.branch condition body [], ← behindEnd "endif" rest)

end

/-- The tree of a template. -/
def treeOfSource (rules : Whitespace) (source : List Char) : Reading (List Statement) := do
  let pieces := pieces rules source
  match ← block (3 * pieces.length + 3) pieces with
  | (statements, []) => return statements
  | (_, rest) => .error (faultOf rest)

end MobileSchema.Template
