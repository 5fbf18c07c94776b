import MobileSchema.Template.Embedding

/-!
# Evaluating templates

What the statements of a template write.  Rendering goes from the first statement to the last, and
what it changes is seen by all that follows.

What is written comes in parts, and only where they are put together it counts that they are texts.
-/

namespace MobileSchema.Template

/-! ### Targets -/

/-- Puts an object under a name into the object that another name stands for, if it stands for
one. -/
def putMember (holder : Option Object) (name : String) (o : Object) : Act Unit := do
  match holder with
  | some (.dict i) | some (.record i) => setEntries i (← putEntry (← entriesOf i) (.text name) o)
  | some (.list _) => refuse (.notPlace "list" "str")
  | some holder => refuse (.notChangeable (← typeOf holder))
  | none => refuse (.notChangeable "MissingType")

mutual

/-- The scope in which a target stands for an object. -/
def Target.put (scope : Scope) (o : Object) : Target → Act Scope
  | .name s => scope.store s o true
  | .member object s => do
    putMember (scope.find? object) s o
    return scope
  | .tuple targets => do
    match ← items? o with
    | some items =>
      if items.length ≠ targets.length then refuse (.sharedOut targets.length items.length)
      putAll scope items targets
    | none => refuse (.notShared (← typeOf o))

/-- The scope in which targets stand for objects. -/
def Target.putAll (scope : Scope) : List Object → List Target → Act Scope
  | o :: os, t :: ts => do putAll (← t.put scope o) os ts
  | _, _ => return scope

end

/-- Refuses a target in which a member is given a value of what holds no names for that. -/
def Target.checkMembers (scope : Scope) (target : Target) : Act Unit :=
  target.changed.forM fun name => do
    if !((scope.find? name).any (· matches .record _)) then throw .memberAssigned

/-! ### Loops -/

/-- How often a loop may go on over what its list has grown by since the loop began. -/
def growthLimit : Nat := 1000000

/-- What a loop over an object comes to. -/
def upcomingIn (o : Object) : Act Upcoming := do
  match o with
  | .list r => return .live r 0
  | .stream _ i => return .stream i
  | o => return .fixed (← itemsOf o)

/-- The number of rounds that a loop can make. -/
def Upcoming.roundLimit : Upcoming → Act Nat
  | fixed items => return items.length + 1
  | live r _ => do return (← contents r).length + growthLimit
  | stream i => do return ((← get).streams[i]?.getD []).length + 1

/-- What the rounds of a loop write, if there are rounds; those of some items are left out. -/
def rounds (loop : Nat) (round : Object → Act (Option (List Object))) :
    Nat → Act (Option (List Object))
  | 0 => throw .endless
  | limit + 1 => do
    match ← Loop.advance loop with
    | none => return none
    | some o =>
      match ← round o with
      | none => rounds loop round limit
      | some parts => return some (parts ++ ((← rounds loop round limit).getD []))

/-! ### Bodies that can be called -/

/-- A routine with parameters in a scope; a body that mentions the body of its caller, or all
further arguments, takes them too. -/
def routineOf (context : Context) (known : List String) (name : Option String)
    (parameters : List String) (defaults : List Expr) (body : List Statement) (scope : Scope) :
    Routine :=
  let mentions (name : String) : Bool := Statement.lookUp body name
  { name, parameters, defaults, body
    takesCaller := mentions "caller"
    takesNamed := mentions "kwargs" && !parameters.contains "kwargs"
    takesPlaces := mentions "varargs" && !parameters.contains "varargs"
    surroundings := context.surroundings known scope }

/-- Whether an expression is written out in the template. -/
def Expr.isWrittenOut : Expr → Bool
  | .text _ | .halved _ | .markup _ | .number _ | .fraction _ | .bool _ | .none | .span .. => true
  | .settled _ value => value.isWrittenOut
  | _ => false

/-- The scope inside of statements that is entered without names. -/
def innerScope (known : List String) (scope : Scope) (statements : List Statement) : Scope :=
  (Frame.of known [] statements).inside scope

/-- The scope in which targets stand for the values of expressions, which are taken from outside. -/
def putValues (context : Context) (outer scope : Scope) : List Target → List Expr → Act Scope
  | t :: ts, e :: es => do
    let scope ← t.put scope (← e.value context outer)
    putValues context outer scope ts es
  | _, _ => return scope

/-! ### Turns of a loop -/

/-- What a loop over an object writes, which is `depth` loops down in those that called it;
`runBody` and `runElse` run its parts in a scope, where some names are known around it. -/
def turns (context : Context) (known : List String) (scope : Scope) (code : LoopCode)
    (recursive : Bool) (depth : Nat) (o : Object)
    (runBody runElse : List String → Scope → Act (List Object)) : Act (List Object) := do
  let placed := recursive || Statement.lookUp code.body "loop" ||
    (Statement.blocksInAll code.body).any (·.2.1)
  let own := code.target.names ++ if placed then ["loop"] else []
  let outside : Scope := { scope with place := none, isOutermost := false }
  let meets (item : Object) : Act Bool := do
    truthOf (← code.condition.value context (← code.target.put outside item))
  let upcoming ← if placed && !code.condition matches .bool true then
      pure (.fixed (← (← itemsOf o).filterM meets))
    else upcomingIn o
  let loop ← newLoop {
    upcoming, depth
    code := if recursive then some code else none
    length := match upcoming with
      | .fixed items => some items.length
      | _ => none }
  let frame := Frame.of known own code.body
  let round (item : Object) : Act (Option (List Object)) := do
    if !placed && !(← meets item) then return none
    let entered ← code.target.put (frame.before scope) item
    let entered := if placed then entered.put "loop" (.loop loop) else entered
    return some (← runBody (known ++ own ++ Statement.scopeNamesOfAll code.body)
      (frame.behind scope entered))
  match ← rounds loop round (← upcoming.roundLimit) with
  | some written => return written
  | none =>
    runElse (known ++ Statement.scopeNamesOfAll code.orElse) (innerScope known scope code.orElse)

/-! ### Statements -/

mutual

/-- What a statement writes, and the scope behind it.  The scopes around know some names. -/
def Statement.run (context : Context) (known : List String) (scope : Scope) :
    Statement → Act (List Object × Scope)
  | .text s => do
    if scope.yields && (← renderingAt scope.rendering).parent.isSome then return ([], scope)
    return ([.text s], scope)
  | .output e => do
    if scope.yields && (← renderingAt scope.rendering).parent.isSome then return ([], scope)
    let o ← e.value context scope
    return ([← shieldedOf (← context.escapes scope) o], scope)
  | .branch condition body orElse => do
    if ← truthOf (← condition.value context scope) then runAll context known scope body
    else runAll context known scope orElse
  | .loop target source condition recursive body orElse => do
    let o ← source.value context scope
    let context := if recursive then context.kept else context
    let code : LoopCode := {
      surroundings := context.surroundings known scope, target, condition, body, orElse }
    let parts ← turns context known scope code recursive 0 o
      (fun known scope => do return (← runAll context known scope body).1)
      (fun known scope => do return (← runAll context known scope orElse).1)
    if !recursive then return (parts, scope)
    return ([← ofCodesIn (← context.escapes scope) (← codesOfParts parts)], scope)
  | .assign target value => do
    target.checkMembers scope
    return ([], ← target.put scope (← value.value context scope))
  | .capture target filter body => do
    let inner : Scope := { innerScope known scope body with yields := false }
    let (parts, inner) ← runAll context.kept (known ++ scopeNamesOfAll body) inner body
    let text ← codesOfParts parts
    let before ← if context.isKept then pure [] else takePassed
    let captured ← match filter with
      | .captured => pure (.ofCodes text)
      | _ => ofCodesIn (context.safety.isOn && !context.safety.depends) text
    let o ← filter.value context { inner with captured }
    let o ← if ← escapesIn scope.rendering then pure (.markup (← writtenOf o)) else pure o
    return (before, ← target.put scope o)
  | .within targets values body => do
    let names := Target.namesOfAll targets
    let frame := Frame.of known names body
    let entered ← putValues context scope (frame.before scope) targets values
    let inner := frame.behind scope entered
    let (parts, _) ← runAll context (known ++ names ++ scopeNamesOfAll body) inner body
    return (parts, scope)
  | .filtered filter body => do
    let all := body ++ [.output filter]
    let inner := innerScope known scope all
    let (parts, inner) ← runAll context.kept (known ++ scopeNamesOfAll all) inner body
    let text ← codesOfParts parts
    let before ← if context.isKept then pure [] else takePassed
    let captured ← ofCodesIn (← context.escapes scope) text
    let o ← filter.value context { inner with captured }
    return (before ++ [o], scope)
  | .define name parameters defaults body => do
    let routine := routineOf context known (some name) parameters defaults body
    let (o, scope) ← newRoutine scope routine
    return ([], ← scope.store name o true)
  | .callWith call parameters defaults body => do
    let routine := routineOf context known none parameters defaults body
    let (caller, scope) ← newRoutine scope routine
    match call with
    | .call function arguments names named => do
      let function ← function.value context scope
      let places ← Expr.placedValues context scope arguments
      let values := names.zip (← Expr.values context scope named)
      let given ← Given.spread { places, named := values ++ [("caller", caller)] } callName
        (← Expr.spreadValues context scope arguments)
      let o ← callOf context.run (← escapesIn scope.rendering) function given
      return ([o], scope)
    | _ => return ([], scope)
  | .embed template missingAllowed withNames => do
    let o ← template.value context scope
    return (← embedNamed context scope missingAllowed withNames o, scope)
  | .bring template name withNames => do
    let library ← libraryOf context scope withNames (← template.value context scope)
    return ([], ← scope.store name library false)
  | .bringNames template names withNames line => do
    let library ← libraryOf context scope withNames (← template.value context scope)
    let scope ← names.foldlM (fun scope (name, newName) => do
      scope.store newName (← broughtFrom context library name line) false) scope
    return ([], scope)
  | .block name seesNames required _ => do
    let rendering ← renderingAt scope.rendering
    if scope.isOutermost && rendering.parent.isSome then return ([], scope)
    if required && ((rendering.blocks.lookup name).getD []).length ≤ 1 then
      throw (.requiredBlock name)
    let place ← if seesNames then newRendering { rendering with names := scope.visible }
      else pure scope.rendering
    return (← context.run (.block place name 0), scope)
  | .extend template => do
    if (← renderingAt scope.rendering).parent.isSome then throw .extendedTwice
    extendBy context scope.rendering (← template.value context scope)
    return ([], scope)
  | .escaping value body => do
    let all := .output value :: body
    let inner := innerScope known scope all
    let before ← escapesIn scope.rendering
    let escapes ← truthOf (← value.value context inner)
    updateRendering scope.rendering ({ · with escapes })
    let safety := if value.isWrittenOut then { context.safety with isOn := escapes }
      else { context.safety with depends := true }
    let (parts, _) ← runAll { context with safety } (known ++ scopeNamesOfAll all) inner body
    updateRendering scope.rendering ({ · with escapes := before })
    return (parts, scope)

/-- What statements write one after another, and the scope behind them. -/
def Statement.runAll (context : Context) (known : List String) (scope : Scope) :
    List Statement → Act (List Object × Scope)
  | [] => return ([], scope)
  | s :: ss => do
    let (first, scope) ← s.run context known scope
    let (more, scope) ← runAll context known scope ss
    return (first ++ more, scope)

end

end MobileSchema.Template
