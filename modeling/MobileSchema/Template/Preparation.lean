import MobileSchema.Template.Constant
import MobileSchema.Template.Scope

/-!
# Preparing templates

What is done with the tree of a template before it writes anything: constants are computed, and what
could not be rendered whatever the names stand for is refused.

Behind a statement that certainly extends another template, nothing is written outside of blocks, so
nothing is prepared there either.
-/

namespace MobileSchema.Template

/-- A template that is ready to be rendered. -/
structure Prepared where
  main : List Statement
  /-- the bodies of its blocks by their names -/
  blocks : List (String × List Statement)

/-- Where a statement stands. -/
structure Standing where
  /-- the names that are known there -/
  known : List String
  /-- whether it stands under a condition, in the scope of the condition -/
  isConditional : Bool := false
  /-- whether it stands in the scope of the template -/
  isOutermost : Bool := false
  /-- whether it stands in no other statement -/
  isFirst : Bool := false
  /-- whether it writes nothing if the template extends another -/
  yields : Bool := false
  safety : Safety := {}

/-- A part of the preparation.  Its state says whether a statement before certainly extends a
template. -/
abbrev Preparing := StateT Bool Act

namespace Standing

/-- The standing inside of a statement whose scope mentions some names. -/
def inside (standing : Standing) (names : List String) : Standing :=
  { standing with
    known := standing.known ++ names, isConditional := false, isOutermost := false, isFirst := false }

/-- The standing under a condition. -/
def underCondition (standing : Standing) : Standing :=
  { standing with isConditional := true, isFirst := false }

/-- The standing inside of a body whose text is kept for itself. -/
def apart (standing : Standing) : Standing := { standing with yields := false }

end Standing

/-- Refuses expressions that mention names which are not known. -/
def checkNames (known names : List String) : Act Unit :=
  names.forM fun name => do if !known.contains name then throw (.unknownName name)

/-- Refuses a body that can be called and calls a body of its caller, if the caller has to give
it. -/
def checkCaller (parameters : List String) (defaults : List Expr) (body : List Statement) :
    Act Unit := do
  let required := parameters.take (parameters.length - defaults.length)
  if Statement.lookUp body "caller" && required.contains "caller" then throw .callerParameter

/-- The text that is written for an expression, if it is constant. -/
def Expr.constantText? (table : FunctionTable) (safety : Safety) (e : Expr) : Act (Option String) :=
  withoutTraces do
    let text : Search String := unlessFaulty do
      let o ← e.constant table safety
      if safety.isOn then safeOf o else writtenOf o
    text.run

/-- A statement before others, where texts become one. -/
def Statement.before : Statement → List Statement → List Statement
  | .text a, .text b :: rest => .text (a ++ b) :: rest
  | s, rest => s :: rest

section Preparation

variable (table : FunctionTable)

/-- An expression as it is evaluated where a statement stands. -/
def Standing.prepare (standing : Standing) (e : Expr) : Preparing Expr :=
  e.prepared table standing.safety standing.isConditional

/-- Expressions as they are evaluated where a statement stands. -/
def Standing.prepareAll (standing : Standing) (es : List Expr) : Preparing (List Expr) :=
  Expr.preparedAll table standing.safety standing.isConditional es

mutual

/-- A statement as it is run. -/
def Statement.prepared (standing : Standing) : Statement → Preparing Statement
  | .text s => return .text s
  | .output e => do
    if standing.yields && (← get) then return .output e
    match ← e.constantText? table standing.safety with
    | none => return .output (← standing.prepare table e)
    | some s =>
      if e.names = [] then return .text s
      else return .output (.settled e (if standing.safety.isOn then .markup s else .text s))
  | .branch condition body orElse => do
    let standing := standing.underCondition
    let condition ← standing.prepare table condition
    let body ← preparedAll standing body
    return .branch condition body (← preparedAll standing orElse)
  | .loop target source condition recursive body orElse => do
    let inner (statements : List Statement) : Standing :=
      standing.inside (target.names ++ ["loop"] ++ scopeNamesOfAll statements)
    let condition ← (inner []).prepare table condition
    if (target.names ++ assignedInAll body ++ assignedInAll orElse).contains "loop" then
      throw .placeAssigned
    if recursive then
      let body ← preparedAll (inner body) body
      let orElse ← preparedAll (inner orElse) orElse
      return .loop target (← standing.prepare table source) condition recursive body orElse
    let source ← standing.prepare table source
    let body ← preparedAll (inner body) body
    return .loop target source condition recursive body (← preparedAll (inner orElse) orElse)
  | .assign target value => do return .assign target (← standing.prepare table value)
  | .capture target filter body => do
    let inner := (standing.inside (scopeNamesOfAll body)).apart
    let body ← preparedAll inner body
    let filter ← inner.prepare table filter
    checkNames inner.known filter.names
    return .capture target filter body
  | .within targets values body => do
    let values ← standing.prepareAll table values
    let inner := standing.inside (Target.namesOfAll targets ++ scopeNamesOfAll body)
    return .within targets values (← preparedAll inner body)
  | .filtered filter body => do
    let inner := standing.inside (scopeNamesOfAll body ++ filter.names)
    let body ← preparedAll inner body
    return .filtered (← inner.prepare table filter) body
  | .define name parameters defaults body => do
    checkCaller parameters defaults body
    let inner := (standing.inside (parameters ++ Expr.namesOfAll defaults ++
      ["caller", "kwargs", "varargs"] ++ scopeNamesOfAll body)).apart
    let defaults ← inner.prepareAll table defaults
    return .define name parameters defaults (← preparedAll inner body)
  | .callWith call parameters defaults body => do
    checkCaller parameters defaults body
    let inner := (standing.inside (parameters ++ Expr.namesOfAll defaults ++
      ["caller", "kwargs", "varargs"] ++ scopeNamesOfAll body)).apart
    let defaults ← inner.prepareAll table defaults
    let body ← preparedAll inner body
    return .callWith (← standing.prepare table call) parameters defaults body
  | .embed template missingAllowed withNames => do
    return .embed (← standing.prepare table template) missingAllowed withNames
  | .bring template name withNames => do
    return .bring (← standing.prepare table template) name withNames
  | .bringNames template names withNames line => do
    return .bringNames (← standing.prepare table template) names withNames line
  | .block name seesNames required body => return .block name seesNames required body
  | .extend template => do
    if !standing.isOutermost then throw .extendedInside
    let template ← standing.prepare table template
    modify (· || standing.isFirst)
    return .extend template
  | .escaping value body => do
    let inner := standing.inside (value.names ++ scopeNamesOfAll body)
    let value ← inner.prepare table value
    match ← (withoutTraces (value.constant table standing.safety).run : Act _) with
    | some o => do
      let isOn ← truthOf o
      let body ← preparedAll { inner with safety := { standing.safety with isOn } } body
      return .escaping (value.replacedBy (.bool isOn)) body
    | none => do
      let safety := { standing.safety with depends := true }
      return .escaping value (← preparedAll { inner with safety } body)

/-- Statements as they are run.  What is behind a second template that is certainly extended is
never reached. -/
def Statement.preparedAll (standing : Standing) : List Statement → Preparing (List Statement)
  | [] => return []
  | s :: ss => do
    if s matches .extend _ && standing.isOutermost && (← get) then return s :: ss
    let s ← s.prepared standing
    return s.before (← preparedAll standing ss)

end

/-- Refuses blocks that have one name. -/
def checkBlockNames (taken : List String) : List (String × Bool × List Statement) → Act Unit
  | [] => return
  | (name, _) :: blocks => do
    if taken.contains name then throw (.repeatedBlock name)
    checkBlockNames (name :: taken) blocks

/-- A template that is ready to be rendered. -/
def Prepared.of (statements : List Statement) : Act Prepared := do
  let blocks := Statement.blocksInAll statements
  checkBlockNames [] blocks
  let standing : Standing := {
    known := "self" :: Statement.scopeNamesOfAll statements
    isOutermost := true, isFirst := true, yields := Statement.anyExtends statements }
  let (main, extends?) ← (Statement.preparedAll table standing statements).run false
  let blocks ← blocks.mapM fun (name, _, body) => do
    let inner : Standing := { known := ["self", "super"] ++ Statement.scopeNamesOfAll body }
    return (name, (← (Statement.preparedAll table inner body).run extends?).1)
  return { main, blocks }

end Preparation

end MobileSchema.Template
