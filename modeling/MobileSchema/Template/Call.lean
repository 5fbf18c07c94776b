import MobileSchema.Template.Building
import MobileSchema.Template.Method.Table
import MobileSchema.Template.Number

/-!
# Calls

What the calls of functions and methods answer, and what they change.  A call can need a body of a
template to be run, or a source to be rendered; such errands are left to others, which is a
parameter here.
-/

namespace MobileSchema.Template

/-! ### Errands -/

/-- A source that a template asks for. -/
structure SourceOrder where
  schema : SchemaId
  language : Object
  template : Object
  helpers : Object
  settings : Object

/-- What the evaluation of a template leaves to others.  All of it comes to parts that are written
one after another. -/
inductive Errand
  /-- the text of a template in which some names stand for something -/
  | embed (name : TemplateName) (names : List (String × Object))
  /-- what a template defines, in which some names stand for something unless it sees no names from
  outside -/
  | library (name : TemplateName) (names : Option (List (String × Object)))
  /-- the text of the template that a rendering extends -/
  | parent (rendering : Nat) (name : TemplateName)
  /-- the text of a block of a rendering, `depth` templates up -/
  | block (rendering : Nat) (name : String) (depth : Nat)
  /-- the text of the body of a routine, in which some names stand for something or are not given -/
  | routine (index : Nat) (values : List (String × Option Object))
  /-- the text of a recursive loop for the items of an object -/
  | again (loop : Nat) (items : Object)
  /-- the text of a source -/
  | source (order : SourceOrder)

/-! ### Text functions -/

/-- What a text function makes of a text, unless it raises an error. -/
def answerOf (f : TextFunction) (s : String) : Act Object :=
  match f.apply s with
  | .ok text => pure (.text text)
  | .error error => throw (.raised error)

/-- What a text function makes of an object. -/
def applyText (f : TextFunction) (o : Object) : Act Object := do
  if f.reversesItems && o.codes?.isNone then return ← sliceOf o .none .none (.number (-1))
  match f.refusal, o, ← textIn? o with
  | none, o, _ => answerOf f (← writtenOf o)
  | some _, _, some s => answerOf f s
  | some refusal, o, none =>
    if let .undefined cause := o then
      if f.parameter.isSome then throw (.undefined cause)
    refuse (.notText (refusal (← typeOf o)))

/-- What the call of a text function answers. -/
def callFunction (f : TextFunction) (given : Given) : Act Object := do
  match f.parameter, given.places with
  | some parameter, _ =>
    let bound ← bindTo { call := f.call, receiver := none, required := [parameter] } given
    applyText f (bound.find parameter)
  | none, [] => throw (.call (.noReceiver ("str." ++ f.call)))
  | none, receiver :: others =>
    let result ← applyText f receiver
    let _ ← simpleArguments "str." f.call (.places .nothing) { given with places := others }
    return result

/-! ### Loops and the like -/

/-- What a method of a loop answers. -/
def callLoop (i : Nat) (m : LoopMethod) (given : Given) : Act Object := do
  if let some (name, _) := given.named.head? then
    throw (.call (.unexpected (methodName (← currentGraph) (.loop i) (.loop m)) name))
  let loop ← loopAt i
  match m with
  | .cycle =>
    match given.places[(loop.reached - 1) % given.places.length]? with
    | some o => return o
    | none => refuse .noItemsToCycle
  | .changed =>
    let same ← match loop.asked with
      | some asked => isEqual (.tuple asked) (.tuple given.places)
      | none => pure false
    if !same then updateLoop i ({ · with asked := some given.places })
    return .bool !same

/-- What a method answers of what gives items in turn. -/
def callCycler (i : Nat) (m : CyclerMethod) (given : Given) : Act Object := do
  let call := methodName (← currentGraph) (.cycler i) (.cycler m)
  let _ ← bindTo { call, required := [] } given
  let cycler := (← get).cyclers[i]?.getD { items := [] }
  let setPlace (place : Nat) : Act Unit := modify fun state =>
    { state with cyclers := state.cyclers.set i { cycler with place } }
  match m with
  | .next =>
    setPlace ((cycler.place + 1) % cycler.items.length)
    return cycler.items[cycler.place]?.getD .none
  | .reset =>
    setPlace 0
    return .none

/-- What a call answers of what gives a text at all calls but the first. -/
def callJoiner (i : Nat) (given : Given) : Act Object := do
  let _ ← bindTo { call := "Joiner.__call__", required := [] } given
  match (← get).joiners[i]? with
  | some { separator, wasCalled := true } => return separator
  | some joiner =>
    modify fun state =>
      { state with joiners := state.joiners.set i { joiner with wasCalled := true } }
    return .text ""
  | none => return .none

/-! ### Makers -/

/-- A new object of the type of a maker. -/
def make (m : Maker) (given : Given) : Act Object := do
  match m with
  | .span => makeSpan given
  | .dict => newDict (← makeTable "dict" given)
  | .record =>
    match ← newDict (← makeTable "dict" given) with
    | .dict i => return .record i
    | o => return o
  | .cycler =>
    if let some (name, _) := given.named.head? then
      throw (.call (.unexpected "Cycler.__init__" name))
    if given.places.isEmpty then refuse .nothingToCycle
    let i := (← get).cyclers.length
    modify fun state => { state with cyclers := state.cyclers ++ [{ items := given.places }] }
    return .cycler i
  | .joiner =>
    let bound ← bindTo { call := "Joiner.__init__", required := [], optional := ["sep"] } given
    let separator := (bound.find? "sep").getD (.text ", ")
    let i := (← get).joiners.length
    modify fun state => { state with joiners := state.joiners ++ [{ separator }] }
    return .joiner i

/-! ### Routines -/

/-- The values that a call gives to the parameters of a routine; those that are not given have
none. -/
def bindRoutine (routine : Routine) (given : Given) : Act (List (String × Option Object)) := do
  let name := (Object.ofText? routine.name).text?.elim "None" quoted
  let count := routine.parameters.length
  let unplaced := routine.parameters.drop given.places.length
  let placed := (routine.parameters.zip given.places).map fun (name, o) => (name, some o)
  let values := placed ++ unplaced.map fun name => (name, given.named.lookup name)
  let named := given.named.filter fun (name, _) => !unplaced.contains name
  let hasCaller := (if unplaced = [] then routine.parameters else unplaced).contains "caller"
  let asksCaller := routine.takesCaller && !hasCaller
  let caller := match given.named.lookup "caller" with
    | none | some .none => Object.undefined .noCaller
    | some o => o
  let named := named.filter fun (name, _) => !(asksCaller && name = "caller")
  if !routine.takesNamed then
    if let some (first, _) := named.head? then
      if (named.lookup "caller").isSome then refuse (.routineCaller name)
      refuse (.routineName name (quoted first))
  let table ← if routine.takesNamed
    then newDict (named.map fun (name, o) => (.text name, o)) else pure .none
  if !routine.takesPlaces && count < given.places.length then refuse (.routinePlaces name count)
  return values ++ (if asksCaller then [("caller", some caller)] else []) ++
    (if routine.takesNamed then [("kwargs", some table)] else []) ++
    (if routine.takesPlaces then [("varargs", some (.tuple (given.places.drop count)))] else [])

/-! ### All calls -/

section Calls

variable (run : Errand → Act (List Object))

/-- The text of an errand, by the numbers of its characters. -/
def errandCodes (errand : Errand) : Act (List Nat) := do codesOfParts (← run errand)

/-- What a method of a schema answers.  A new model is given to the object that is to build it. -/
def callSchema (build : Object → Given → Act Object) (s : SchemaId) (method : SchemaMethod)
    (given : Given) : Act Object := do
  let g ← currentGraph
  let call := methodName g (.schema s) (.schema method)
  let order (bound : Bound) : SourceOrder :=
    ⟨s, bound.find "language", bound.find "template", bound.find "helpers", bound.find "settings"⟩
  match method with
  | .model =>
    let bound ← bindTo { call, required := ["name"], optional := ["build"] } given
    let (g, m) := g.declareModel s (← textFrom (bound.find "name"))
    setGraph g
    match bound.find "build" with
    | .none => pure ()
    | o =>
      let _ ← build o ⟨[.model m], []⟩
    return .model m
  | .getModel =>
    let bound ← bindTo { call, required := ["name"] } given
    searchNamed (g.schema s).slots (bound.find "name")
  | .usesKind =>
    let bound ← bindTo { call, required := ["kind"] } given
    let kind ← outcomeOf (kindOf (bound.find "kind"))
    return .bool (← resume (g.schemaUsesKind .schema s kind))
  | .validate =>
    let _ ← bindTo { call, required := [] } given
    ask (g.validate s)
    return .none
  | .render =>
    let bound ← bindTo {
      call, required := ["language"], optional := ["template", "helpers", "settings"] } given
    return .ofCodes (← errandCodes run (.source (order bound)))
  | .writeTo =>
    let bound ← bindTo {
      call, required := ["writer", "language"], optional := ["template", "helpers", "settings"] }
      given
    let _ ← errandCodes run (.source (order bound))
    match bound.find "writer" with
    | .undefined cause => throw (.undefined cause)
    | o => lackOf o "write"

/-- What a method of an object that is no object of a schema answers; `call` calls functions. -/
def callPlain (call : Object → Given → Act Object) (receiver : Object) (name : String)
    (given : Given) : Act Object := do
  match receiver, ← textIn? receiver, receiver.tuple? with
  | .list r, _, _ => callList call r name given
  | .dict i, _, _ => callTable i name given
  | .view part i, _, _ => callView part i name given
  | .span .., _, _ => callSpan receiver name given
  | _, some _, _ => callText receiver name given
  | _, none, some items => callTuple (← typeOf receiver) items name given
  | _, none, none => callNumber receiver name given

/-- Whether what a loop writes when it is called is safe in a page. -/
def LoopCode.writesSafe (code : LoopCode) : Act Bool := do
  if code.surroundings.safety.depends then escapesIn code.surroundings.scope.rendering
  else return code.surroundings.safety.isOn

/-- What the call of an object answers, at a bound on the depth of calls; `escapes` says whether
outputs are made safe for a page where the call is. -/
def callAt (escapes : Bool) : Nat → Object → Given → Act Object
  | 0, _, _ => throw .endless
  | depth + 1, o, given => do
    match o with
    | .undefined cause => throw (.undefined cause)
    | .function f => callFunction f given
    | .maker m => make m given
    | .textMaker => throw (.undescribed .chance)
    | .joiner i => callJoiner i given
    | .kinds =>
      let bound ← bindTo {
        call := "EnumType.__call__", required := ["value"], optional := ["names"] } given
      return .kind (← kindOf (bound.find "value"))
    | .loop i =>
      let bound ← bindTo { call := "LoopContext.__call__", required := ["iterable"] } given
      let some code := (← loopAt i).code | refuse .notRecursive
      let text ← errandCodes run (.again i (bound.find "iterable"))
      ofCodesIn (← code.writesSafe) text
    | .routine i =>
      let some routine := (← get).routines[i]? | return .none
      ofCodesIn escapes (← errandCodes run (.routine i (← bindRoutine routine given)))
    | .block rendering name depth =>
      let _ ← bindTo { call := "BlockReference.__call__", required := [] } given
      let text ← errandCodes run (.block rendering name depth)
      ofCodesIn (← escapesIn rendering) text
    | .method (.schema s) (.schema m) => callSchema run (callAt escapes depth) s m given
    | .method (.model m) (.model method) => callModel m method given
    | .method (.property p) (.property m) => callProperty p m given
    | .method (.pair ios android) (.pair m) => callPair ios android m given
    | .method (.loop i) (.loop m) => callLoop i m given
    | .method (.cycler i) (.cycler m) => callCycler i m given
    | .method receiver (.plain name) => callPlain (callAt escapes depth) receiver name given
    | o => refuse (.notCallable (← typeOf o))

/-- What the call of an object answers; `escapes` says whether outputs are made safe for a page
where the call is. -/
def callOf (escapes : Bool) (o : Object) (given : Given) : Act Object :=
  callAt run escapes holdingLimit o given

end Calls

end MobileSchema.Template
