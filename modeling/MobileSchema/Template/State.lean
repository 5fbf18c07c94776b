import MobileSchema.Schema.View
import MobileSchema.Template.Fault
import MobileSchema.Template.Scope

/-!
# The state of rendering

What changes while a template is rendered: the graph, the log, the lists and tables that templates
make, and the loops that they are in.  A part of rendering is an `Act`, which can fault and keeps
what it has changed.

What the bodies of functions and recursive loops need when they are called is kept here too.
-/

namespace MobileSchema.Template

/-! ### Parts of the state -/

/-- The name of a template: the path that it is looked up by, and how messages write it. -/
structure TemplateName where
  path : String
  written : String
  deriving DecidableEq, Repr

/-- Whether the outputs of a part of a template are made safe for a page. -/
structure Safety where
  /-- whether they are, as far as the template says so by itself -/
  isOn : Bool := false
  /-- whether that depends on what is known only when the part is rendered -/
  depends : Bool := false

/-- The place in a template where a body stands that is run later. -/
structure Surroundings where
  /-- the name of the template -/
  template : String
  scope : Scope
  /-- the names that the scopes around know -/
  known : List String
  safety : Safety

/-- What a recursive loop does for each item. -/
structure LoopCode where
  surroundings : Surroundings
  target : Target
  condition : Expr
  body : List Statement
  orElse : List Statement

/-- What a loop has still to come to: items that are fixed, those of a list from a place on, or
those of a stream. -/
inductive Upcoming
  | fixed (items : List Object)
  | live (r : ListRef) (place : Nat)
  | stream (index : Nat)

/-- A loop that knows its place. -/
structure Loop where
  upcoming : Upcoming
  /-- the number of items, once it is known -/
  length : Option Nat
  /-- the number of items that it has come to -/
  reached : Nat := 0
  previous : Option Object := none
  current : Option Object := none
  /-- the next item, if the loop had to look for it -/
  next : Option Object := none
  /-- what was last asked whether it has changed -/
  asked : Option (List Object) := none
  /-- the number of loops that called this one from inside -/
  depth : Nat := 0
  /-- what it does when it is called -/
  code : Option LoopCode := none

/-- A body that can be called. -/
structure Routine where
  name : Option String
  parameters : List String
  /-- the values of the last parameters for the case that they are not given -/
  defaults : List Expr
  body : List Statement
  /-- the parameters that are not written: a body to call, and all further arguments -/
  takesCaller : Bool
  takesNamed : Bool
  takesPlaces : Bool
  surroundings : Surroundings

/-- A block of a template. -/
structure Block where
  /-- the name of the template -/
  template : String
  body : List Statement

/-- A rendering of a template with those that it extends. -/
structure Rendering where
  /-- the name of the template -/
  template : String
  /-- what names stand for at its start and for all scopes -/
  names : List (String × Object)
  /-- the names among them that other templates can bring in -/
  offered : List String := []
  /-- the blocks of a name in the template and in those that it extends, in this order -/
  blocks : List (String × List Block) := []
  /-- the template that the one being run extends -/
  parent : Option TemplateName := none
  /-- whether outputs are made safe for a page at the place that is being run -/
  escapes : Bool := false

/-- What gives items in turn. -/
structure Cycler where
  items : List Object
  place : Nat := 0

/-- What gives a text at all calls but the first. -/
structure Joiner where
  separator : Object
  wasCalled : Bool := false

/-- What changes while a template is rendered. -/
structure State where
  graph : Graph
  log : List LogEntry := []
  lists : List (List Object) := []
  dicts : List (List (Object × Object)) := []
  loops : List Loop := []
  /-- what the streams have still to give: items, or the fault that ends them -/
  streams : List (List (Except RenderFault Object)) := []
  cyclers : List Cycler := []
  joiners : List Joiner := []
  routines : List Routine := []
  /-- the scopes that routines look up names in -/
  scopes : List Scope := []
  renderings : List Rendering := []
  /-- what the templates of some paths define that see no names from outside -/
  libraries : List (String × Object) := []
  /-- what was written past the bodies whose texts are kept -/
  passed : List Object := []

/-! ### Acts -/

/-- A part of rendering. -/
abbrev Act := ExceptT RenderFault (StateM State)

/-- Refuses the use of an object. -/
def refuse {α : Type} (fault : UseFault) : Act α := throw (.use fault)

/-- Adds entries to the log. -/
def note (entries : List LogEntry) : Act Unit :=
  modify fun state => { state with log := state.log ++ entries }

/-- The graph as it is now. -/
def currentGraph : Act Graph := do return (← get).graph

/-- Changes the graph. -/
def setGraph (g : Graph) : Act Unit := modify fun state => { state with graph := g }

/-- What an operation on a schema answers. -/
def ask {α : Type} : Except SchemaFault α → Act α
  | .ok a => pure a
  | .error fault => do
    note fault.log
    throw (.schema fault)

/-- The name of an object's type. -/
def typeOf (o : Object) : Act String := do return o.typeName (← currentGraph)

/-- The text that an object is, if it is one, where a text with halves of surrogate pairs is not
followed further. -/
def textIn? (o : Object) : Act (Option String) := do
  if let .halved _ := o then throw (.undescribed .halves)
  return o.text?

/-- The refusal to answer what an object is asked for. -/
def lackOf {α : Type} (o : Object) (asked : String) : Act α := do
  match o with
  | .undefined cause => throw (.undefined cause)
  | .record _ => refuse (.noMember asked)
  | o => throw (.schema (.noAttribute (← typeOf o) asked))

/-! ### Lists -/

/-- The items of a list as it is now. -/
def contents : ListRef → Act (List Object)
  | .models s => do return ((← currentGraph).schema s).slots.map .ofReference
  | .properties m => do return ((← currentGraph).model m).slots.map .ofReference
  | .own i => do return (← get).lists[i]?.getD []

/-- The references that lead to objects.  The graph lists nothing but schemas, models and
properties. -/
def references (items : List Object) : Act (List Reference) :=
  items.mapM fun o => o.reference?.elim (lackOf o "name") pure

/-- Gives other items to a list. -/
def setContents (items : List Object) : ListRef → Act Unit
  | .models s => do
    let slots ← references items
    setGraph ((← currentGraph).updateSchema s ({ · with slots }))
  | .properties m => do
    let slots ← references items
    setGraph ((← currentGraph).updateModel m ({ · with slots }))
  | .own i => modify fun state => { state with lists := state.lists.set i items }

/-- A new list. -/
def newList (items : List Object) : Act Object := do
  let i := (← get).lists.length
  modify fun state => { state with lists := state.lists ++ [items] }
  return .list (.own i)

/-- A new list of objects with the commas between them. -/
def newCommaList (items : List Object) : Act Object :=
  newList ((withCommas items).map fun item => .withComma item.data item.comma)

/-! ### Tables -/

/-- The entries of a table as they are now. -/
def entriesOf (i : Nat) : Act (List (Object × Object)) := do return (← get).dicts[i]?.getD []

/-- Gives other entries to a table. -/
def setEntries (i : Nat) (entries : List (Object × Object)) : Act Unit :=
  modify fun state => { state with dicts := state.dicts.set i entries }

/-- A new table. -/
def newDict (entries : List (Object × Object)) : Act Object := do
  let i := (← get).dicts.length
  modify fun state => { state with dicts := state.dicts ++ [entries] }
  return .dict i

/-! ### Streams -/

/-- What an act comes to, with its fault as a value. -/
def outcomeOf {α : Type} (a : Act α) : Act (Except RenderFault α) :=
  try return .ok (← a) catch fault => return .error fault

/-- Goes on with an outcome. -/
def resume {α : Type} : Except RenderFault α → Act α
  | .ok a => pure a
  | .error fault => throw fault

/-- A new stream of a type. -/
def newStream (type : String) (outcomes : List (Except RenderFault Object)) : Act Object := do
  let i := (← get).streams.length
  modify fun state => { state with streams := state.streams ++ [outcomes] }
  return .stream type i

/-- A new stream of items. -/
def streamOf (type : String) (items : List Object) : Act Object :=
  newStream type (items.map .ok)

/-- Takes the next item from a stream.  A fault ends the stream. -/
def pullStream (i : Nat) : Act (Option Object) := do
  let setRest (rest : List (Except RenderFault Object)) : Act Unit :=
    modify fun state => { state with streams := state.streams.set i rest }
  match (← get).streams[i]?.getD [] with
  | [] => return none
  | .ok o :: rest =>
    setRest rest
    return some o
  | .error fault :: _ =>
    setRest []
    throw fault

/-- Takes all items from a stream. -/
def drainStream (i : Nat) : Act (List Object) := do
  let outcomes := (← get).streams[i]?.getD []
  modify fun state => { state with streams := state.streams.set i [] }
  outcomes.mapM resume

/-! ### Loops -/

/-- A new loop. -/
def newLoop (loop : Loop) : Act Nat := do
  let i := (← get).loops.length
  modify fun state => { state with loops := state.loops ++ [loop] }
  return i

/-- A loop as it is now. -/
def loopAt (i : Nat) : Act Loop := do
  return (← get).loops[i]?.getD { upcoming := .fixed [], length := some 0 }

/-- Changes a loop. -/
def updateLoop (i : Nat) (f : Loop → Loop) : Act Unit :=
  modify fun state => { state with loops := state.loops.modify i f }

/-- The first of the items that are to come, and what comes behind it.  A list that has come to its
end stays there, even if it grows. -/
def Upcoming.step : Upcoming → Act (Option Object × Upcoming)
  | fixed [] => pure (none, fixed [])
  | fixed (o :: more) => pure (some o, fixed more)
  | live r place => do
    match (← contents r)[place]? with
    | some o => return (some o, live r (place + 1))
    | none => return (none, fixed [])
  | stream i => do return (← pullStream i, stream i)

namespace Loop

/-- Takes the next item from what is to come. -/
def pull (i : Nat) : Act (Option Object) := do
  let (o, upcoming) ← (← loopAt i).upcoming.step
  updateLoop i ({ · with upcoming })
  return o

/-- The next item, which the loop will come to later. -/
def peek (i : Nat) : Act (Option Object) := do
  match (← loopAt i).next with
  | some o => return some o
  | none =>
    let o ← pull i
    updateLoop i ({ · with next := o })
    return o

/-- Goes on to the next item. -/
def advance (i : Nat) : Act (Option Object) := do
  match ← peek i with
  | none => return none
  | some o =>
    updateLoop i fun loop => { loop with
      reached := loop.reached + 1, previous := loop.current, current := some o, next := none }
    return some o

/-- The number of items, which is settled when it is first asked for. -/
def settledLength (i : Nat) : Act Nat := do
  let loop ← loopAt i
  match loop.length with
  | some n => return n
  | none =>
    let beyond := loop.reached + (if loop.next.isSome then 1 else 0)
    let n ← match loop.upcoming with
      | .fixed items => pure (items.length + beyond)
      | .live r _ => do pure (← contents r).length
      | .stream s => do
        let items ← drainStream s
        updateLoop i ({ · with upcoming := .fixed items })
        pure (items.length + beyond)
    updateLoop i ({ · with length := some n })
    return n

end Loop

/-! ### Renderings -/

/-- A new rendering. -/
def newRendering (rendering : Rendering) : Act Nat := do
  let i := (← get).renderings.length
  modify fun state => { state with renderings := state.renderings ++ [rendering] }
  return i

/-- A rendering as it is now. -/
def renderingAt (i : Nat) : Act Rendering := do
  return (← get).renderings[i]?.getD { template := "", names := [] }

/-- Whether outputs are made safe for a page where a rendering is being run. -/
def escapesIn (rendering : Nat) : Act Bool := do return (← renderingAt rendering).escapes

/-- Changes a rendering. -/
def updateRendering (i : Nat) (f : Rendering → Rendering) : Act Unit :=
  modify fun state => { state with renderings := state.renderings.modify i f }

/-- Writes past the bodies whose texts are kept. -/
def passOn (chunks : List Object) : Act Unit :=
  modify fun state => { state with passed := state.passed ++ chunks }

/-- What was written past the bodies whose texts are kept, since this was asked for last. -/
def takePassed : Act (List Object) := do
  let { passed, .. } ← get
  modify fun state => { state with passed := [] }
  return passed

/-! ### Names with values -/

/-- Gives a value to a name in a scope.  Routines see it, and so do other templates if the name
stands in the outermost scope; they can bring it in if it is `offered`. -/
def Scope.store (scope : Scope) (name : String) (o : Object) (offered : Bool) : Act Scope := do
  let scope := scope.put name o
  if let some i := scope.place then
    modify fun state => { state with scopes := state.scopes.set i scope }
  if scope.isOutermost then
    updateRendering scope.rendering fun rendering => { rendering with
      names := (name, o) :: rendering.names
      offered := if offered && !name.startsWith "_" then rendering.offered ++ [name]
        else rendering.offered.filter (· ≠ name) }
  return scope

/-- A new routine that looks up names in a scope, and the scope with a place for that. -/
def newRoutine (scope : Scope) (routine : Scope → Routine) : Act (Object × Scope) := do
  let state ← get
  let place := scope.place.getD state.scopes.length
  let scope := { scope with place := some place }
  set { state with
    scopes := if place < state.scopes.length then state.scopes else state.scopes ++ [scope]
    routines := state.routines ++ [routine scope] }
  return (.routine state.routines.length, scope)

end MobileSchema.Template
