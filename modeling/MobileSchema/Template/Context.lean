import MobileSchema.Template.Call
import MobileSchema.Template.Filter

/-!
# The context of a template

What all parts of a template share: its name, the text functions, and what it leaves to others.
-/

namespace MobileSchema.Template

/-- What all parts of a template share. -/
structure Context where
  /-- the name of the template -/
  template : String
  table : FunctionTable
  /-- whether outputs are made safe for a page -/
  safety : Safety := {}
  /-- whether the text of the part is kept instead of being written -/
  isKept : Bool := false
  /-- does an errand -/
  run : Errand → Act (List Object)
  /-- whether there is a template of a name -/
  hasTemplate : TemplateName → Bool
  /-- whether there is a template of a name in which no constant is undefined where it is needed -/
  canChoose : TemplateName → Act Bool
  /-- the blocks of the template of a name -/
  blocksOf : TemplateName → Act (List (String × List Statement))

namespace Context

variable (context : Context)

/-- What filters and tests need at the place that is run in the rendering of a scope. -/
def desk (scope : Scope) : Act Desk := do
  return deskOf context.table (← escapesIn scope.rendering) false

/-- Whether outputs are made safe for a page at the place that is run in the rendering of a
scope. -/
def escapes (scope : Scope) : Act Bool :=
  if context.safety.depends then escapesIn scope.rendering else return context.safety.isOn

/-- The surroundings of a body in a scope. -/
def surroundings (known : List String) (scope : Scope) : Surroundings :=
  { template := context.template, scope, known, safety := context.safety }

/-- The context of a body whose text is kept. -/
def kept : Context := { context with isKept := true }

end Context

/-! ### Arguments that are spread out -/

/-- The items of an object as so many arguments. -/
def spreadItems (o : Object) : Act (List Object) := do
  match ← items? o with
  | some items => return items
  | none => refuse (.notSpread (← typeOf o))

/-- What a call is given, with the entries of objects as so many arguments by name. -/
def Given.spread (given : Given) (call : String) (os : List Object) : Act Given :=
  os.foldlM (fun given o => do
    let entries ← match o with
      | .dict i => entriesOf i
      | .undefined cause => throw (.undefined cause)
      | o => refuse (.notSpreadEntries call (← typeOf o))
    entries.foldlM (fun given (key, value) => do
      let some name ← textIn? key | refuse .nameNotText
      if (given.named.lookup name).isSome then throw (.call (.repeatedName call name))
      return { given with named := given.named ++ [(name, value)] }) given) given

/-- The name of the call of all functions in messages about arguments that are spread out. -/
def callName : String := "jinja2.runtime.Context.call"

/-- The name of a filter or a test in messages about arguments that are spread out. -/
def Filter.spreadName (home : String) : Filter → String
  | simple call _ => call
  | simplePair type call _ => type ++ call
  | filter => home ++ filter.call

end MobileSchema.Template
