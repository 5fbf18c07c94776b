import MobileSchema.Template.Evaluation

/-!
# Running bodies

What the bodies of templates, blocks, routines and recursive loops write when their turn comes,
which can be long after their place in the template was passed.
-/

namespace MobileSchema.Template

/-- What a template writes in a rendering, and behind it what the template writes that it
extends. -/
def runTemplate (context : Context) (rendering : Nat) (statements : List Statement) :
    Act (List Object) := do
  let entered := if Statement.lookUp statements "self" then ["self"] else []
  let frame := Frame.of [] entered statements
  let outer := Scope.ofNames rendering (← renderingAt rendering).names
  let scope := entered.foldl (fun scope name => scope.put name (.blocks rendering))
    (frame.before outer)
  let scope : Scope := { frame.behind outer scope with
    isOutermost := true, yields := Statement.anyExtends statements }
  let known := entered ++ Statement.scopeNamesOfAll statements
  let (parts, _) ← Statement.runAll context known scope statements
  match (← renderingAt rendering).parent with
  | none => return parts
  | some name => return parts ++ (← context.run (.parent rendering name))

/-- The block of the same name in the template that is extended. -/
def blockAbove (rendering : Nat) (name : String) (depth : Nat) : Act Object := do
  let stack := ((← renderingAt rendering).blocks.lookup name).getD []
  if depth + 1 < stack.length then return .block rendering name (depth + 1)
  else return .undefined (.noParentBlock name)

/-- What a block of a rendering writes, `depth` templates up. -/
def runBlock (context : Context) (rendering : Nat) (name : String) (depth : Nat)
    (body : List Statement) : Act (List Object) := do
  let entered := ["self", "super"].filter (Statement.lookUp body)
  let frame := Frame.of [] entered body
  let outer := Scope.ofNames rendering (← renderingAt rendering).names
  let above ← blockAbove rendering name depth
  let scope := entered.foldl (fun scope name =>
    scope.put name (if name = "self" then .blocks rendering else above)) (frame.before outer)
  let known := entered ++ Statement.scopeNamesOfAll body
  return (← Statement.runAll context known (frame.behind outer scope) body).1

/-- The context of a body in its surroundings, whose text is kept. -/
def Context.within (context : Context) (surroundings : Surroundings) : Context :=
  { context.kept with template := surroundings.template, safety := surroundings.safety }

/-- The scope in which parameters that are not given have their values, in order. -/
def putDefaults (context : Context) (scope : Scope) :
    List (String × Option Object × Option Expr) → Act Scope
  | [] => return scope
  | (_, some _, _) :: rest => putDefaults context scope rest
  | (name, none, some default) :: rest => do
    putDefaults context (scope.put name (← default.value context scope)) rest
  | (name, none, none) :: rest =>
    putDefaults context (scope.put name (.undefined (.parameter name))) rest

/-- What the body of a routine writes for the values of its parameters. -/
def runRoutine (context : Context) (routine : Routine) (values : List (String × Option Object)) :
    Act (List Object) := do
  let surroundings := routine.surroundings
  let context := context.within surroundings
  let scopes := (← get).scopes
  let outer := (surroundings.scope.place.bind fun i => scopes[i]?).getD surroundings.scope
  let names := values.map (·.1)
  let all := routine.defaults.map .output ++ routine.body
  let frame := Frame.of surroundings.known names all
  let scope := values.foldl (fun (scope : Scope) (name, value) => scope.give name value)
    (frame.before outer)
  let scope : Scope := { frame.behind outer scope with yields := false }
  let defaults := List.replicate (routine.parameters.length - routine.defaults.length) none ++
    routine.defaults.map some
  let scope ← putDefaults context scope
    (routine.parameters.zip ((values.map (·.2)).zip defaults))
  let known := surroundings.known ++ names ++ Statement.scopeNamesOfAll all
  return (← Statement.runAll context known scope routine.body).1

/-- What a recursive loop writes for the items of an object. -/
def runAgain (context : Context) (loop : Loop) (o : Object) : Act (List Object) := do
  let some code := loop.code | return []
  let context := context.within code.surroundings
  turns context code.surroundings.known code.surroundings.scope code true (loop.depth + 1) o
    (fun known scope => do return (← Statement.runAll context known scope code.body).1)
    (fun known scope => do return (← Statement.runAll context known scope code.orElse).1)

end MobileSchema.Template
