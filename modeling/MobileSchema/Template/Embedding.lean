import MobileSchema.Template.Value

/-!
# Embedding templates

Which template an object asks for, and how the template comes into another: with its text, with what
it defines, or as the one that is extended.
-/

namespace MobileSchema.Template

/-! ### Names of templates -/

/-- The name that is written as it is looked up. -/
def TemplateName.ofString (s : String) : TemplateName := ⟨s, s⟩

/-- The name of a template that an object gives. -/
def TemplateName.of (o : Object) : Act TemplateName := do
  checkKey o
  match o, ← textIn? o with
  | .undefined cause, _ => throw (.undefined cause)
  | o, some path => return ⟨path, ← writtenOf o⟩
  | o, none => lackOf o "split"

/-- The template of the name that an object gives. -/
def namedTemplate (context : Context) (o : Object) : Act TemplateName := do
  let name ← TemplateName.of o
  if context.hasTemplate name then return name else throw (.notFound name.written)

/-- The first of some names of which a template can be chosen.  Undefined objects are passed
over. -/
def firstTemplate? (context : Context) : List Object → Act (Option TemplateName)
  | [] => return none
  | .undefined _ :: os => firstTemplate? context os
  | o :: os => do
    let name ← TemplateName.of o
    if ← context.canChoose name then return some name else firstTemplate? context os

/-- How messages write an object that was to be the name of a template. -/
def writtenName (o : Object) : Act String :=
  match o with
  | .undefined cause => pure cause.message
  | o => writtenOf o

/-- The template that an object asks for: the one of a name, or the first that there is of some
names. -/
def templateFor (context : Context) (o : Object) : Act TemplateName := do
  if (← textIn? o).isSome || isUndefined o then namedTemplate context o
  else if !(← truthOf o) then throw .nothingToChoose
  else
    let names ← itemsOf o
    match ← firstTemplate? context names with
    | some name => return name
    | none => throw (.noneFound (← names.mapM writtenName))

/-! ### Texts -/

/-- What a template writes that another includes.  A template that sees no names of the other one is
written past the bodies whose texts are kept. -/
def embedded (context : Context) (scope : Scope) (withNames : Bool) (name : TemplateName) :
    Act (List Object) := do
  if withNames then return ← context.run (.embed name scope.visible)
  let parts ← (← context.run (.library name none)).mapM fun o => do
    match o with
    | .library _ body => return .text body
    | o => return o
  if !context.isKept then return parts
  passOn parts
  return []

/-- What the template writes that an object asks for. -/
def embedNamed (context : Context) (scope : Scope) (missingAllowed withNames : Bool) (o : Object) :
    Act (List Object) := do
  match ← outcomeOf (templateFor context o) with
  | .ok name => embedded context scope withNames name
  | .error fault => if missingAllowed && fault.isMissing then return [] else throw fault

/-! ### Definitions -/

/-- What the template of the name defines that an object gives. -/
def libraryOf (context : Context) (scope : Scope) (withNames : Bool) (o : Object) : Act Object := do
  let name ← namedTemplate context o
  let parts ← context.run (.library name (if withNames then some scope.visible else none))
  return parts.head?.getD .none

/-- What a library offers under a name that is brought in on a line. -/
def broughtFrom (context : Context) (library : Object) (name : String) (line : Nat) :
    Act Object := do
  match library with
  | .library rendering _ =>
    match ← offeredBy rendering name with
    | some o => return o
    | none =>
      let template := (← renderingAt rendering).template
      return .undefined (.notDefined template name line context.template)
  | _ => return .none

/-! ### Extending -/

/-- Lets a rendering go on with the template whose name an object gives, whose blocks stand behind
those that are there. -/
def extendBy (context : Context) (rendering : Nat) (o : Object) : Act Unit := do
  let name ← namedTemplate context o
  let blocks ← context.blocksOf name
  updateRendering rendering fun rendering => { rendering with
    parent := some name
    blocks := blocks.foldl (fun known (block, body) =>
      let own := [{ template := name.path, body : Block }]
      if (known.lookup block).isSome then
        known.map fun (other, stack) => (other, if other = block then stack ++ own else stack)
      else known ++ [(block, own)]) rendering.blocks }

end MobileSchema.Template
