import MobileSchema.Settings.Load
import MobileSchema.Template.Body
import MobileSchema.Template.Lookup
import MobileSchema.Template.Preparation
import MobileSchema.Template.Reading

/-!
# Orders of sources

What is asked for when a source is rendered, and what is found out before its template is looked up.
First the settings are found, then the language, then the schema is checked if the settings ask for
it, then the text functions are put together, and last the template is named.  The first of these
that fails ends the rendering.

A source can be ordered from outside, by values, and by a template, by objects.
-/

namespace MobileSchema

open Template

/-! ### Orders -/

/-- Where the settings of an order come from. -/
inductive SettingsChoice
  /-- from the files and the environment -/
  | loaded
  | given (settings : Settings)
  /-- an object was given that is no settings -/
  | other (o : Object)

/-- An order of a source.  A part that was not made out carries the fault, which counts only when
its turn has come. -/
structure Order where
  schema : Reference
  language : Except RenderFault Language
  /-- the name of the template, if the object counts as true -/
  template : Object
  offers : Except RenderFault (List (String × Offer))
  settings : Except RenderFault SettingsChoice

/-- What is asked for from outside. -/
structure RenderRequest where
  schema : Reference
  language : Value
  template : Option String := none
  offers : List (String × Offer) := []
  /-- the settings to use, if they are not to be loaded -/
  settings : Option Settings := none

/-- The order that a request makes. -/
def RenderRequest.order (request : RenderRequest) : Order where
  schema := request.schema
  language := (Language.ofValue request.language).mapError .schema
  template := .ofText? request.template
  offers := .ok request.offers
  settings := .ok (request.settings.elim .loaded .given)

/-- What an object offers as a text function. -/
def offerOf (g : Graph) : Object → Offer
  | .function f => .function f
  | o => .other (o.typeName g)

/-- The text functions that an object offers. -/
def offersOf (o : Object) : Act (List (String × Offer)) := do
  if !(← truthOf o) then return []
  match o with
  | .dict i =>
    let g ← currentGraph
    (← entriesOf i).mapM fun (key, value) => do return (← writtenOf key, offerOf g value)
  | o => lackOf o "items"

/-- The settings that an object chooses. -/
def settingsChoiceOf (o : Object) : Act SettingsChoice := do
  if ← truthOf o then return .other o else return .loaded

/-- The order that a template makes. -/
def Template.SourceOrder.order (order : SourceOrder) : Act Order := do
  return {
    schema := .schema order.schema
    language := ← outcomeOf (languageOf order.language)
    template := order.template
    offers := ← outcomeOf (offersOf order.helpers)
    settings := ← outcomeOf (settingsChoiceOf order.settings) }

/-! ### Preparing -/

/-- What sources are rendered from beside schemas. -/
structure Site where
  env : Environment
  files : FileTree

/-- What the templates of a source share. -/
structure Page where
  settings : Settings
  files : FileTree
  table : FunctionTable

/-- A template that is about to be rendered. -/
structure Job where
  page : Page
  /-- what names stand for in the template -/
  names : List (String × Object)
  name : TemplateName

/-- The name of the template for a language, unless another template is asked for. -/
def templateNameFor (language : Value) (template : Option String) : Except SchemaFault String :=
  match template with
  | none | some "" => (Language.ofValue language).map Language.templateName
  | some name => .ok name

/-- What the names of a template stand for at its start; the table offers the text functions. -/
def initialNames (s : SchemaId) (language : Language) (functions : Object) :
    List (String × Object) :=
  [("schema", .schema s), ("models", .list (.models s)), ("language", .language language),
    ("field_kind", .kinds), ("helpers", functions)]

/-- The text functions as the entries of a table. -/
def functionEntries (table : FunctionTable) : List (Object × Object) :=
  table.map fun (name, f) => (.text name, .function f)

namespace Order

variable (site : Site) (order : Order)

/-- The settings of an order. -/
def findSettings : Act SettingsChoice := do
  match ← resume order.settings with
  | .loaded =>
    let (settings, log) := loadSettings site.env site.files none
    note log
    match settings with
    | .ok settings => return .given settings
    | .error fault => throw (.settings fault)
  | choice => return choice

/-- Checks what an order has in the place of the schema. -/
def checkSchema : Act Unit := do
  let g ← currentGraph
  match order.schema with
  | .schema s => ask (g.validate s)
  | r => ask (g.lacks r "validate")

/-- The schema that an order has in its place. -/
def findSchema : Act SchemaId := do
  match order.schema with
  | .schema s => return s
  | r => ask ((← currentGraph).lacks r "package_name")

/-- The object that names the template. -/
def nameObject (language : Language) : Act Object := do
  if ← truthOf order.template then return order.template
  else return .text language.templateName

/-- What an order comes to before its template is looked up. -/
def prepare : Act Job := do
  let choice ← order.findSettings site
  let language ← resume order.language
  let settings ← match choice with
    | .given settings => pure settings
    | .loaded => pure {}
    | .other o => lackOf o "validate_before_render"
  if settings.validateBeforeRender then order.checkSchema
  let table ← match FunctionTable.merge (← resume order.offers) with
    | .ok table => pure table
    | .error fault => throw (.offer fault)
  let name ← order.nameObject language
  let s ← order.findSchema
  let schema := (← currentGraph).schema s
  note [.rendering schema.packageName language.value (← writtenOf name) schema.slots.length]
  let name ← TemplateName.of name
  return {
    page := ⟨settings, site.files, table⟩
    names := initialNames s language (← newDict (functionEntries table))
    name }

end Order

end MobileSchema
