import MobileSchema.Source.Order

/-!
# Rendering sources

From an order to the text of a source.  A template is read and prepared as a whole before it writes
anything.  It can embed other templates and order other sources, which are rendered in their turn;
what all of them change in the graph stays, and so does what they note, even if the rendering fails.
-/

namespace MobileSchema

open Template

/-! ### Templates -/

/-- How settings treat white space around tags. -/
def whitespaceOf (settings : Settings) : Whitespace :=
  ⟨settings.trimBlocks, settings.lstripBlocks, settings.keepTrailingNewline⟩

/-- The template of a name, ready to be rendered. -/
def preparedOf (page : Page) (name : TemplateName) : Act Prepared := do
  match source page.settings page.files name with
  | .error fault => throw fault
  | .ok cs =>
    match treeOfSource (whitespaceOf page.settings) cs with
    | .error fault => throw (.reading fault)
    | .ok statements => Prepared.of page.table statements

/-- Whether there is a template of a name in which no constant is undefined where it is needed. -/
def canChoose (page : Page) (name : TemplateName) : Act Bool := do
  if !hasSource page.settings page.files name then return false
  match ← outcomeOf (preparedOf page name) with
  | .error (.undefined _) => return false
  | outcome => let _ ← resume outcome; return true

/-- What is known to all templates. -/
def commonNames : List (String × Object) :=
  [("range", .maker .span), ("dict", .maker .dict), ("lipsum", .textMaker),
    ("cycler", .maker .cycler), ("joiner", .maker .joiner), ("namespace", .maker .record)]

/-! ### Errands -/

/-- The context of a template of a page; `run` does errands. -/
def contextOf (page : Page) (name : String) (run : Errand → Act (List Object)) : Context where
  template := name
  table := page.table
  run := run
  hasTemplate := hasSource page.settings page.files
  canChoose := MobileSchema.canChoose page
  blocksOf := fun name => do return (← preparedOf page name).blocks

/-- A new rendering of a template in which some names stand for something, and what the template
writes. -/
def startRendering (page : Page) (run : Errand → Act (List Object)) (name : TemplateName)
    (names : List (String × Object)) : Act (Nat × List Object) := do
  let prepared ← preparedOf page name
  let rendering ← newRendering {
    template := name.path
    names := names ++ commonNames
    blocks := prepared.blocks.map fun (block, body) => (block, [{ template := name.path, body }]) }
  return (rendering, ← runTemplate (contextOf page name.path run) rendering prepared.main)

/-- What a template defines, in which some names stand for something. -/
def newLibrary (page : Page) (run : Errand → Act (List Object)) (name : TemplateName)
    (names : List (String × Object)) : Act Object := do
  let (rendering, parts) ← startRendering page run name names
  return .library rendering (← textOfCodes (← codesOfParts parts))

/-- What a template defines that sees no names from outside; it is run only once. -/
def commonLibrary (page : Page) (run : Errand → Act (List Object)) (name : TemplateName) :
    Act Object := do
  if let some library := (← get).libraries.lookup name.path then return library
  let library ← newLibrary page run name []
  modify fun state => { state with libraries := (name.path, library) :: state.libraries }
  return library

/-- Does an act on a page of its own, which knows no libraries yet. -/
def onOwnPage {α : Type} (a : Act α) : Act α := do
  let { libraries, .. } ← get
  modify fun state => { state with libraries := [] }
  let result ← a
  modify fun state => { state with libraries }
  return result

/-- Does an errand of a page, at a bound on the depth of errands. -/
def doErrand (site : Site) : Nat → Page → Errand → Act (List Object)
  | 0, _, _ => throw .endless
  | depth + 1, page, errand => do
    let run := doErrand site depth page
    match errand with
    | .embed name names => return (← startRendering page run name names).2
    | .library name (some names) => return [← newLibrary page run name names]
    | .library name none => return [← commonLibrary page run name]
    | .parent rendering name => do
      let prepared ← preparedOf page name
      updateRendering rendering ({ · with parent := none })
      runTemplate (contextOf page name.path run) rendering prepared.main
    | .block rendering name place => do
      match (((← renderingAt rendering).blocks.lookup name).getD [])[place]? with
      | some block => runBlock (contextOf page block.template run) rendering name place block.body
      | none => return []
    | .routine i values => do
      match (← get).routines[i]? with
      | some routine => runRoutine (contextOf page "" run) routine values
      | none => return []
    | .again i items => do runAgain (contextOf page "" run) (← loopAt i) items
    | .source order => onOwnPage do
      let job ← (← order.order).prepare site
      return (← startRendering job.page (doErrand site depth job.page) job.name job.names).2

/-! ### Orders -/

/-- The source that is ordered, by the numbers of its characters. -/
def Order.codes (site : Site) (order : Order) : Act (List Nat) := do
  let job ← order.prepare site
  let run := doErrand site site.env.depths.templates job.page
  let (_, parts) ← startRendering job.page run job.name job.names
  codesOfParts parts

/-- The text of a source that is given by the numbers of its characters.  With halves of surrogate
pairs in it, it is none. -/
def wholeText (codes : List Nat) : Act String :=
  match textOfCodes? codes with
  | some s => return s
  | none => throw (.halved codes)

/-- The text of the source that is ordered. -/
def Order.text (site : Site) (order : Order) : Act String := do wholeText (← order.codes site)

/-- What rendering comes to, with the graph behind it and what is to be noted. -/
structure Rendered (ε α : Type) where
  result : Except ε α
  graph : Graph
  log : List LogEntry

/-- What an act comes to that starts with a graph. -/
def Rendered.ofAct {α : Type} (a : Act α) (g : Graph) : Rendered RenderFault α :=
  let (result, state) := a.run.run { graph := g }
  { result, graph := state.graph, log := state.log }

namespace RenderRequest

variable (request : RenderRequest) (g : Graph) (site : Site)

/-- Renders the source that is asked for, by the numbers of its characters. -/
def renderCodes : Rendered RenderFault (List Nat) := .ofAct (request.order.codes site) g

/-- Renders the source that is asked for, as a text. -/
def render : Rendered RenderFault String := .ofAct (request.order.text site) g

end RenderRequest

/-! ### The names in a template -/

/-- What a template can refer to. -/
structure TemplateNames where
  keys : List String
  models : List String
  language : Language
  kinds : List FieldKind
  functions : List String
  deriving DecidableEq, Repr

/-- What a template can refer to when a schema is rendered with the usual text functions. -/
def templateNames (g : Graph) (schema : Reference) (language : Value) :
    Except SchemaFault TemplateNames := do
  match schema with
  | .schema s =>
    let language ← Language.ofValue language
    return {
      keys := ((initialNames s language .none).map (·.1)).mergeSort fun a b => a ≤ b
      models := ← g.namesOf (g.schema s).slots
      language
      kinds := FieldKind.all
      functions := FunctionTable.conventions.names.mergeSort fun a b => a ≤ b }
  | r => g.lacks r "models"

end MobileSchema
