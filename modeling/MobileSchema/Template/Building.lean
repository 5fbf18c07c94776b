import MobileSchema.Schema.Check
import MobileSchema.Schema.Declaration
import MobileSchema.Template.Equality
import MobileSchema.Template.Signature

/-!
# Building on schemas from templates

What the methods of models, properties and pairs answer, and what they change: a template can build
on the schema that it is rendered for.
-/

namespace MobileSchema.Template

/-! ### What objects name -/

/-- The kind that an object names. -/
def kindOf (o : Object) : Act FieldKind := do
  checkUsable o
  match o.text?.bind FieldKind.ofText? with
  | some kind => return kind
  | none => throw (.schema (.unknownKind (← shownOf o)))

/-- The language that an object names. -/
def languageOf (o : Object) : Act Language := do
  checkUsable o
  match o.text?.bind Language.ofText? with
  | some language => return language
  | none => throw (.schema (.unknownLanguage (← shownOf o)))

/-- The reference that an object is kept as. -/
def referenceOf (o : Object) : Act Reference := do
  match o.reference? with
  | some r => return r
  | none => return .text (← textFrom o)

/-- Whether an argument is given and true. -/
def isSetIn (bound : Bound) (name : String) : Act Bool :=
  (bound.find? name).elim (pure false) truthOf

/-! ### Properties and pairs -/

/-- What a method of a property answers. -/
def callProperty (p : PropertyId) (m : PropertyMethod) (given : Given) : Act Object := do
  let g ← currentGraph
  let call := methodName g (.property p) (.property m)
  match m with
  | .declaration =>
    let bound ← bindTo { call, required := ["language"] } given
    let texts ← ask (g.declarations p)
    return .text (texts.forLanguage (← languageOf (bound.find "language")))
  | .renderedDeclaration =>
    let _ ← bindTo { call, required := [] } given
    let texts ← ask (g.declarations p)
    return .pair (.text texts.ios) (.text texts.android)

/-- What a method of a pair answers. -/
def callPair (ios android : Object) (m : PairMethod) (given : Given) : Act Object := do
  match m with
  | .both =>
    let bound ← bindTo {
      call := "PlatformPair.both", receiver := some "cls", required := ["value"] } given
    return .pair (bound.find "value") (bound.find "value")
  | .forLanguage =>
    let bound ← bindTo { call := "PlatformPair.for_language", required := ["language"] } given
    match bound.find "language" with
    | .undefined cause => throw (.undefined cause)
    | .language l => return if l.isIos then ios else android
    | o => lackOf o "is_ios"

/-! ### Models -/

/-- Builds by a call, and notes what it notes. -/
def buildBy (call : BuildCall) : Act Object := do
  let g ← currentGraph
  let (after, built) := g.build call
  setGraph after
  let built ← ask built
  note (after.callLog call)
  return .ofReference built.reference

/-- Adds a typed field with what is given to the builder of fields of any kind. -/
def addField (m : ModelId) (given : Given) : Act Object := do
  let bound ← bindTo {
    call := "Model.field"
    required := ["name", "kind"]
    byName := ["required", "indexed", "primary_key"] } given
  let kind ← kindOf (bound.find "kind")
  let options : FieldOptions := {
    required := ← isSetIn bound "required"
    indexed := ← isSetIn bound "indexed"
    primaryKey := ← isSetIn bound "primary_key" }
  let (g, p) := (← currentGraph).declareField m (← textFrom (bound.find "name")) kind options
  setGraph g
  return .property p

/-- Adds a relation. -/
def addRelation (m : ModelId) (many : Bool) (given : Given) : Act Object := do
  let bound ← bindTo {
    call := if many then "Model.list" else "Model.obj"
    required := ["name", "target"]
    byName := ["create_linking_objects", "linking_objects_name", "linking_objects_is_private"] }
    given
  let linkName := bound.find "linking_objects_name"
  let link : LinkOptions := {
    create := ← isSetIn bound "create_linking_objects"
    name := ← (do if ← truthOf linkName then return some (← textFrom linkName) else return none)
    isPrivate := ← isSetIn bound "linking_objects_is_private" }
  let target ← referenceOf (bound.find "target")
  buildBy (.relation many m (← textFrom (bound.find "name")) target link)

/-- The first of some references that a name is the name of. -/
def searchNamed (rs : List Reference) (name : Object) : Act Object := do
  let g ← currentGraph
  let found ← rs.findM? fun r => do isEqual (.text (← ask (g.nameOf r))) name
  return .ofReference (found.getD .nothing)

/-- What a method of a model answers. -/
def callModel (m : ModelId) (method : ModelMethod) (given : Given) : Act Object := do
  let g ← currentGraph
  let call := methodName g (.model m) (.model method)
  match method with
  | .field => addField m given
  | .typed builder =>
    let bound ← bindTo { call, required := ["name"], takesOthers := true } given
    addField m ⟨[bound.find "name", .kind builder.kind], bound.others⟩
  | .obj => addRelation m false given
  | .list => addRelation m true given
  | .linkingObjects =>
    let bound ← bindTo {
      call, required := ["name", "source", "property"], byName := ["is_private"] }
      given
    let source ← referenceOf (bound.find "source")
    let forward ← referenceOf (bound.find "property")
    buildBy (.backlink m (← textFrom (bound.find "name")) source forward
      (← isSetIn bound "is_private"))
  | .usesKind =>
    let bound ← bindTo { call, required := ["kind"] } given
    return .bool (g.hasKind m (← kindOf (bound.find "kind")))
  | .property =>
    let bound ← bindTo { call, required := ["name"] } given
    searchNamed (g.model m).slots (bound.find "name")

end MobileSchema.Template
