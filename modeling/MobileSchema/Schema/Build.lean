import MobileSchema.Schema.Attribute

/-!
# Building

The calls by which a schema is built up.  Each adds to the end of a list and leaves all else as it
is, but for the primary key of a model, which a new field can take over.  A call that is refused
changes nothing, unless it is the backlink of a relation that is refused, whose target is no model.

A call is a value, `BuildCall`, and `Graph.build` says what it does, so that a run of calls is a
list.
-/

namespace MobileSchema

/-- How a typed field is to be declared. -/
structure FieldOptions where
  required : Bool := false
  indexed : Bool := false
  primaryKey : Bool := false
  deriving DecidableEq, Repr

/-- The backlink that a relation is to have. -/
structure LinkOptions where
  create : Bool := false
  name : Option String := none
  isPrivate : Bool := false
  deriving DecidableEq, Repr

/-- A builder for fields of one kind. -/
inductive FieldBuilder
  | string | int | long | bool | float | double | date | data
  deriving DecidableEq, Repr

namespace FieldBuilder

/-- The name of a builder. -/
def name : FieldBuilder → String
  | string => "string"
  | int => "int"
  | long => "long"
  | bool => "bool"
  | float => "float"
  | double => "double"
  | date => "date"
  | data => "data"

/-- The builders. -/
def all : List FieldBuilder := [string, int, long, bool, float, double, date, data]

/-- The kind of the fields that a builder makes.  Both builders of fractions make them in single
precision. -/
def kind : FieldBuilder → FieldKind
  | string => .string
  | int => .int32
  | long => .int64
  | bool => .bool
  | float | double => .float32
  | date => .date
  | data => .binary

end FieldBuilder

/-- A call that builds. -/
inductive BuildCall
  | model (schema : SchemaId) (name : String)
  | field (model : ModelId) (name : String) (kind : Value) (options : FieldOptions)
  | typed (model : ModelId) (builder : FieldBuilder) (name : String) (options : FieldOptions)
  | relation (many : Bool) (model : ModelId) (name : String) (target : Reference)
      (link : LinkOptions)
  | backlink (model : ModelId) (name : String) (source forward : Reference) (isPrivate : Bool)

/-- What a call has built. -/
inductive Built
  | model (m : ModelId)
  | property (p : PropertyId)
  deriving DecidableEq, Repr

/-- A reference to what a call has built. -/
def Built.reference : Built → Reference
  | model m => .model m
  | property p => .property p

namespace Graph

variable (g : Graph)

/-- Adds a property at the end of a model's list. -/
def declare (m : ModelId) (name : String) (shape : Shape) (indexed : Bool) : Graph × PropertyId :=
  let (g, p) := g.addProperty { owner := .model m, name, shape, indexed }
  (g.append m (.property p), p)

/-- Adds a model at the end of a schema's list. -/
def declareModel (s : SchemaId) (name : String) : Graph × ModelId :=
  let (g, m) := g.addModel { schema := s, name }
  (g.appendModel s (.model m), m)

/-- Adds a typed field. -/
def declareField (m : ModelId) (name : String) (kind : FieldKind) (options : FieldOptions) :
    Graph × PropertyId :=
  let (g, p) := g.declare m name (.typed (.known kind) options.required) options.indexed
  if options.primaryKey then
    (g.updateModel m fun model => { model with primaryKey := .property p }, p)
  else (g, p)

/-- Adds a backlink. -/
def declareBacklink (m : ModelId) (name : String) (source forward : Reference)
    (isPrivate : Bool) : Graph × PropertyId :=
  g.declare m name (.inverse source forward isPrivate) false

/-- Adds a relation, and the backlink that it is to have to its target.  If the target is no model
the relation is added and the backlink refused. -/
def declareRelation (many : Bool) (m : ModelId) (name : String) (target : Reference)
    (link : LinkOptions) : Graph × Except SchemaFault PropertyId :=
  let linkName := link.name.getD ""
  if link.create && linkName = "" then (g, .error (.missingLinkName (g.modelName m) name))
  else
    let (g, p) := g.declare m name (if many then .toMany target else .toOne target) false
    if link.create then
      match target with
      | .model t =>
        ((g.declareBacklink t linkName (.model m) (.property p) link.isPrivate).1, .ok p)
      | target => (g, g.lacks target "linking_objects")
    else (g, .ok p)

/-- What a call that succeeds has to note. -/
def callLog : BuildCall → List LogEntry
  | .relation _ m name (.model target) link =>
    if link.create then
      [.linked (g.modelName target) (link.name.getD "") (g.modelName m) name]
    else []
  | _ => []

/-- The graph after a call, and what the call has built. -/
def build : BuildCall → Graph × Except SchemaFault Built
  | .model s name =>
    let (g, m) := g.declareModel s name
    (g, .ok (.model m))
  | .field m name kind options =>
    match FieldKind.ofValue kind with
    | .error fault => (g, .error fault)
    | .ok kind =>
      let (g, p) := g.declareField m name kind options
      (g, .ok (.property p))
  | .typed m builder name options =>
    let (g, p) := g.declareField m name builder.kind options
    (g, .ok (.property p))
  | .relation many m name target link =>
    let (g, p) := g.declareRelation many m name target link
    (g, p.map .property)
  | .backlink m name source forward isPrivate =>
    let (g, p) := g.declareBacklink m name source forward isPrivate
    (g, .ok (.property p))

/-- The graph after a run of calls. -/
def run (calls : List BuildCall) : Graph := calls.foldl (fun g call => (g.build call).1) g

end Graph

/-! ### Options by name -/

/-- An option that is set or not. -/
inductive Flag
  | required | indexed | primaryKey | createLinkingObjects | linkingObjectsIsPrivate | isPrivate
  deriving DecidableEq, Repr

namespace Flag

/-- The name of a flag. -/
def name : Flag → String
  | required => "required"
  | indexed => "indexed"
  | primaryKey => "primary_key"
  | createLinkingObjects => "create_linking_objects"
  | linkingObjectsIsPrivate => "linking_objects_is_private"
  | isPrivate => "is_private"

/-- The flags. -/
def all : List Flag :=
  [required, indexed, primaryKey, createLinkingObjects, linkingObjectsIsPrivate, isPrivate]

end Flag

/-- The names of the options that some call knows. -/
def knownOptions : List String := "linking_objects_name" :: Flag.all.map Flag.name

/-- An option by name.  Those that some call knows have values of the types that they are declared
with. -/
inductive NamedOption
  | flag (flag : Flag) (isSet : Bool)
  | linkName (name : Option String)
  /-- an option that no call knows; its value is never looked at -/
  | other (name : String) (isOther : name ∉ knownOptions)
  deriving DecidableEq

namespace NamedOption

/-- The name of an option. -/
def name : NamedOption → String
  | flag f _ => f.name
  | linkName _ => "linking_objects_name"
  | other name _ => name

/-- What an option says about a flag. -/
def flag? (wanted : Flag) : NamedOption → Option Bool
  | flag f isSet => if f = wanted then some isSet else none
  | _ => none

/-- What an option says about the name of a backlink. -/
def linkName? : NamedOption → Option (Option String)
  | linkName name => some name
  | _ => none

end NamedOption

/-- Refuses the first option that repeats what a call was given or that the call does not know. -/
def checkOptions (call : String) (given accepted : List String) (options : List NamedOption) :
    Except SchemaFault Unit :=
  options.forM fun option =>
    if given.contains option.name then .error (.repeatedOption call option.name)
    else if accepted.contains option.name then .ok ()
    else .error (.unexpectedOption call option.name)

/-- Whether a flag is set, which it is not if nothing is said about it. -/
def isSet (options : List NamedOption) (flag : Flag) : Bool :=
  (options.findSome? (·.flag? flag)).getD false

/-- The name that is given for a backlink. -/
def linkNameIn (options : List NamedOption) : Option String :=
  (options.findSome? (·.linkName?)).join

/-- The options of a field, by name. -/
def FieldOptions.ofNamed (options : List NamedOption) : Except SchemaFault FieldOptions := do
  checkOptions "Model.field" ["self", "name", "kind"] ["required", "indexed", "primary_key"] options
  return {
    required := isSet options .required
    indexed := isSet options .indexed
    primaryKey := isSet options .primaryKey }

/-- The options of a builder for fields of one kind, by name. -/
def FieldBuilder.optionsOfNamed (builder : FieldBuilder) (options : List NamedOption) :
    Except SchemaFault FieldOptions := do
  let own := options.filter fun o => o.name = "self" || o.name = "name"
  checkOptions s!"Model.{builder.name}" ["self", "name"] [] own
  FieldOptions.ofNamed options

/-- The options of a relation, by name. -/
def LinkOptions.ofNamed (many : Bool) (options : List NamedOption) :
    Except SchemaFault LinkOptions := do
  checkOptions (if many then "Model.list" else "Model.obj") ["self", "name", "target"]
    ["create_linking_objects", "linking_objects_name", "linking_objects_is_private"] options
  return {
    create := isSet options .createLinkingObjects
    name := linkNameIn options
    isPrivate := isSet options .linkingObjectsIsPrivate }

/-- Whether a backlink is private, by name. -/
def backlinkPrivacyOfNamed (options : List NamedOption) : Except SchemaFault Bool := do
  checkOptions "Model.linking_objects" ["self", "name", "source", "property"] ["is_private"] options
  return isSet options .isPrivate

end MobileSchema
