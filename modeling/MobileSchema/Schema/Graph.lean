import MobileSchema.Catalog

/-!
# The graph of schemas, models and properties

A schema lists models and a model lists properties, and these point at each other: a property at
its owner, a relation at its target, a backlink at the relation that it reverses.  Two things are
the same only if they are one and the same object, whatever their names.  So each object has a
number, `Graph` keeps what is known of each, and all pointers are numbers.

Building lets every pointer lead to an object of the right sort, but nothing keeps later changes
from putting any object, or none, in any place.  So a pointer is a `Reference`, which says what sort
of object it leads to.  A number that was never given out denotes a blank object, so that looking up
is total.
-/

namespace MobileSchema

/-- The number of a schema. -/
structure SchemaId where
  index : Nat
  deriving DecidableEq, Repr

/-- The number of a model. -/
structure ModelId where
  index : Nat
  deriving DecidableEq, Repr

/-- The number of a property. -/
structure PropertyId where
  index : Nat
  deriving DecidableEq, Repr

/-- Where a pointer leads: to an object of some sort, or nowhere.  A text can be in its place
too. -/
inductive Reference
  | nothing
  | schema (s : SchemaId)
  | model (m : ModelId)
  | property (p : PropertyId)
  | text (s : String)
  deriving DecidableEq, Repr

/-- The model that a reference leads to. -/
def Reference.model? : Reference → Option ModelId
  | model m => some m
  | _ => none

/-- The property that a reference leads to. -/
def Reference.property? : Reference → Option PropertyId
  | property p => some p
  | _ => none

/-- The kind of a typed field, as it was given: one of the kinds, or a text that was not looked
up. -/
inductive GivenKind
  | known (kind : FieldKind)
  | raw (text : String)
  deriving DecidableEq, Repr

/-- The text of a given kind. -/
def GivenKind.text : GivenKind → String
  | known kind => kind.value
  | raw text => text

/-- The kind that is meant, if there is such a kind. -/
def GivenKind.kind? : GivenKind → Option FieldKind
  | known kind => some kind
  | raw text => FieldKind.ofText? text

/-- What sort of property it is. -/
inductive Shape
  | typed (kind : GivenKind) (required : Bool)
  | toOne (target : Reference)
  | toMany (target : Reference)
  /-- a backlink: its owner is the target of the relation `forward`, which `target` declares -/
  | inverse (target forward : Reference) (isPrivate : Bool)
  deriving DecidableEq, Repr

namespace Shape

/-- Whether it is a typed field. -/
def isTyped : Shape → Bool
  | typed .. => true
  | _ => false

/-- Whether it is a forward relation. -/
def isRelation : Shape → Bool
  | toOne _ | toMany _ => true
  | _ => false

/-- Whether it is a relation to many. -/
def isListRelation : Shape → Bool
  | toMany _ => true
  | _ => false

/-- Whether it is a backlink. -/
def isBacklink : Shape → Bool
  | inverse .. => true
  | _ => false

/-- What a relation leads to. -/
def target? : Shape → Option Reference
  | typed .. => none
  | toOne target | toMany target | inverse target .. => some target

end Shape

/-- The sort of a property. -/
inductive PropertyClass
  | typedField | toOneRelation | toManyRelation | inverseRelation
  deriving DecidableEq, Repr

/-- The name of a sort of property. -/
def PropertyClass.name : PropertyClass → String
  | .typedField => "TypedField"
  | .toOneRelation => "ToOneRelation"
  | .toManyRelation => "ToManyRelation"
  | .inverseRelation => "InverseRelation"

/-- The sort of a property. -/
def Shape.propertyClass : Shape → PropertyClass
  | .typed .. => .typedField
  | .toOne _ => .toOneRelation
  | .toMany _ => .toManyRelation
  | .inverse .. => .inverseRelation

/-- A property. -/
structure Property where
  owner : Reference
  name : String
  shape : Shape
  indexed : Bool := false
  deriving DecidableEq, Repr

/-- A model. -/
structure Model where
  schema : SchemaId
  name : String
  /-- what the model lists as its properties -/
  slots : List Reference := []
  primaryKey : Reference := .nothing
  deriving DecidableEq, Repr

/-- The properties that a model lists. -/
def Model.listed (m : Model) : List PropertyId := m.slots.filterMap Reference.property?

/-- A schema. -/
structure Schema where
  packageName : Option String := some ""
  moduleName : Option String := none
  /-- what the schema lists as its models -/
  slots : List Reference := []
  deriving DecidableEq, Repr

/-- The models that a schema lists. -/
def Schema.listed (s : Schema) : List ModelId := s.slots.filterMap Reference.model?

/-- All schemas, models and properties. -/
structure Graph where
  schemas : List Schema := []
  models : List Model := []
  properties : List Property := []
  deriving DecidableEq, Repr

namespace Graph

/-! ### Looking up -/

/-- What is known of a schema. -/
def schema (g : Graph) (s : SchemaId) : Schema := g.schemas[s.index]?.getD {}

/-- What is known of a model. -/
def model (g : Graph) (m : ModelId) : Model :=
  g.models[m.index]?.getD { schema := ⟨0⟩, name := "" }

/-- What is known of a property. -/
def property (g : Graph) (p : PropertyId) : Property :=
  g.properties[p.index]?.getD { owner := .nothing, name := "", shape := .toOne .nothing }

/-- The name of a model. -/
def modelName (g : Graph) (m : ModelId) : String := (g.model m).name

/-- The name of a property. -/
def propertyName (g : Graph) (p : PropertyId) : String := (g.property p).name

/-- The models of a schema. -/
def modelsOf (g : Graph) (s : SchemaId) : List ModelId := (g.schema s).listed

/-- The properties that a model lists. -/
def listed (g : Graph) (m : ModelId) : List PropertyId := (g.model m).listed

/-! ### Changing -/

/-- Adds a schema. -/
def addSchema (g : Graph) (schema : Schema) : Graph × SchemaId :=
  ({ g with schemas := g.schemas ++ [schema] }, ⟨g.schemas.length⟩)

/-- Adds a model, which no schema lists yet. -/
def addModel (g : Graph) (model : Model) : Graph × ModelId :=
  ({ g with models := g.models ++ [model] }, ⟨g.models.length⟩)

/-- Adds a property, which no model lists yet. -/
def addProperty (g : Graph) (property : Property) : Graph × PropertyId :=
  ({ g with properties := g.properties ++ [property] }, ⟨g.properties.length⟩)

/-- Changes a schema. -/
def updateSchema (g : Graph) (s : SchemaId) (f : Schema → Schema) : Graph :=
  { g with schemas := g.schemas.modify s.index f }

/-- Changes a model. -/
def updateModel (g : Graph) (m : ModelId) (f : Model → Model) : Graph :=
  { g with models := g.models.modify m.index f }

/-- Changes a property. -/
def updateProperty (g : Graph) (p : PropertyId) (f : Property → Property) : Graph :=
  { g with properties := g.properties.modify p.index f }

/-- Puts an object at the end of a model's list. -/
def append (g : Graph) (m : ModelId) (slot : Reference) : Graph :=
  g.updateModel m fun model => { model with slots := model.slots ++ [slot] }

/-- Puts an object at the end of a schema's list. -/
def appendModel (g : Graph) (s : SchemaId) (slot : Reference) : Graph :=
  g.updateSchema s fun schema => { schema with slots := schema.slots ++ [slot] }

/-! ### What is known after a change -/

theorem schema_updateSchema_self (g : Graph) {s : SchemaId} (h : s.index < g.schemas.length)
    (f : Schema → Schema) : (g.updateSchema s f).schema s = f (g.schema s) := by
  simp [Graph.schema, updateSchema, h]

theorem schema_updateSchema_of_ne (g : Graph) {s other : SchemaId} (h : other ≠ s)
    (f : Schema → Schema) : (g.updateSchema s f).schema other = g.schema other := by
  have : s.index ≠ other.index := fun e => h (by cases s; cases other; simp_all)
  simp [Graph.schema, updateSchema, this]

theorem schema_addSchema_self (g : Graph) (schema : Schema) :
    (g.addSchema schema).1.schema (g.addSchema schema).2 = schema := by
  simp [Graph.schema, addSchema]

theorem schema_addSchema_of_lt (g : Graph) (schema : Schema) {s : SchemaId}
    (h : s.index < g.schemas.length) : (g.addSchema schema).1.schema s = g.schema s := by
  simp [Graph.schema, addSchema, List.getElem?_append_left h]

theorem model_updateModel_self (g : Graph) {m : ModelId} (h : m.index < g.models.length)
    (f : Model → Model) : (g.updateModel m f).model m = f (g.model m) := by
  simp [Graph.model, updateModel, h]

theorem model_updateModel_of_ne (g : Graph) {m other : ModelId} (h : other ≠ m)
    (f : Model → Model) : (g.updateModel m f).model other = g.model other := by
  have : m.index ≠ other.index := fun e => h (by cases m; cases other; simp_all)
  simp [Graph.model, updateModel, this]

theorem model_addModel_self (g : Graph) (model : Model) :
    (g.addModel model).1.model (g.addModel model).2 = model := by
  simp [Graph.model, addModel]

theorem model_addModel_of_lt (g : Graph) (model : Model) {m : ModelId}
    (h : m.index < g.models.length) : (g.addModel model).1.model m = g.model m := by
  simp [Graph.model, addModel, List.getElem?_append_left h]

theorem property_updateProperty_self (g : Graph) {p : PropertyId}
    (h : p.index < g.properties.length) (f : Property → Property) :
    (g.updateProperty p f).property p = f (g.property p) := by
  simp [Graph.property, updateProperty, h]

theorem property_updateProperty_of_ne (g : Graph) {p other : PropertyId} (h : other ≠ p)
    (f : Property → Property) : (g.updateProperty p f).property other = g.property other := by
  have : p.index ≠ other.index := fun e => h (by cases p; cases other; simp_all)
  simp [Graph.property, updateProperty, this]

theorem property_addProperty_self (g : Graph) (property : Property) :
    (g.addProperty property).1.property (g.addProperty property).2 = property := by
  simp [Graph.property, addProperty]

theorem property_addProperty_of_lt (g : Graph) (property : Property) {p : PropertyId}
    (h : p.index < g.properties.length) : (g.addProperty property).1.property p = g.property p := by
  simp [Graph.property, addProperty, List.getElem?_append_left h]

end Graph

end MobileSchema
