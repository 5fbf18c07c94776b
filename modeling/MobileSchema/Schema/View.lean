import MobileSchema.Schema.Attribute

/-!
# Views

What the generation of sources asks of schemas and models: lists with the commas between their
items, names, and whether some feature occurs at all.  A search is refused only if it comes to
something that cannot be asked before it ends.
-/

namespace MobileSchema

/-- An item of a list, and the comma behind it if another item follows. -/
structure WithComma (α : Type) where
  data : α
  comma : Option String
  deriving DecidableEq, Repr

/-- The items of a list, each but the last one with a comma. -/
def withCommas {α : Type} (items : List α) : List (WithComma α) :=
  items.mapIdx fun i item => ⟨item, if i + 1 = items.length then none else some ","⟩

theorem map_data_withCommas {α : Type} (items : List α) :
    (withCommas items).map (·.data) = items := by
  apply List.ext_getElem <;> simp [withCommas]

namespace Graph

variable (g : Graph)

/-- The first of some references with a name; the search ends there. -/
def findNamed (rs : List Reference) (name : String) : Except SchemaFault Reference := do
  let found ← rs.findM? fun r => (g.nameOf r).map fun own => own = name
  return found.getD .nothing

/-! ### Models -/

/-- Whether some property of a model passes a test. -/
def anyProperty (m : ModelId) (asked : String) (test : Property → Bool) :
    Except SchemaFault Bool :=
  (g.model m).slots.anyM (g.ofProperty asked test)

/-- The names of a model's properties. -/
def propertyNames (m : ModelId) : Except SchemaFault (List String) :=
  g.namesOf (g.model m).slots

/-- The names of a model's indexed properties. -/
def indexedNames (m : ModelId) : Except SchemaFault (List String) := do
  let indexed ← (g.model m).slots.filterM (g.ofProperty "indexed" (·.indexed))
  g.namesOf indexed

/-- Whether a model has an indexed property. -/
def hasIndexed (m : ModelId) : Except SchemaFault Bool := g.anyProperty m "indexed" (·.indexed)

/-- Whether a model has a backlink. -/
def hasBacklinks (m : ModelId) : Except SchemaFault Bool :=
  g.anyProperty m "is_linking_objects" (·.shape.isBacklink)

/-- Whether a model has a relation to many. -/
def hasListRelations (m : ModelId) : Except SchemaFault Bool :=
  g.anyProperty m "is_list_relation" (·.shape.isListRelation)

/-- Whether a model has a typed field of a kind.  A kind that was not looked up is none of the
kinds. -/
def hasKind (m : ModelId) (kind : FieldKind) : Bool :=
  (g.listed m).any fun p =>
    match (g.property p).shape with
    | .typed (.known k) _ => k = kind
    | _ => false

/-- Whether a model has a typed field of the kind that a value names. -/
def modelUsesKind {ε : Type} (m : ModelId) (kind : Except ε FieldKind) : Except ε Bool :=
  kind.map (g.hasKind m)

/-- The first property of a model with a name. -/
def findProperty (m : ModelId) (name : String) : Except SchemaFault Reference :=
  g.findNamed (g.model m).slots name

/-! ### Schemas -/

/-- The first model of a schema with a name. -/
def findModel (s : SchemaId) (name : String) : Except SchemaFault Reference :=
  g.findNamed (g.schema s).slots name

/-- Whether some model of a schema passes a test.  A schema that is listed in the place of a model
is asked in its turn, to a depth that only a schema which lists itself exceeds. -/
def anyModel {ε : Type} (refused : SchemaFault → ε) (asked : String)
    (test : ModelId → Except ε Bool) : Nat → SchemaId → Except ε Bool
  | 0, _ => .error (refused .endless)
  | depth + 1, s =>
    (g.schema s).slots.anyM fun
      | .model m => test m
      | .schema inner => anyModel refused asked test depth inner
      | r => (g.lacks r asked).mapError refused

/-- Whether a schema has an indexed property. -/
def schemaHasIndexed (s : SchemaId) : Except SchemaFault Bool :=
  g.anyModel id "has_indexed_properties" g.hasIndexed (g.schemas.length + 1) s

/-- Whether a schema has a backlink. -/
def schemaHasBacklinks (s : SchemaId) : Except SchemaFault Bool :=
  g.anyModel id "has_linking_objects" g.hasBacklinks (g.schemas.length + 1) s

/-- Whether a schema has a relation to many. -/
def schemaHasListRelations (s : SchemaId) : Except SchemaFault Bool :=
  g.anyModel id "has_list_relations" g.hasListRelations (g.schemas.length + 1) s

/-- Whether a model of a schema has a primary key. -/
def hasPrimaryKeys (s : SchemaId) : Except SchemaFault Bool :=
  (g.schema s).slots.anyM fun r => (g.primaryKeyOf r).map fun key => key ≠ .nothing

/-- Whether a schema has a typed field of the kind that a value names.  A schema without models does
not look the value up. -/
def schemaUsesKind {ε : Type} (refused : SchemaFault → ε) (s : SchemaId)
    (kind : Except ε FieldKind) : Except ε Bool :=
  g.anyModel refused "uses_kind" (g.modelUsesKind · kind) (g.schemas.length + 1) s

/-! ### Descriptions -/

/-- A list of names as messages show it. -/
def shownNames (names : List String) : String := "[" ++ ", ".intercalate (names.map quoted) ++ "]"

/-- A model as messages show it. -/
def describeModel (m : ModelId) : Except SchemaFault String := do
  let names ← g.propertyNames m
  return s!"Model(name={quoted (g.modelName m)}, properties={shownNames names})"

/-- A schema as messages show it. -/
def describeSchema (s : SchemaId) : Except SchemaFault String := do
  let schema := g.schema s
  let names ← g.namesOf schema.slots
  return s!"Schema(package_name={quotedOrNone schema.packageName}, models={shownNames names})"

/-- A truth value as messages show it. -/
def shownBool (b : Bool) : String := if b then "True" else "False"

/-- A kind as messages show it. -/
def kindShown : GivenKind → String
  | .known kind => s!"<FieldKind.{kind.constant}: {quoted kind.value}>"
  | .raw text => quoted text

/-- A property as messages show it. -/
def describeProperty (p : PropertyId) : String :=
  let property := g.property p
  let name := quoted property.name
  match property.shape with
  | .typed kind required =>
    s!"TypedField(name={name}, kind={kindShown kind}, required={shownBool required}, " ++
      s!"indexed={shownBool property.indexed})"
  | .toOne _ => s!"ToOneRelation(name={name})"
  | .toMany _ => s!"ToManyRelation(name={name})"
  | .inverse _ _ isPrivate => s!"InverseRelation(name={name}, is_private={shownBool isPrivate})"

/-- What a reference leads to, as messages show it. -/
def describe : Reference → Except SchemaFault String
  | .nothing => .ok "None"
  | .schema s => g.describeSchema s
  | .model m => g.describeModel m
  | .property p => .ok (g.describeProperty p)
  | .text s => .ok (quoted s)

end Graph

end MobileSchema
