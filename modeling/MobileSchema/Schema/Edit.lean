import MobileSchema.Schema.Attribute

/-!
# Editing

Changes that building does not make: properties and models that are put into lists or taken out of
them by hand, and attributes that are set anew.  Nothing is checked, so that an edited graph can
break every rule.
-/

namespace MobileSchema

/-- A place in a list of some length that a number gives, counted from the end if it is negative. -/
def placeIn? (length : Nat) (i : Int) : Option Nat :=
  let i := if i < 0 then i + length else i
  if 0 ≤ i && i < length then some i.toNat else none

/-- The list with an item before the place that a number gives; a number beyond an end means that
end. -/
def insertAt {α : Type} (items : List α) (i : Int) (item : α) : List α :=
  let i := if i < 0 then i + items.length else i
  items.insertIdx (min i.toNat items.length) item

/-- Whether a number can name a place of a list: it is one of the machine's integers. -/
def isPlaceNumber (i : Int) : Bool := -9223372036854775808 ≤ i && i ≤ 9223372036854775807

namespace Graph

variable (g : Graph)

/-- What stands at a place of a model's list. -/
def slotAt (m : ModelId) (i : Int) : Except SchemaFault Reference :=
  if !isPlaceNumber i then .error .placeTooFar
  else
    match (placeIn? (g.model m).slots.length i).bind fun i => (g.model m).slots[i]? with
    | some slot => .ok slot
    | none => .error .noSuchPlace

/-- Puts an object, or none, into a model's list. -/
def insertSlot (m : ModelId) (i : Int) (slot : Reference) : Except SchemaFault Graph :=
  if !isPlaceNumber i then .error .insertTooFar
  else .ok (g.updateModel m fun model => { model with slots := insertAt model.slots i slot })

/-- Takes the first occurrence of an object out of a model's list. -/
def removeSlot (m : ModelId) (slot : Reference) : Except SchemaFault Graph :=
  if slot ∈ (g.model m).slots then
    .ok (g.updateModel m fun model => { model with slots := model.slots.erase slot })
  else .error .notListed

/-- Takes the first occurrence of an object out of a schema's list. -/
def removeModel (s : SchemaId) (slot : Reference) : Except SchemaFault Graph :=
  if slot ∈ (g.schema s).slots then
    .ok (g.updateSchema s fun schema => { schema with slots := schema.slots.erase slot })
  else .error .notListed

/-- Renames a model. -/
def renameModel (m : ModelId) (name : String) : Graph := g.updateModel m ({ · with name })

/-- Sets or takes away the primary key of a model. -/
def setPrimaryKey (m : ModelId) (key : Reference) : Graph :=
  g.updateModel m ({ · with primaryKey := key })

/-- Renames a property. -/
def renameProperty (p : PropertyId) (name : String) : Graph := g.updateProperty p ({ · with name })

/-- Gives a property to another owner, whose list stays as it is. -/
def setOwner (p : PropertyId) (owner : Reference) : Graph := g.updateProperty p ({ · with owner })

/-- Says whether a property is indexed. -/
def setIndexed (p : PropertyId) (indexed : Bool) : Graph :=
  g.updateProperty p ({ · with indexed })

/-- Says whether a typed field is required. -/
def setRequired (p : PropertyId) (required : Bool) : Graph :=
  g.updateProperty p fun property =>
    match property.shape with
    | .typed kind _ => { property with shape := .typed kind required }
    | _ => property

/-- Sets the kind of a typed field to a text that is not looked up. -/
def setRawKind (p : PropertyId) (text : String) : Graph :=
  g.updateProperty p fun property =>
    match property.shape with
    | .typed _ required => { property with shape := .typed (.raw text) required }
    | _ => property

/-- Says whether a backlink is private. -/
def setPrivate (p : PropertyId) (isPrivate : Bool) : Graph :=
  g.updateProperty p fun property =>
    match property.shape with
    | .inverse target forward _ => { property with shape := .inverse target forward isPrivate }
    | _ => property

end Graph

end MobileSchema
