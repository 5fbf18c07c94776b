import MobileSchema.Schema.Attribute

/-!
# Declarations

The line that declares a property in the source of its model, once for each platform.  On the second
platform the primary key is marked in its declaration.
-/

namespace MobileSchema

/-- The mark of a primary key. -/
def primaryKeyMark : String := "@PrimaryKey "

/-- The declaration of a typed field, without the mark of a primary key. -/
def FieldType.declaration (type : FieldType) (name : String) (required : Bool) :
    PlatformPair String :=
  let typeName := type.typeName
  if type.nullableObject then
    let marker := if required then "" else "?"
    let initial := if required then type.defaultValue else nullLiteral
    ⟨s!"@objc dynamic var {name}: {typeName.ios}{marker} = {initial.ios}",
      s!"var {name}: {typeName.android}{marker} = {initial.android}"⟩
  else if required then
    ⟨s!"@objc dynamic var {name}: {typeName.ios} = {type.defaultValue.ios}",
      s!"var {name}: {typeName.android} = {type.defaultValue.android}"⟩
  else
    ⟨s!"let {name} = RealmOptional<{typeName.ios}>()",
      s!"var {name}: {typeName.android}? = {nullLiteral.android}"⟩

/-- The declaration of a relation to one model. -/
def toOneDeclaration (name target : String) : PlatformPair String :=
  ⟨s!"@objc dynamic var {name}: {target}? = {nullLiteral.ios}",
    s!"var {name}: {target}? = {nullLiteral.android}"⟩

/-- The declaration of a relation to many. -/
def toManyDeclaration (name target : String) : PlatformPair String :=
  ⟨s!"let {name} = List<{target}>()", s!"val {name}: RealmList<{target}> = RealmList()"⟩

/-- The declaration of a backlink. -/
def inverseDeclaration (name target forward : String) (isPrivate : Bool) : PlatformPair String :=
  let modifier := if isPrivate then "private " else ""
  ⟨s!"{modifier}let {name} = LinkingObjects(fromType: {target}.self, property: \"{forward}\")",
    s!"@LinkingObjects(\"{forward}\") {modifier}val {name}: RealmResults<{target}>? = null"⟩

namespace Graph

variable (g : Graph)

/-- Whether a property is a typed field and the primary key of its owner. -/
def isPrimaryKey (p : PropertyId) : Except SchemaFault Bool :=
  let property := g.property p
  if property.shape.isTyped then
    (g.primaryKeyOf property.owner).map fun key => key = .property p
  else .ok false

/-- The mark of a primary key before the declaration of a property. -/
def markBefore (p : PropertyId) : Except SchemaFault String :=
  (g.isPrimaryKey p).map fun isKey => if isKey then primaryKeyMark else ""

/-- The declarations of a property.  A field whose kind names none of the kinds has none. -/
def declarations (p : PropertyId) : Except SchemaFault (PlatformPair String) := do
  let property := g.property p
  match property.shape with
  | .typed kind required =>
    match kind.kind? with
    | none => throw (.unknownKind (quoted kind.text))
    | some kind =>
      let pair := kind.fieldType.declaration property.name required
      return { pair with android := (← g.markBefore p) ++ pair.android }
  | .toOne target => return toOneDeclaration property.name (← g.nameOf target)
  | .toMany target => return toManyDeclaration property.name (← g.nameOf target)
  | .inverse target forward isPrivate =>
    let target ← g.nameOf target
    return inverseDeclaration property.name target (← g.nameOf forward) isPrivate

/-- The declaration of a property in a language. -/
def declaration (p : PropertyId) (language : Language) : Except SchemaFault String :=
  (g.declarations p).map (·.forLanguage language)

end Graph

end MobileSchema
