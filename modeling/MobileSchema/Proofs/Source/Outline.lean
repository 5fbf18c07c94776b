import MobileSchema.Proofs.Source.Layout

/-!
# Outlines

What a source can show of a schema: names, and how the properties of these names are declared, but
not the objects.  In the outline of a schema names stand in the place of pointers, and each property
says whether it is the primary key.

The two platforms come to a primary key in different ways: the one writes the name of the key of a
model, the other marks a property that is the key of its owner.  In a closed schema both are the
property that the outline says, so that both classes of a model are made from its outline
(`Closed.swiftClass_eq`, `Closed.kotlinClass_eq`).
-/

namespace MobileSchema

/-! ### Properties and models -/

/-- The shape of a property, with names in the place of pointers. -/
inductive ShapeOutline
  | typed (kind : GivenKind) (required : Bool)
  | toOne (target : String)
  | toMany (target : String)
  | inverse (target forward : String) (isPrivate : Bool)
  deriving DecidableEq, Repr

/-- The declarations of a property of some name and shape, without marks. -/
def ShapeOutline.declared (name : String) : ShapeOutline → PlatformPair String
  | typed kind required => (kind.kind?.getD .string).fieldType.declaration name required
  | toOne target => toOneDeclaration name target
  | toMany target => toManyDeclaration name target
  | inverse target forward isPrivate => inverseDeclaration name target forward isPrivate

/-- Whether a shape has a kind as such, and no text that was not looked up, if it is one of a typed
field. -/
def Shape.knowsKind : Shape → Bool
  | .typed (.raw _) _ => false
  | _ => true

/-- What a source shows of a property. -/
@[ext]
structure PropertyOutline where
  name : String
  shape : ShapeOutline
  indexed : Bool
  isKey : Bool
  deriving DecidableEq, Repr

/-- The marks before a declaration in Kotlin. -/
def marks (indexed isKey : Bool) : String :=
  (if indexed then indexMark else "") ++ (if isKey then primaryKeyMark else "")

/-- The declaration of a property in Swift. -/
def PropertyOutline.swift (p : PropertyOutline) : String := (p.shape.declared p.name).ios

/-- The declaration of a property in Kotlin, with the marks before it. -/
def PropertyOutline.kotlin (p : PropertyOutline) : String :=
  marks p.indexed p.isKey ++ (p.shape.declared p.name).android

/-- What a source shows of a model. -/
@[ext]
structure ModelOutline where
  name : String
  properties : List PropertyOutline
  deriving DecidableEq, Repr

namespace ModelOutline

/-- The class of a model in Swift. -/
def swiftClass (m : ModelOutline) : SwiftClass where
  name := m.name
  declarations := m.properties.map (·.swift)
  key := (m.properties.find? (·.isKey)).map (·.name)
  indexed := (m.properties.filter (·.indexed)).map (·.name)

/-- The class of a model in Kotlin. -/
def kotlinClass (m : ModelOutline) : KotlinClass where
  name := m.name
  declarations := m.properties.map (·.kotlin)

end ModelOutline

namespace Graph

/-! ### Outlines of a graph -/

section Outline

variable (g : Graph) (s : SchemaId) (m : ModelId) (p : PropertyId)

/-- The outline of a shape. -/
def shapeOutline : Shape → ShapeOutline
  | .typed kind required => .typed kind required
  | .toOne target => .toOne (g.nameAt target)
  | .toMany target => .toMany (g.nameAt target)
  | .inverse target forward isPrivate => .inverse (g.nameAt target) (g.nameAt forward) isPrivate

/-- The outline of a property that the model `m` lists. -/
def propertyOutline : PropertyOutline where
  name := g.propertyName p
  shape := g.shapeOutline (g.property p).shape
  indexed := (g.property p).indexed
  isKey := (g.model m).primaryKey = .property p

/-- The outline of a model. -/
def modelOutline : ModelOutline where
  name := g.modelName m
  properties := (g.listed m).map (g.propertyOutline m)

/-- The outline of a schema, model by model: what the schema is but for its objects. -/
def outline : List ModelOutline := (g.modelsOf s).map g.modelOutline

/-- Whether all typed fields that a schema lists have kinds as such, as building them provides. -/
def KnowsKinds : Prop := ∀ m ∈ g.modelsOf s, ∀ p ∈ g.listed m, (g.property p).shape.knowsKind

instance : Decidable (g.KnowsKinds s) :=
  inferInstanceAs (Decidable (∀ m ∈ g.modelsOf s, ∀ p ∈ g.listed m, (g.property p).shape.knowsKind))

/-- The line of a property in Kotlin. -/
def kotlinLine : String :=
  (if (g.property p).indexed then indexMark else "") ++ (g.declared p).android

end Outline

variable {g : Graph} {s : SchemaId} {m : ModelId} {p : PropertyId}

/-- A schema of known kinds has kinds that can be declared. -/
theorem KnowsKinds.hasKinds (h : g.KnowsKinds s) : g.HasKinds s := by
  intro m hm p hp
  have hknows := h m hm p hp
  revert hknows
  rcases (g.property p).shape with ⟨kind | text, required⟩ | _ | _ | _ <;> simp [Shape.knowsKind,
    Shape.hasKind, GivenKind.kind?]

theorem kotlinClass_declarations :
    (g.kotlinClass m).declarations = (g.listed m).map g.kotlinLine := rfl

/-- The outline of a model has the names that the model lists. -/
@[simp] theorem names_modelOutline :
    (g.modelOutline m).properties.map (·.name) = g.listedNames m := by
  rw [modelOutline, List.map_map]
  rfl

/-! ### Classes -/

theorem ios_declared : (g.declared p).ios = (g.propertyOutline m p).swift := by
  rw [declared, PropertyOutline.swift, propertyOutline]
  rcases (g.property p).shape with ⟨kind, required⟩ | target | target | ⟨target, forward, isPrivate⟩
    <;> rfl

/-- What the owner of a property takes for its key is what the model takes for it that lists the
property. -/
theorem Closed.isKey_eq (h : g.Closed s) (hm : m ∈ g.modelsOf s) (hp : p ∈ g.listed m) :
    g.isKey p = (g.propertyOutline m p).isKey := by
  rw [isKey, h.owner m hm p hp, Bool.eq_iff_iff]
  constructor
  · intro hkey
    exact (Bool.and_eq_true_iff.1 hkey).2
  · intro hkey
    refine Bool.and_eq_true_iff.2 ⟨?_, hkey⟩
    -- a key is a typed field, if there is one
    have hkey : (g.model m).primaryKey = .property p := of_decide_eq_true hkey
    rcases h.key m hm with hnone | ⟨q, -, hq, htyped⟩
    · rw [hnone] at hkey
      cases hkey
    · rw [hq] at hkey
      cases hkey
      exact htyped

/-- The property line in Kotlin can be written from the outline. -/
theorem Closed.kotlinLine_eq (h : g.Closed s) (hm : m ∈ g.modelsOf s) (hp : p ∈ g.listed m) :
    g.kotlinLine p = (g.propertyOutline m p).kotlin := by
  have hkey := h.isKey_eq hm hp
  rw [PropertyOutline.kotlin, marks, ← hkey, String.append_assoc]
  refine congrArg (HAppend.hAppend _) ?_
  -- no relation is a key
  have hrelation : (g.property p).shape.isTyped = false → g.isKey p = false := by
    intro htyped
    rw [isKey, h.owner m hm p hp, htyped]
    rfl
  rw [declared]
  rcases hshape : (g.property p).shape with ⟨kind, required⟩ | target | target |
    ⟨target, forward, isPrivate⟩
  · simp only [propertyOutline, hshape]
    rfl
  all_goals
    rw [hrelation (by rw [hshape]; rfl)]
    simp only [propertyOutline, hshape]
    exact String.empty_append.symm

theorem Closed.kotlinClass_eq (h : g.Closed s) (hm : m ∈ g.modelsOf s) :
    g.kotlinClass m = (g.modelOutline m).kotlinClass := by
  rw [kotlinClass, ModelOutline.kotlinClass, modelOutline, List.map_map]
  refine congrArg (KotlinClass.mk _) (List.map_congr_left ?_)
  intro p hp
  exact h.kotlinLine_eq hm hp

/-- The name of the key of a model is that of the first of its properties that is the key. -/
theorem Closed.keyName?_eq (h : g.Closed s) (hm : m ∈ g.modelsOf s) :
    g.keyName? m = ((g.modelOutline m).properties.find? (·.isKey)).map (·.name) := by
  have hfind : ((g.modelOutline m).properties.find? (·.isKey)) =
      ((g.listed m).find? fun p => (g.model m).primaryKey = .property p).map
        (g.propertyOutline m) := by
    rw [modelOutline, List.find?_map]
    rfl
  rw [keyName?, hfind]
  rcases h.key m hm with hnone | ⟨p, hp, hkey, -⟩
  · rw [if_pos hnone, List.find?_eq_none.2 (by simp [hnone])]
    rfl
  · have hfirst : (g.listed m).find? (fun q => (g.model m).primaryKey = .property q) = some p := by
      have hsome : ((g.listed m).find? fun q => (g.model m).primaryKey = .property q).isSome :=
        List.find?_isSome.2 ⟨p, hp, decide_eq_true hkey⟩
      obtain ⟨q, hq⟩ := Option.isSome_iff_exists.1 hsome
      have hkeyq := List.find?_some hq
      rw [decide_eq_true_eq, hkey] at hkeyq
      cases hkeyq
      exact hq
    rw [if_neg (by simp [hkey]), hfirst, hkey]
    rfl

/-- The class in Swift can be written from the outline. -/
theorem Closed.swiftClass_eq (h : g.Closed s) (hm : m ∈ g.modelsOf s) :
    g.swiftClass m = (g.modelOutline m).swiftClass := by
  have hdeclarations : ((g.listed m).map fun p => (g.declared p).ios) =
      (g.modelOutline m).properties.map (·.swift) := by
    rw [modelOutline, List.map_map]
    exact List.map_congr_left fun p _ => ios_declared
  have hindexed : g.indexedIn m =
      ((g.modelOutline m).properties.filter (·.indexed)).map (·.name) := by
    rw [indexedIn, modelOutline, List.filter_map, List.map_map]
    rfl
  rw [swiftClass, ModelOutline.swiftClass, hdeclarations, hindexed, h.keyName?_eq hm]
  rfl

end Graph

end MobileSchema
