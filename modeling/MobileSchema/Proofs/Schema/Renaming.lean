import MobileSchema.Proofs.Schema.Appending
import MobileSchema.Proofs.Schema.Runs
import MobileSchema.Schema.View
import Mathlib.Logic.Equiv.Defs

/-!
# Other numbers for the same properties

The numbers of properties say nothing but which property is meant.  If they are exchanged for others
by a bijection, everywhere a property is pointed at, the graph is the same in all but its numbers
(`Graph.Renamed`).

So whatever is asked comes to the same: what is wrong with a schema is reported by names, in the
order of the lists (`Renamed.issues`).  And building goes on in the same way
(`Renamed.perform`): a new property gets the same number in both graphs, as a number that was never
given out stands for itself.
-/

namespace MobileSchema

variable {σ : Equiv.Perm PropertyId} {g g' : Graph} {s : SchemaId} {m : ModelId} {p : PropertyId}
  {r r' : Reference} {rs : List Reference}

/-! ### Renaming -/

/-- A reference to the property of the other number. -/
def Reference.rename (σ : Equiv.Perm PropertyId) : Reference → Reference
  | .property p => .property (σ p)
  | r => r

/-- A shape that points at properties of other numbers. -/
def Shape.rename (σ : Equiv.Perm PropertyId) : Shape → Shape
  | .typed kind required => .typed kind required
  | .toOne target => .toOne (target.rename σ)
  | .toMany target => .toMany (target.rename σ)
  | .inverse target forward isPrivate =>
    .inverse (target.rename σ) (forward.rename σ) isPrivate

/-- A property that points at properties of other numbers. -/
def Property.rename (σ : Equiv.Perm PropertyId) (p : Property) : Property :=
  { p with owner := p.owner.rename σ, shape := p.shape.rename σ }

/-- A model that lists properties of other numbers. -/
def Model.rename (σ : Equiv.Perm PropertyId) (m : Model) : Model :=
  { m with slots := m.slots.map (Reference.rename σ), primaryKey := m.primaryKey.rename σ }

/-- A schema that lists properties of other numbers, where there should be models. -/
def Schema.rename (σ : Equiv.Perm PropertyId) (s : Schema) : Schema :=
  { s with slots := s.slots.map (Reference.rename σ) }

namespace Reference

@[simp] theorem rename_nothing : Reference.nothing.rename σ = .nothing := rfl

@[simp] theorem rename_schema : (Reference.schema s).rename σ = .schema s := rfl

@[simp] theorem rename_model : (Reference.model m).rename σ = .model m := rfl

@[simp] theorem rename_property : (Reference.property p).rename σ = .property (σ p) := rfl

@[simp] theorem rename_text {t : String} : (Reference.text t).rename σ = .text t := rfl

/-- Different references stay different. -/
theorem rename_injective (σ : Equiv.Perm PropertyId) :
    Function.Injective (Reference.rename σ) := by
  intro r r' h
  cases r <;> cases r' <;> simp_all

@[simp] theorem rename_inj : r.rename σ = r'.rename σ ↔ r = r' := (rename_injective σ).eq_iff

@[simp] theorem rename_eq_nothing_iff : r.rename σ = .nothing ↔ r = .nothing :=
  (rename_injective σ).eq_iff' rfl

@[simp] theorem rename_eq_model_iff : r.rename σ = .model m ↔ r = .model m :=
  (rename_injective σ).eq_iff' rfl

/-- A renamed list leads to what it led to. -/
theorem mem_map_rename : r.rename σ ∈ rs.map (Reference.rename σ) ↔ r ∈ rs :=
  List.mem_map_of_injective (rename_injective σ)

@[simp] theorem rename_refl (r : Reference) : r.rename (.refl _) = r := by
  cases r <;> rfl

theorem map_rename_refl (rs : List Reference) : rs.map (rename (.refl _)) = rs := by
  rw [show rename (.refl _) = id from funext rename_refl, List.map_id]

theorem model?_rename : (r.rename σ).model? = r.model? := by
  cases r <;> rfl

theorem property?_rename : (r.rename σ).property? = r.property?.map σ := by
  cases r <;> rfl

end Reference

namespace Shape

variable {shape : Shape}

@[simp] theorem isTyped_rename : (shape.rename σ).isTyped = shape.isTyped := by
  cases shape <;> rfl

@[simp] theorem propertyClass_rename : (shape.rename σ).propertyClass = shape.propertyClass := by
  cases shape <;> rfl

@[simp] theorem target?_rename :
    (shape.rename σ).target? = shape.target?.map (Reference.rename σ) := by
  cases shape <;> rfl

end Shape

namespace Graph

/-- Whether a graph is another with other numbers for its properties.  The numbers of schemas and
models are the same, and so are those that were never given out. -/
structure Renamed (σ : Equiv.Perm PropertyId) (g g' : Graph) : Prop where
  length_schemas : g'.schemas.length = g.schemas.length
  length_models : g'.models.length = g.models.length
  length_properties : g'.properties.length = g.properties.length
  schema : ∀ s, g'.schema s = (g.schema s).rename σ
  model : ∀ m, g'.model m = (g.model m).rename σ
  property : ∀ p, g'.property (σ p) = (g.property p).rename σ
  fixes : ∀ p, g.properties.length ≤ p.index → σ p = p

namespace Renamed

/-! ### Asking -/

/-- The names of models do not change. -/
theorem modelName (h : g.Renamed σ g') (m : ModelId) : g'.modelName m = g.modelName m := by
  rw [Graph.modelName, h.model]
  rfl

theorem propertyName (h : g.Renamed σ g') (p : PropertyId) :
    g'.propertyName (σ p) = g.propertyName p := by
  rw [Graph.propertyName, h.property]
  rfl

theorem typeName (h : g.Renamed σ g') (r : Reference) :
    g'.typeName (r.rename σ) = g.typeName r := by
  cases r with
  | property p =>
    rw [Reference.rename_property, Graph.typeName, h.property]
    exact congrArg PropertyClass.name Shape.propertyClass_rename
  | nothing | schema | model | text => rfl

theorem lacks (h : g.Renamed σ g') {α : Type} (r : Reference) (asked : String) :
    (g'.lacks (r.rename σ) asked : Except SchemaFault α) = g.lacks r asked := by
  rw [Graph.lacks, Graph.lacks, h.typeName]

theorem nameOf (h : g.Renamed σ g') (r : Reference) : g'.nameOf (r.rename σ) = g.nameOf r := by
  cases r with
  | model m => exact congrArg Except.ok (h.modelName m)
  | property p => exact congrArg Except.ok (h.propertyName p)
  | nothing | schema | text => rfl

theorem namesOf (h : g.Renamed σ g') (rs : List Reference) :
    g'.namesOf (rs.map (Reference.rename σ)) = g.namesOf rs := by
  have hnames : g'.nameOf ∘ Reference.rename σ = g.nameOf := funext h.nameOf
  rw [Graph.namesOf, List.mapM_map, hnames, Graph.namesOf]

theorem slotsOf (h : g.Renamed σ g') (r : Reference) :
    g'.slotsOf (r.rename σ) = (g.slotsOf r).map (List.map (Reference.rename σ)) := by
  cases r with
  | model m =>
    rw [Reference.rename_model, Graph.slotsOf, h.model]
    rfl
  | property p => exact h.lacks (.property p) "properties"
  | nothing | schema | text => rfl

theorem findNamed (h : g.Renamed σ g') (rs : List Reference) (name : String) :
    g'.findNamed (rs.map (Reference.rename σ)) name =
      (g.findNamed rs name).map (Reference.rename σ) := by
  have hfind : ∀ rs : List Reference,
      (rs.map (Reference.rename σ)).findM? (fun r => (g'.nameOf r).map fun own => own = name) =
        (rs.findM? fun r => (g.nameOf r).map fun own => own = name).map
          (Option.map (Reference.rename σ)) := by
    intro rs
    induction rs with
    | nil => rfl
    | cons r rs ih =>
      rw [List.map_cons, List.findM?, List.findM?, h.nameOf, ih]
      cases g.nameOf r with
      | error fault => rfl
      | ok own =>
        by_cases hown : own = name
        · simp [Except.map, hown, bind, Except.bind, pure, Except.pure]
        · simp [Except.map, hown, bind, Except.bind]
  rw [Graph.findNamed, Graph.findNamed, hfind]
  cases rs.findM? fun r => (g.nameOf r).map fun own => decide (own = name) with
  | error fault => rfl
  | ok found => cases found <;> rfl

theorem findProperty (h : g.Renamed σ g') (m : ModelId) (name : String) :
    g'.findProperty m name = (g.findProperty m name).map (Reference.rename σ) := by
  rw [Graph.findProperty, h.model]
  exact h.findNamed _ name

/-! ### What is wrong -/

theorem ownerIssues (h : g.Renamed σ g') (m : ModelId) (p : PropertyId) :
    g'.ownerIssues m (σ p) = g.ownerIssues m p := by
  rw [Graph.ownerIssues, Graph.ownerIssues, h.property]
  simp only [Property.rename, Reference.rename_eq_model_iff, h.nameOf, h.modelName]

theorem targetIssues (h : g.Renamed σ g') (s : SchemaId) (m : ModelId) (p : PropertyId) :
    g'.targetIssues s m (σ p) = g.targetIssues s m p := by
  rw [Graph.targetIssues, Graph.targetIssues, h.property, h.schema]
  simp only [Property.rename, Shape.target?_rename, Schema.rename]
  cases (g.property p).shape.target? with
  | none => rfl
  | some target =>
    simp only [Option.map_some, Reference.mem_map_rename, h.nameOf, h.modelName]

/-- Whether a backlink's relation is there does not depend on numbers. -/
theorem forwardIssues (h : g.Renamed σ g') (m : ModelId) (p : PropertyId) :
    g'.forwardIssues m (σ p) = g.forwardIssues m p := by
  rw [Graph.forwardIssues, Graph.forwardIssues, h.property]
  simp only [Property.rename]
  cases (g.property p).shape with
  | typed | toOne | toMany => rfl
  | inverse target forward isPrivate =>
    simp only [Shape.rename, h.slotsOf, h.nameOf, h.modelName]
    cases g.slotsOf target with
    | error fault => rfl
    | ok slots =>
      show (if forward.rename σ ∈ slots.map (Reference.rename σ) then _ else _) = _
      simp only [Reference.mem_map_rename]
      rfl

theorem slotIssues (h : g.Renamed σ g') (s : SchemaId) (m : ModelId) (r : Reference) :
    g'.slotIssues s m (r.rename σ) = g.slotIssues s m r := by
  cases r with
  | property p =>
    rw [Reference.rename_property, Graph.slotIssues, Graph.slotIssues, h.ownerIssues,
      h.targetIssues, h.forwardIssues]
  | nothing | schema | model | text => rfl

theorem nameIssues (h : g.Renamed σ g') (m : ModelId) : g'.nameIssues m = g.nameIssues m := by
  rw [Graph.nameIssues, Graph.nameIssues, h.model, h.modelName]
  exact congrArg (Except.map _) (h.namesOf _)

theorem keyIssues (h : g.Renamed σ g') (m : ModelId) : g'.keyIssues m = g.keyIssues m := by
  have htyped : ((g.model m).primaryKey.rename σ).property?.any
      (fun p => (g'.property p).shape.isTyped) =
      (g.model m).primaryKey.property?.any fun p => (g.property p).shape.isTyped := by
    rw [Reference.property?_rename, Option.any_map]
    refine congrArg (fun test => Option.any test _) (funext fun p => ?_)
    show (g'.property (σ p)).shape.isTyped = _
    rw [h.property]
    exact Shape.isTyped_rename
  rw [Graph.keyIssues, Graph.keyIssues, h.model]
  simp only [Model.rename, htyped, Reference.rename_eq_nothing_iff, Reference.mem_map_rename,
    h.nameOf, h.modelName]

/-- The issues inside a model do not depend on numbers. -/
theorem modelIssues (h : g.Renamed σ g') (s : SchemaId) (r : Reference) :
    g'.modelIssues s (r.rename σ) = g.modelIssues s r := by
  cases r with
  | model m =>
    have hslots : g'.slotIssues s m ∘ Reference.rename σ = g.slotIssues s m :=
      funext (h.slotIssues s m)
    rw [Reference.rename_model, Graph.modelIssues, Graph.modelIssues, h.nameIssues, h.keyIssues,
      h.model]
    simp only [Model.rename, List.mapM_map, hslots]
  | property p => exact h.lacks (.property p) "properties"
  | nothing | schema | text => rfl

/-- The check reports the same, in the same order. -/
theorem issues (h : g.Renamed σ g') (s : SchemaId) : g'.issues s = g.issues s := by
  have hmodels : g'.modelIssues s ∘ Reference.rename σ = g.modelIssues s :=
    funext (h.modelIssues s)
  rw [Graph.issues, Graph.issues, h.schema]
  simp only [Schema.rename, h.namesOf, List.mapM_map, hmodels]

/-- The check comes to the same. -/
theorem validate (h : g.Renamed σ g') (s : SchemaId) : g'.validate s = g.validate s := by
  rw [Graph.validate, Graph.validate, h.issues, h.schema]
  rfl

end Renamed

/-! ### Renaming nothing -/

theorem Renamed.refl (g : Graph) : g.Renamed (.refl _) g where
  length_schemas := rfl
  length_models := rfl
  length_properties := rfl
  schema := by
    intro s
    rw [Schema.rename, Reference.map_rename_refl]
  model := by
    intro m
    rw [Model.rename, Reference.map_rename_refl, Reference.rename_refl]
  property := by
    intro p
    have hshape : (g.property p).shape.rename (.refl _) = (g.property p).shape := by
      cases (g.property p).shape <;> simp [Shape.rename]
    rw [Property.rename, Reference.rename_refl, hshape]
    rfl
  fixes := fun _ _ => rfl

/-! ### What is known after any change -/

theorem model_updateModel (g : Graph) (m o : ModelId) (f : Model → Model) :
    (g.updateModel m f).model o =
      if o = m ∧ m.index < g.models.length then f (g.model o) else g.model o := by
  by_cases ho : o = m
  · by_cases hm : m.index < g.models.length
    · rw [ho, model_updateModel_self _ hm, if_pos ⟨rfl, hm⟩]
    · have hsame : g.models.modify m.index f = g.models := List.modify_eq_self (by omega)
      rw [if_neg fun h => hm h.2, Graph.model, updateModel, hsame, Graph.model]
  · rw [model_updateModel_of_ne _ ho, if_neg fun h => ho h.1]

theorem schema_updateSchema (g : Graph) (s o : SchemaId) (f : Schema → Schema) :
    (g.updateSchema s f).schema o =
      if o = s ∧ s.index < g.schemas.length then f (g.schema o) else g.schema o := by
  by_cases ho : o = s
  · by_cases hs : s.index < g.schemas.length
    · rw [ho, schema_updateSchema_self _ hs, if_pos ⟨rfl, hs⟩]
    · have hsame : g.schemas.modify s.index f = g.schemas := List.modify_eq_self (by omega)
      rw [if_neg fun h => hs h.2, Graph.schema, updateSchema, hsame, Graph.schema]
  · rw [schema_updateSchema_of_ne _ ho, if_neg fun h => ho h.1]

/-- A new model takes the next number. -/
theorem model_addModel (g : Graph) (model : Model) (o : ModelId) :
    (g.addModel model).1.model o = if o = ⟨g.models.length⟩ then model else g.model o := by
  by_cases ho : o = ⟨g.models.length⟩
  · rw [ho, if_pos rfl]
    exact model_addModel_self g model
  · have hne : o.index ≠ g.models.length := fun h => ho (by cases o; simp_all)
    rw [if_neg ho, Graph.model, Graph.model, addModel]
    simp only [List.getElem?_append, List.getElem?_singleton]
    split
    · rfl
    · rw [if_neg (by omega), List.getElem?_eq_none (by omega)]

/-- A new property takes the next number. -/
theorem property_addProperty (g : Graph) (property : Property) (p : PropertyId) :
    (g.addProperty property).1.property p =
      if p = ⟨g.properties.length⟩ then property else g.property p := by
  by_cases hp : p = ⟨g.properties.length⟩
  · rw [hp, if_pos rfl]
    exact property_addProperty_self g property
  · have hne : p.index ≠ g.properties.length := fun h => hp (by cases p; simp_all)
    rw [if_neg hp, Graph.property, Graph.property, addProperty]
    simp only [List.getElem?_append, List.getElem?_singleton]
    split
    · rfl
    · rw [if_neg (by omega), List.getElem?_eq_none (by omega)]

namespace Renamed

/-! ### Changing -/

theorem updateModel (h : g.Renamed σ g') {f f' : Model → Model}
    (hf : ∀ model, f' (model.rename σ) = (f model).rename σ) (m : ModelId) :
    (g.updateModel m f).Renamed σ (g'.updateModel m f') where
  length_schemas := h.length_schemas
  length_models := by
    simp only [Graph.updateModel, List.length_modify]
    exact h.length_models
  length_properties := h.length_properties
  schema := h.schema
  model := by
    intro o
    rw [model_updateModel, model_updateModel, h.length_models, h.model]
    split
    · exact hf _
    · rfl
  property := h.property
  fixes := h.fixes

theorem updateSchema (h : g.Renamed σ g') {f f' : Schema → Schema}
    (hf : ∀ schema, f' (schema.rename σ) = (f schema).rename σ) (s : SchemaId) :
    (g.updateSchema s f).Renamed σ (g'.updateSchema s f') where
  length_schemas := by
    simp only [Graph.updateSchema, List.length_modify]
    exact h.length_schemas
  length_models := h.length_models
  length_properties := h.length_properties
  schema := by
    intro o
    rw [schema_updateSchema, schema_updateSchema, h.length_schemas, h.schema]
    split
    · exact hf _
    · rfl
  model := h.model
  property := h.property
  fixes := h.fixes

theorem addModel (h : g.Renamed σ g') (model : Model) :
    (g.addModel model).1.Renamed σ (g'.addModel (model.rename σ)).1 where
  length_schemas := h.length_schemas
  length_models := by
    simp only [Graph.addModel, List.length_append, h.length_models, List.length_singleton]
  length_properties := h.length_properties
  schema := h.schema
  model := by
    intro o
    rw [model_addModel, model_addModel, h.length_models, h.model]
    split <;> rfl
  property := h.property
  fixes := h.fixes

/-- The next number that is given out is the same. -/
theorem apply_next (h : g.Renamed σ g') :
    σ ⟨g.properties.length⟩ = ⟨g'.properties.length⟩ := by
  rw [h.fixes _ (Nat.le_refl _), h.length_properties]

/-- A property can be added on both sides; it takes the same number there, which the renaming leaves
alone. -/
theorem addProperty (h : g.Renamed σ g') (property : Property) :
    (g.addProperty property).1.Renamed σ (g'.addProperty (property.rename σ)).1 where
  length_schemas := h.length_schemas
  length_models := h.length_models
  length_properties := by
    simp only [Graph.addProperty, List.length_append, h.length_properties, List.length_singleton]
  schema := h.schema
  model := h.model
  property := by
    intro p
    rw [property_addProperty, property_addProperty, ← h.apply_next, h.property]
    simp only [σ.apply_eq_iff_eq]
    split <;> rfl
  fixes := by
    intro p hp
    refine h.fixes p (Nat.le_trans (Nat.le_add_right _ 1) ?_)
    rwa [Graph.addProperty, List.length_append] at hp

/-- Declaring a property on both sides keeps the renaming. -/
theorem declare (h : g.Renamed σ g') (m : ModelId) (name : String) (shape : Shape)
    (indexed : Bool) :
    (g.declare m name shape indexed).1.Renamed σ
      (g'.declare m name (shape.rename σ) indexed).1 := by
  refine (h.addProperty { owner := .model m, name, shape, indexed }).updateModel ?_ m
  intro model
  simp only [Model.rename, List.map_append, List.map_singleton, Reference.rename_property]
  rw [h.apply_next]

theorem declareModel (h : g.Renamed σ g') (s : SchemaId) (name : String) :
    (g.declareModel s name).1.Renamed σ (g'.declareModel s name).1 := by
  refine (h.addModel { schema := s, name }).updateSchema ?_ s
  intro schema
  simp only [Schema.rename, List.map_append, List.map_singleton, Reference.rename_model,
    h.length_models]

end Renamed

end Graph

/-! ### Building -/

/-- What a call has built, with another number if it is a property. -/
def Built.rename (σ : Equiv.Perm PropertyId) : Built → Built
  | .model m => .model m
  | .property p => .property (σ p)

theorem Built.map_rename_refl {ε : Type} (out : Except ε Built) :
    out.map (rename (.refl _)) = out := by
  rcases out with fault | ⟨m⟩ | ⟨p⟩ <;> rfl

/-- A call that points at properties of other numbers. -/
def BuildCall.rename (σ : Equiv.Perm PropertyId) : BuildCall → BuildCall
  | .model s name => .model s name
  | .field m name kind options => .field m name kind options
  | .typed m builder name options => .typed m builder name options
  | .relation many m name target link => .relation many m name (target.rename σ) link
  | .backlink m name source forward isPrivate =>
    .backlink m name (source.rename σ) (forward.rename σ) isPrivate

/-- A written call that points at properties of other numbers. -/
def WrittenCall.rename (σ : Equiv.Perm PropertyId) : WrittenCall → WrittenCall
  | .model s name => .model s name
  | .field m name kind options => .field m name kind options
  | .typed m builder name options => .typed m builder name options
  | .relation many m name target options => .relation many m name target options
  | .backlink m name source forward options => .backlink m name source (σ forward) options

/-- Whether the options of a call are known does not depend on numbers. -/
theorem WrittenCall.read_rename (σ : Equiv.Perm PropertyId) (call : WrittenCall) :
    (call.rename σ).read = call.read.map (BuildCall.rename σ) := by
  cases call with
  | model s name => rfl
  | field m name kind options =>
    rw [rename, read]
    cases FieldOptions.ofNamed options <;> rfl
  | typed m builder name options =>
    rw [rename, read]
    cases builder.optionsOfNamed options <;> rfl
  | relation many m name target options =>
    rw [rename, read]
    cases LinkOptions.ofNamed many options <;> rfl
  | backlink m name source forward options =>
    rw [rename, read, read]
    cases backlinkPrivacyOfNamed options <;> rfl

namespace Graph.Renamed

theorem declareField (h : g.Renamed σ g') (m : ModelId) (name : String) (kind : FieldKind)
    (options : FieldOptions) :
    (g.declareField m name kind options).1.Renamed σ (g'.declareField m name kind options).1 := by
  have hd := h.declare m name (.typed (.known kind) options.required) options.indexed
  by_cases hkey : options.primaryKey = true
  · rw [declareField_fst_of_key hkey, declareField_fst_of_key hkey]
    refine hd.updateModel ?_ m
    intro model
    rw [← h.apply_next]
    rfl
  · rw [declareField_fst_of_not_key hkey, declareField_fst_of_not_key hkey]
    exact hd

/-- Declaring a relation with its backlink on both sides keeps the renaming, and so does what it
comes to. -/
theorem declareRelation (h : g.Renamed σ g') (many : Bool) (m : ModelId) (name : String)
    (target : Reference) (link : LinkOptions) :
    (g.declareRelation many m name target link).1.Renamed σ
        (g'.declareRelation many m name (target.rename σ) link).1 ∧
      (g'.declareRelation many m name (target.rename σ) link).2 =
        (g.declareRelation many m name target link).2.map σ := by
  have hshape : (if many then Shape.toMany target else .toOne target).rename σ =
      if many then .toMany (target.rename σ) else .toOne (target.rename σ) := by
    cases many <;> rfl
  have hd := h.declare m name (if many then .toMany target else .toOne target) false
  rw [hshape] at hd
  rw [Graph.declareRelation, Graph.declareRelation]
  split
  · refine ⟨h, ?_⟩
    rw [h.modelName]
    rfl
  · dsimp only
    split
    · cases target with
      | model t =>
        -- the backlink reverses the relation, which has the next number
        have hb := hd.declare t (link.name.getD "")
          (.inverse (.model m) (.property ⟨g.properties.length⟩) link.isPrivate) false
        rw [Shape.rename, Reference.rename_property, h.apply_next] at hb
        exact ⟨hb, congrArg Except.ok h.apply_next.symm⟩
      | property p => exact ⟨hd, hd.lacks (.property p) "linking_objects"⟩
      | nothing | schema | text => exact ⟨hd, rfl⟩
    · exact ⟨hd, congrArg Except.ok h.apply_next.symm⟩

/-- A call and its renamed form lead to graphs and results that are renamed alike. -/
theorem build (h : g.Renamed σ g') (call : BuildCall) :
    (g.build call).1.Renamed σ (g'.build (call.rename σ)).1 ∧
      (g'.build (call.rename σ)).2 = (g.build call).2.map (Built.rename σ) := by
  -- the number that comes next is renamed to the number that comes next
  have hnext : Built.property ⟨g'.properties.length⟩ =
      (Built.property ⟨g.properties.length⟩).rename σ := congrArg Built.property h.apply_next.symm
  cases call with
  | model s name =>
    exact ⟨h.declareModel s name, congrArg (Except.ok ∘ Built.model ∘ ModelId.mk) h.length_models⟩
  | field m name kind options =>
    rw [BuildCall.rename, Graph.build, Graph.build]
    rcases FieldKind.ofValue kind with fault | kind
    · exact ⟨h, rfl⟩
    · refine ⟨h.declareField m name kind options, ?_⟩
      dsimp only
      rw [snd_declareField, snd_declareField, hnext]
      rfl
  | typed m builder name options =>
    refine ⟨h.declareField m name builder.kind options, ?_⟩
    rw [BuildCall.rename, Graph.build, Graph.build]
    dsimp only
    rw [snd_declareField, snd_declareField, hnext]
    rfl
  | relation many m name target link =>
    obtain ⟨hgraph, hout⟩ := h.declareRelation many m name target link
    refine ⟨hgraph, ?_⟩
    rw [BuildCall.rename, Graph.build, Graph.build]
    dsimp only
    rw [hout]
    cases (g.declareRelation many m name target link).2 <;> rfl
  | backlink m name source forward isPrivate =>
    exact ⟨h.declare m name (.inverse source forward isPrivate) false, congrArg Except.ok hnext⟩

/-- A call that means the same builds the same. -/
theorem perform (h : g.Renamed σ g') (call : WrittenCall) :
    (g.perform call).1.Renamed σ (g'.perform (call.rename σ)).1 ∧
      (g'.perform (call.rename σ)).2 = (g.perform call).2.map (Built.rename σ) := by
  have hread := call.read_rename σ
  rcases hcall : call.read with fault | read
  · rw [hcall] at hread
    rw [perform_of_refused hcall, perform_of_refused hread]
    exact ⟨h, rfl⟩
  · rw [hcall] at hread
    rw [perform_of_read hcall, perform_of_read hread]
    exact h.build read

end Graph.Renamed

end MobileSchema
