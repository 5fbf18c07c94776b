import MobileSchema.Schema.Check
import Mathlib.Data.List.Basic

/-!
# Schemas whose pointers lead to the right sorts

A pointer can lead to anything, and a question that meets the wrong sort of object is refused.  The
operations on schemas are meant for graphs in which a schema lists models, a model lists properties,
an owner and a target are models and the forward of a backlink is a property; which of the objects
they are is left open.  `Graph.WellPointed` says so for all that a schema lists.

On such a schema the lists of references are lists of models and of properties
(`WellPointed.slots_schema`, `WellPointed.slots_model`), so that no question about names is refused.

`Graph.Closed` says more: the pointers stay inside the schema, and each is in its place.  That is
what building keeps and what the check asks for beside names that differ.
-/

namespace MobileSchema

/-- Whether the pointers of a property lead to objects of the sorts that they are meant for. -/
structure Property.WellPointed (p : Property) : Prop where
  owner : ∃ m, p.owner = .model m
  target : ∀ r, p.shape.target? = some r → ∃ m, r = .model m
  forward : ∀ target r isPrivate, p.shape = .inverse target r isPrivate → ∃ q, r = .property q

namespace Graph

variable {g : Graph} {s : SchemaId} {m : ModelId} {p : PropertyId}

/-- Whether the pointers in a schema lead to objects of the sorts that they are meant for.  A
primary key can be any object with a name.  Keys without one, such as schemas and texts, are left
out: the check cannot report them and is refused (`issues_refused_of_nameless_key`). -/
structure WellPointed (g : Graph) (s : SchemaId) : Prop where
  models : ∀ r ∈ (g.schema s).slots, ∃ m, r = .model m
  properties : ∀ m ∈ g.modelsOf s, ∀ r ∈ (g.model m).slots, ∃ p, r = .property p
  property : ∀ m ∈ g.modelsOf s, ∀ p ∈ g.listed m, (g.property p).WellPointed
  key : ∀ m ∈ g.modelsOf s,
    (g.model m).primaryKey = .nothing ∨ ∃ name, g.nameOf (g.model m).primaryKey = .ok name

/-- The names of the models that a schema lists. -/
def modelNames (g : Graph) (s : SchemaId) : List String := (g.modelsOf s).map g.modelName

/-- The names of the properties that a model lists. -/
def listedNames (g : Graph) (m : ModelId) : List String := (g.listed m).map g.propertyName

@[simp] theorem nameOf_model (g : Graph) (m : ModelId) :
    g.nameOf (.model m) = .ok (g.modelName m) := rfl

@[simp] theorem nameOf_property (g : Graph) (p : PropertyId) :
    g.nameOf (.property p) = .ok (g.propertyName p) := rfl

/-- The name of what a reference leads to, if it has one. -/
def nameAt (g : Graph) (r : Reference) : String := (g.nameOf r).toOption.getD ""

@[simp] theorem nameAt_model (g : Graph) (m : ModelId) : g.nameAt (.model m) = g.modelName m := rfl

@[simp] theorem nameAt_property (g : Graph) (p : PropertyId) :
    g.nameAt (.property p) = g.propertyName p := rfl

/-- A schema's models are those that its list leads to. -/
theorem mem_modelsOf : m ∈ g.modelsOf s ↔ .model m ∈ (g.schema s).slots := by
  simp only [modelsOf, Schema.listed, List.mem_filterMap]
  constructor
  · rintro ⟨r, hr, h⟩
    cases r <;> simp [Reference.model?] at h
    exact h ▸ hr
  · intro h
    exact ⟨_, h, rfl⟩

/-- A model's properties are those that its list leads to. -/
theorem mem_listed : p ∈ g.listed m ↔ .property p ∈ (g.model m).slots := by
  simp only [listed, Model.listed, List.mem_filterMap]
  constructor
  · rintro ⟨r, hr, h⟩
    cases r <;> simp [Reference.property?] at h
    exact h ▸ hr
  · intro h
    exact ⟨_, h, rfl⟩

/-- A list in which all items come from some constructor is what that constructor makes of the
items that it has kept. -/
theorem eq_map_filterMap {α β : Type} {f : α → Option β} {make : β → α}
    (hmake : ∀ b, f (make b) = some b) {xs : List α} (h : ∀ x ∈ xs, ∃ b, x = make b) :
    xs = (xs.filterMap f).map make := by
  induction xs with
  | nil => rfl
  | cons x xs ih =>
    obtain ⟨b, rfl⟩ := h x (by simp)
    have hxs := ih fun y hy => h y (by simp [hy])
    rw [List.filterMap_cons_some (hmake b), List.map_cons, ← hxs]

namespace WellPointed

theorem slots_schema (h : g.WellPointed s) :
    (g.schema s).slots = (g.modelsOf s).map .model :=
  eq_map_filterMap (f := Reference.model?) (fun _ => rfl) h.models

theorem slots_model (h : g.WellPointed s) (hm : m ∈ g.modelsOf s) :
    (g.model m).slots = (g.listed m).map .property :=
  eq_map_filterMap (f := Reference.property?) (fun _ => rfl) (h.properties m hm)

/-- On a well pointed schema, asking for the names of the models is not refused. -/
theorem namesOf_schema (h : g.WellPointed s) :
    g.namesOf (g.schema s).slots = .ok (g.modelNames s) := by
  rw [g.namesOf_eq_ok (f := fun r => (r.model?.map g.modelName).getD "")]
  · rw [h.slots_schema, List.map_map]
    rfl
  · intro r hr
    obtain ⟨m, rfl⟩ := h.models r hr
    rfl

/-- On a well pointed schema, asking for the names of a model's properties is not refused. -/
theorem namesOf_model (h : g.WellPointed s) (hm : m ∈ g.modelsOf s) :
    g.namesOf (g.model m).slots = .ok (g.listedNames m) := by
  rw [g.namesOf_eq_ok (f := fun r => (r.property?.map g.propertyName).getD "")]
  · rw [h.slots_model hm, List.map_map]
    rfl
  · intro r hr
    obtain ⟨p, rfl⟩ := h.properties m hm r hr
    rfl

end WellPointed

end Graph

/-! ### Deciding -/

theorem Reference.isSome_model? {r : Reference} : r.model?.isSome ↔ ∃ m, r = .model m := by
  cases r <;> simp [model?]

theorem Reference.isSome_property? {r : Reference} : r.property?.isSome ↔ ∃ p, r = .property p := by
  cases r <;> simp [property?]

/-- Whether what a shape points at is of the sorts that are meant. -/
def Shape.pointsWell : Shape → Bool
  | .typed .. => true
  | .toOne target | .toMany target => target.model?.isSome
  | .inverse target forward _ => target.model?.isSome && forward.property?.isSome

theorem Property.wellPointed_iff {p : Property} :
    p.WellPointed ↔ p.owner.model?.isSome ∧ p.shape.pointsWell := by
  constructor
  · rintro ⟨howner, htarget, hforward⟩
    refine ⟨Reference.isSome_model?.2 howner, ?_⟩
    rcases hshape : p.shape with ⟨kind, required⟩ | target | target | ⟨target, forward, isPrivate⟩
    · rfl
    · exact Reference.isSome_model?.2 (htarget target (by rw [hshape]; rfl))
    · exact Reference.isSome_model?.2 (htarget target (by rw [hshape]; rfl))
    · obtain ⟨m, rfl⟩ := htarget target (by rw [hshape]; rfl)
      obtain ⟨q, rfl⟩ := hforward _ _ _ hshape
      rfl
  · rintro ⟨howner, hshape⟩
    refine ⟨Reference.isSome_model?.1 howner, ?_, ?_⟩
    · intro r hr
      refine Reference.isSome_model?.1 ?_
      rcases h : p.shape with ⟨kind, required⟩ | target | target | ⟨target, forward, isPrivate⟩ <;>
        simp_all [Shape.pointsWell, Shape.target?]
    · intro target r isPrivate h
      refine Reference.isSome_property?.1 ?_
      simp_all [Shape.pointsWell]

instance (p : Property) : Decidable p.WellPointed := decidable_of_iff' _ Property.wellPointed_iff

namespace Graph

variable {g : Graph} {s : SchemaId}

/-- Whether a schema is well pointed can be found out by going through its lists. -/
theorem wellPointed_iff : g.WellPointed s ↔
    (∀ r ∈ (g.schema s).slots, r.model?.isSome) ∧ ∀ m ∈ g.modelsOf s,
      (∀ r ∈ (g.model m).slots, r.property?.isSome) ∧
      (∀ p ∈ g.listed m, (g.property p).WellPointed) ∧
      ((g.model m).primaryKey = .nothing ∨ (g.nameOf (g.model m).primaryKey).isOk) := by
  have hname : ∀ r, (g.nameOf r).isOk ↔ ∃ name, g.nameOf r = .ok name := by
    intro r
    cases g.nameOf r <;> simp [Except.isOk, Except.toBool]
  simp only [Reference.isSome_model?, Reference.isSome_property?, hname]
  constructor
  · intro h
    exact ⟨h.models, fun m hm => ⟨h.properties m hm, h.property m hm, h.key m hm⟩⟩
  · rintro ⟨hmodels, h⟩
    exact ⟨hmodels, fun m hm => (h m hm).1, fun m hm => (h m hm).2.1, fun m hm => (h m hm).2.2⟩

instance (g : Graph) (s : SchemaId) : Decidable (g.WellPointed s) :=
  decidable_of_iff' _ wellPointed_iff

end Graph

/-! ### Pointers that stay inside -/

/-- Whether a shape leads into a schema: to one of its models, and to what that model lists. -/
structure Shape.Fits (g : Graph) (s : SchemaId) (shape : Shape) : Prop where
  target : ∀ r, shape.target? = some r → ∃ t ∈ g.modelsOf s, r = .model t
  forward : ∀ t r isPrivate, shape = .inverse (.model t) r isPrivate →
    ∃ q ∈ g.listed t, r = .property q

namespace Graph

variable {g : Graph} {s : SchemaId} {m : ModelId} {p : PropertyId}

/-- Whether a schema points at nothing but its own models and their properties, each in its place:
a model owns what it lists, a relation leads to a model of the schema, the target of a backlink
lists the relation that is reversed, and a primary key is a typed field in its model's list. -/
structure Closed (g : Graph) (s : SchemaId) : Prop where
  models : ∀ r ∈ (g.schema s).slots, ∃ m, r = .model m
  properties : ∀ m ∈ g.modelsOf s, ∀ r ∈ (g.model m).slots, ∃ p, r = .property p
  owner : ∀ m ∈ g.modelsOf s, ∀ p ∈ g.listed m, (g.property p).owner = .model m
  fits : ∀ m ∈ g.modelsOf s, ∀ p ∈ g.listed m, (g.property p).shape.Fits g s
  key : ∀ m ∈ g.modelsOf s, (g.model m).primaryKey = .nothing ∨
    ∃ p ∈ g.listed m, (g.model m).primaryKey = .property p ∧ (g.property p).shape.isTyped

/-- Pointers that stay inside a schema lead to the right sorts. -/
theorem Closed.wellPointed (h : g.Closed s) : g.WellPointed s where
  models := h.models
  properties := h.properties
  property := by
    intro m hm p hp
    refine ⟨⟨m, h.owner m hm p hp⟩, ?_, ?_⟩
    · intro r hr
      obtain ⟨t, -, ht⟩ := (h.fits m hm p hp).target r hr
      exact ⟨t, ht⟩
    · intro target r isPrivate hshape
      obtain ⟨t, -, rfl⟩ := (h.fits m hm p hp).target target (by rw [hshape]; rfl)
      obtain ⟨q, -, hq⟩ := (h.fits m hm p hp).forward t r isPrivate hshape
      exact ⟨q, hq⟩
  key := by
    intro m hm
    rcases h.key m hm with hkey | ⟨p, -, hkey, -⟩
    · exact .inl hkey
    · exact .inr ⟨g.propertyName p, by rw [hkey]; rfl⟩

end Graph

end MobileSchema
