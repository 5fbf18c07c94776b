import MobileSchema.Proofs.Schema.Pointing
import MobileSchema.Schema.Build
import Mathlib.Data.List.Basic

/-!
# What building keeps

A schema that is built by calls is closed.  `Graph.Sound` says so, and that the numbers of its
models and properties have been given out, so that a new object is none of them.

All calls but `model` come down to `Graph.declare`, which puts one new property behind a model's
list, so there is one step lemma, `Sound.declare`; what it needs to know of the new property is
`Shape.Fits`.  Lists only grow (`Graph.GrowsTo`), which is why what fits once fits ever after.
Main result: `Sound.keeps_build`, for each call on models of the schema.
-/

namespace MobileSchema

variable {g g' : Graph} {s : SchemaId} {m o : ModelId} {p q : PropertyId} {name : String}
  {shape : Shape} {indexed : Bool}

namespace Graph

/-! ### Soundness -/

/-- Whether a schema is closed and all in it has been given out. -/
structure Sound (g : Graph) (s : SchemaId) : Prop extends g.Closed s where
  known : s.index < g.schemas.length
  knownModel : ∀ m ∈ g.modelsOf s, m.index < g.models.length
  knownProperty : ∀ m ∈ g.modelsOf s, ∀ p ∈ g.listed m, p.index < g.properties.length

/-! ### Growth -/

/-- Whether the lists of a schema and its models keep all that they hold. -/
structure GrowsTo (g g' : Graph) (s : SchemaId) : Prop where
  models : ∀ m ∈ g.modelsOf s, m ∈ g'.modelsOf s
  listed : ∀ m ∈ g.modelsOf s, ∀ p ∈ g.listed m, p ∈ g'.listed m

theorem GrowsTo.refl (g : Graph) (s : SchemaId) : g.GrowsTo g s :=
  ⟨fun _ hm => hm, fun _ _ _ hp => hp⟩

theorem GrowsTo.trans {g'' : Graph} (h : g.GrowsTo g' s) (h' : g'.GrowsTo g'' s) :
    g.GrowsTo g'' s :=
  ⟨fun m hm => h'.models m (h.models m hm),
    fun m hm p hp => h'.listed m (h.models m hm) p (h.listed m hm p hp)⟩

end Graph

/-- A shape that fits into a schema still fits when the schema has grown. -/
theorem Shape.Fits.mono (h : shape.Fits g s) (hg : g.GrowsTo g' s) :
    shape.Fits g' s where
  target := by
    intro r hr
    obtain ⟨t, ht, heq⟩ := h.target r hr
    exact ⟨t, hg.models t ht, heq⟩
  forward := by
    intro t r isPrivate hshape
    obtain ⟨q, hq, heq⟩ := h.forward t r isPrivate hshape
    obtain ⟨t', ht', heq'⟩ := h.target (.model t) (by rw [hshape]; rfl)
    cases heq'
    exact ⟨q, hg.listed t ht' q hq, heq⟩

/-! ### A new property -/

namespace Graph

theorem length_models_declare :
    (g.declare m name shape indexed).1.models.length = g.models.length := by
  simp [declare, append, updateModel, addProperty]

theorem length_properties_declare :
    (g.declare m name shape indexed).1.properties.length = g.properties.length + 1 := by
  simp [declare, append, updateModel, addProperty]

/-- A declared property stands at the end of its model's list. -/
theorem model_declare_self (h : m.index < g.models.length) :
    (g.declare m name shape indexed).1.model m =
      { g.model m with slots := (g.model m).slots ++ [.property ⟨g.properties.length⟩] } :=
  model_updateModel_self _ h _

theorem model_declare_of_ne (h : o ≠ m) :
    (g.declare m name shape indexed).1.model o = g.model o :=
  model_updateModel_of_ne _ h _

/-- A declared property is as it was asked for. -/
theorem property_declare_self :
    (g.declare m name shape indexed).1.property ⟨g.properties.length⟩ =
      { owner := .model m, name, shape, indexed } :=
  property_addProperty_self _ _

theorem property_declare_of_lt (h : p.index < g.properties.length) :
    (g.declare m name shape indexed).1.property p = g.property p :=
  property_addProperty_of_lt _ _ h

theorem primaryKey_declare (h : m.index < g.models.length) :
    ((g.declare m name shape indexed).1.model o).primaryKey = (g.model o).primaryKey := by
  by_cases ho : o = m
  · rw [ho, model_declare_self h]
  · rw [model_declare_of_ne ho]

/-- What a model lists behind the addition: what it listed, and the new property if it was added
there. -/
theorem mem_listed_declare (h : m.index < g.models.length) :
    p ∈ (g.declare m name shape indexed).1.listed o ↔
      p ∈ g.listed o ∨ o = m ∧ p = ⟨g.properties.length⟩ := by
  rw [mem_listed, mem_listed]
  by_cases ho : o = m
  · rw [ho, model_declare_self h]
    simp
  · rw [model_declare_of_ne ho]
    simp [ho]

theorem mem_slots_declare (h : m.index < g.models.length) {r : Reference} :
    r ∈ ((g.declare m name shape indexed).1.model o).slots ↔
      r ∈ (g.model o).slots ∨ o = m ∧ r = .property ⟨g.properties.length⟩ := by
  by_cases ho : o = m
  · rw [ho, model_declare_self h]
    simp
  · rw [model_declare_of_ne ho]
    simp [ho]

theorem growsTo_declare (h : m.index < g.models.length) :
    g.GrowsTo (g.declare m name shape indexed).1 s :=
  ⟨fun _ ho => ho, fun _ _ _ hp => (mem_listed_declare h).2 (.inl hp)⟩

/-- A schema stays sound when one of its models declares a property that fits into it. -/
theorem Sound.declare (h : g.Sound s) (hm : m ∈ g.modelsOf s) (hshape : shape.Fits g s) :
    (g.declare m name shape indexed).1.Sound s := by
  have hi : m.index < g.models.length := h.knownModel _ hm
  have hg : g.GrowsTo (g.declare m name shape indexed).1 s := growsTo_declare hi
  -- what an old property is, the addition leaves as it is
  have hold : ∀ {o p}, o ∈ g.modelsOf s → p ∈ g.listed o →
      (g.declare m name shape indexed).1.property p = g.property p := by
    intro o p ho hp
    exact property_declare_of_lt (h.knownProperty _ ho _ hp)
  refine {
    models := h.models, known := h.known, properties := ?properties, owner := ?owner, fits := ?fits,
    key := ?key, knownModel := ?knownModel, knownProperty := ?knownProperty }
  case properties =>
    intro o ho r hr
    rcases (mem_slots_declare hi).1 hr with hr | ⟨-, rfl⟩
    · exact h.properties o ho r hr
    · exact ⟨_, rfl⟩
  case owner =>
    intro o ho p hp
    rcases (mem_listed_declare hi).1 hp with hp | ⟨rfl, rfl⟩
    · rw [hold ho hp]
      exact h.owner o ho p hp
    · rw [property_declare_self]
  case fits =>
    intro o ho p hp
    rcases (mem_listed_declare hi).1 hp with hp | ⟨rfl, rfl⟩
    · rw [hold ho hp]
      exact (h.fits o ho p hp).mono hg
    · rw [property_declare_self]
      exact hshape.mono hg
  case key =>
    intro o ho
    rw [primaryKey_declare hi]
    rcases h.key o ho with hkey | ⟨p, hp, hkey, htyped⟩
    · exact .inl hkey
    · refine .inr ⟨p, (mem_listed_declare hi).2 (.inl hp), hkey, ?_⟩
      rw [hold ho hp]
      exact htyped
  case knownModel =>
    intro o ho
    rw [length_models_declare]
    exact h.knownModel o ho
  case knownProperty =>
    intro o ho p hp
    rw [length_properties_declare]
    rcases (mem_listed_declare hi).1 hp with hp | ⟨-, rfl⟩
    · exact Nat.lt_succ_of_lt (h.knownProperty o ho p hp)
    · exact Nat.lt_succ_self _

/-! ### A new model -/

theorem schema_declareModel (h : s.index < g.schemas.length) :
    (g.declareModel s name).1.schema s =
      { g.schema s with slots := (g.schema s).slots ++ [.model ⟨g.models.length⟩] } :=
  schema_updateSchema_self _ h _

/-- A new model lists nothing and has no key. -/
theorem model_declareModel_self :
    (g.declareModel s name).1.model ⟨g.models.length⟩ = { schema := s, name } :=
  model_addModel_self _ _

theorem model_declareModel_of_lt (h : m.index < g.models.length) :
    (g.declareModel s name).1.model m = g.model m :=
  model_addModel_of_lt _ _ h

theorem length_models_declareModel :
    (g.declareModel s name).1.models.length = g.models.length + 1 := by
  simp [declareModel, appendModel, updateSchema, addModel]

theorem length_schemas_declareModel :
    (g.declareModel s name).1.schemas.length = g.schemas.length := by
  simp [declareModel, appendModel, updateSchema, addModel]

/-- A new model is listed by its schema, beside those that were. -/
theorem mem_modelsOf_declareModel (h : s.index < g.schemas.length) :
    m ∈ (g.declareModel s name).1.modelsOf s ↔ m ∈ g.modelsOf s ∨ m = ⟨g.models.length⟩ := by
  rw [mem_modelsOf, mem_modelsOf, schema_declareModel h]
  simp

theorem listed_declareModel_of_lt (h : m.index < g.models.length) :
    (g.declareModel s name).1.listed m = g.listed m := by
  rw [listed, model_declareModel_of_lt h, listed]

/-- A new model makes a sound schema grow. -/
theorem Sound.growsTo_declareModel (h : g.Sound s) : g.GrowsTo (g.declareModel s name).1 s := by
  refine ⟨fun m hm => (mem_modelsOf_declareModel h.known).2 (.inl hm), ?_⟩
  intro m hm p hp
  rw [listed_declareModel_of_lt (h.knownModel _ hm)]
  exact hp

/-- A schema stays sound when a model is added to it, which lists nothing yet. -/
theorem Sound.declareModel (h : g.Sound s) : (g.declareModel s name).1.Sound s := by
  have hg : g.GrowsTo (g.declareModel s name).1 s := h.growsTo_declareModel
  -- a model is an old one, as it was, or the new one, which lists nothing
  have hmodel : ∀ {m}, m ∈ (g.declareModel s name).1.modelsOf s →
      (m ∈ g.modelsOf s ∧ (g.declareModel s name).1.model m = g.model m) ∨
        (g.declareModel s name).1.model m = { schema := s, name } := by
    intro m hm
    rcases (mem_modelsOf_declareModel h.known).1 hm with hm | rfl
    · exact .inl ⟨hm, model_declareModel_of_lt (h.knownModel _ hm)⟩
    · exact .inr model_declareModel_self
  have hlisted : ∀ {m p}, m ∈ (g.declareModel s name).1.modelsOf s →
      p ∈ (g.declareModel s name).1.listed m → m ∈ g.modelsOf s ∧ p ∈ g.listed m := by
    intro m p hm hp
    rcases hmodel hm with ⟨hm, heq⟩ | heq
    · rw [listed, heq] at hp
      exact ⟨hm, hp⟩
    · rw [listed, heq] at hp
      cases hp
  refine {
    models := ?models, properties := ?properties, owner := ?owner, fits := ?fits, key := ?key,
    known := ?known, knownModel := ?knownModel, knownProperty := ?knownProperty }
  case models =>
    intro r hr
    rw [schema_declareModel h.known] at hr
    rcases List.mem_append.1 hr with hr | hr
    · exact h.models r hr
    · exact ⟨_, List.mem_singleton.1 hr⟩
  case properties =>
    intro m hm r hr
    rcases hmodel hm with ⟨hm, heq⟩ | heq
    · rw [heq] at hr
      exact h.properties m hm r hr
    · rw [heq] at hr
      cases hr
  case owner =>
    intro m hm p hp
    obtain ⟨hm, hp⟩ := hlisted hm hp
    exact h.owner m hm p hp
  case fits =>
    intro m hm p hp
    obtain ⟨hm, hp⟩ := hlisted hm hp
    exact (h.fits m hm p hp).mono hg
  case key =>
    intro m hm
    rcases hmodel hm with ⟨hm, heq⟩ | heq
    · rw [listed, heq]
      exact h.key m hm
    · rw [heq]
      exact .inl rfl
  case known =>
    rw [length_schemas_declareModel]
    exact h.known
  case knownModel =>
    intro m hm
    rw [length_models_declareModel]
    rcases (mem_modelsOf_declareModel h.known).1 hm with hm | rfl
    · exact Nat.lt_succ_of_lt (h.knownModel m hm)
    · exact Nat.lt_succ_self _
  case knownProperty =>
    intro m hm p hp
    obtain ⟨hm, hp⟩ := hlisted hm hp
    exact h.knownProperty m hm p hp

/-! ### A new primary key -/

theorem listed_updateKey (key : Reference) :
    (g.updateModel m fun model => { model with primaryKey := key }).listed o = g.listed o := by
  by_cases ho : o = m
  · by_cases hi : m.index < g.models.length
    · rw [ho, listed, model_updateModel_self _ hi]
      rfl
    · have hsame : g.models.modify m.index (fun model => { model with primaryKey := key }) =
          g.models := List.modify_eq_self (by omega)
      simp only [listed, updateModel, hsame, model]
  · rw [listed, model_updateModel_of_ne _ ho, listed]

/-- A schema stays sound when a typed field that a model lists becomes its key. -/
theorem Sound.updateKey (h : g.Sound s) (hm : m ∈ g.modelsOf s) (hp : p ∈ g.listed m)
    (htyped : (g.property p).shape.isTyped) :
    (g.updateModel m fun model => { model with primaryKey := .property p }).Sound s := by
  -- a key stands beside the list, so no list changes
  have hlisted : ∀ o, (g.updateModel m fun model =>
      { model with primaryKey := .property p }).listed o = g.listed o :=
    fun _ => listed_updateKey _
  have hg : g.GrowsTo (g.updateModel m fun model => { model with primaryKey := .property p }) s :=
    ⟨fun _ ho => ho, fun o _ q hq => by rw [hlisted]; exact hq⟩
  refine {
    models := h.models, known := h.known, properties := ?properties, owner := ?owner, fits := ?fits,
    key := ?key, knownModel := ?knownModel, knownProperty := ?knownProperty }
  case properties =>
    intro o ho r hr
    by_cases hom : o = m
    · rw [hom, model_updateModel_self _ (h.knownModel _ hm)] at hr
      exact h.properties m hm r hr
    · rw [model_updateModel_of_ne _ hom] at hr
      exact h.properties o ho r hr
  case owner =>
    intro o ho q hq
    rw [hlisted] at hq
    exact h.owner o ho q hq
  case fits =>
    intro o ho q hq
    rw [hlisted] at hq
    exact (h.fits o ho q hq).mono hg
  case key =>
    intro o ho
    by_cases hom : o = m
    · rw [hom, model_updateModel_self _ (h.knownModel _ hm), hlisted]
      exact .inr ⟨p, hp, rfl, htyped⟩
    · rw [model_updateModel_of_ne _ hom, hlisted]
      exact h.key o ho
  case knownModel =>
    intro o ho
    rw [updateModel, List.length_modify]
    exact h.knownModel o ho
  case knownProperty =>
    intro o ho q hq
    rw [hlisted] at hq
    exact h.knownProperty o ho q hq

/-! ### Calls -/

/-- Whether a graph is what soundness and growth ask for behind a call. -/
def Keeps (g g' : Graph) (s : SchemaId) : Prop := g'.Sound s ∧ g.GrowsTo g' s

theorem Sound.keeps_declare (h : g.Sound s) (hm : m ∈ g.modelsOf s) (hshape : shape.Fits g s)
    (name : String) (indexed : Bool) :
    g.Keeps (g.declare m name shape indexed).1 s :=
  ⟨h.declare hm hshape, growsTo_declare (h.knownModel _ hm)⟩

theorem listed_declare_self (h : m.index < g.models.length) (name : String) (shape : Shape)
    (indexed : Bool) :
    ⟨g.properties.length⟩ ∈ (g.declare m name shape indexed).1.listed m :=
  (mem_listed_declare h).2 (.inr ⟨rfl, rfl⟩)

theorem fits_typed (kind : GivenKind) (required : Bool) : (Shape.typed kind required).Fits g s where
  target := by
    intro r hr
    cases hr
  forward := by
    intro t r isPrivate hshape
    cases hshape

theorem fits_relation (many : Bool) (hm : m ∈ g.modelsOf s) :
    (if many then Shape.toMany (.model m) else .toOne (.model m)).Fits g s := by
  refine ⟨?_, ?_⟩
  · intro r hr
    refine ⟨m, hm, ?_⟩
    cases many <;> exact (Option.some.inj hr).symm
  · intro t r isPrivate hshape
    cases many <;> cases hshape

theorem fits_inverse (hm : m ∈ g.modelsOf s) (hp : p ∈ g.listed m) (isPrivate : Bool) :
    (Shape.inverse (.model m) (.property p) isPrivate).Fits g s where
  target := by
    intro r hr
    exact ⟨m, hm, (Option.some.inj hr).symm⟩
  forward := by
    intro t r isPrivate' hshape
    cases hshape
    exact ⟨p, hp, rfl⟩

theorem declareField_fst_of_key {kind : FieldKind} {options : FieldOptions}
    (h : options.primaryKey) :
    (g.declareField m name kind options).1 =
      (g.declare m name (.typed (.known kind) options.required) options.indexed).1.updateModel m
        fun model => { model with primaryKey := .property ⟨g.properties.length⟩ } := by
  simp only [declareField, h, if_true]
  rfl

theorem declareField_fst_of_not_key {kind : FieldKind} {options : FieldOptions}
    (h : ¬ options.primaryKey) :
    (g.declareField m name kind options).1 =
      (g.declare m name (.typed (.known kind) options.required) options.indexed).1 := by
  simp only [declareField, h]
  rfl

/-- A field can be declared in a sound schema, as a key or not. -/
theorem Sound.keeps_declareField (h : g.Sound s) (hm : m ∈ g.modelsOf s) (kind : FieldKind)
    (options : FieldOptions) : g.Keeps (g.declareField m name kind options).1 s := by
  have hd := h.keeps_declare hm (fits_typed (.known kind) options.required) name options.indexed
  by_cases hkey : options.primaryKey
  · rw [declareField_fst_of_key hkey]
    refine ⟨hd.1.updateKey hm (listed_declare_self (h.knownModel _ hm) _ _ _) ?_, ?_⟩
    · rw [property_declare_self]
      rfl
    · refine hd.2.trans ⟨fun _ ho => ho, ?_⟩
      intro o _ q hq
      rw [listed_updateKey]
      exact hq
  · rw [declareField_fst_of_not_key hkey]
    exact hd

/-- A relation between models of a sound schema can be declared, with its backlink or without. -/
theorem Sound.keeps_declareRelation (h : g.Sound s) (hm : m ∈ g.modelsOf s)
    (ho : o ∈ g.modelsOf s) (many : Bool) (link : LinkOptions) :
    g.Keeps (g.declareRelation many m name (.model o) link).1 s := by
  have hd := h.keeps_declare hm (fits_relation many ho) name false
  rw [declareRelation]
  split
  · exact ⟨h, .refl g s⟩
  · dsimp only
    split
    · -- the backlink stands behind the relation, which its source lists by now
      have hfits := fits_inverse (hd.2.models m hm)
        (listed_declare_self (h.knownModel _ hm) name _ _) link.isPrivate
      have hb := hd.1.keeps_declare (hd.2.models o ho) hfits (link.name.getD "") false
      exact ⟨hb.1, hd.2.trans hb.2⟩
    · exact hd

end Graph

/-- Whether a call is on the models of a schema: relations lead to one of them, and backlinks
reverse what one of them lists. -/
def BuildCall.Addresses (g : Graph) (s : SchemaId) : BuildCall → Prop
  | .model schema _ => schema = s
  | .field m .. | .typed m .. => m ∈ g.modelsOf s
  | .relation _ m _ target _ => m ∈ g.modelsOf s ∧ ∃ t ∈ g.modelsOf s, target = .model t
  | .backlink m _ source forward _ =>
    m ∈ g.modelsOf s ∧ ∃ t ∈ g.modelsOf s, source = .model t ∧
      ∃ q ∈ g.listed t, forward = .property q

namespace Graph

/-- The step: a call on a sound schema and its models leaves the schema sound and only makes it
grow. -/
theorem Sound.keeps_build (h : g.Sound s) {call : BuildCall} (hc : call.Addresses g s) :
    g.Keeps (g.build call).1 s := by
  cases call with
  | model schema name =>
    obtain rfl := hc
    exact ⟨h.declareModel, h.growsTo_declareModel⟩
  | field m name kind options =>
    rw [build]
    rcases FieldKind.ofValue kind with fault | kind
    · exact ⟨h, .refl g s⟩
    · exact h.keeps_declareField hc kind options
  | typed m builder name options =>
    exact h.keeps_declareField hc builder.kind options
  | relation many m name target link =>
    obtain ⟨hm, t, ht, rfl⟩ := hc
    exact h.keeps_declareRelation hm ht many link
  | backlink m name source forward isPrivate =>
    obtain ⟨hm, t, ht, rfl, q, hq, rfl⟩ := hc
    exact h.keeps_declare hm (fits_inverse ht hq isPrivate) name false

end Graph

end MobileSchema
