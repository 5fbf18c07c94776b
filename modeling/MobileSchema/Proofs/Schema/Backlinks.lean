import MobileSchema.Proofs.Schema.Runs

/-!
# Backlinks

A backlink belongs to the model that a relation leads to, and reverses this relation.  The check
does not ask for all of that: it asks whether the target of a backlink lists what is reversed, but
neither whether this is a relation nor where it leads.  So a valid schema can have a backlink in a
model that the relation does not lead to (`not_hasGenuineBacklinks_astray`).  What the check leaves
open is said by `genuine_iff_leadsTo`.

Building leaves it open in one place only: a backlink that is made together with its relation is
genuine, and one that is made on its own is genuine if its relation leads to the model that it is
made for.  Each call keeps this (`Reversing.build`), and so does a run (`hasGenuineBacklinks_run`).
-/

namespace MobileSchema

variable {g : Graph} {s : SchemaId} {m t o : ModelId} {p q : PropertyId} {name : String}
  {shape : Shape} {indexed : Bool} {target forward : Reference} {isPrivate : Bool}

namespace Graph

/-! ### Genuine backlinks -/

/-- Whether a property is a relation to a model. -/
def LeadsTo (g : Graph) (q : PropertyId) (m : ModelId) : Prop :=
  (g.property q).shape = .toOne (.model m) ∨ (g.property q).shape = .toMany (.model m)

instance (g : Graph) (q : PropertyId) (m : ModelId) : Decidable (g.LeadsTo q m) :=
  inferInstanceAs (Decidable (_ ∨ _))

/-- Whether a backlink of the model `m` is genuine: its target declares what it reverses, and this
is a relation to `m`. -/
def Genuine (g : Graph) (m : ModelId) (target forward : Reference) : Prop :=
  ∃ t q, target = .model t ∧ forward = .property q ∧ q ∈ g.listed t ∧
    (g.property q).owner = .model t ∧ g.LeadsTo q m

/-- Whether all backlinks in a schema are genuine. -/
def HasGenuineBacklinks (g : Graph) (s : SchemaId) : Prop :=
  ∀ m ∈ g.modelsOf s, ∀ p ∈ g.listed m, ∀ target forward isPrivate,
    (g.property p).shape = .inverse target forward isPrivate → g.Genuine m target forward

/-- A backlink over what its target lists and owns is genuine just if that leads back to the
model. -/
theorem genuine_iff (ht : q ∈ g.listed t) (howner : (g.property q).owner = .model t) :
    g.Genuine m (.model t) (.property q) ↔ g.LeadsTo q m := by
  constructor
  · rintro ⟨t', q', hsame, hsame', -, -, hleads⟩
    cases hsame
    cases hsame'
    exact hleads
  · intro hleads
    exact ⟨t, q, rfl, rfl, ht, howner, hleads⟩

/-- What a backlink points at in a closed schema. -/
theorem Closed.backlink (h : g.Closed s) (hm : m ∈ g.modelsOf s) (hp : p ∈ g.listed m)
    (hshape : (g.property p).shape = .inverse target forward isPrivate) :
    ∃ t ∈ g.modelsOf s, ∃ q ∈ g.listed t, target = .model t ∧ forward = .property q := by
  have hfits := h.fits m hm p hp
  obtain ⟨t, ht, rfl⟩ := hfits.target target (by rw [hshape]; rfl)
  obtain ⟨q, hq, rfl⟩ := hfits.forward t forward isPrivate hshape
  exact ⟨t, ht, q, hq, rfl, rfl⟩

/-- In a valid schema the target of a backlink declares what is reversed.  The backlink is genuine
exactly if this is a relation that leads back, which the check does not ask. -/
theorem genuine_iff_leadsTo (h : g.validate s = .ok ()) (hm : m ∈ g.modelsOf s)
    (hp : p ∈ g.listed m) (hshape : (g.property p).shape = .inverse target forward isPrivate) :
    ∃ t ∈ g.modelsOf s, ∃ q ∈ g.listed t, target = .model t ∧ forward = .property q ∧
      (g.property q).owner = .model t ∧ (g.Genuine m target forward ↔ g.LeadsTo q m) := by
  have hclosed := (validate_eq_ok_iff.1 h).1
  obtain ⟨t, ht, q, hq, rfl, rfl⟩ := hclosed.backlink hm hp hshape
  have howner := hclosed.owner t ht q hq
  exact ⟨t, ht, q, hq, rfl, rfl, howner, genuine_iff hq howner⟩

/-- A schema that is built by calls, in which a shelter has a backlink of the relation that leads
from persons to their cats. -/
def astray : Graph :=
  (({} : Graph).newSchema (some "zoo") none).1.run [
    .model ⟨0⟩ "Person",
    .model ⟨0⟩ "Cat",
    .model ⟨0⟩ "Shelter",
    .relation true ⟨0⟩ "cats" (.model ⟨1⟩)
      { create := true, name := some "keepers", isPrivate := false },
    .backlink ⟨2⟩ "helpers" (.model ⟨0⟩) (.property ⟨0⟩) false]

/-- The backlink of the cats is genuine and that of the shelter is not, in one valid schema. -/
theorem genuine_iff_leadsTo_astray :
    astray.validate ⟨0⟩ = .ok () ∧
    (astray.property ⟨1⟩).shape = .inverse (.model ⟨0⟩) (.property ⟨0⟩) false ∧
    astray.Genuine ⟨1⟩ (.model ⟨0⟩) (.property ⟨0⟩) ∧
    (astray.property ⟨2⟩).shape = .inverse (.model ⟨0⟩) (.property ⟨0⟩) false ∧
    ¬ astray.Genuine ⟨2⟩ (.model ⟨0⟩) (.property ⟨0⟩) := by
  have hvalid : astray.validate ⟨0⟩ = .ok () := by cbv
  have hcats : (astray.property ⟨1⟩).shape = .inverse (.model ⟨0⟩) (.property ⟨0⟩) false := by
    decide +kernel
  have hshelter : (astray.property ⟨2⟩).shape = .inverse (.model ⟨0⟩) (.property ⟨0⟩) false := by
    decide +kernel
  refine ⟨hvalid, hcats, ?_, hshelter, ?_⟩
  · obtain ⟨_, -, _, -, ht, hq, -, hiff⟩ :=
      genuine_iff_leadsTo (m := ⟨1⟩) hvalid (by decide +kernel) (by decide +kernel) hcats
    cases ht
    cases hq
    exact hiff.2 (by decide +kernel)
  · obtain ⟨_, -, _, -, ht, hq, -, hiff⟩ :=
      genuine_iff_leadsTo (m := ⟨2⟩) hvalid (by decide +kernel) (by decide +kernel) hshelter
    cases ht
    cases hq
    rw [hiff]
    decide +kernel

/-- A valid schema can have a backlink that is not genuine. -/
theorem not_hasGenuineBacklinks_astray :
    astray.validate ⟨0⟩ = .ok () ∧ ¬ astray.HasGenuineBacklinks ⟨0⟩ := by
  refine ⟨by cbv, ?_⟩
  intro h
  have hgenuine := h ⟨2⟩ (by decide +kernel) ⟨2⟩ (by decide +kernel) (.model ⟨0⟩) (.property ⟨0⟩)
    false (by decide +kernel)
  rw [genuine_iff (by decide +kernel) (by decide +kernel)] at hgenuine
  revert hgenuine
  decide +kernel

/-! ### What building keeps -/

/-- Whether a schema is sound and what its backlinks reverse leads back. -/
structure Reversing (g : Graph) (s : SchemaId) : Prop extends g.Sound s where
  leadsBack : ∀ m ∈ g.modelsOf s, ∀ p ∈ g.listed m, ∀ target q isPrivate,
    (g.property p).shape = .inverse target (.property q) isPrivate → g.LeadsTo q m

/-- Where each backlink reverses a relation that leads to its model, all backlinks are genuine. -/
theorem Reversing.hasGenuineBacklinks (h : g.Reversing s) : g.HasGenuineBacklinks s := by
  intro m hm p hp target forward isPrivate hshape
  obtain ⟨t, ht, q, hq, rfl, rfl⟩ := h.toClosed.backlink hm hp hshape
  exact (genuine_iff hq (h.owner t ht q hq)).2 (h.leadsBack m hm p hp _ q isPrivate hshape)

/-- A relation still leads where it led when a property is added. -/
theorem leadsTo_declare (hq : q.index < g.properties.length) (h : g.LeadsTo q o) :
    (g.declare m name shape indexed).1.LeadsTo q o := by
  rw [LeadsTo, property_declare_of_lt hq]
  exact h

/-- A new property keeps this if it leads back itself, where it is a backlink. -/
theorem Reversing.declare (h : g.Reversing s) (hm : m ∈ g.modelsOf s) (hfits : shape.Fits g s)
    (hback : ∀ target q isPrivate, shape = .inverse target (.property q) isPrivate →
      g.LeadsTo q m) : (g.declare m name shape indexed).1.Reversing s where
  toSound := h.toSound.declare hm hfits
  leadsBack := by
    intro o ho p hp target q isPrivate hshape
    rcases (mem_listed_declare (h.knownModel m hm)).1 hp with hp | ⟨rfl, rfl⟩
    · rw [property_declare_of_lt (h.knownProperty o ho p hp)] at hshape
      obtain ⟨t, ht, q', hq', rfl, hsame⟩ := h.toClosed.backlink ho hp hshape
      cases hsame
      exact leadsTo_declare (h.knownProperty t ht q hq') (h.leadsBack o ho p hp _ q isPrivate hshape)
    · rw [property_declare_self] at hshape
      have hshape : shape = .inverse target (.property q) isPrivate := hshape
      -- what is reversed is listed, so it is older than the backlink
      obtain ⟨t, ht, rfl⟩ := hfits.target target (by rw [hshape]; rfl)
      obtain ⟨q', hq', hsame⟩ := hfits.forward t _ isPrivate hshape
      cases hsame
      exact leadsTo_declare (h.knownProperty t ht q hq') (hback _ q isPrivate hshape)

theorem Reversing.declareModel (h : g.Reversing s) : (g.declareModel s name).1.Reversing s where
  toSound := h.toSound.declareModel
  leadsBack := by
    intro m hm p hp target q isPrivate hshape
    rcases (mem_modelsOf_declareModel h.known).1 hm with hm | rfl
    · rw [listed_declareModel_of_lt (h.knownModel m hm)] at hp
      exact h.leadsBack m hm p hp target q isPrivate hshape
    · rw [listed, model_declareModel_self] at hp
      cases hp

theorem Reversing.declareField (h : g.Reversing s) (hm : m ∈ g.modelsOf s) (kind : FieldKind)
    (options : FieldOptions) : (g.declareField m name kind options).1.Reversing s := by
  have hsound : (g.declareField m name kind options).1.Sound s :=
    (h.toSound.keeps_declareField hm kind options).1
  have hd : (g.declare m name (.typed (.known kind) options.required) options.indexed).1.Reversing
      s := by
    refine h.declare hm (fits_typed _ _) ?_
    intro target q isPrivate hshape
    cases hshape
  refine ⟨hsound, ?_⟩
  -- a new key changes neither lists nor properties
  by_cases hkey : options.primaryKey
  · rw [declareField_fst_of_key hkey]
    intro o ho p hp
    rw [listed_updateKey] at hp
    exact hd.leadsBack o ho p hp
  · rw [declareField_fst_of_not_key hkey]
    exact hd.leadsBack

/-- The backlink that comes with a relation reverses it. -/
theorem Reversing.declareRelation (h : g.Reversing s) (hm : m ∈ g.modelsOf s)
    (ho : o ∈ g.modelsOf s) (many : Bool) (link : LinkOptions) :
    (g.declareRelation many m name (.model o) link).1.Reversing s := by
  -- the relation itself reverses nothing
  have hd : (g.declare m name (if many then .toMany (.model o) else .toOne (.model o))
      false).1.Reversing s := by
    refine h.declare hm (fits_relation many ho) ?_
    intro target q isPrivate hshape
    cases many <;> cases hshape
  rw [Graph.declareRelation]
  split
  · exact h
  · dsimp only
    split
    · -- its backlink is declared last, over a relation that leads back to the model
      have hgrows := (h.toSound.keeps_declare hm (fits_relation many ho) name false).2
      have hlisted := listed_declare_self (h.knownModel m hm) name
        (if many then .toMany (.model o) else .toOne (.model o)) false
      refine hd.declare (hgrows.models o ho)
        (fits_inverse (hgrows.models m hm) hlisted link.isPrivate) ?_
      intro target q isPrivate hshape
      cases hshape
      cases many
      · exact .inl (congrArg Property.shape property_declare_self)
      · exact .inr (congrArg Property.shape property_declare_self)
    · exact hd

end Graph

/-- Whether a backlink that a call makes on its own reverses a relation to the model that it is made
for. -/
def BuildCall.LeadsBack (g : Graph) : BuildCall → Prop
  | .backlink m _ _ forward _ => ∃ q, forward = .property q ∧ g.LeadsTo q m
  | _ => True

namespace Graph

/-- A call keeps all backlinks reversing if the one that it may add leads back. -/
theorem Reversing.build (h : g.Reversing s) {call : BuildCall} (hc : call.Addresses g s)
    (hback : call.LeadsBack g) : (g.build call).1.Reversing s := by
  cases call with
  | model schema name =>
    obtain rfl := hc
    exact h.declareModel
  | field m name kind options =>
    rw [Graph.build]
    rcases FieldKind.ofValue kind with fault | kind
    · exact h
    · exact h.declareField hc kind options
  | typed m builder name options => exact h.declareField hc builder.kind options
  | relation many m name target link =>
    obtain ⟨hm, t, ht, rfl⟩ := hc
    exact h.declareRelation hm ht many link
  | backlink m name source forward isPrivate =>
    -- the only call that can add a backlink over a relation that leads elsewhere
    obtain ⟨hm, t, ht, rfl, q, hq, rfl⟩ := hc
    refine h.declare hm (fits_inverse ht hq isPrivate) ?_
    intro target q' isPrivate' hshape
    cases hshape
    obtain ⟨q', hsame, hleads⟩ := hback
    cases hsame
    exact hleads

/-- Whether each call of a run is on the models that the schema has by then, and makes no backlink
that leads elsewhere. -/
def Follows (s : SchemaId) : Graph → List BuildCall → Prop
  | _, [] => True
  | g, call :: calls => call.Addresses g s ∧ call.LeadsBack g ∧ Follows s (g.build call).1 calls

/-- A run of calls whose backlinks lead back leaves all of them reversing. -/
theorem Reversing.run {calls : List BuildCall} (h : g.Reversing s) (hcalls : Follows s g calls) :
    (g.run calls).Reversing s := by
  induction calls generalizing g with
  | nil => exact h
  | cons call calls ih =>
    obtain ⟨hc, hback, hcalls⟩ := hcalls
    exact ih (h.build hc hback) hcalls

theorem reversing_newSchema (g : Graph) (package module : Option String) :
    (g.newSchema package module).1.Reversing (g.newSchema package module).2 where
  toSound := g.sound_newSchema package module
  leadsBack := by
    intro m hm
    have hslots : ((g.newSchema package module).1.schema (g.newSchema package module).2).slots =
        [] := by
      rw [newSchema, schema_addSchema_self]
    rw [mem_modelsOf, hslots] at hm
    cases hm

/-- In a schema that is built by a run whose backlinks lead back, all backlinks are genuine. -/
theorem hasGenuineBacklinks_run (g : Graph) (package module : Option String)
    {calls : List BuildCall}
    (hcalls : Follows (g.newSchema package module).2 (g.newSchema package module).1 calls) :
    ((g.newSchema package module).1.run calls).HasGenuineBacklinks (g.newSchema package module).2 :=
  ((g.reversing_newSchema package module).run hcalls).hasGenuineBacklinks

end Graph

end MobileSchema
