import MobileSchema.Proofs.Schema.Building

/-!
# What a call appends

A call on a model is refused before it changes anything, or it puts new properties at the ends of
lists and leaves all else as it was, but for the key of the model, which a new field can take over.
`Graph.Appends` says which properties a graph has more than another and where they are listed; the
numbers of new properties follow those that are there (`placed`).

What a call is to append is `BuildCall.declares`, and why it is refused is `Graph.Refuses`.  That
the calls do what these say is `Graph.build_all_or_nothing`, for every graph: owners, targets and
lists can be what they like.
-/

namespace MobileSchema

variable {g g' g'' : Graph} {m o : ModelId} {p : PropertyId} {name : String} {shape : Shape}
  {indexed : Bool} {added more : List (ModelId × Property)} {call : BuildCall}

/-! ### New properties -/

/-- Where new properties stand in the list of the model `o`, if their numbers start at `n`.  Each is
given with the model that lists it. -/
def placed (o : ModelId) : Nat → List (ModelId × Property) → List Reference
  | _, [] => []
  | n, (m, _) :: added =>
    if m = o then .property ⟨n⟩ :: placed o (n + 1) added else placed o (n + 1) added

theorem placed_append (o : ModelId) (n : Nat) (added more : List (ModelId × Property)) :
    placed o n (added ++ more) = placed o n added ++ placed o (n + added.length) more := by
  induction added generalizing n with
  | nil => rfl
  | cons first added ih =>
    obtain ⟨m, property⟩ := first
    rw [List.cons_append, placed, placed, ih, List.length_cons, Nat.add_assoc, Nat.add_comm 1]
    split <;> rfl

theorem placed_eq_nil {n : Nat} (h : ∀ entry ∈ added, entry.1 ≠ o) : placed o n added = [] := by
  induction added generalizing n with
  | nil => rfl
  | cons first added ih =>
    obtain ⟨hfirst, hadded⟩ := List.forall_mem_cons.1 h
    rw [placed, if_neg hfirst, ih hadded]

namespace Graph

/-- Whether a graph differs from another by new properties only, which stand at the ends of lists,
and by the keys of models. -/
structure Appends (g g' : Graph) (added : List (ModelId × Property)) : Prop where
  schemas : g'.schemas = g.schemas
  length_models : g'.models.length = g.models.length
  schema : ∀ o, (g'.model o).schema = (g.model o).schema
  name : ∀ o, (g'.model o).name = (g.model o).name
  slots : ∀ o, (g'.model o).slots = (g.model o).slots ++ placed o g.properties.length added
  properties : g'.properties = g.properties ++ added.map Prod.snd

namespace Appends

theorem length_properties (h : g.Appends g' added) :
    g'.properties.length = g.properties.length + added.length := by
  rw [h.properties, List.length_append, List.length_map]

/-- What two steps append is appended by both of them together. -/
theorem trans (h : g.Appends g' added) (h' : g'.Appends g'' more) :
    g.Appends g'' (added ++ more) where
  schemas := h'.schemas.trans h.schemas
  length_models := h'.length_models.trans h.length_models
  schema := fun o => (h'.schema o).trans (h.schema o)
  name := fun o => (h'.name o).trans (h.name o)
  slots := by
    intro o
    rw [h'.slots, h.slots, h.length_properties, placed_append, List.append_assoc]
  properties := by rw [h'.properties, h.properties, List.map_append, List.append_assoc]

theorem property_of_lt (h : g.Appends g' added) (hp : p.index < g.properties.length) :
    g'.property p = g.property p := by
  rw [property, property, h.properties, List.getElem?_append_left hp]

end Appends

/-- Declaring a property appends it and does nothing else. -/
theorem appends_declare (h : m.index < g.models.length) (name : String) (shape : Shape)
    (indexed : Bool) :
    g.Appends (g.declare m name shape indexed).1
      [(m, { owner := .model m, name, shape, indexed })] where
  schemas := rfl
  length_models := length_models_declare
  schema := by
    intro o
    by_cases ho : o = m
    · rw [ho, model_declare_self h]
    · rw [model_declare_of_ne ho]
  name := by
    intro o
    by_cases ho : o = m
    · rw [ho, model_declare_self h]
    · rw [model_declare_of_ne ho]
  slots := by
    intro o
    by_cases ho : o = m
    · rw [ho, model_declare_self h, placed, if_pos rfl]
      rfl
    · rw [model_declare_of_ne ho, placed, if_neg fun hmo => ho hmo.symm, placed, List.append_nil]
  properties := rfl

/-- What is known of a model whose key has changed. -/
theorem model_updateKey (h : m.index < g.models.length) (key : Reference) :
    (g.updateModel m fun model => { model with primaryKey := key }).model o =
      { g.model o with primaryKey := if o = m then key else (g.model o).primaryKey } := by
  by_cases ho : o = m
  · rw [ho, model_updateModel_self _ h, if_pos rfl]
  · rw [model_updateModel_of_ne _ ho, if_neg ho]

/-- A new key does not change what is appended. -/
theorem Appends.updateKey (h : g.Appends g' added) (hm : m.index < g.models.length)
    (key : Reference) :
    g.Appends (g'.updateModel m fun model => { model with primaryKey := key }) added := by
  have hm : m.index < g'.models.length := h.length_models ▸ hm
  refine ⟨h.schemas, ?_, ?_, ?_, ?_, h.properties⟩
  · rw [updateModel, List.length_modify]
    exact h.length_models
  · exact fun o => by rw [model_updateKey hm]; exact h.schema o
  · exact fun o => by rw [model_updateKey hm]; exact h.name o
  · exact fun o => by rw [model_updateKey hm]; exact h.slots o

end Graph

/-! ### What calls are to append -/

namespace BuildCall

/-- Whether a call builds properties on models that there are.  A relation leads to such a model; a
backlink can reverse anything. -/
def OnModels (g : Graph) : BuildCall → Prop
  | .model .. => False
  | .field m .. | .typed m .. | .backlink m .. => m.index < g.models.length
  | .relation _ m _ target _ =>
    m.index < g.models.length ∧ ∃ t, target = .model t ∧ t.index < g.models.length

/-- What a call appends that is not refused, if the numbers of new properties start at `n`: each
property with the model that lists it. -/
def declares (n : Nat) : BuildCall → List (ModelId × Property)
  | .model .. => []
  | .field m name kind options =>
    ((FieldKind.ofValue? kind).map fun kind =>
      (m, { owner := .model m, name, shape := .typed (.known kind) options.required,
            indexed := options.indexed })).toList
  | .typed m builder name options =>
    [(m, { owner := .model m, name, shape := .typed (.known builder.kind) options.required,
           indexed := options.indexed })]
  | .relation many m name target link =>
    (m, { owner := .model m, name, shape := if many then .toMany target else .toOne target }) ::
      if link.create then
        (target.model?.map fun t =>
          (t, { owner := .model t, name := link.name.getD "",
                shape := .inverse (.model m) (.property ⟨n⟩) link.isPrivate })).toList
      else []
  | .backlink m name source forward isPrivate =>
    [(m, { owner := .model m, name, shape := .inverse source forward isPrivate })]

/-- The model whose key is the field that a call builds. -/
def keyed : BuildCall → Option ModelId
  | .field m _ _ options | .typed m _ _ options => if options.primaryKey then some m else none
  | _ => none

end BuildCall

namespace Graph

/-- Why a call is refused. -/
inductive Refuses (g : Graph) : BuildCall → SchemaFault → Prop
  /-- the value given for the kind is not that of one of the kinds -/
  | unknownKind {m : ModelId} {name : String} {kind : Value} {options : FieldOptions}
    (h : ∀ known : FieldKind, kind ≠ .text known.value) :
    Refuses g (.field m name kind options) (.unknownKind kind.shown)
  /-- a backlink is asked for, and no name is given for it or an empty one -/
  | missingLinkName {many : Bool} {m : ModelId} {name : String} {target : Reference}
    {link : LinkOptions} (hcreate : link.create = true)
    (hname : link.name = none ∨ link.name = some "") :
    Refuses g (.relation many m name target link) (.missingLinkName (g.modelName m) name)

/-- A call is refused for one reason. -/
theorem Refuses.unique {fault fault' : SchemaFault} (h : g.Refuses call fault)
    (h' : g.Refuses call fault') : fault = fault' := by
  cases h <;> cases h' <;> rfl

/-- Whether a graph is another with what a call appends to it, and with the key that the call
sets. -/
structure Fulfils (g : Graph) (call : BuildCall) (g' : Graph) : Prop extends
    g.Appends g' (call.declares g.properties.length) where
  key : ∀ o, (g'.model o).primaryKey =
    if call.keyed = some o then .property ⟨g.properties.length⟩ else (g.model o).primaryKey

/-! ### What calls append -/

/-- A value stands for no kind just if it is the name of none. -/
theorem ofValue?_eq_none_iff {kind : Value} :
    FieldKind.ofValue? kind = none ↔ ∀ known : FieldKind, kind ≠ .text known.value := by
  constructor
  · rintro h known rfl
    rw [FieldKind.ofValue?, FieldKind.ofText?_value] at h
    cases h
  · intro h
    cases kind with
    | text s =>
      rw [FieldKind.ofValue?, FieldKind.ofText?, List.find?_eq_none]
      intro known _ hvalue
      exact h known (by rw [of_decide_eq_true hvalue])
    | _ => rfl

theorem getD_eq_empty_iff {name : Option String} :
    name.getD "" = "" ↔ name = none ∨ name = some "" := by
  cases name <;> simp

theorem snd_declareField (kind : FieldKind) (options : FieldOptions) :
    (g.declareField m name kind options).2 = ⟨g.properties.length⟩ := by
  by_cases hkey : options.primaryKey = true
  · simp only [declareField, hkey, if_true]
    rfl
  · simp only [declareField, hkey]
    rfl

/-- A declared field is at the end of its model's list, as the options say, and is the key if they
say so. -/
theorem fulfils_declareField (h : m.index < g.models.length) (kind : FieldKind)
    (options : FieldOptions)
    (hadded : call.declares g.properties.length =
      [(m, { owner := .model m, name, shape := .typed (.known kind) options.required,
             indexed := options.indexed })])
    (hkeyed : call.keyed = if options.primaryKey then some m else none) :
    g.Fulfils call (g.declareField m name kind options).1 := by
  have hd := appends_declare h name (.typed (.known kind) options.required) options.indexed
  rw [← hadded] at hd
  by_cases hkey : options.primaryKey = true
  · rw [if_pos hkey] at hkeyed
    rw [declareField_fst_of_key hkey]
    refine ⟨hd.updateKey h _, fun o => ?_⟩
    rw [model_updateKey (hd.length_models ▸ h), primaryKey_declare h, hkeyed]
    simp only [Option.some.injEq, eq_comm]
  · rw [if_neg hkey] at hkeyed
    rw [declareField_fst_of_not_key hkey]
    refine ⟨hd, fun o => ?_⟩
    rw [primaryKey_declare h, hkeyed, if_neg (by simp)]

/-- A declared relation is at the end of its model's list; the backlink that it is to have is behind
it, at the end of its target's. -/
theorem fulfils_declareRelation {t : ModelId} {link : LinkOptions} (many : Bool)
    (hm : m.index < g.models.length) (ht : t.index < g.models.length) (name : String)
    (hlink : ¬ (link.create = true ∧ link.name.getD "" = "")) :
    (g.declareRelation many m name (.model t) link).2 = .ok ⟨g.properties.length⟩ ∧
      g.Fulfils (.relation many m name (.model t) link)
        (g.declareRelation many m name (.model t) link).1 := by
  have hd := appends_declare hm name (if many then .toMany (.model t) else .toOne (.model t)) false
  rw [declareRelation, if_neg (by simpa using hlink)]
  dsimp only
  cases hcreate : link.create with
  | false =>
    refine ⟨rfl, ⟨?_, fun o => primaryKey_declare hm⟩⟩
    rw [BuildCall.declares, hcreate, if_neg Bool.false_ne_true]
    exact hd
  | true =>
    -- the backlink comes behind the relation, to which it leads
    have hb := appends_declare (hd.length_models ▸ ht) (link.name.getD "")
      (.inverse (.model m) (.property ⟨g.properties.length⟩) link.isPrivate) false
    refine ⟨rfl, ⟨?_, fun o => ?_⟩⟩
    · rw [BuildCall.declares, hcreate, if_pos rfl]
      exact hd.trans hb
    · exact (primaryKey_declare (hd.length_models ▸ ht)).trans (primaryKey_declare hm)

/-- A call is refused, and nothing changes, or it appends what it is to append. -/
theorem refused_or_fulfilled (h : call.OnModels g) :
    (∃ fault, g.Refuses call fault ∧ g.build call = (g, .error fault)) ∨
      (∀ fault, ¬ g.Refuses call fault) ∧
        (g.build call).2 = .ok (.property ⟨g.properties.length⟩) ∧
          g.Fulfils call (g.build call).1 := by
  cases call with
  | model schema name => exact h.elim
  | field m name kind options =>
    rw [build, FieldKind.ofValue]
    cases hkind : FieldKind.ofValue? kind with
    | none => exact .inl ⟨_, .unknownKind (ofValue?_eq_none_iff.1 hkind), rfl⟩
    | some known =>
      refine .inr ⟨?_, ?_, ?_⟩
      · rintro _ ⟨hunknown⟩
        rw [ofValue?_eq_none_iff.2 ‹_›] at hkind
        cases hkind
      · exact congrArg (Except.ok ∘ Built.property) (snd_declareField known options)
      · exact fulfils_declareField h known options (by rw [BuildCall.declares, hkind]; rfl) rfl
  | typed m builder name options =>
    refine .inr ⟨?_, ?_, fulfils_declareField h builder.kind options rfl rfl⟩
    · rintro _ ⟨⟩
    · exact congrArg (Except.ok ∘ Built.property) (snd_declareField builder.kind options)
  | relation many m name target link =>
    obtain ⟨hm, t, rfl, ht⟩ := h
    -- a relation is refused only for a backlink that is asked for without a name
    by_cases hlink : link.create = true ∧ link.name.getD "" = ""
    · refine .inl ⟨_, .missingLinkName hlink.1 (getD_eq_empty_iff.1 hlink.2), ?_⟩
      rw [build, declareRelation, if_pos (by simpa using hlink)]
      rfl
    · obtain ⟨hout, hfulfils⟩ := fulfils_declareRelation many hm ht name hlink
      refine .inr ⟨?_, ?_, hfulfils⟩
      · rintro _ ⟨⟩
        exact hlink ⟨‹_›, getD_eq_empty_iff.2 ‹_›⟩
      · exact congrArg (Except.map Built.property) hout
  | backlink m name source forward isPrivate =>
    refine .inr ⟨?_, rfl, appends_declare h _ _ _, fun o => primaryKey_declare h⟩
    rintro _ ⟨⟩

/-- A call on a model is all or nothing.  It is refused for a kind that is none of the kinds or for
a backlink without a name, and then nothing changes; if there is no such reason it builds what it is
to append, and nothing else changes but the key that it sets. -/
theorem build_all_or_nothing (h : call.OnModels g) :
    (∀ fault, (g.build call).2 = .error fault ↔ g.Refuses call fault) ∧
    (∀ fault, g.Refuses call fault → (g.build call).1 = g) ∧
    ((∀ fault, ¬ g.Refuses call fault) →
      (g.build call).2 = .ok (.property ⟨g.properties.length⟩) ∧
        g.Fulfils call (g.build call).1) := by
  rcases refused_or_fulfilled h with ⟨fault, hrefuses, hbuild⟩ | ⟨hnot, hout, hfulfils⟩
  · rw [hbuild]
    refine ⟨fun other => ⟨?_, ?_⟩, fun _ _ => rfl, fun hnot => absurd hrefuses (hnot fault)⟩
    · intro hother
      cases hother
      exact hrefuses
    · intro hother
      rw [hrefuses.unique hother]
  · refine ⟨fun fault => ⟨?_, fun hrefuses => absurd hrefuses (hnot fault)⟩,
      fun fault hrefuses => absurd hrefuses (hnot fault), fun _ => ⟨hout, hfulfils⟩⟩
    intro hfault
    rw [hout] at hfault
    cases hfault

/-- A schema of one model, which lists its name. -/
def kennel : Graph where
  schemas := [{ packageName := some "zoo", slots := [.model ⟨0⟩] }]
  models := [{ schema := ⟨0⟩, name := "Dog", slots := [.property ⟨0⟩] }]
  properties := [{ owner := .model ⟨0⟩, name := "name", shape := .typed (.known .string) true }]

/-- A relation of a model to itself comes before its backlink; without a name for the backlink
neither is built. -/
theorem build_all_or_nothing_kennel :
    (BuildCall.relation true ⟨0⟩ "puppies" (.model ⟨0⟩) ⟨true, some "parents", true⟩).OnModels
      kennel ∧
    (kennel.build (.relation true ⟨0⟩ "puppies" (.model ⟨0⟩) ⟨true, some "parents", true⟩)).2 =
      .ok (.property ⟨1⟩) ∧
    ((kennel.build (.relation true ⟨0⟩ "puppies" (.model ⟨0⟩)
        ⟨true, some "parents", true⟩)).1.model ⟨0⟩).slots =
      [.property ⟨0⟩, .property ⟨1⟩, .property ⟨2⟩] ∧
    (kennel.build (.relation true ⟨0⟩ "puppies" (.model ⟨0⟩)
        ⟨true, some "parents", true⟩)).1.properties = kennel.properties ++ [
      { owner := .model ⟨0⟩, name := "puppies", shape := .toMany (.model ⟨0⟩) },
      { owner := .model ⟨0⟩, name := "parents",
        shape := .inverse (.model ⟨0⟩) (.property ⟨1⟩) true }] ∧
    (kennel.build (.relation true ⟨0⟩ "puppies" (.model ⟨0⟩) ⟨true, some "", true⟩)).1 = kennel := by
  have hmodels : ∀ link,
      (BuildCall.relation true ⟨0⟩ "puppies" (.model ⟨0⟩) link).OnModels kennel :=
    fun _ => ⟨by decide, ⟨0⟩, rfl, by decide⟩
  have hnot : ∀ fault, ¬ kennel.Refuses
      (.relation true ⟨0⟩ "puppies" (.model ⟨0⟩) ⟨true, some "parents", true⟩) fault := by
    rintro _ ⟨⟩
    simp_all
  obtain ⟨hout, hfulfils⟩ :=
    (build_all_or_nothing (hmodels ⟨true, some "parents", true⟩)).2.2 hnot
  refine ⟨hmodels _, hout, hfulfils.slots ⟨0⟩, hfulfils.properties, ?_⟩
  exact (build_all_or_nothing (hmodels ⟨true, some "", true⟩)).2.1 _
    (.missingLinkName rfl (.inr rfl))

end Graph

end MobileSchema
