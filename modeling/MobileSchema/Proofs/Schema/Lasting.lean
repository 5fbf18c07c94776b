import MobileSchema.Proofs.Schema.Appending
import MobileSchema.Proofs.Schema.Runs
import MobileSchema.Schema.Declaration

/-!
# What lasts through building

Building goes on from any graph in which no pointer leads to what was never given out
(`Graph.Anchored`), by calls on what there is (`Graph.Continued`).  However long it goes on, lists
only get longer at their ends and properties stay as they are (`Graph.Extends`).  Only keys change,
and a key that changes becomes a property that is new.

A declaration is made of the property, the names of what it points at, and the mark of a primary
key.  So of all that was declared before, only this mark can be lost (`Extends.declarations_cases`).
Which field is the key in the end is said by the calls of the run, the last of which counts
(`lastKey`).  Main result: `building_appends`.
-/

namespace MobileSchema

variable {g g' g'' g₀ : Graph} {s : SchemaId} {m o : ModelId} {p q : PropertyId} {name : String}
  {added : List (ModelId × Property)} {history : List Event}

/-! ### Pointers to what there is -/

/-- Whether a reference leads to no object that was never given out. -/
def Reference.Known (g : Graph) : Reference → Prop
  | .nothing | .text _ => True
  | .schema s => s.index < g.schemas.length
  | .model m => m.index < g.models.length
  | .property p => p.index < g.properties.length

instance (g : Graph) (r : Reference) : Decidable (r.Known g) :=
  match r with
  | .nothing | .text _ => .isTrue trivial
  | .schema s => inferInstanceAs (Decidable (s.index < g.schemas.length))
  | .model m => inferInstanceAs (Decidable (m.index < g.models.length))
  | .property p => inferInstanceAs (Decidable (p.index < g.properties.length))

/-- What a property points at. -/
def Property.pointers (p : Property) : List Reference :=
  p.owner :: match p.shape with
    | .typed .. => []
    | .toOne target | .toMany target => [target]
    | .inverse target forward _ => [target, forward]

namespace Graph

/-- Whether no pointer of a graph leads to an object that was never given out. -/
structure Anchored (g : Graph) : Prop where
  schemas : ∀ schema ∈ g.schemas, ∀ r ∈ schema.slots, r.Known g
  slots : ∀ model ∈ g.models, ∀ r ∈ model.slots, r.Known g
  keys : ∀ model ∈ g.models, model.primaryKey.Known g
  properties : ∀ property ∈ g.properties, ∀ r ∈ property.pointers, r.Known g

/-- What a property of an anchored graph points at is there. -/
theorem Anchored.pointers (h : g.Anchored) (hp : p.index < g.properties.length) :
    ∀ r ∈ (g.property p).pointers, r.Known g := by
  have hmem : g.property p ∈ g.properties := by
    rw [property, List.getElem?_eq_getElem hp]
    exact List.getElem_mem hp
  exact h.properties _ hmem

/-! ### Longer lists -/

/-- Whether a graph is another with more behind its lists, and with properties for keys that the
other does not have. -/
structure Extends (g g' : Graph) : Prop where
  schemas : ∀ s, (g.schema s).slots <+: (g'.schema s).slots
  slots : ∀ m, (g.model m).slots <+: (g'.model m).slots
  length_models : g.models.length ≤ g'.models.length
  name : ∀ m, m.index < g.models.length → g'.modelName m = g.modelName m
  length_properties : g.properties.length ≤ g'.properties.length
  property : ∀ p, p.index < g.properties.length → g'.property p = g.property p
  key : ∀ m, (g'.model m).primaryKey = (g.model m).primaryKey ∨
    ∃ p, (g'.model m).primaryKey = .property p ∧ g.properties.length ≤ p.index

namespace Extends

theorem refl (g : Graph) : g.Extends g where
  schemas := fun _ => List.prefix_refl _
  slots := fun _ => List.prefix_refl _
  length_models := Nat.le_refl _
  name := fun _ _ => rfl
  length_properties := Nat.le_refl _
  property := fun _ _ => rfl
  key := fun _ => .inl rfl

/-- What lasts through two steps lasts through both of them together. -/
theorem trans (h : g.Extends g') (h' : g'.Extends g'') : g.Extends g'' where
  schemas := fun s => (h.schemas s).trans (h'.schemas s)
  slots := fun m => (h.slots m).trans (h'.slots m)
  length_models := h.length_models.trans h'.length_models
  name := fun m hm => (h'.name m (Nat.lt_of_lt_of_le hm h.length_models)).trans (h.name m hm)
  length_properties := h.length_properties.trans h'.length_properties
  property := fun p hp =>
    (h'.property p (Nat.lt_of_lt_of_le hp h.length_properties)).trans (h.property p hp)
  key := by
    intro m
    rcases h'.key m with hsame | ⟨p, hp, hnew⟩
    · rw [hsame]
      exact h.key m
    · exact .inr ⟨p, hp, h.length_properties.trans hnew⟩

end Extends

/-- A call that is fulfilled changes nothing but the ends of lists and a key. -/
theorem Fulfils.extends {call : BuildCall} (h : g.Fulfils call g') : g.Extends g' where
  schemas := by
    intro s
    have hsame : g'.schema s = g.schema s := by rw [schema, schema, h.schemas]
    exact hsame ▸ List.prefix_refl _
  slots := fun m => ⟨_, (h.slots m).symm⟩
  length_models := Nat.le_of_eq h.length_models.symm
  name := fun m _ => h.name m
  length_properties := by
    rw [h.length_properties]
    exact Nat.le_add_right _ _
  property := fun p hp => h.property_of_lt hp
  key := by
    intro m
    rw [h.key]
    split
    · exact .inr ⟨_, rfl, Nat.le_refl _⟩
    · exact .inl rfl

/-- A new model lists nothing and has no key, as nothing is known of it before. -/
theorem model_declareModel (g : Graph) (s : SchemaId) (name : String) (m : ModelId) :
    ((g.declareModel s name).1.model m).slots = (g.model m).slots ∧
      ((g.declareModel s name).1.model m).primaryKey = (g.model m).primaryKey := by
  rcases Nat.lt_trichotomy m.index g.models.length with hlt | heq | hgt
  · rw [model_declareModel_of_lt hlt]
    exact ⟨rfl, rfl⟩
  · obtain rfl : m = ⟨g.models.length⟩ := by rw [← heq]
    rw [model_declareModel_self, model, List.getElem?_eq_none (Nat.le_refl _)]
    exact ⟨rfl, rfl⟩
  · have hnone : (g.declareModel s name).1.models[m.index]? = none :=
      List.getElem?_eq_none (by rw [length_models_declareModel]; omega)
    rw [model, model, hnone, List.getElem?_eq_none (Nat.le_of_lt hgt)]
    exact ⟨rfl, rfl⟩

/-- A new model changes nothing but the end of its schema's list. -/
theorem extends_declareModel (h : s.index < g.schemas.length) :
    g.Extends (g.declareModel s name).1 where
  schemas := by
    intro s'
    by_cases hs : s' = s
    · rw [hs, schema_declareModel h]
      exact List.prefix_append _ _
    · have hsame : (g.declareModel s name).1.schema s' = g.schema s' :=
        schema_updateSchema_of_ne _ hs _
      exact hsame ▸ List.prefix_refl _
  slots := by
    intro m
    exact (model_declareModel g s name m).1 ▸ List.prefix_refl _
  length_models := by
    rw [length_models_declareModel]
    exact Nat.le_succ _
  name := fun m hm => by rw [modelName, model_declareModel_of_lt hm, modelName]
  length_properties := Nat.le_refl _
  property := fun _ _ => rfl
  key := fun m => .inl (model_declareModel g s name m).2

/-! ### Declarations -/

namespace Extends

theorem nameOf (h : g.Extends g') {r : Reference} (hr : r.Known g) : g'.nameOf r = g.nameOf r := by
  cases r with
  | model m => exact congrArg Except.ok (h.name m hr)
  | property p => exact congrArg (Except.ok ∘ Property.name) (h.property p hr)
  | nothing | schema | text => rfl

/-- A property that is there stays the key of its owner, or its owner has a new one as its key. -/
theorem isPrimaryKey_cases (h : g.Extends g') (hp : p.index < g.properties.length)
    (howner : (g.property p).owner.Known g) :
    g'.isPrimaryKey p = g.isPrimaryKey p ∨
      (g.property p).shape.isTyped = true ∧
        g.isPrimaryKey p = .ok true ∧ g'.isPrimaryKey p = .ok false := by
  rw [isPrimaryKey, isPrimaryKey, h.property p hp]
  cases (g.property p).shape.isTyped with
  | false => exact .inl rfl
  | true =>
    cases hr : (g.property p).owner with
    | model m =>
      simp only [primaryKeyOf, Except.map, if_true]
      rcases h.key m with hsame | ⟨q, hq, hnew⟩
      · rw [hsame]
        exact .inl rfl
      · have hne : q ≠ p := by
          rintro rfl
          omega
        rw [hq]
        by_cases hkey : (g.model m).primaryKey = .property p <;> simp [hkey, hne]
    | property q =>
      -- such an owner has no key, and says of what sort it is
      rw [hr] at howner
      refine .inl ?_
      simp only [primaryKeyOf, lacks, typeName, h.property q howner]
    | nothing | schema | text => exact .inl rfl

/-- What was declared before is declared in the same way, or it has lost the mark of a primary
key. -/
theorem declarations_cases (h : g.Extends g') (hp : p.index < g.properties.length)
    (hknown : ∀ r ∈ (g.property p).pointers, r.Known g) :
    g'.isPrimaryKey p = g.isPrimaryKey p ∧ g'.declarations p = g.declarations p ∨
      g.isPrimaryKey p = .ok true ∧ g'.isPrimaryKey p = .ok false ∧
        g.declarations p = (g'.declarations p).map fun pair =>
          { pair with android := primaryKeyMark ++ pair.android } := by
  have howner : (g.property p).owner.Known g := hknown _ List.mem_cons_self
  rcases h.isPrimaryKey_cases hp howner with hsame | ⟨htyped, hkey, hlost⟩
  · refine .inl ⟨hsame, ?_⟩
    -- the names in a declaration are those of objects that were there before
    rw [declarations, declarations, markBefore, markBefore, hsame, h.property p hp]
    rcases hshape : (g.property p).shape with ⟨kind, required⟩ | target | target |
      ⟨target, forward, isPrivate⟩
    · rfl
    · have htarget : target.Known g := hknown _ (by simp [Property.pointers, hshape])
      simp only [h.nameOf htarget]
    · have htarget : target.Known g := hknown _ (by simp [Property.pointers, hshape])
      simp only [h.nameOf htarget]
    · have htarget : target.Known g := hknown _ (by simp [Property.pointers, hshape])
      have hforward : forward.Known g := hknown _ (by simp [Property.pointers, hshape])
      simp only [h.nameOf htarget, h.nameOf hforward]
  · refine .inr ⟨hkey, hlost, ?_⟩
    -- only a typed field can have had the mark
    rw [declarations, declarations, markBefore, markBefore, hkey, hlost, h.property p hp]
    rcases hshape : (g.property p).shape with ⟨kind, required⟩ | target | target |
      ⟨target, forward, isPrivate⟩
    · cases hkind : kind.kind? with
      | none =>
        simp only [hkind]
        rfl
      | some known =>
        simp only [hkind]
        rfl
    all_goals
      rw [hshape] at htyped
      cases htyped

end Extends

/-- A model has no two keys. -/
theorem eq_of_isPrimaryKey (hp : (g.property p).owner = .model m)
    (hq : (g.property q).owner = .model m) (hkey : g.isPrimaryKey p = .ok true)
    (hkey' : g.isPrimaryKey q = .ok true) : p = q := by
  have hof : ∀ {p}, (g.property p).owner = .model m → g.isPrimaryKey p = .ok true →
      (g.model m).primaryKey = .property p := by
    intro p hp hkey
    rw [isPrimaryKey, hp] at hkey
    cases htyped : (g.property p).shape.isTyped <;>
      simp_all [primaryKeyOf, Except.map]
  have hsame := (hof hp hkey).symm.trans (hof hq hkey')
  cases hsame
  rfl

end Graph

/-! ### Runs -/

/-- Whether a call is on what there is. -/
def WrittenCall.Known (g : Graph) : WrittenCall → Prop
  | .model s _ => s.index < g.schemas.length
  | .field m .. | .typed m .. => m.index < g.models.length
  | .relation _ m _ target _ => m.index < g.models.length ∧ target.index < g.models.length
  | .backlink m _ source forward _ =>
    m.index < g.models.length ∧ source.index < g.models.length ∧
      forward.index < g.properties.length

/-- The graphs that runs of calls on what there is lead to from some graph, each with the history of
its run. -/
inductive Graph.Continued (g₀ : Graph) : List Event → Graph → Prop
  | start : Continued g₀ [] g₀
  | step {history : List Event} {g : Graph} {call : WrittenCall} :
      Continued g₀ history g → call.Known g →
      Continued g₀ (history ++ [⟨call, (g.perform call).2⟩]) (g.perform call).1

/-- The field that a call has built as the key of a model. -/
def Event.keyOf (m : ModelId) : Event → Option PropertyId
  | ⟨.field o _ _ options, .ok (.property p)⟩ | ⟨.typed o _ _ options, .ok (.property p)⟩ =>
    if o = m ∧ isSet options .primaryKey then some p else none
  | _ => none

/-- The last field that a history has built as the key of a model. -/
def lastKey (m : ModelId) (history : List Event) : Option PropertyId :=
  history.reverse.findSome? (Event.keyOf m)

/-- A new key comes before all earlier ones, and any other call leaves the last one as it is. -/
theorem lastKey_append (m : ModelId) (history : List Event) (event : Event) :
    lastKey m (history ++ [event]) = (event.keyOf m).or (lastKey m history) := by
  rw [lastKey, List.reverse_append, List.reverse_singleton, List.singleton_append,
    List.findSome?_cons, lastKey]
  cases event.keyOf m <;> rfl

/-- A field is declared as a key just if its options say so. -/
theorem primaryKey_ofNamed {options : List NamedOption} {read : FieldOptions}
    (h : FieldOptions.ofNamed options = .ok read) :
    read.primaryKey = isSet options .primaryKey := by
  obtain ⟨_, -, hread⟩ := bind_eq_ok.1 h
  cases hread
  rfl

theorem primaryKey_optionsOfNamed {builder : FieldBuilder} {options : List NamedOption}
    {read : FieldOptions} (h : builder.optionsOfNamed options = .ok read) :
    read.primaryKey = isSet options .primaryKey := by
  obtain ⟨_, -, hread⟩ := bind_eq_ok.1 h
  exact primaryKey_ofNamed hread

namespace WrittenCall

variable {call : WrittenCall} {read : BuildCall}

/-- A call that knows its options makes a model, or builds on models that there are. -/
theorem onModels_of_read (h : call.Known g) (hread : call.read = .ok read) :
    (∃ s name, call = .model s name ∧ read = .model s name ∧ s.index < g.schemas.length) ∨
      read.OnModels g := by
  cases call with
  | model s name =>
    cases hread
    exact .inl ⟨s, name, rfl, rfl, h⟩
  | field m name kind options =>
    obtain ⟨_, -, rfl⟩ := map_eq_ok.1 hread
    exact .inr h
  | typed m builder name options =>
    obtain ⟨_, -, rfl⟩ := map_eq_ok.1 hread
    exact .inr h
  | relation many m name target options =>
    obtain ⟨_, -, rfl⟩ := map_eq_ok.1 hread
    exact .inr ⟨h.1, target, rfl, h.2⟩
  | backlink m name source forward options =>
    obtain ⟨_, -, rfl⟩ := map_eq_ok.1 hread
    exact .inr h.1

/-- What a call builds is a key if the call is read so. -/
theorem keyOf_of_read (hread : call.read = .ok read) (m : ModelId) (p : PropertyId) :
    Event.keyOf m ⟨call, .ok (.property p)⟩ = if read.keyed = some m then some p else none := by
  cases call with
  | model s name =>
    cases hread
    rfl
  | field o name kind options =>
    obtain ⟨options', hoptions, rfl⟩ := map_eq_ok.1 hread
    rw [Event.keyOf, BuildCall.keyed, primaryKey_ofNamed hoptions]
    cases isSet options .primaryKey <;> simp
  | typed o builder name options =>
    obtain ⟨options', hoptions, rfl⟩ := map_eq_ok.1 hread
    rw [Event.keyOf, BuildCall.keyed, primaryKey_optionsOfNamed hoptions]
    cases isSet options .primaryKey <;> simp
  | relation many o name target options =>
    obtain ⟨_, -, rfl⟩ := map_eq_ok.1 hread
    rfl
  | backlink o name source forward options =>
    obtain ⟨_, -, rfl⟩ := map_eq_ok.1 hread
    rfl

end WrittenCall

/-- A call that was refused has built no key. -/
theorem keyOf_of_error (m : ModelId) (call : WrittenCall) (fault : SchemaFault) :
    Event.keyOf m ⟨call, .error fault⟩ = none := by
  cases call <;> rfl

namespace Graph

/-- All that a call on what there is can do.  It is refused, for its options or for what they say,
and then nothing changes; or it makes a model; or it builds what it is to append. -/
theorem perform_cases {call : WrittenCall} (h : call.Known g) :
    (∃ fault, g.perform call = (g, .error fault)) ∨
      (∃ s name, call = .model s name ∧ s.index < g.schemas.length ∧
        g.perform call = ((g.declareModel s name).1, .ok (.model ⟨g.models.length⟩))) ∨
      ∃ read, call.read = .ok read ∧ read.OnModels g ∧ (∀ fault, ¬ g.Refuses read fault) ∧
        (g.perform call).2 = .ok (.property ⟨g.properties.length⟩) ∧
          g.Fulfils read (g.perform call).1 := by
  rcases hread : call.read with fault | read
  · exact .inl ⟨fault, perform_of_refused hread⟩
  · rcases call.onModels_of_read h hread with ⟨s, name, rfl, rfl, hs⟩ | hmodels
    · exact .inr (.inl ⟨s, name, rfl, hs, rfl⟩)
    · rw [perform_of_read hread]
      rcases refused_or_fulfilled hmodels with ⟨fault, -, hbuild⟩ | hfulfilled
      · exact .inl ⟨fault, hbuild⟩
      · exact .inr (.inr ⟨read, rfl, hmodels, hfulfilled⟩)

/-- One call makes lists longer at most, and the key of a model is the field that the call has built
as such, or what it was. -/
theorem extends_perform {call : WrittenCall} (h : call.Known g) :
    g.Extends (g.perform call).1 ∧ ∀ m, ((g.perform call).1.model m).primaryKey =
      (Event.keyOf m ⟨call, (g.perform call).2⟩).elim (g.model m).primaryKey .property := by
  rcases perform_cases h with ⟨fault, hperform⟩ | ⟨s, name, rfl, hs, hperform⟩ |
    ⟨read, hread, -, -, hout, hfulfils⟩
  · rw [hperform]
    exact ⟨.refl g, fun m => by rw [keyOf_of_error]; rfl⟩
  · rw [hperform]
    exact ⟨extends_declareModel hs, fun m => (model_declareModel g s name m).2⟩
  · refine ⟨hfulfils.extends, fun m => ?_⟩
    rw [hfulfils.key, hout, WrittenCall.keyOf_of_read hread]
    split <;> rfl

/-- Whatever runs of calls build, what there was at the start lasts. -/
theorem Continued.extends (h : g₀.Continued history g) : g₀.Extends g := by
  induction h with
  | start => exact .refl g₀
  | step _ hcall ih => exact ih.trans (extends_perform hcall).1

/-- The key of a model is the last that was built for it, or else the one that it started with. -/
theorem Continued.primaryKey (h : g₀.Continued history g) (m : ModelId) :
    (g.model m).primaryKey = (lastKey m history).elim (g₀.model m).primaryKey .property := by
  induction h with
  | start => rfl
  | step _ hcall ih =>
    rw [(extends_perform hcall).2, lastKey_append, ih]
    cases Event.keyOf m _ <;> rfl

/-- Building only appends.  The lists of models and of properties begin as they were; the key of a
model is the last field that was built as its key; and what was declared before is declared in the
same way, unless a key was replaced, which loses its mark and nothing else.  At no point does a
model have two keys. -/
theorem building_appends (hanchored : g₀.Anchored) (h : g₀.Continued history g) :
    (∀ s, (g₀.schema s).slots <+: (g.schema s).slots) ∧
    (∀ m, (g₀.model m).slots <+: (g.model m).slots) ∧
    (∀ m, (g.model m).primaryKey =
      (lastKey m history).elim (g₀.model m).primaryKey .property) ∧
    (∀ p, p.index < g₀.properties.length →
      g.isPrimaryKey p = g₀.isPrimaryKey p ∧ g.declarations p = g₀.declarations p ∨
      g₀.isPrimaryKey p = .ok true ∧ g.isPrimaryKey p = .ok false ∧
        g₀.declarations p = (g.declarations p).map fun pair =>
          { pair with android := primaryKeyMark ++ pair.android }) ∧
    (∀ m p q, (g.property p).owner = .model m → (g.property q).owner = .model m →
      g.isPrimaryKey p = .ok true → g.isPrimaryKey q = .ok true → p = q) :=
  ⟨h.extends.schemas, h.extends.slots, h.primaryKey,
    fun _ hp => h.extends.declarations_cases hp (hanchored.pointers hp),
    fun _ _ _ => eq_of_isPrimaryKey⟩

/-- A schema of one model, whose name is its key. -/
def registry : Graph where
  schemas := [{ packageName := some "zoo", slots := [.model ⟨0⟩] }]
  models := [
    { schema := ⟨0⟩, name := "Dog", slots := [.property ⟨0⟩], primaryKey := .property ⟨0⟩ }]
  properties := [{ owner := .model ⟨0⟩, name := "name", shape := .typed (.known .string) true }]

/-- A key is replaced, a field of no kind is refused, and a relation gets its backlink. -/
theorem building_appends_registry :
    registry.Anchored ∧ ∃ history g, registry.Continued history g ∧
      history.map Event.call = [
        .typed ⟨0⟩ .int "tag" [.flag .required true, .flag .primaryKey true],
        .field ⟨0⟩ "fur" (.text "coat") [.flag .primaryKey true],
        .relation true ⟨0⟩ "puppies" ⟨0⟩
          [.flag .createLinkingObjects true, .linkName "parents"]] ∧
      (g.model ⟨0⟩).primaryKey = .property ⟨1⟩ ∧
      registry.declarations ⟨0⟩ = (g.declarations ⟨0⟩).map fun pair =>
        { pair with android := "@PrimaryKey " ++ pair.android } := by
  have hanchored : registry.Anchored := ⟨by decide, by decide, by decide, by decide⟩
  have h₁ := Continued.step (.start : registry.Continued [] registry)
    (show WrittenCall.Known _ (.typed ⟨0⟩ .int "tag"
        [.flag .required true, .flag .primaryKey true]) from Nat.zero_lt_one)
  have h₂ := h₁.step
    (show WrittenCall.Known _ (.field ⟨0⟩ "fur" (.text "coat") [.flag .primaryKey true]) from
      Nat.zero_lt_one)
  have h₃ := h₂.step
    (show WrittenCall.Known _ (.relation true ⟨0⟩ "puppies" ⟨0⟩
        [.flag .createLinkingObjects true, .linkName "parents"]) from
      ⟨Nat.zero_lt_one, Nat.zero_lt_one⟩)
  obtain ⟨-, -, hkey, hdeclared, -⟩ := building_appends hanchored h₃
  refine ⟨hanchored, _, _, h₃, rfl, hkey ⟨0⟩, ?_⟩
  rcases hdeclared ⟨0⟩ (by decide) with ⟨hsame, -⟩ | ⟨-, -, hlost⟩
  · revert hsame
    decide +kernel
  · exact hlost

end Graph

end MobileSchema
