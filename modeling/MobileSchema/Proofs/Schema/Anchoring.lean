import MobileSchema.Proofs.Schema.Lasting
import MobileSchema.Schema.View

/-!
# Pointers to what there is

Building on what there is leads to nothing that is not there: no pointer of the graph leads to an
object that was never given out, and what a call gives out is there as well (`Anchored.perform`).
So a caller that begins with objects that are there never comes to any others.
-/

namespace MobileSchema

variable {g g' : Graph} {s : SchemaId} {m o : ModelId} {p : PropertyId} {r : Reference} {n i : Nat}
  {added : List (ModelId × Property)}

/-! ### Wherever one looks -/

/-- What holds of a blank item holds of all items of a list exactly if it holds wherever one
looks. -/
theorem forall_mem_iff_getD {α : Type} {P : α → Prop} {xs : List α} (blank : α) (h : P blank) :
    (∀ x ∈ xs, P x) ↔ ∀ i : Nat, P (xs[i]?.getD blank) := by
  constructor
  · intro hall i
    cases hi : xs[i]? with
    | none => exact h
    | some x => exact hall x (List.mem_of_getElem? hi)
  · intro hall x hx
    obtain ⟨i, hi⟩ := List.mem_iff_getElem?.1 hx
    have hx := hall i
    rw [hi] at hx
    exact hx

namespace Graph

/-- A graph is anchored if all that is listed, named as a key or pointed at is there. -/
theorem anchored_iff : g.Anchored ↔
    (∀ s, ∀ r ∈ (g.schema s).slots, r.Known g) ∧ (∀ m, ∀ r ∈ (g.model m).slots, r.Known g) ∧
      (∀ m, (g.model m).primaryKey.Known g) ∧ ∀ p, ∀ r ∈ (g.property p).pointers, r.Known g := by
  have hschemas : (∀ schema ∈ g.schemas, ∀ r ∈ schema.slots, r.Known g) ↔
      ∀ i : Nat, ∀ r ∈ (g.schemas[i]?.getD {}).slots, r.Known g :=
    forall_mem_iff_getD _ fun _ hr => absurd hr List.not_mem_nil
  have hslots : (∀ model ∈ g.models, ∀ r ∈ model.slots, r.Known g) ↔
      ∀ i : Nat, ∀ r ∈ (g.models[i]?.getD { schema := ⟨0⟩, name := "" }).slots, r.Known g :=
    forall_mem_iff_getD _ fun _ hr => absurd hr List.not_mem_nil
  have hkeys : (∀ model ∈ g.models, model.primaryKey.Known g) ↔
      ∀ i : Nat, (g.models[i]?.getD { schema := ⟨0⟩, name := "" }).primaryKey.Known g :=
    forall_mem_iff_getD _ trivial
  have hproperties : (∀ property ∈ g.properties, ∀ r ∈ property.pointers, r.Known g) ↔
      ∀ i : Nat, ∀ r ∈ (g.properties[i]?.getD
        { owner := .nothing, name := "", shape := .toOne .nothing }).pointers, r.Known g :=
    forall_mem_iff_getD _ (by simp [Property.pointers, Reference.Known])
  constructor
  · intro h
    exact ⟨fun s => hschemas.1 h.schemas s.index, fun m => hslots.1 h.slots m.index,
      fun m => hkeys.1 h.keys m.index, fun p => hproperties.1 h.properties p.index⟩
  · rintro ⟨hs, hm, hk, hp⟩
    exact ⟨hschemas.2 fun i => hs ⟨i⟩, hslots.2 fun i => hm ⟨i⟩, hkeys.2 fun i => hk ⟨i⟩,
      hproperties.2 fun i => hp ⟨i⟩⟩

end Graph

/-- What is there stays there while a graph grows. -/
theorem Reference.Known.mono (hs : g.schemas.length ≤ g'.schemas.length)
    (hm : g.models.length ≤ g'.models.length) (hp : g.properties.length ≤ g'.properties.length)
    (h : r.Known g) : r.Known g' := by
  cases r with
  | nothing | text => trivial
  | schema s => exact Nat.lt_of_lt_of_le h hs
  | model m => exact Nat.lt_of_lt_of_le h hm
  | property p => exact Nat.lt_of_lt_of_le h hp

/-! ### New properties -/

/-- What is placed in a model's list are the new properties. -/
theorem exists_of_mem_placed (h : r ∈ placed o n added) :
    ∃ i < added.length, r = .property ⟨n + i⟩ := by
  induction added generalizing n with
  | nil => cases h
  | cons entry added ih =>
    have hrest : r ∈ placed o (n + 1) added →
        ∃ i < (entry :: added).length, r = .property ⟨n + i⟩ := by
      intro h
      obtain ⟨i, hi, rfl⟩ := ih h
      exact ⟨i + 1, Nat.succ_lt_succ hi, by rw [Nat.add_right_comm, Nat.add_assoc]⟩
    rw [placed] at h
    split at h
    · rcases List.mem_cons.1 h with rfl | h
      · exact ⟨0, Nat.zero_lt_succ _, rfl⟩
      · exact hrest h
    · exact hrest h

namespace Graph

/-- What is known of a new property. -/
theorem Appends.property_add {entry : ModelId × Property} (h : g.Appends g' added)
    (hi : added[i]? = some entry) : g'.property ⟨g.properties.length + i⟩ = entry.2 := by
  rw [property, h.properties, List.getElem?_append_right (Nat.le_add_right _ _),
    Nat.add_sub_cancel_left, List.getElem?_map, hi]
  rfl

/-- Where there is no property, one stands that points at nothing. -/
theorem property_of_le (h : g.properties.length ≤ p.index) :
    g.property p = { owner := .nothing, name := "", shape := .toOne .nothing } := by
  rw [property, List.getElem?_eq_none h]
  rfl

end Graph

namespace BuildCall

variable {call : BuildCall}

/-- What a call points at, beside the models that it builds on. -/
def pointers : BuildCall → List Reference
  | .model .. | .field .. | .typed .. => []
  | .relation _ _ _ target _ => [target]
  | .backlink _ _ source forward _ => [source, forward]

/-- A call that is not refused appends something. -/
theorem declares_pos (h : call.OnModels g) (hnot : ∀ fault, ¬ g.Refuses call fault) (n : Nat) :
    0 < (call.declares n).length := by
  cases call with
  | model => exact h.elim
  | field m name kind options =>
    rw [declares]
    cases hkind : FieldKind.ofValue? kind with
    | none => exact absurd (.unknownKind (Graph.ofValue?_eq_none_iff.1 hkind)) (hnot _)
    | some known => exact Nat.zero_lt_one
  | typed | relation | backlink => exact Nat.zero_lt_succ _

/-- New properties point at what there was, or at the first of them. -/
theorem pointers_of_mem_declares (h : call.OnModels g)
    (hpointers : ∀ r ∈ call.pointers, r.Known g) {entry : ModelId × Property}
    (hentry : entry ∈ call.declares n) (hr : r ∈ entry.2.pointers) :
    r.Known g ∨ r = .property ⟨n⟩ := by
  cases call with
  | model => exact h.elim
  | field m name kind options =>
    rw [declares] at hentry
    cases hkind : FieldKind.ofValue? kind with
    | none => simp [hkind] at hentry
    | some known =>
      obtain rfl : entry = _ := by simpa [hkind] using hentry
      rw [List.mem_singleton.1 hr]
      exact .inl h
  | typed m builder name options =>
    rw [List.mem_singleton.1 hentry] at hr
    rw [List.mem_singleton.1 hr]
    exact .inl h
  | relation many m name target link =>
    obtain ⟨hm, t, rfl, ht⟩ := h
    rcases List.mem_cons.1 hentry with rfl | hentry
    · have hcases : r = .model m ∨ r = .model t := by
        cases many <;> simpa [Property.pointers] using hr
      rcases hcases with rfl | rfl
      · exact .inl hm
      · exact .inl ht
    · -- only the backlink of a relation points at a new property, which is the relation
      cases hcreate : link.create with
      | false => simp [hcreate] at hentry
      | true =>
        obtain rfl : entry = _ := by simpa [hcreate, Reference.model?] using hentry
        have hcases : r = .model t ∨ r = .model m ∨ r = .property ⟨n⟩ := by
          simpa [Property.pointers] using hr
        rcases hcases with rfl | rfl | rfl
        · exact .inl ht
        · exact .inl hm
        · exact .inr rfl
  | backlink m name source forward isPrivate =>
    rw [List.mem_singleton.1 hentry] at hr
    rcases List.mem_cons.1 hr with rfl | hr
    · exact .inl h
    · exact .inl (hpointers r hr)

end BuildCall

/-- A call on what there is points at what there is. -/
theorem WrittenCall.pointers_of_read {call : WrittenCall} {read : BuildCall} (h : call.Known g)
    (hread : call.read = .ok read) : ∀ r ∈ read.pointers, r.Known g := by
  cases call with
  | model s name =>
    cases hread
    exact fun _ hr => absurd hr List.not_mem_nil
  | field | typed =>
    obtain ⟨_, -, rfl⟩ := map_eq_ok.1 hread
    exact fun _ hr => absurd hr List.not_mem_nil
  | relation many m name target options =>
    obtain ⟨_, -, rfl⟩ := map_eq_ok.1 hread
    intro r hr
    rw [List.mem_singleton.1 hr]
    exact h.2
  | backlink m name source forward options =>
    obtain ⟨_, -, rfl⟩ := map_eq_ok.1 hread
    intro r hr
    rcases List.mem_cons.1 hr with rfl | hr
    · exact h.2.1
    · rw [List.mem_singleton.1 hr]
      exact h.2.2

/-! ### Calls -/

namespace Graph

/-- A call that is fulfilled leaves no pointer that leads nowhere: what it adds is there, and what
the new properties point at was there before. -/
theorem Fulfils.anchored {call : BuildCall} (h : g.Fulfils call g') (hg : g.Anchored)
    (hcall : call.OnModels g) (hpointers : ∀ r ∈ call.pointers, r.Known g)
    (hpos : 0 < (call.declares g.properties.length).length) : g'.Anchored := by
  have hlength := h.length_properties
  -- nothing is taken away, so what is known stays known
  have hmono : ∀ {r : Reference}, r.Known g → r.Known g' :=
    Reference.Known.mono (Nat.le_of_eq (by rw [h.schemas])) (Nat.le_of_eq h.length_models.symm)
      (by omega)
  have hfirst : (Reference.property ⟨g.properties.length⟩).Known g' := by
    show g.properties.length < g'.properties.length
    omega
  obtain ⟨hschemas, hslots, hkeys, hproperties⟩ := anchored_iff.1 hg
  refine anchored_iff.2 ⟨?_, ?_, ?_, ?_⟩
  · intro s r hr
    rw [schema, h.schemas] at hr
    exact hmono (hschemas s r hr)
  · intro m r hr
    rw [h.slots] at hr
    rcases List.mem_append.1 hr with hr | hr
    · exact hmono (hslots m r hr)
    · -- a new entry of a list is one of the new properties
      obtain ⟨i, hi, rfl⟩ := exists_of_mem_placed hr
      show g.properties.length + i < g'.properties.length
      omega
  · intro m
    rw [h.key]
    split
    · exact hfirst
    · exact hmono (hkeys m)
  · intro p r hr
    rcases Nat.lt_or_ge p.index g.properties.length with hold | hnew
    · rw [h.property_of_lt hold] at hr
      exact hmono (hproperties p r hr)
    · obtain ⟨i, hi⟩ := Nat.exists_eq_add_of_le hnew
      obtain rfl : p = ⟨g.properties.length + i⟩ := congrArg PropertyId.mk hi
      -- the property is one of the new ones, or blank if its number is not given out yet
      cases hentry : (call.declares g.properties.length)[i]? with
      | none =>
        have hlast := List.getElem?_eq_none_iff.1 hentry
        rw [property_of_le (by rw [hlength]; exact Nat.add_le_add_left hlast _)] at hr
        simp only [Property.pointers, List.mem_cons, List.not_mem_nil, or_false, or_self] at hr
        rw [hr]
        trivial
      | some entry =>
        rw [h.property_add hentry] at hr
        have hmem := List.mem_of_getElem? hentry
        rcases BuildCall.pointers_of_mem_declares hcall hpointers hmem hr with hold | rfl
        · exact hmono hold
        · exact hfirst

/-- A new schema lists nothing that could be missing. -/
theorem Anchored.newSchema (hg : g.Anchored) (package module : Option String) :
    (g.newSchema package module).1.Anchored := by
  have hlength : g.schemas.length ≤ (g.newSchema package module).1.schemas.length :=
    (List.prefix_append _ _).length_le
  have hmono : ∀ {r : Reference}, r.Known g → r.Known (g.newSchema package module).1 :=
    Reference.Known.mono hlength (Nat.le_refl _) (Nat.le_refl _)
  refine ⟨?_, fun model hmodel r hr => hmono (hg.slots model hmodel r hr),
    fun model hmodel => hmono (hg.keys model hmodel),
    fun property hproperty r hr => hmono (hg.properties property hproperty r hr)⟩
  intro schema hschema r hr
  rcases List.mem_append.1 hschema with hold | hnew
  · exact hmono (hg.schemas schema hold r hr)
  · rw [List.mem_singleton.1 hnew] at hr
    cases hr

theorem Anchored.declareModel (hg : g.Anchored) (hs : s.index < g.schemas.length) (name : String) :
    (g.declareModel s name).1.Anchored := by
  have hlength : (g.declareModel s name).1.models.length = g.models.length + 1 :=
    length_models_declareModel
  have hmono : ∀ {r : Reference}, r.Known g → r.Known (g.declareModel s name).1 :=
    Reference.Known.mono (Nat.le_of_eq length_schemas_declareModel.symm) (by omega) (Nat.le_refl _)
  obtain ⟨hschemas, hslots, hkeys, hproperties⟩ := anchored_iff.1 hg
  refine anchored_iff.2 ⟨?_, ?_, ?_, fun p r hr => hmono (hproperties p r hr)⟩
  · intro s' r hr
    by_cases hs' : s' = s
    · rw [hs', schema_declareModel hs] at hr
      rcases List.mem_append.1 hr with hr | hr
      · exact hmono (hschemas s r hr)
      · rw [List.mem_singleton.1 hr]
        show g.models.length < (g.declareModel s name).1.models.length
        omega
    · have hsame : (g.declareModel s name).1.schema s' = g.schema s' :=
        schema_updateSchema_of_ne _ hs' _
      rw [hsame] at hr
      exact hmono (hschemas s' r hr)
  · intro m r hr
    rw [(model_declareModel g s name m).1] at hr
    exact hmono (hslots m r hr)
  · intro m
    rw [(model_declareModel g s name m).2]
    exact hmono (hkeys m)

/-- What a call on what there is leads to, and what it gives out. -/
theorem Anchored.perform (hg : g.Anchored) {call : WrittenCall} (h : call.Known g) :
    (g.perform call).1.Anchored ∧ g.schemas.length ≤ (g.perform call).1.schemas.length ∧
      ∀ built, (g.perform call).2 = .ok built → built.reference.Known (g.perform call).1 := by
  rcases perform_cases h with ⟨fault, hperform⟩ | ⟨s, name, rfl, hs, hperform⟩ |
    ⟨read, hread, hmodels, hnot, hout, hfulfils⟩
  · rw [hperform]
    exact ⟨hg, Nat.le_refl _, fun _ hbuilt => by cases hbuilt⟩
  · rw [hperform]
    refine ⟨hg.declareModel hs name, Nat.le_of_eq length_schemas_declareModel.symm, ?_⟩
    intro built hbuilt
    cases hbuilt
    show g.models.length < (g.declareModel s name).1.models.length
    rw [length_models_declareModel]
    exact Nat.lt_succ_self _
  · have hpos := read.declares_pos hmodels hnot g.properties.length
    refine ⟨hfulfils.anchored hg hmodels (call.pointers_of_read h hread) hpos,
      Nat.le_of_eq (by rw [hfulfils.schemas]), ?_⟩
    intro built hbuilt
    rw [hout] at hbuilt
    cases hbuilt
    show g.properties.length < _
    rw [hfulfils.length_properties]
    omega

/-- What is found by its name was listed. -/
theorem mem_of_findNamed {rs : List Reference} {name : String} (h : g.findNamed rs name = .ok r) :
    r = .nothing ∨ r ∈ rs := by
  have hfind : ∀ {rs : List Reference} {found : Option Reference},
      rs.findM? (fun r => (g.nameOf r).map fun own => decide (own = name)) = .ok found →
        ∀ r ∈ found, r ∈ rs := by
    intro rs
    induction rs with
    | nil =>
      intro found hfound
      cases hfound
      exact fun r hr => by cases hr
    | cons first rs ih =>
      intro found hfound
      rw [List.findM?] at hfound
      obtain ⟨isFound, -, hfound⟩ := bind_eq_ok.1 hfound
      cases isFound with
      | true =>
        cases hfound
        exact fun r hr => by cases hr; exact List.mem_cons_self
      | false => exact fun r hr => List.mem_cons_of_mem _ (ih hfound r hr)
  rw [findNamed] at h
  obtain ⟨found, hfound, h⟩ := bind_eq_ok.1 h
  cases h
  cases found with
  | none => exact .inl rfl
  | some r => exact .inr (hfind hfound r rfl)

end Graph

end MobileSchema
