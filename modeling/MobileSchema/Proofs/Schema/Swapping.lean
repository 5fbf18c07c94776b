import MobileSchema.Proofs.Schema.Anchoring
import MobileSchema.Proofs.Schema.Renaming

/-!
# Two calls in either order

Two calls that build properties, on what there is before either of them, come to the same in either
order if they append to different models.  All that differs is which numbers the new properties
get: those of the first call come before those of the second (`rotation`).  So the two graphs are
one up to a renaming (`perform_swap`).

Whether a call is refused is decided by its options and by the names of models, on which the other
call has no influence (`idle_or_builds`).
-/

namespace MobileSchema

variable {σ : Equiv.Perm PropertyId} {g g' : Graph} {s : SchemaId} {m o : ModelId}
  {p : PropertyId} {r : Reference} {n n' k l i : Nat} {added : List (ModelId × Property)}

/-! ### Rotations -/

/-- Where a number moves if two blocks of numbers change places: `k` numbers from `n` on, and the
`l` numbers behind them. -/
def rotated (n k l i : Nat) : Nat :=
  if i < n then i else if i < n + k then i + l else if i < n + k + l then i - k else i

/-- Rotating back undoes a rotation. -/
theorem rotated_rotated (n k l i : Nat) : rotated n l k (rotated n k l i) = i := by
  unfold rotated
  split_ifs <;> omega

/-- The numbers of properties, with two blocks of them in each other's place. -/
def rotation (n k l : Nat) : Equiv.Perm PropertyId where
  toFun p := ⟨rotated n k l p.index⟩
  invFun p := ⟨rotated n l k p.index⟩
  left_inv p := congrArg PropertyId.mk (rotated_rotated n k l p.index)
  right_inv p := congrArg PropertyId.mk (rotated_rotated n l k p.index)

theorem rotation_of_lt (h : p.index < n) : rotation n k l p = p := by
  show PropertyId.mk (rotated n k l p.index) = p
  rw [rotated, if_pos h]

theorem rotation_of_le (h : n + k + l ≤ p.index) : rotation n k l p = p := by
  show PropertyId.mk (rotated n k l p.index) = p
  rw [rotated, if_neg (by omega), if_neg (by omega), if_neg (by omega)]

/-- The first part goes behind the second. -/
theorem rotation_first (h : i < k) : rotation n k l ⟨n + i⟩ = ⟨n + l + i⟩ := by
  show PropertyId.mk (rotated n k l (n + i)) = _
  rw [rotated, if_neg (by omega), if_pos (by omega), Nat.add_right_comm]

/-- The second part goes to the front. -/
theorem rotation_second (h : i < l) : rotation n k l ⟨n + k + i⟩ = ⟨n + i⟩ := by
  show PropertyId.mk (rotated n k l (n + k + i)) = _
  rw [rotated, if_neg (by omega), if_neg (by omega), if_pos (by omega)]
  exact congrArg PropertyId.mk (by omega)

/-! ### What stands for itself -/

/-- A renaming that leaves all properties alone that there are leaves a reference to them alone. -/
theorem Reference.Known.rename_eq (h : r.Known g)
    (hσ : ∀ p, p.index < g.properties.length → σ p = p) : r.rename σ = r := by
  cases r with
  | property p => exact congrArg Reference.property (hσ p h)
  | nothing | schema | model | text => rfl

theorem map_rename_eq {rs : List Reference} (h : ∀ r ∈ rs, r.rename σ = r) :
    rs.map (Reference.rename σ) = rs := by
  rw [List.map_congr_left h, List.map_id']

theorem Shape.rename_eq {shape : Shape}
    (h : ∀ r ∈ (Property.mk .nothing "" shape false).pointers, r.rename σ = r) :
    shape.rename σ = shape := by
  cases shape with
  | typed kind required => rfl
  | toOne target => rw [rename, h target (by simp [Property.pointers])]
  | toMany target => rw [rename, h target (by simp [Property.pointers])]
  | inverse target forward isPrivate =>
    rw [rename, h target (by simp [Property.pointers]), h forward (by simp [Property.pointers])]

namespace Graph.Anchored

theorem schema_rename (h : g.Anchored) (hσ : ∀ p, p.index < g.properties.length → σ p = p)
    (s : SchemaId) : (g.schema s).rename σ = g.schema s := by
  rw [Schema.rename, map_rename_eq fun r hr => ((anchored_iff.1 h).1 s r hr).rename_eq hσ]

/-- A renaming that leaves all numbers in use alone leaves the models as they are. -/
theorem model_rename (h : g.Anchored) (hσ : ∀ p, p.index < g.properties.length → σ p = p)
    (m : ModelId) : (g.model m).rename σ = g.model m := by
  obtain ⟨-, hslots, hkeys, -⟩ := anchored_iff.1 h
  rw [Model.rename, map_rename_eq fun r hr => (hslots m r hr).rename_eq hσ,
    (hkeys m).rename_eq hσ]

theorem property_rename (h : g.Anchored) (hσ : ∀ p, p.index < g.properties.length → σ p = p)
    (p : PropertyId) : (g.property p).rename σ = g.property p := by
  have hfix : ∀ r ∈ (g.property p).pointers, r.rename σ = r :=
    fun r hr => ((anchored_iff.1 h).2.2.2 p r hr).rename_eq hσ
  rw [Property.rename, hfix _ List.mem_cons_self, Shape.rename_eq]
  intro r hr
  rcases List.mem_cons.1 hr with rfl | hr
  · rfl
  · exact hfix r (List.mem_cons_of_mem _ hr)

end Graph.Anchored

/-! ### New properties -/

/-- Where new properties stand is decided by the models that list them. -/
theorem rename_placed (hσ : ∀ i < added.length, σ ⟨n + i⟩ = ⟨n' + i⟩) :
    (placed o n added).map (Reference.rename σ) =
      placed o n' (added.map (Prod.map id (Property.rename σ))) := by
  induction added generalizing n n' with
  | nil => rfl
  | cons entry added ih =>
    obtain ⟨m, property⟩ := entry
    have hfirst : σ ⟨n⟩ = ⟨n'⟩ := hσ 0 (Nat.zero_lt_succ _)
    have hrest : ∀ i < added.length, σ ⟨n + 1 + i⟩ = ⟨n' + 1 + i⟩ := by
      intro i hi
      rw [Nat.add_right_comm, Nat.add_right_comm n']
      exact hσ (i + 1) (Nat.succ_lt_succ hi)
    rw [List.map_cons, Prod.map_apply, id_eq, placed, placed]
    split
    · rw [List.map_cons, ih hrest, Reference.rename_property, hfirst]
    · exact ih hrest

namespace BuildCall

variable {call : BuildCall}

/-- The models that a call appends to. -/
def appendsTo : BuildCall → List ModelId
  | .model .. => []
  | .field m .. | .typed m .. | .backlink m .. => [m]
  | .relation _ m _ target link => m :: if link.create then target.model?.toList else []

/-- A call declares properties only for the models that it appends to. -/
theorem mem_appendsTo {n : Nat} {entry : ModelId × Property} (h : entry ∈ call.declares n) :
    entry.1 ∈ call.appendsTo := by
  cases call with
  | model => cases h
  | field m name kind options =>
    rw [declares] at h
    cases hkind : FieldKind.ofValue? kind with
    | none => simp [hkind] at h
    | some known => simp_all [appendsTo]
  | typed | backlink => simp_all [declares, appendsTo]
  | relation many m name target link =>
    cases target <;> cases hcreate : link.create <;>
      simp_all [declares, appendsTo, Reference.model?]
    rcases h with rfl | rfl <;> simp

/-- What a call is to append, where its pointers stand for themselves and the first of the new
properties has another number. -/
theorem declares_rename (hpointers : ∀ r ∈ call.pointers, r.rename σ = r)
    (hn : 0 < (call.declares n).length → σ ⟨n⟩ = ⟨n'⟩) :
    (call.declares n).map (Prod.map id (Property.rename σ)) = call.declares n' := by
  cases call with
  | model => rfl
  | field m name kind options =>
    rw [declares, declares]
    cases FieldKind.ofValue? kind <;> rfl
  | typed => rfl
  | relation many m name target link =>
    have htarget : target.rename σ = target := hpointers target List.mem_cons_self
    have hfirst : σ ⟨n⟩ = ⟨n'⟩ := hn (Nat.zero_lt_succ _)
    have hshape : (if many then Shape.toMany target else .toOne target).rename σ =
        if many then .toMany target else .toOne target := by
      cases many
      · exact congrArg Shape.toOne htarget
      · exact congrArg Shape.toMany htarget
    rw [declares, declares, List.map_cons]
    -- the relation, and behind it the backlink that points at it
    refine congrArg₂ List.cons ?_ ?_
    · rw [Prod.map_apply, Property.rename, hshape]
      rfl
    · cases link.create with
      | false => rfl
      | true =>
        cases target with
        | model t =>
          show [(t, _)] = [(t, _)]
          rw [Property.rename, Shape.rename, Reference.rename_property, hfirst]
          rfl
        | nothing | schema | property | text => rfl
  | backlink m name source forward isPrivate =>
    have hsource : source.rename σ = source := hpointers source List.mem_cons_self
    have hforward : forward.rename σ = forward := hpointers forward (by simp [pointers])
    rw [declares, declares, List.map_singleton, Prod.map_apply, Property.rename, Shape.rename,
      hsource, hforward]
    rfl

/-- How many properties a call declares does not depend on the numbers that are free. -/
theorem length_declares (n n' : Nat) : (call.declares n).length = (call.declares n').length := by
  cases call with
  | relation many m name target link =>
    rw [declares, declares]
    cases link.create <;> cases target <;> rfl
  | model | field | typed | backlink => rfl

/-- A call appends to the model whose key it sets. -/
theorem mem_appendsTo_of_keyed (h : call.keyed = some o) : o ∈ call.appendsTo := by
  cases call <;> simp_all [keyed, appendsTo]

end BuildCall

/-! ### Two calls that are fulfilled -/

namespace Graph

theorem eq_of_fields {model model' : Model} (hschema : model.schema = model'.schema)
    (hname : model.name = model'.name) (hslots : model.slots = model'.slots)
    (hkey : model.primaryKey = model'.primaryKey) : model = model' := by
  cases model
  cases model'
  simp_all

/-- Two calls that are fulfilled on what there is before them, in either order, and that append to
different models: `a` leads to `ga` and then `b` to `gab`, and the other way round. -/
structure Crossing (g : Graph) (a b : BuildCall) (ga gab gb gba : Graph) : Prop where
  anchored : g.Anchored
  pointersFirst : ∀ r ∈ a.pointers, r.Known g
  pointersSecond : ∀ r ∈ b.pointers, r.Known g
  posFirst : 0 < (a.declares g.properties.length).length
  posSecond : 0 < (b.declares g.properties.length).length
  disjoint : ∀ m ∈ a.appendsTo, m ∉ b.appendsTo
  first : g.Fulfils a ga
  thenSecond : ga.Fulfils b gab
  second : g.Fulfils b gb
  thenFirst : gb.Fulfils a gba

/-- The numbers that what two calls append has in the other order. -/
def crossing (g : Graph) (a b : BuildCall) : Equiv.Perm PropertyId :=
  rotation g.properties.length (a.declares g.properties.length).length
    (b.declares g.properties.length).length

namespace Crossing

variable {a b : BuildCall} {ga gab gb gba : Graph}

theorem length_first (h : g.Crossing a b ga gab gb gba) : ga.properties.length =
    g.properties.length + (a.declares g.properties.length).length :=
  h.first.length_properties

theorem length_second (h : g.Crossing a b ga gab gb gba) : gb.properties.length =
    g.properties.length + (b.declares g.properties.length).length :=
  h.second.length_properties

theorem crossing_of_lt (a b : BuildCall) (p : PropertyId) (hp : p.index < g.properties.length) :
    g.crossing a b p = p :=
  rotation_of_lt hp

/-- What the first call has built is counted behind what the second has, if that came before it. -/
theorem crossing_first (h : g.Crossing a b ga gab gb gba)
    (hi : i < (a.declares g.properties.length).length) :
    g.crossing a b ⟨g.properties.length + i⟩ = ⟨gb.properties.length + i⟩ := by
  rw [h.length_second]
  exact rotation_first hi

/-- What the second call has built is counted from the start, if it came first. -/
theorem crossing_second (h : g.Crossing a b ga gab gb gba)
    (hi : i < (b.declares g.properties.length).length) :
    g.crossing a b ⟨ga.properties.length + i⟩ = ⟨g.properties.length + i⟩ := by
  rw [h.length_first]
  exact rotation_second hi

/-- What the first call appends, it appends in the other order with other numbers. -/
theorem declares_first (h : g.Crossing a b ga gab gb gba) :
    (a.declares g.properties.length).map (Prod.map id (Property.rename (g.crossing a b))) =
      a.declares gb.properties.length :=
  a.declares_rename (fun r hr => (h.pointersFirst r hr).rename_eq (crossing_of_lt a b))
    fun hpos => h.crossing_first hpos

/-- What the second call appends, it appends in the other order with other numbers. -/
theorem declares_second (h : g.Crossing a b ga gab gb gba) :
    (b.declares ga.properties.length).map (Prod.map id (Property.rename (g.crossing a b))) =
      b.declares g.properties.length :=
  b.declares_rename (fun r hr => (h.pointersSecond r hr).rename_eq (crossing_of_lt a b))
    fun _ => h.crossing_second h.posSecond

/-- Each model lists the same in both orders, but for the numbers of what the two calls have
built. -/
theorem slots (h : g.Crossing a b ga gab gb gba) (o : ModelId) :
    (gba.model o).slots = (gab.model o).slots.map (Reference.rename (g.crossing a b)) := by
  have hold : (g.model o).slots.map (Reference.rename (g.crossing a b)) = (g.model o).slots :=
    congrArg Model.slots (h.anchored.model_rename (crossing_of_lt a b) o)
  have hfirst := rename_placed (o := o) fun _ hi => h.crossing_first hi
  have hsecond := rename_placed (o := o) fun i hi =>
    h.crossing_second (i := i) (by rwa [b.length_declares _ ga.properties.length])
  rw [h.declares_first] at hfirst
  rw [h.declares_second] at hsecond
  rw [h.thenFirst.slots, h.second.slots, h.thenSecond.slots, h.first.slots, List.map_append,
    List.map_append, hold, hfirst, hsecond, List.append_assoc, List.append_assoc]
  refine congrArg _ ?_
  -- one of the calls appends nothing to the model
  by_cases ho : o ∈ a.appendsTo
  · have hnone : ∀ n, placed o n (b.declares n) = [] := by
      intro n
      refine placed_eq_nil ?_
      rintro entry hentry rfl
      exact h.disjoint _ ho (BuildCall.mem_appendsTo hentry)
    rw [hnone, List.nil_append, List.append_nil]
  · have hnone : ∀ n, placed o n (a.declares n) = [] := by
      intro n
      refine placed_eq_nil ?_
      rintro entry hentry rfl
      exact ho (BuildCall.mem_appendsTo hentry)
    rw [hnone, List.nil_append, List.append_nil]

/-- Each model has the same key in both orders, but for its number. -/
theorem key (h : g.Crossing a b ga gab gb gba) (o : ModelId) :
    (gba.model o).primaryKey = (gab.model o).primaryKey.rename (g.crossing a b) := by
  have hold : (g.model o).primaryKey.rename (g.crossing a b) = (g.model o).primaryKey :=
    congrArg Model.primaryKey (h.anchored.model_rename (crossing_of_lt a b) o)
  rw [h.thenFirst.key, h.second.key, h.thenSecond.key, h.first.key]
  by_cases ha : a.keyed = some o
  · have hb : b.keyed ≠ some o := fun hb =>
      h.disjoint o (BuildCall.mem_appendsTo_of_keyed ha) (BuildCall.mem_appendsTo_of_keyed hb)
    rw [if_pos ha, if_neg hb, if_pos ha]
    exact congrArg Reference.property (h.crossing_first h.posFirst).symm
  · rw [if_neg ha, if_neg ha]
    split
    · exact congrArg Reference.property (h.crossing_second h.posSecond).symm
    · exact hold.symm

theorem length_both (h : g.Crossing a b ga gab gb gba) : gab.properties.length =
    g.properties.length + (a.declares g.properties.length).length +
      (b.declares g.properties.length).length := by
  rw [h.thenSecond.length_properties, h.length_first, b.length_declares]

theorem length_properties (h : g.Crossing a b ga gab gb gba) :
    gba.properties.length = gab.properties.length := by
  rw [h.length_both, h.thenFirst.length_properties, h.length_second, a.length_declares,
    Nat.add_right_comm]

/-- What there was before the two calls is the same in both orders. -/
theorem property_old (h : g.Crossing a b ga gab gb gba) (hp : p.index < g.properties.length) :
    gba.property (g.crossing a b p) = (gab.property p).rename (g.crossing a b) := by
  have hab : gab.property p = g.property p := by
    rw [h.thenSecond.property_of_lt (by rw [h.length_first]; omega), h.first.property_of_lt hp]
  have hba : gba.property p = g.property p := by
    rw [h.thenFirst.property_of_lt (by rw [h.length_second]; omega), h.second.property_of_lt hp]
  rw [crossing_of_lt a b p hp, hba, hab, h.anchored.property_rename (crossing_of_lt a b)]

theorem property_first (h : g.Crossing a b ga gab gb gba)
    (hi : i < (a.declares g.properties.length).length) :
    gba.property (g.crossing a b ⟨g.properties.length + i⟩) =
      (gab.property ⟨g.properties.length + i⟩).rename (g.crossing a b) := by
  have hentry := List.getElem?_eq_getElem hi
  have hentry' := congrArg (·[i]?) h.declares_first
  rw [List.getElem?_map, hentry, Option.map_some] at hentry'
  have hsame : gab.property ⟨g.properties.length + i⟩ = ga.property ⟨g.properties.length + i⟩ :=
    h.thenSecond.property_of_lt (by rw [h.length_first]; exact Nat.add_lt_add_left hi _)
  rw [h.crossing_first hi, h.thenFirst.property_add hentry'.symm, hsame,
    h.first.property_add hentry]
  rfl

theorem property_second (h : g.Crossing a b ga gab gb gba)
    (hi : i < (b.declares g.properties.length).length) :
    gba.property (g.crossing a b ⟨ga.properties.length + i⟩) =
      (gab.property ⟨ga.properties.length + i⟩).rename (g.crossing a b) := by
  have hentry := List.getElem?_eq_getElem (b.length_declares _ ga.properties.length ▸ hi)
  have hentry' := congrArg (·[i]?) h.declares_second
  rw [List.getElem?_map, hentry, Option.map_some] at hentry'
  have hsame : gba.property ⟨g.properties.length + i⟩ = gb.property ⟨g.properties.length + i⟩ :=
    h.thenFirst.property_of_lt (by rw [h.length_second]; exact Nat.add_lt_add_left hi _)
  rw [h.crossing_second hi, hsame, h.second.property_add hentry'.symm,
    h.thenSecond.property_add hentry]
  rfl

/-- A number that neither call gives out denotes nothing in either order. -/
theorem property_none (h : g.Crossing a b ga gab gb gba) (hp : gab.properties.length ≤ p.index) :
    gba.property (g.crossing a b p) = (gab.property p).rename (g.crossing a b) := by
  have hfix : g.crossing a b p = p := rotation_of_le (h.length_both ▸ hp)
  rw [hfix, property_of_le hp, property_of_le (h.length_properties ▸ hp)]
  rfl

/-- Every property is the same in both orders, but for its number. -/
theorem property_eq (h : g.Crossing a b ga gab gb gba) (p : PropertyId) :
    gba.property (g.crossing a b p) = (gab.property p).rename (g.crossing a b) := by
  -- an old property, one that the first call appends, one that the second appends, or none
  rcases Nat.lt_or_ge p.index g.properties.length with hold | hnew
  · exact h.property_old hold
  · rcases Nat.lt_or_ge p.index ga.properties.length with hfirst | hbehind
    · obtain ⟨i, hi⟩ := Nat.exists_eq_add_of_le hnew
      obtain rfl : p = ⟨g.properties.length + i⟩ := congrArg PropertyId.mk hi
      refine h.property_first ?_
      rw [h.length_first] at hfirst
      exact Nat.lt_of_add_lt_add_left hfirst
    · rcases Nat.lt_or_ge p.index gab.properties.length with hsecond | hnone
      · obtain ⟨i, hi⟩ := Nat.exists_eq_add_of_le hbehind
        obtain rfl : p = ⟨ga.properties.length + i⟩ := congrArg PropertyId.mk hi
        refine h.property_second ?_
        rw [h.length_both, ← h.length_first] at hsecond
        exact Nat.lt_of_add_lt_add_left hsecond
      · exact h.property_none hnone

/-- The two orders lead to the same graph, but for the numbers of what is appended. -/
theorem renamed (h : g.Crossing a b ga gab gb gba) : gab.Renamed (g.crossing a b) gba where
  length_schemas := by
    rw [h.thenFirst.schemas, h.second.schemas, h.thenSecond.schemas, h.first.schemas]
  length_models := by
    rw [h.thenFirst.length_models, h.second.length_models, h.thenSecond.length_models,
      h.first.length_models]
  length_properties := h.length_properties
  schema := by
    intro s
    have hab : gab.schema s = g.schema s := by
      rw [schema, schema, h.thenSecond.schemas, h.first.schemas]
    have hba : gba.schema s = g.schema s := by
      rw [schema, schema, h.thenFirst.schemas, h.second.schemas]
    rw [hba, hab, h.anchored.schema_rename (crossing_of_lt a b)]
  model := by
    intro o
    refine eq_of_fields ?_ ?_ (h.slots o) (h.key o)
    · exact (h.thenFirst.schema o).trans ((h.second.schema o).trans
        ((h.thenSecond.schema o).trans (h.first.schema o)).symm)
    · exact (h.thenFirst.name o).trans ((h.second.name o).trans
        ((h.thenSecond.name o).trans (h.first.name o)).symm)
  property := h.property_eq
  fixes := fun p hp => rotation_of_le (h.length_both ▸ hp)

end Crossing

/-! ### Two written calls -/

/-- Whether two graphs have the same models, by number and name. -/
structure SameModels (g g' : Graph) : Prop where
  length_models : g'.models.length = g.models.length
  modelName : ∀ m, g'.modelName m = g.modelName m

theorem SameModels.refl (g : Graph) : g.SameModels g := ⟨rfl, fun _ => rfl⟩

/-- What only appends properties leaves the models and their names as they are. -/
theorem Appends.sameModels (h : g.Appends g' added) : g.SameModels g' :=
  ⟨h.length_models, h.name⟩

namespace SameModels

variable {call : BuildCall} {fault : SchemaFault}

/-- A call is on the same models, whatever was built in the meantime. -/
theorem onModels (h : g.SameModels g') (hcall : call.OnModels g) : call.OnModels g' := by
  cases call with
  | relation many m name target link =>
    obtain ⟨hm, t, htarget, ht⟩ := hcall
    exact ⟨h.length_models ▸ hm, t, htarget, h.length_models ▸ ht⟩
  | model => exact hcall
  | field | typed | backlink => exact Nat.lt_of_lt_of_eq hcall h.length_models.symm

/-- A call is refused for the same reason, whatever was built in the meantime. -/
theorem refuses (h : g.SameModels g') (hcall : g.Refuses call fault) : g'.Refuses call fault := by
  cases hcall with
  | unknownKind hkind => exact .unknownKind hkind
  | missingLinkName hcreate hname =>
    rw [← h.modelName]
    exact .missingLinkName hcreate hname

theorem symm (h : g.SameModels g') : g'.SameModels g :=
  ⟨h.length_models.symm, fun m => (h.modelName m).symm⟩

end SameModels

end Graph

namespace WrittenCall

variable {call : WrittenCall} {read : BuildCall}

/-- Whether a call builds a property. -/
def BuildsProperty : WrittenCall → Prop
  | .model .. => False
  | .field .. | .typed .. | .relation .. | .backlink .. => True

/-- The models that a call appends to: a relation that is to have a backlink to its caller and its
target, any other call to its own model. -/
def appendsTo : WrittenCall → List ModelId
  | .model .. => []
  | .field m .. | .typed m .. | .backlink m .. => [m]
  | .relation _ m _ target options =>
    m :: if isSet options .createLinkingObjects then [target] else []

/-- Which models a call appends to can be read off from its options. -/
theorem appendsTo_of_read (hread : call.read = .ok read) : read.appendsTo = call.appendsTo := by
  cases call with
  | model s name =>
    cases hread
    rfl
  | relation many m name target options =>
    obtain ⟨link, hlink, rfl⟩ := map_eq_ok.1 hread
    obtain ⟨_, -, hlink⟩ := bind_eq_ok.1 hlink
    cases hlink
    rfl
  | field | typed | backlink =>
    obtain ⟨_, -, rfl⟩ := map_eq_ok.1 hread
    rfl

/-- A call is refused, whatever was built in the meantime, or it is fulfilled. -/
theorem idle_or_builds (h : call.Known g) (hbuilds : call.BuildsProperty) :
    (∃ fault, ∀ g', g.SameModels g' → g'.perform call = (g', .error fault)) ∨
      ∃ read, call.read = .ok read ∧ (∀ n, 0 < (read.declares n).length) ∧
        ∀ g', g.SameModels g' → (g'.perform call).2 = .ok (.property ⟨g'.properties.length⟩) ∧
          g'.Fulfils read (g'.perform call).1 := by
  rcases hread : call.read with fault | read
  · exact .inl ⟨fault, fun _ _ => Graph.perform_of_refused hread⟩
  · rcases call.onModels_of_read h hread with ⟨s, name, rfl, -⟩ | hmodels
    · exact hbuilds.elim
    · rcases Graph.refused_or_fulfilled hmodels with ⟨fault, hrefuses, -⟩ | ⟨hnot, -⟩
      · refine .inl ⟨fault, fun g' hg' => ?_⟩
        rw [Graph.perform_of_read hread]
        rcases Graph.refused_or_fulfilled (hg'.onModels hmodels) with ⟨other, hother, hbuild⟩ | hnot
        · rw [hbuild, hother.unique (hg'.refuses hrefuses)]
        · exact absurd (hg'.refuses hrefuses) (hnot.1 fault)
      · refine .inr ⟨read, rfl, read.declares_pos hmodels hnot, fun g' hg' => ?_⟩
        rw [Graph.perform_of_read hread]
        rcases Graph.refused_or_fulfilled (hg'.onModels hmodels) with ⟨other, hother, -⟩ | hbuilt
        · exact absurd (hg'.symm.refuses hother) (hnot other)
        · exact hbuilt.2

end WrittenCall

namespace Graph

variable {a b : WrittenCall}

/-- Two calls come to the same in either order, but for the numbers of what they build, if both are
on what there is before either of them and they append to different models. -/
theorem perform_swap (hg : g.Anchored) (ha : a.Known g) (hb : b.Known g) (ha' : a.BuildsProperty)
    (hb' : b.BuildsProperty) (hdisjoint : ∀ m ∈ a.appendsTo, m ∉ b.appendsTo) :
    ∃ σ : Equiv.Perm PropertyId, (∀ p, p.index < g.properties.length → σ p = p) ∧
      ((g.perform a).1.perform b).1.Renamed σ ((g.perform b).1.perform a).1 ∧
      ((g.perform b).1.perform a).2 = (g.perform a).2.map (Built.rename σ) ∧
      (g.perform b).2 = ((g.perform a).1.perform b).2.map (Built.rename σ) := by
  have hself := SameModels.refl g
  rcases a.idle_or_builds ha ha' with ⟨fault, hidle⟩ | ⟨reada, hreada, hposa, hbuilda⟩
  · -- a call that is refused leaves everything to the other
    refine ⟨.refl _, fun _ _ => rfl, ?_⟩
    have hsame : g.SameModels (g.perform b).1 := by
      rcases b.idle_or_builds hb hb' with ⟨fault, hidle⟩ | ⟨readb, -, -, hbuildb⟩
      · rw [hidle g hself]
        exact hself
      · exact (hbuildb g hself).2.sameModels
    rw [hidle g hself, hidle _ hsame]
    exact ⟨.refl _, rfl, (Built.map_rename_refl _).symm⟩
  · have hsamea := (hbuilda g hself).2.sameModels
    rcases b.idle_or_builds hb hb' with ⟨fault, hidle⟩ | ⟨readb, hreadb, hposb, hbuildb⟩
    · -- the second call is refused in both orders
      refine ⟨.refl _, fun _ _ => rfl, ?_⟩
      rw [hidle g hself, hidle _ hsamea]
      exact ⟨.refl _, (Built.map_rename_refl _).symm, rfl⟩
    · have hsameb := (hbuildb g hself).2.sameModels
      -- both append, each in both orders to the same models, and only numbers differ
      have hcrossing : g.Crossing reada readb (g.perform a).1 ((g.perform a).1.perform b).1
          (g.perform b).1 ((g.perform b).1.perform a).1 := {
        anchored := hg
        pointersFirst := a.pointers_of_read ha hreada
        pointersSecond := b.pointers_of_read hb hreadb
        posFirst := hposa _
        posSecond := hposb _
        disjoint := by
          rw [a.appendsTo_of_read hreada, b.appendsTo_of_read hreadb]
          exact hdisjoint
        first := (hbuilda g hself).2
        thenSecond := (hbuildb _ hsamea).2
        second := (hbuildb g hself).2
        thenFirst := (hbuilda _ hsameb).2 }
      refine ⟨g.crossing reada readb, Crossing.crossing_of_lt reada readb, hcrossing.renamed,
        ?_, ?_⟩
      · rw [(hbuilda _ hsameb).1, (hbuilda g hself).1]
        exact congrArg (Except.ok ∘ Built.property) (hcrossing.crossing_first (hposa _)).symm
      · rw [(hbuildb g hself).1, (hbuildb _ hsamea).1]
        exact congrArg (Except.ok ∘ Built.property) (hcrossing.crossing_second (hposb _)).symm

end Graph

end MobileSchema
