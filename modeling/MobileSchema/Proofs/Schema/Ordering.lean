import Mathlib.Data.List.Perm.Basic
import Mathlib.Data.List.Sort
import MobileSchema.Proofs.Schema.Validity

/-!
# The order of declarations

A schema lists its models in some order, and a model its properties.  In another order
(`Graph.Reordered`) the check reports the same issues, as often as before, and only their order is
another one.

What the check asks of one property or one key does not depend on order at all, since it asks
whether something is in a list (`Reordered.slotIssues`, `Reordered.keyIssues`).  Names that are
repeated are sorted before they are reported (`repeatedNames_perm`).  Only the passes over the lists
follow their order: what they come to has the same items (`KeepsItems`).  No sort of pointer is
presupposed for that: a check that is refused is refused in any order, though maybe for another
reason.
-/

namespace MobileSchema

/-! ### Passes over lists -/

section

variable {α β ε : Type} {f f' : α → Except ε (List β)} {xs ys : List α}

/-- Whether what is answered by one is answered by the other with the same items. -/
def KeepsItems (x y : Except ε (List α)) : Prop := ∀ as, x = .ok as → ∃ bs, y = .ok bs ∧ as.Perm bs

theorem keepsItems_of_eq {x y : Except ε (List α)} (h : x = y) : KeepsItems x y :=
  fun as has => ⟨as, h ▸ has, .refl as⟩

/-- A pass over a list in another order has the same items among its results. -/
theorem KeepsItems.mapM (h : ∀ x ∈ xs, KeepsItems (f x) (f' x)) (hperm : xs.Perm ys)
    {zs : List (List β)} (hpass : xs.mapM f = .ok zs) :
    ∃ ws, ys.mapM f' = .ok ws ∧ zs.flatten.Perm ws.flatten := by
  obtain ⟨make, hmake, rfl⟩ := exists_map_of_mapM hpass
  choose! make' hmake' hitems using fun x hx => h x hx (make x) (hmake x hx)
  refine ⟨ys.map make', mapM_eq_ok fun y hy => hmake' y (hperm.mem_iff.2 hy), ?_⟩
  rw [← List.flatMap_def, ← List.flatMap_def]
  exact hperm.flatMap hitems

end

/-! ### Repeated names -/

/-- A repeated name is reported with the number of times that it occurs. -/
theorem repeatedNames_eq_map (names : List String) : repeatedNames names =
    ((repeatedNames names).map Prod.fst).map fun name => (name, names.count name) := by
  simp [repeatedNames, Function.comp_def]

/-- Which names are repeated, and how often, does not depend on their order. -/
theorem repeatedNames_perm {names names' : List String} (h : names.Perm names') :
    repeatedNames names = repeatedNames names' := by
  have hfst : (repeatedNames names).map Prod.fst = (repeatedNames names').map Prod.fst := by
    refine (pairwise_repeatedNames names).eq_of_mem_iff (pairwise_repeatedNames names') ?_
    intro name
    rw [mem_repeatedNames, mem_repeatedNames, h.count_eq]
  rw [repeatedNames_eq_map, repeatedNames_eq_map names', hfst]
  exact List.map_congr_left fun name _ => by rw [h.count_eq]

namespace Graph

variable {g g' : Graph} {s : SchemaId} {m : ModelId} {p : PropertyId} {r : Reference}

/-! ### Reordered lists -/

/-- Whether graphs differ in the order of lists only: of the models of a schema, and of the
properties of each model. -/
structure Reordered (g g' : Graph) (s : SchemaId) : Prop where
  schema : ∃ slots, (g.schema s).slots.Perm slots ∧ g'.schema s = { g.schema s with slots }
  model : ∀ m, ∃ slots, (g.model m).slots.Perm slots ∧ g'.model m = { g.model m with slots }
  property : ∀ p, g'.property p = g.property p

namespace Reordered

theorem symm (h : g.Reordered g' s) : g'.Reordered g s where
  schema := by
    obtain ⟨slots, hperm, hschema⟩ := h.schema
    refine ⟨(g.schema s).slots, ?_, ?_⟩ <;> rw [hschema]
    exact hperm.symm
  model := by
    intro m
    obtain ⟨slots, hperm, hmodel⟩ := h.model m
    refine ⟨(g.model m).slots, ?_, ?_⟩ <;> rw [hmodel]
    exact hperm.symm
  property := fun p => (h.property p).symm

theorem slots_schema (h : g.Reordered g' s) : (g.schema s).slots.Perm (g'.schema s).slots := by
  obtain ⟨slots, hperm, hschema⟩ := h.schema
  rw [hschema]
  exact hperm

theorem slots_model (h : g.Reordered g' s) (m : ModelId) :
    (g.model m).slots.Perm (g'.model m).slots := by
  obtain ⟨slots, hperm, hmodel⟩ := h.model m
  rw [hmodel]
  exact hperm

theorem modelName (h : g.Reordered g' s) (m : ModelId) : g'.modelName m = g.modelName m := by
  obtain ⟨slots, -, hmodel⟩ := h.model m
  rw [Graph.modelName, hmodel]
  rfl

theorem primaryKey (h : g.Reordered g' s) (m : ModelId) :
    (g'.model m).primaryKey = (g.model m).primaryKey := by
  obtain ⟨slots, -, hmodel⟩ := h.model m
  rw [hmodel]

theorem nameOf (h : g.Reordered g' s) : g'.nameOf = g.nameOf := by
  funext r
  cases r with
  | model m => exact congrArg Except.ok (h.modelName m)
  | property p => exact congrArg (Except.ok ∘ Property.name) (h.property p)
  | _ => rfl

/-! ### One property, one key -/

theorem ownerIssues (h : g.Reordered g' s) : g'.ownerIssues m p = g.ownerIssues m p := by
  simp only [Graph.ownerIssues, h.property, h.modelName, h.nameOf]

theorem targetIssues (h : g.Reordered g' s) : g'.targetIssues s m p = g.targetIssues s m p := by
  simp only [Graph.targetIssues, h.property, h.modelName, h.nameOf, h.slots_schema.mem_iff]

/-- Whether a backlink's relation is missing depends on what its target lists, but not on the
order. -/
theorem forwardIssues (h : g.Reordered g' s) : g'.forwardIssues m p = g.forwardIssues m p := by
  simp only [Graph.forwardIssues, h.property, h.modelName, h.nameOf]
  split
  · next target forward isPrivate _ =>
    cases target with
    | model t => simp only [slotsOf, bind, Except.bind, (h.slots_model t).mem_iff]
    | property q => simp only [slotsOf, lacks, typeName, h.property]
    | _ => rfl
  · rfl

theorem slotIssues (h : g.Reordered g' s) : g'.slotIssues s m r = g.slotIssues s m r := by
  cases r with
  | property p =>
    simp only [Graph.slotIssues, h.ownerIssues, h.targetIssues, h.forwardIssues]
  | _ => rfl

theorem keyIssues (h : g.Reordered g' s) : g'.keyIssues m = g.keyIssues m := by
  simp only [Graph.keyIssues, h.primaryKey, h.property, h.modelName, h.nameOf,
    (h.slots_model m).mem_iff]

/-! ### One model, all models -/

/-- The names that a model repeats are the same; they are reported in the order of their
characters. -/
theorem nameIssues (h : g.Reordered g' s) : KeepsItems (g.nameIssues m) (g'.nameIssues m) := by
  intro issues hissues
  obtain ⟨names, hnames, rfl⟩ := map_eq_ok.1 hissues
  obtain ⟨names', hnames', hperm⟩ := mapM_perm (h.slots_model m) hnames
  refine ⟨_, map_eq_ok.2 ⟨names', ?_, rfl⟩, ?_⟩
  · rw [namesOf, h.nameOf]
    exact hnames'
  · rw [repeatedNames_perm hperm, h.modelName]

/-- The issues inside a model are the same, but for their order. -/
theorem modelIssues (h : g.Reordered g' s) :
    KeepsItems (g.modelIssues s r) (g'.modelIssues s r) := by
  intro issues hissues
  cases r with
  | model m =>
    obtain ⟨names, hnames, hissues⟩ := bind_eq_ok.1 hissues
    obtain ⟨slots, hslots, hissues⟩ := bind_eq_ok.1 hissues
    obtain ⟨keys, hkeys, hissues⟩ := bind_eq_ok.1 hissues
    obtain rfl := Except.ok.inj hissues
    obtain ⟨names', hnames', hperm⟩ := h.nameIssues names hnames
    obtain ⟨slots', hslots', hitems⟩ := KeepsItems.mapM
      (fun r _ => keepsItems_of_eq (h.slotIssues (r := r)).symm) (h.slots_model m) hslots
    rw [← h.keyIssues] at hkeys
    refine ⟨names' ++ slots'.flatten ++ keys, ?_, (hperm.append hitems).append_right keys⟩
    rw [Graph.modelIssues, hnames', hslots', hkeys]
    rfl
  | _ => cases hissues

/-- The issues of a schema are the same, but for their order. -/
theorem issues (h : g.Reordered g' s) : KeepsItems (g.issues s) (g'.issues s) := by
  intro issues hissues
  obtain ⟨names, hnames, hissues⟩ := bind_eq_ok.1 hissues
  obtain ⟨models, hmodels, hissues⟩ := bind_eq_ok.1 hissues
  obtain rfl := Except.ok.inj hissues
  obtain ⟨names', hnames', hperm⟩ := mapM_perm h.slots_schema hnames
  obtain ⟨models', hmodels', hitems⟩ :=
    KeepsItems.mapM (fun r _ => h.modelIssues (r := r)) h.slots_schema hmodels
  rw [← h.nameOf] at hnames'
  refine ⟨_, ?_, hitems.append_left _⟩
  rw [Graph.issues, namesOf, hnames', hmodels', repeatedNames_perm hperm]
  rfl

/-- A schema that passes the check passes it in any order. -/
theorem validate (h : g.Reordered g' s) (hvalid : g.validate s = .ok ()) :
    g'.validate s = .ok () := by
  rw [validate_eq_ok_iff_issues] at hvalid ⊢
  obtain ⟨issues', hissues', hperm⟩ := h.issues [] hvalid
  rw [hissues', hperm.nil_eq]

end Reordered

/-- In another order of declarations a schema has the same issues, and whether it is accepted does
not depend on the order.  Where the pointers are of the sorts that are meant the check always
answers; elsewhere it answers in each order, or in none. -/
theorem issues_reordered (h : g.Reordered g' s) :
    (g.WellPointed s → ∃ issues issues', g.issues s = .ok issues ∧ g'.issues s = .ok issues' ∧
      issues.Perm issues') ∧
    (∀ issues, g.issues s = .ok issues →
      ∃ issues', g'.issues s = .ok issues' ∧ issues.Perm issues') ∧
    (∀ issues', g'.issues s = .ok issues' →
      ∃ issues, g.issues s = .ok issues ∧ issues'.Perm issues) ∧
    (g'.validate s = .ok () ↔ g.validate s = .ok ()) := by
  refine ⟨fun hpointed => ?_, h.issues, h.symm.issues, h.symm.validate, h.validate⟩
  obtain ⟨issues', hissues', hperm⟩ := h.issues _ (issues_eq hpointed)
  exact ⟨_, issues', issues_eq hpointed, hissues', hperm⟩

/-- The tangled schema with all its lists in another order. -/
def rearranged : Graph where
  schemas := [{ slots := [.model ⟨1⟩, .model ⟨0⟩] }]
  models := [
    { schema := ⟨0⟩, name := "Cat", slots := [.property ⟨2⟩, .property ⟨0⟩, .property ⟨1⟩],
      primaryKey := .property ⟨1⟩ },
    { schema := ⟨0⟩, name := "Cat", slots := [.property ⟨1⟩], primaryKey := .property ⟨0⟩ },
    { schema := ⟨0⟩, name := "Dog" }]
  properties := tangled.properties

/-- The eight issues of a tangled schema, and the other order that they come in when its lists are
turned around. -/
theorem issues_reordered_tangled :
    tangled.Reordered rearranged ⟨0⟩ ∧ tangled.WellPointed ⟨0⟩ ∧
    ∃ issues issues', tangled.issues ⟨0⟩ = .ok issues ∧ rearranged.issues ⟨0⟩ = .ok issues' ∧
      issues.Perm issues' ∧
      issues.map Issue.code = ["model.duplicate", "property.duplicate", "property.orphan",
        "property.orphan", "relation.unknown_target", "linking_objects.missing_property",
        "primary_key.not_typed_field", "primary_key.foreign"] ∧
      issues'.map Issue.code = ["model.duplicate", "primary_key.foreign", "property.duplicate",
        "property.orphan", "relation.unknown_target", "linking_objects.missing_property",
        "property.orphan", "primary_key.not_typed_field"] := by
  -- the lists of the schema and of each model are permuted
  have hreordered : tangled.Reordered rearranged ⟨0⟩ := by
    refine ⟨⟨_, by decide, rfl⟩, ?_, fun _ => rfl⟩
    rintro ⟨_ | _ | _ | i⟩
    · exact ⟨[.property ⟨2⟩, .property ⟨0⟩, .property ⟨1⟩], by decide, rfl⟩
    · exact ⟨[.property ⟨1⟩], by decide, rfl⟩
    · exact ⟨[], by decide, rfl⟩
    · exact ⟨[], .refl _, rfl⟩
  have hpointed : tangled.WellPointed ⟨0⟩ := by decide
  obtain ⟨issues, issues', hissues, hissues', hperm⟩ := (issues_reordered hreordered).1 hpointed
  refine ⟨hreordered, hpointed, issues, issues', hissues, hissues', hperm, ?_, ?_⟩
  · have hall : tangled.issues ⟨0⟩ = .ok [
        .duplicateModel "Cat" 2, .duplicateProperty "Cat" "age" 2, .orphan "Cat" "age" "Cat",
        .orphan "Cat" "friends" "Dog", .unknownTarget "Cat" "friends" "Dog",
        .missingForward "Cat" "friends" "Dog" "age", .keyNotTyped "Cat" "age",
        .foreignKey "Cat" "age"] := by cbv
    rw [← Except.ok.inj (hall.symm.trans hissues)]
    rfl
  · have hall : rearranged.issues ⟨0⟩ = .ok [
        .duplicateModel "Cat" 2, .foreignKey "Cat" "age", .duplicateProperty "Cat" "age" 2,
        .orphan "Cat" "friends" "Dog", .unknownTarget "Cat" "friends" "Dog",
        .missingForward "Cat" "friends" "Dog" "age", .orphan "Cat" "age" "Cat",
        .keyNotTyped "Cat" "age"] := by cbv
    rw [← Except.ok.inj (hall.symm.trans hissues')]
    rfl

end Graph

end MobileSchema
