import Mathlib.Data.List.Nodup
import MobileSchema.Proofs.Schema.Validity
import MobileSchema.Schema.Edit

/-!
# Properties that are taken out of a valid schema

When a property is taken out of the list of its model, other objects go on pointing at it: the model
may have it as its primary key, and backlinks of any model may reverse it.  In a schema that was
valid these are the only objects that can be wrong afterwards, and each of them is
(`Removal.violates_forward_iff`, `Removal.violates_keyPlace_iff`).  For the property is then listed
nowhere (`Removal.mem_listed_iff`): in two places it would have had two owners, or one model would
have had its name twice.  All else that was listed still is.

Main result: `issues_removeSlot`, which says what the check reports then, in order.
-/

namespace MobileSchema

theorem repeatedNames_eq_nil {names : List String} (h : names.Nodup) :
    repeatedNames names = [] := by
  have hnil : (repeatedNames names).map Prod.fst = [] := by
    refine List.eq_nil_iff_forall_not_mem.2 fun name hname => ?_
    have := List.nodup_iff_count_le_one.1 h name
    have := mem_repeatedNames.1 hname
    omega
  exact List.map_eq_nil_iff.1 hnil

namespace Graph

variable {g : Graph} {s : SchemaId} {m n : ModelId} {p q : PropertyId} {i j : Nat}

/-- The reports of the items of a list, where these do not depend on their places. -/
theorem reports_zipIdx {α : Type} {xs : List α} {places : α × Nat → List Violation}
    {issues : α → List Issue} (h : ∀ e ∈ xs.zipIdx, g.reports s (places e) = issues e.1) :
    g.reports s (xs.zipIdx.flatMap places) = xs.flatMap issues := by
  rw [reports_flatMap, List.map_congr_left h, ← map_eq_map_zipIdx, List.flatMap_def]

/-- The graph in which the list of the model `m` has lost the property `p`. -/
def without (g : Graph) (m : ModelId) (p : PropertyId) : Graph :=
  g.updateModel m fun model => { model with slots := model.slots.erase (.property p) }

/-- What is reported of a property `q` of the model `n` for the loss of the property `p` of the
model `m`: that it reverses `p`, if it is a backlink that does. -/
def backlinkLoss (g : Graph) (m : ModelId) (p : PropertyId) (n : ModelId) (q : PropertyId) :
    List Issue :=
  if g.forwardOf q = .property p then
    [.missingForward (g.modelName n) (g.propertyName q) (g.modelName m) (g.propertyName p)]
  else []

/-- What is reported of the primary key of the model `n` for the loss. -/
def keyLoss (g : Graph) (m : ModelId) (p : PropertyId) (n : ModelId) : List Issue :=
  if n = m ∧ (g.model m).primaryKey = .property p then
    [.foreignKey (g.modelName m) (g.propertyName p)]
  else []

/-- What is reported of the model `n` for the loss. -/
def lossIssues (g : Graph) (m : ModelId) (p : PropertyId) (n : ModelId) : List Issue :=
  (g.listed n).flatMap (g.backlinkLoss m p n) ++ g.keyLoss m p n

/-! ### What is kept -/

/-- What a model lists can be removed from its list. -/
theorem removeSlot_eq (hp : p ∈ g.listed m) : g.removeSlot m (.property p) = .ok (g.without m p) :=
  if_pos (mem_listed.1 hp)

theorem lt_of_mem_listed (hp : p ∈ g.listed m) : m.index < g.models.length := by
  by_contra hge
  have hmodel : (g.model m).slots = [] := by
    rw [model, List.getElem?_eq_none (by omega)]
    rfl
  rw [mem_listed, hmodel] at hp
  cases hp

/-- The model has lost one entry of its list and nothing else. -/
theorem model_without_self (hp : p ∈ g.listed m) : (g.without m p).model m =
    { g.model m with slots := (g.model m).slots.erase (.property p) } :=
  model_updateModel_self g (lt_of_mem_listed hp) _

theorem model_without_of_ne (hn : n ≠ m) : (g.without m p).model n = g.model n :=
  model_updateModel_of_ne g hn _

theorem modelName_without (hp : p ∈ g.listed m) (n : ModelId) :
    (g.without m p).modelName n = g.modelName n := by
  by_cases hn : n = m
  · rw [modelName, hn, model_without_self hp]
    rfl
  · rw [modelName, model_without_of_ne hn]
    rfl

theorem primaryKey_without (hp : p ∈ g.listed m) (n : ModelId) :
    ((g.without m p).model n).primaryKey = (g.model n).primaryKey := by
  by_cases hn : n = m
  · rw [hn, model_without_self hp]
  · rw [model_without_of_ne hn]

/-- Removing a property makes no list longer and moves nothing. -/
theorem slots_without (hp : p ∈ g.listed m) (n : ModelId) :
    ((g.without m p).model n).slots.Sublist (g.model n).slots := by
  by_cases hn : n = m
  · rw [hn, model_without_self hp]
    exact List.erase_sublist
  · rw [model_without_of_ne hn]

theorem nameOf_without (hp : p ∈ g.listed m) (r : Reference) :
    (g.without m p).nameOf r = g.nameOf r := by
  cases r with
  | model n => exact congrArg Except.ok (modelName_without hp n)
  | _ => rfl

/-- A property that is taken out of a valid schema. -/
structure Removal (g : Graph) (s : SchemaId) (m : ModelId) (p : PropertyId) : Prop where
  valid : g.validate s = .ok ()
  isModel : m ∈ g.modelsOf s
  isListed : p ∈ g.listed m

namespace Removal

/-- Before the removal, the pointers of the schema stay inside it. -/
theorem closed (h : g.Removal s m p) : g.Closed s := (validate_eq_ok_iff.1 h.valid).1

/-- What two models list would have both as its owner. -/
theorem eq_of_mem_listed (h : g.Removal s m p) (hn : n ∈ g.modelsOf s) (hp : p ∈ g.listed n) :
    n = m := by
  have howner := h.closed.owner n hn p hp
  rw [h.closed.owner m h.isModel p h.isListed] at howner
  exact (Reference.model.inj howner).symm

/-- What is listed after the removal was listed before. -/
theorem mem_of_mem (h : g.Removal s m p) (hq : q ∈ (g.without m p).listed n) : q ∈ g.listed n :=
  mem_listed.2 ((slots_without h.isListed n).subset (mem_listed.1 hq))

/-- A model of a valid schema lists no property in two places. -/
theorem nodup_slots (h : g.Removal s m p) : (g.model m).slots.Nodup := by
  have hnames := (validate_eq_ok_iff.1 h.valid).2.2 m h.isModel
  rw [h.closed.wellPointed.slots_model h.isModel]
  exact (List.Nodup.of_map _ hnames).map fun _ _ => Reference.property.inj

/-- All properties but the one that is taken out are still listed. -/
theorem mem_listed_iff (h : g.Removal s m p) (hn : n ∈ g.modelsOf s) :
    q ∈ (g.without m p).listed n ↔ q ∈ g.listed n ∧ q ≠ p := by
  rw [mem_listed, mem_listed]
  by_cases hsame : n = m
  · subst hsame
    rw [model_without_self h.isListed, h.nodup_slots.mem_erase_iff, and_comm]
    simp
  · rw [model_without_of_ne hsame]
    refine (and_iff_left_of_imp ?_).symm
    rintro hq rfl
    exact hsame (h.eq_of_mem_listed hn (mem_listed.2 hq))

/-- After the removal the pointers still lead to the right sorts, though one may lead to what is not
listed. -/
theorem wellPointed (h : g.Removal s m p) : (g.without m p).WellPointed s := by
  have hw := h.closed.wellPointed
  refine ⟨hw.models, ?_, ?_, ?_⟩
  · exact fun n hn r hr => hw.properties n hn r ((slots_without h.isListed n).subset hr)
  · exact fun n hn q hq => hw.property n hn q (h.mem_of_mem hq)
  · intro n hn
    rw [primaryKey_without h.isListed, nameOf_without h.isListed]
    exact hw.key n hn

theorem nodup_modelNames (h : g.Removal s m p) : ((g.without m p).modelNames s).Nodup := by
  have hsame : (g.without m p).modelNames s = g.modelNames s :=
    List.map_congr_left fun n _ => modelName_without h.isListed n
  rw [hsame]
  exact (validate_eq_ok_iff.1 h.valid).2.1

/-- The removal does not make names of properties repeat. -/
theorem nodup_listedNames (h : g.Removal s m p) (hn : n ∈ g.modelsOf s) :
    ((g.without m p).listedNames n).Nodup := by
  refine List.Nodup.sublist ?_ ((validate_eq_ok_iff.1 h.valid).2.2 n hn)
  exact ((slots_without h.isListed n).filterMap Reference.property?).map g.propertyName

/-! ### What is wrong -/

theorem not_violates_owner (h : g.Removal s m p) :
    ¬ (g.without m p).Violates s (.owner i n j q) := by
  rintro ⟨⟨hn, hq⟩, hne⟩
  exact hne (h.closed.owner n (List.mem_of_getElem? hn) q (h.mem_of_mem (List.mem_of_getElem? hq)))

/-- After the removal no relation leads out of the schema, as no model was removed. -/
theorem not_violates_target (h : g.Removal s m p) :
    ¬ (g.without m p).Violates s (.target i n j q) := by
  rintro ⟨⟨hn, hq⟩, t, htarget, hne⟩
  have hfits :=
    h.closed.fits n (List.mem_of_getElem? hn) q (h.mem_of_mem (List.mem_of_getElem? hq))
  obtain ⟨t', ht, hsame⟩ := hfits.target _ htarget
  cases hsame
  exact hne ht

theorem not_violates_keySort (h : g.Removal s m p) :
    ¬ (g.without m p).Violates s (.keySort i n) := by
  rintro ⟨hn, hsome, hnot⟩
  rw [primaryKey_without h.isListed] at hsome hnot
  rcases h.closed.key n (List.mem_of_getElem? hn) with hkey | ⟨k, -, hkey, htyped⟩
  · exact hsome hkey
  · exact hnot ⟨k, hkey, htyped⟩

/-- A backlink breaks a rule exactly if it reverses the property that is taken out. -/
theorem violates_forward_iff (h : g.Removal s m p) (hq : (g.without m p).PropertyAt s i n j q) :
    (g.without m p).Violates s (.forward i n j q) ↔ g.forwardOf q = .property p := by
  have hn : n ∈ g.modelsOf s := List.mem_of_getElem? hq.1
  have hfits := h.closed.fits n hn q (h.mem_of_mem (List.mem_of_getElem? hq.2))
  constructor
  · rintro ⟨-, t, r, isPrivate, hshape, hr⟩
    have hshape : (g.property q).shape = .inverse (.model t) (.property r) isPrivate := hshape
    obtain ⟨t', ht, hsame⟩ := hfits.target (.model t) (by rw [hshape]; rfl)
    cases hsame
    obtain ⟨r', hlisted, hsame⟩ := hfits.forward t _ isPrivate hshape
    cases hsame
    -- the target listed it before, so it is missing because it was taken out
    rw [h.mem_listed_iff ht, not_and, not_not] at hr
    rw [forwardOf, hshape, hr hlisted]
  · intro hforward
    rcases hshape : (g.property q).shape with ⟨kind, required⟩ | target | target |
      ⟨target, forward, isPrivate⟩
    case inverse =>
      obtain ⟨t, ht, rfl⟩ := hfits.target target (by rw [hshape]; rfl)
      rw [forwardOf, hshape] at hforward
      cases hforward
      exact ⟨hq, t, p, isPrivate, hshape, fun hp => ((h.mem_listed_iff ht).1 hp).2 rfl⟩
    all_goals simp [forwardOf, hshape] at hforward

/-- A backlink that reverses the property leads to the model that has lost it. -/
theorem targetOf_eq (h : g.Removal s m p) (hn : n ∈ g.modelsOf s) (hq : q ∈ g.listed n)
    (hforward : g.forwardOf q = .property p) : g.targetOf q = .model m := by
  have hfits := h.closed.fits n hn q hq
  rcases hshape : (g.property q).shape with ⟨kind, required⟩ | target | target |
    ⟨target, forward, isPrivate⟩
  case inverse =>
    obtain ⟨t, ht, rfl⟩ := hfits.target target (by rw [hshape]; rfl)
    rw [forwardOf, hshape] at hforward
    cases hforward
    obtain ⟨_, hp, hsame⟩ := hfits.forward t _ isPrivate hshape
    cases hsame
    rw [targetOf, hshape, ← h.eq_of_mem_listed ht hp]
    rfl
  all_goals simp [forwardOf, hshape] at hforward

/-- A primary key breaks a rule exactly if it is the property that is taken out. -/
theorem violates_keyPlace_iff (h : g.Removal s m p) (hn : (g.without m p).ModelAt s i n) :
    (g.without m p).Violates s (.keyPlace i n) ↔
      n = m ∧ (g.model m).primaryKey = .property p := by
  have hmem : n ∈ g.modelsOf s := List.mem_of_getElem? hn
  simp only [Violates, primaryKey_without h.isListed]
  constructor
  · rintro ⟨-, ⟨k, hkey, -⟩, hnot⟩
    rw [hkey, ← mem_listed, h.mem_listed_iff hmem, not_and, not_not] at hnot
    -- the key was listed before, so it is what is missing now
    rcases h.closed.key n hmem with hnone | ⟨k', hk, hsame, -⟩
    · rw [hnone] at hkey
      cases hkey
    · rw [hkey] at hsame
      cases hsame
      obtain rfl := hnot hk
      obtain rfl := h.eq_of_mem_listed hmem hk
      exact ⟨rfl, hkey⟩
  · rintro ⟨rfl, hkey⟩
    refine ⟨hn, ?_, ?_⟩
    · -- the key still is a typed field, and only not listed any more
      rcases h.closed.key n hmem with hnone | ⟨k, -, hsame, htyped⟩
      · rw [hnone] at hkey
        cases hkey
      · exact ⟨k, hsame, htyped⟩
    · rw [hkey, ← mem_listed, h.mem_listed_iff hmem]
      exact fun hp => hp.2 rfl

/-! ### What is reported -/

/-- All that a property can be reported for is a backlink over the removed one. -/
theorem reports_slotCandidates (h : g.Removal s m p) (hq : (g.without m p).PropertyAt s i n j q) :
    (g.without m p).reports s (slotCandidates i n j q) = (g.without m p).backlinkLoss m p n q := by
  rw [slotCandidates, reports_cons_cons, reports_cons_cons, reports_singleton,
    if_neg h.not_violates_owner, reports_singleton, if_neg h.not_violates_target,
    reports_singleton, backlinkLoss]
  by_cases hforward : (g.without m p).forwardOf q = .property p
  · have hn : n ∈ g.modelsOf s := List.mem_of_getElem? hq.1
    have htarget : (g.without m p).targetOf q = .model m :=
      h.targetOf_eq hn (h.mem_of_mem (List.mem_of_getElem? hq.2)) hforward
    rw [if_pos ((h.violates_forward_iff hq).2 hforward), if_pos hforward, report, htarget, hforward]
    rfl
  · rw [if_neg (mt (h.violates_forward_iff hq).1 hforward), if_neg hforward]
    rfl

/-- All that a key can be reported for is that it is the removed property. -/
theorem reports_keys (h : g.Removal s m p) (hn : (g.without m p).ModelAt s i n) :
    (g.without m p).reports s [.keySort i n, .keyPlace i n] = (g.without m p).keyLoss m p n := by
  rw [reports_cons_cons, reports_singleton, if_neg h.not_violates_keySort, reports_singleton,
    keyLoss, primaryKey_without h.isListed]
  by_cases hkey : n = m ∧ (g.model m).primaryKey = .property p
  · rw [if_pos ((h.violates_keyPlace_iff hn).2 hkey), if_pos hkey, report, hkey.1,
      primaryKey_without h.isListed, hkey.2]
    rfl
  · rw [if_neg (mt (h.violates_keyPlace_iff hn).1 hkey), if_neg hkey]
    rfl

/-- A model is reported for the backlinks over the removed property, and then for its key. -/
theorem reports_modelCandidates (h : g.Removal s m p) (hn : (g.without m p).ModelAt s i n) :
    (g.without m p).reports s ((g.without m p).modelCandidates i n) =
      (g.without m p).lossIssues m p n := by
  have hslots : (g.without m p).reports s (((g.without m p).listed n).zipIdx.flatMap fun e =>
      slotCandidates i n e.2 e.1) =
      ((g.without m p).listed n).flatMap ((g.without m p).backlinkLoss m p n) :=
    reports_zipIdx fun e he =>
      h.reports_slotCandidates ⟨hn, List.mem_zipIdx_iff_getElem?.1 he⟩
  rw [modelCandidates, repeatedNames_eq_nil (h.nodup_listedNames (List.mem_of_getElem? hn)),
    reports_append, reports_append, hslots, h.reports_keys hn]
  rfl

/-- The check reports these losses model by model. -/
theorem issues_eq (h : g.Removal s m p) : (g.without m p).issues s =
    .ok (((g.without m p).modelsOf s).flatMap ((g.without m p).lossIssues m p)) := by
  have hreports : ((g.without m p).violations s).map ((g.without m p).report s) =
      (g.without m p).reports s ((g.without m p).candidates s) := rfl
  rw [Graph.issues_eq h.wellPointed, hreports, candidates,
    repeatedNames_eq_nil h.nodup_modelNames, reports_append,
    reports_zipIdx fun e he => h.reports_modelCandidates (List.mem_zipIdx_iff_getElem?.1 he)]
  rfl

end Removal

/-- A model loses nothing just if it has neither a backlink over the property nor the property as
its key. -/
theorem lossIssues_eq_nil_iff : g.lossIssues m p n = [] ↔
    (∀ q ∈ g.listed n, g.forwardOf q ≠ .property p) ∧
      ¬ (n = m ∧ (g.model m).primaryKey = .property p) := by
  simp [lossIssues, backlinkLoss, keyLoss]

/-- When a property is taken out of a valid schema, the check reports the backlinks that still
reverse it and its model if it was the primary key, and nothing else.  So the schema stays valid
exactly if the property was neither a primary key nor the relation of a backlink that is left. -/
theorem issues_removeSlot (h : g.validate s = .ok ()) (hm : m ∈ g.modelsOf s)
    (hp : p ∈ g.listed m) :
    ∃ g', g.removeSlot m (.property p) = .ok g' ∧
      g'.issues s = .ok ((g'.modelsOf s).flatMap (g'.lossIssues m p)) ∧
      (g'.validate s = .ok () ↔ (g.model m).primaryKey ≠ .property p ∧
        ∀ n ∈ g'.modelsOf s, ∀ q ∈ g'.listed n, g.forwardOf q ≠ .property p) := by
  have hremoval : g.Removal s m p := ⟨h, hm, hp⟩
  refine ⟨g.without m p, removeSlot_eq hp, hremoval.issues_eq, ?_⟩
  rw [validate_eq_ok_iff_issues, hremoval.issues_eq, Except.ok.injEq, List.flatMap_eq_nil_iff]
  simp only [lossIssues_eq_nil_iff, primaryKey_without hp]
  constructor
  · intro hnil
    exact ⟨fun hkey => (hnil m hm).2 ⟨rfl, hkey⟩, fun n hn => (hnil n hn).1⟩
  · rintro ⟨hkey, hforward⟩ n hn
    exact ⟨hforward n hn, fun hsame => hkey hsame.2⟩

/-- A valid schema in which a relation of a model to itself is reversed by two models. -/
def kinship : Graph where
  schemas := [{ slots := [.model ⟨0⟩, .model ⟨1⟩] }]
  models := [
    { schema := ⟨0⟩, name := "Person", slots := [.property ⟨0⟩, .property ⟨1⟩, .property ⟨2⟩],
      primaryKey := .property ⟨0⟩ },
    { schema := ⟨0⟩, name := "Cat", slots := [.property ⟨3⟩, .property ⟨4⟩] }]
  properties := [
    { owner := .model ⟨0⟩, name := "id", shape := .typed (.known .int64) true },
    { owner := .model ⟨0⟩, name := "parent", shape := .toOne (.model ⟨0⟩) },
    { owner := .model ⟨0⟩, name := "children",
      shape := .inverse (.model ⟨0⟩) (.property ⟨1⟩) false },
    { owner := .model ⟨1⟩, name := "elders",
      shape := .inverse (.model ⟨0⟩) (.property ⟨1⟩) true },
    { owner := .model ⟨1⟩, name := "keeper", shape := .toOne (.model ⟨0⟩) }]

/-- The relation, the primary key and a property that nothing points at are taken out in turn. -/
theorem issues_removeSlot_kinship :
    kinship.validate ⟨0⟩ = .ok () ∧ kinship.modelsOf ⟨0⟩ = [⟨0⟩, ⟨1⟩] ∧
    kinship.listed ⟨0⟩ = [⟨0⟩, ⟨1⟩, ⟨2⟩] ∧ kinship.listed ⟨1⟩ = [⟨3⟩, ⟨4⟩] ∧
    (∃ g', kinship.removeSlot ⟨0⟩ (.property ⟨1⟩) = .ok g' ∧ g'.issues ⟨0⟩ = .ok [
      .missingForward "Person" "children" "Person" "parent",
      .missingForward "Cat" "elders" "Person" "parent"]) ∧
    (∃ g', kinship.removeSlot ⟨0⟩ (.property ⟨0⟩) = .ok g' ∧
      g'.issues ⟨0⟩ = .ok [.foreignKey "Person" "id"]) ∧
    ∃ g', kinship.removeSlot ⟨1⟩ (.property ⟨4⟩) = .ok g' ∧ g'.validate ⟨0⟩ = .ok () := by
  have hvalid : kinship.validate ⟨0⟩ = .ok () := by cbv
  obtain ⟨g₁, hg₁, hissues₁, -⟩ := issues_removeSlot (m := ⟨0⟩) (p := ⟨1⟩) hvalid (by decide)
    (by decide)
  obtain ⟨g₂, hg₂, hissues₂, -⟩ := issues_removeSlot (m := ⟨0⟩) (p := ⟨0⟩) hvalid (by decide)
    (by decide)
  obtain ⟨g₃, hg₃, -, hvalid₃⟩ := issues_removeSlot (m := ⟨1⟩) (p := ⟨4⟩) hvalid (by decide)
    (by decide)
  refine ⟨hvalid, rfl, rfl, rfl, ⟨g₁, hg₁, ?_⟩, ⟨g₂, hg₂, ?_⟩, g₃, hg₃, ?_⟩
  · rw [hissues₁]
    cases hg₁
    decide
  · rw [hissues₂]
    cases hg₂
    decide
  · rw [hvalid₃]
    cases hg₃
    decide

end Graph

end MobileSchema
