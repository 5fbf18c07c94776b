import MobileSchema.Proofs.Schema.Validity
import MobileSchema.Proofs.Source.Layout

/-!
# Names in sources

A schema is put together by pointers and a source by names.  In a valid schema the one is as good
as the other: each name that a source mentions stands for one class or one property only, and the
search by that name finds what the pointer leads to.

The check compares pointers, so this takes all of it: names that differ make a search by name exact
(`findNamed_map`), and a pointer stays inside the schema, where its name is searched.
`NamesResolve` says for a class what its names lead to; what a class looks like is said by the
layout of sources, which the bundled templates write.
-/

namespace MobileSchema

/-! ### Names that differ -/

section Named

variable {α : Type} {xs : List α} {nameOf : α → String} {x : α}

/-- In a list of items whose names differ, there is one item only of the name of an item. -/
theorem filter_name_eq_singleton (hnames : (xs.map nameOf).Nodup) (hx : x ∈ xs) :
    xs.filter (nameOf · = nameOf x) = [x] := by
  induction xs with
  | nil => cases hx
  | cons y ys ih =>
    rw [List.map_cons, List.nodup_cons] at hnames
    rcases List.mem_cons.1 hx with rfl | hx
    -- the name of the first item is no other's
    · have hnone : ys.filter (nameOf · = nameOf x) = [] := by
        rw [List.filter_eq_nil_iff]
        intro y hy hname
        exact hnames.1 (of_decide_eq_true hname ▸ List.mem_map_of_mem hy)
      rw [List.filter_cons_of_pos (by simp), hnone]
    · have hne : nameOf y ≠ nameOf x := fun hname =>
        hnames.1 (hname ▸ List.mem_map_of_mem hx)
      rw [List.filter_cons_of_neg (by simp [hne]), ih hnames.2 hx]

/-- The same holds of what is made of the items, if it has their names. -/
theorem filter_map_eq_singleton {β : Type} {make : α → β} {test : β → String} {name : String}
    (h : xs.filter (nameOf · = name) = [x]) (hmake : ∀ x, test (make x) = nameOf x) :
    (xs.map make).filter (test · = name) = [make x] := by
  have htest : (fun y => decide (test y = name)) ∘ make = fun x => decide (nameOf x = name) := by
    funext x
    rw [Function.comp_apply, hmake]
  rw [List.filter_map, htest, h, List.map_singleton]

end Named

namespace Graph

variable {g : Graph} {s : SchemaId} {m t : ModelId} {p q : PropertyId} {name : String}

/-- The search for a name among references of one sort finds the first of that name. -/
theorem findNamed_map {α : Type} {make : α → Reference} {nameOf : α → String}
    (hmake : ∀ x, g.nameOf (make x) = .ok (nameOf x)) (xs : List α) (name : String) :
    g.findNamed (xs.map make) name =
      .ok (((xs.find? (nameOf · = name)).map make).getD .nothing) := by
  have hfind : (xs.map make).findM? (fun r => (g.nameOf r).map fun own => decide (own = name)) =
      .ok ((xs.find? (nameOf · = name)).map make) := by
    induction xs with
    | nil => rfl
    | cons x xs ih =>
      have htest : (g.nameOf (make x)).map (fun own => decide (own = name)) =
          .ok (decide (nameOf x = name)) := by
        rw [hmake]
        rfl
      rw [List.map_cons, List.findM?, htest, List.find?_cons]
      -- the search asks no further once it has found the name
      cases decide (nameOf x = name) with
      | true => rfl
      | false => exact ih
  rw [findNamed, hfind]
  rfl

/-! ### What names stand for -/

/-- Whether a name is that of one model in a schema and of no other: there is one class of this
name in a source, and the search by name finds the model. -/
structure NamesModel (g : Graph) (s : SchemaId) (name : String) (t : ModelId) : Prop where
  only : (g.modelsOf s).filter (g.modelName · = name) = [t]
  swift : ((g.modelsOf s).map g.swiftClass).filter (·.name = name) = [g.swiftClass t]
  kotlin : ((g.modelsOf s).map g.kotlinClass).filter (·.name = name) = [g.kotlinClass t]
  found : g.findModel s name = .ok (.model t)

/-- Whether a name is that of one property in a model and of no other, which the search by name
finds. -/
structure NamesProperty (g : Graph) (m : ModelId) (name : String) (p : PropertyId) : Prop where
  only : (g.listed m).filter (g.propertyName · = name) = [p]
  found : g.findProperty m name = .ok (.property p)

/-- Where the names of the models differ, each leads to its model. -/
theorem namesModel_of_nodup (h : g.WellPointed s) (hnames : (g.modelNames s).Nodup)
    (ht : t ∈ g.modelsOf s) : g.NamesModel s (g.modelName t) t := by
  have honly := filter_name_eq_singleton hnames ht
  refine ⟨honly, filter_map_eq_singleton honly fun _ => rfl,
    filter_map_eq_singleton honly fun _ => rfl, ?_⟩
  rw [findModel, h.slots_schema, findNamed_map (fun _ => rfl), ← List.head?_filter, honly]
  rfl

theorem namesProperty_of_nodup (h : g.WellPointed s) (hm : m ∈ g.modelsOf s)
    (hnames : (g.listedNames m).Nodup) (hp : p ∈ g.listed m) :
    g.NamesProperty m (g.propertyName p) p := by
  have honly := filter_name_eq_singleton hnames hp
  refine ⟨honly, ?_⟩
  rw [findProperty, h.slots_model hm, findNamed_map (fun _ => rfl), ← List.head?_filter, honly]
  rfl

/-- Whether the names that the class of a model mentions lead to where the pointers lead: those of
targets and forward relations in declarations, that of the primary key and those of indexed
properties. -/
structure NamesResolve (g : Graph) (s : SchemaId) (m : ModelId) : Prop where
  toOne : ∀ p ∈ g.listed m, ∀ target, (g.property p).shape = .toOne target →
    ∃ t, target = .model t ∧ g.NamesModel s (g.modelName t) t ∧
      g.declarations p = .ok (toOneDeclaration (g.propertyName p) (g.modelName t))
  toMany : ∀ p ∈ g.listed m, ∀ target, (g.property p).shape = .toMany target →
    ∃ t, target = .model t ∧ g.NamesModel s (g.modelName t) t ∧
      g.declarations p = .ok (toManyDeclaration (g.propertyName p) (g.modelName t))
  inverse : ∀ p ∈ g.listed m, ∀ target forward isPrivate,
    (g.property p).shape = .inverse target forward isPrivate →
    ∃ t q, target = .model t ∧ g.NamesModel s (g.modelName t) t ∧
      forward = .property q ∧ g.NamesProperty t (g.propertyName q) q ∧
      g.declarations p = .ok (inverseDeclaration (g.propertyName p) (g.modelName t)
        (g.propertyName q) isPrivate)
  key : ∀ name ∈ (g.swiftClass m).key, ∃ p, (g.model m).primaryKey = .property p ∧
    g.NamesProperty m name p
  indexed : ∀ name ∈ (g.swiftClass m).indexed, ∃ p, (g.property p).indexed ∧
    g.NamesProperty m name p

/-- In a valid schema all names that classes mention lead to where the pointers lead. -/
theorem names_resolve (h : g.validate s = .ok ()) (hm : m ∈ g.modelsOf s) : g.NamesResolve s m := by
  obtain ⟨hclosed, hmodels, hproperties⟩ := validate_eq_ok_iff.1 h
  have hpointed := hclosed.wellPointed
  -- what is pointed at is inside the schema, so its name is searched where it stands
  have htarget : ∀ p ∈ g.listed m, ∀ r, (g.property p).shape.target? = some r →
      ∃ t ∈ g.modelsOf s, r = .model t ∧ g.NamesModel s (g.modelName t) t := by
    intro p hp r hr
    obtain ⟨t, ht, rfl⟩ := (hclosed.fits m hm p hp).target r hr
    exact ⟨t, ht, rfl, namesModel_of_nodup hpointed hmodels ht⟩
  constructor
  case toOne =>
    intro p hp target hshape
    obtain ⟨t, -, rfl, hnames⟩ := htarget p hp target (by rw [hshape]; rfl)
    refine ⟨t, rfl, hnames, ?_⟩
    rw [declarations, hshape]
    rfl
  case toMany =>
    intro p hp target hshape
    obtain ⟨t, -, rfl, hnames⟩ := htarget p hp target (by rw [hshape]; rfl)
    refine ⟨t, rfl, hnames, ?_⟩
    rw [declarations, hshape]
    rfl
  case inverse =>
    intro p hp target forward isPrivate hshape
    obtain ⟨t, ht, rfl, hnames⟩ := htarget p hp target (by rw [hshape]; rfl)
    obtain ⟨q, hq, rfl⟩ := (hclosed.fits m hm p hp).forward t forward isPrivate hshape
    refine ⟨t, q, rfl, hnames, rfl, ?_, ?_⟩
    · exact namesProperty_of_nodup hpointed ht (hproperties t ht) hq
    · rw [declarations, hshape]
      rfl
  case key =>
    intro name hname
    rcases hclosed.key m hm with hkey | ⟨p, hp, hkey, -⟩
    · rw [swiftClass, keyName?, hkey] at hname
      cases hname
    · rw [swiftClass, keyName?, hkey] at hname
      cases hname
      exact ⟨p, hkey, namesProperty_of_nodup hpointed hm (hproperties m hm) hp⟩
  case indexed =>
    intro name hname
    obtain ⟨p, hp, rfl⟩ := List.mem_map.1 hname
    obtain ⟨hp, hindexed⟩ := List.mem_filter.1 hp
    exact ⟨p, hindexed, namesProperty_of_nodup hpointed hm (hproperties m hm) hp⟩

/-- A schema of two models with a relation between them and its backlink, in which properties of
different models share a name. -/
def household : Graph where
  schemas := [{ slots := [.model ⟨0⟩, .model ⟨1⟩] }]
  models := [
    { schema := ⟨0⟩, name := "Person", slots := [.property ⟨0⟩, .property ⟨1⟩],
      primaryKey := .property ⟨0⟩ },
    { schema := ⟨0⟩, name := "Cat", slots := [.property ⟨2⟩, .property ⟨3⟩] }]
  properties := [
    { owner := .model ⟨0⟩, name := "name", shape := .typed (.known .string) true },
    { owner := .model ⟨0⟩, name := "cats", shape := .toMany (.model ⟨1⟩) },
    { owner := .model ⟨1⟩, name := "name", shape := .typed (.known .string) true, indexed := true },
    { owner := .model ⟨1⟩, name := "keepers",
      shape := .inverse (.model ⟨0⟩) (.property ⟨1⟩) true }]

/-- The names in the sources of a household: a key, an index, and a backlink over a relation of
another model. -/
theorem names_resolve_household :
    household.validate ⟨0⟩ = .ok () ∧ household.modelsOf ⟨0⟩ = [⟨0⟩, ⟨1⟩] ∧
    household.NamesResolve ⟨0⟩ ⟨0⟩ ∧ household.NamesResolve ⟨0⟩ ⟨1⟩ ∧
    (household.swiftClass ⟨0⟩).key = some "name" ∧ (household.swiftClass ⟨1⟩).indexed = ["name"] ∧
    household.declarations ⟨3⟩ = .ok (inverseDeclaration "keepers" "Person" "cats" true) := by
  have hvalid : household.validate ⟨0⟩ = .ok () := by cbv
  exact ⟨hvalid, by cbv, names_resolve hvalid (by decide), names_resolve hvalid (by decide), by cbv,
    by cbv, by cbv⟩

end Graph

end MobileSchema
